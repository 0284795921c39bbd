import GenLogger.Logger.LoggerManager

/-!
# The last line of a file (`utilities.cpp`)

Model of `getLastLine`, which reads the lines of a host's file one by one and keeps the last that has
something on it.

* `std::getline` takes the characters up to a newline, which it drops, or up to the end; at the end of
  the file there is no further line.
* `lastNonEmpty` says the same of the pieces between the newlines, without a loop.

Results:
* `readLines_eq`: the loop keeps the last of the pieces.
* `getLastLine_eq`: the last line of every content that is not empty, and a newline.
* `lastLine_spec`: this, and that a record which `handler` appended to whole lines is what it returns.
-/

namespace GenLogger.Logger

open GenLogger.Lib GenLogger.Platform GenLogger.Config GenLogger.Measurement

/-- `'\n'`. -/
def lf : Byte := 10
/-- `'\r'`. -/
def cr : Byte := 13

/-- `std::getline` on a stream with `rest` ahead: the line, and what is ahead of it then. -/
def getline : List Byte → Option (List Byte × List Byte)
  | [] => none
  | rest => some (rest.takeWhile (· ≠ lf), (rest.dropWhile (· ≠ lf)).tail)

/-- `if (!line.empty() && line.back() == '\r') line.pop_back();`. -/
def trimCr (line : List Byte) : List Byte := if line.getLast? = some cr then line.dropLast else line

/-- `lastLine` after a line was read. -/
def keepLine (lastLine line : List Byte) : List Byte :=
  if trimCr line ≠ [] then trimCr line ++ [lf] else lastLine

/-- `while (std::getline(file, line))`, at most `n` times. -/
def readLines : Nat → List Byte → List Byte → List Byte
  | 0, _, lastLine => lastLine
  | n + 1, rest, lastLine =>
    match getline rest with
    | none => lastLine
    | some (line, rest) => readLines n rest (keepLine lastLine line)

/-- `getLastLine`. Every line takes a character at least. -/
def getLastLine : Option (List Byte) → List Byte
  | none => []
  | some content => readLines content.length content []

/-- The last line of `content` that is not empty without its carriage return. -/
def lastNonEmpty (content : List Byte) : Option (List Byte) :=
  (((content.splitOn lf).map trimCr).filter (· ≠ [])).getLast?

/-! ## The lines are the pieces -/

/-- A loop that keeps what it saw last. -/
theorem foldl_keepLine (lines : List (List Byte)) (lastLine : List Byte) :
    lines.foldl keepLine lastLine =
      (((lines.map trimCr).filter (· ≠ [])).getLast?.map (· ++ [lf])).getD lastLine := by
  induction lines using List.reverseRecOn with
  | nil => rfl
  | append_singleton lines line ih =>
    rw [List.foldl_append, ih, List.foldl_cons, List.foldl_nil, List.map_append, List.filter_append]
    unfold keepLine
    by_cases hline : trimCr line = []
    · rw [if_neg (not_not.mpr hline)]
      simp [hline]
    · rw [if_pos hline]
      simp [hline]

/-- What is up to the first newline is a piece. -/
theorem splitOn_getline {rest line after : List Byte} (h : getline rest = some (line, after)) :
    after.length < rest.length ∧
      (rest.splitOn lf = line :: after.splitOn lf ∨ rest.splitOn lf = [line] ∧ after = []) := by
  have hne : rest ≠ [] := by
    rintro rfl
    cases h
  have hline : getline rest =
      some (rest.takeWhile (· ≠ lf), (rest.dropWhile (· ≠ lf)).tail) := by
    cases rest with
    | nil => exact absurd rfl hne
    | cons b rest => rfl
  by_cases hmem : lf ∈ rest
  · obtain ⟨pre, suf, rfl, hpre⟩ := List.eq_append_cons_of_mem hmem
    have hall : ∀ b ∈ pre, decide (b ≠ lf) = true := fun b hb =>
      decide_eq_true fun heq => hpre (heq ▸ hb)
    rw [List.takeWhile_append_of_pos hall, List.dropWhile_append_of_pos hall] at hline
    cases hline.symm.trans h
    have hstop : (lf :: suf).takeWhile (· ≠ lf) = [] := rfl
    have hstay : (lf :: suf).dropWhile (· ≠ lf) = lf :: suf := rfl
    rw [hstop, hstay, List.append_nil, List.tail_cons, List.length_append, List.length_cons]
    exact ⟨by omega, Or.inl (List.splitOn_append_cons_self_of_not_mem hpre suf)⟩
  · have hall : ∀ b ∈ rest, decide (b ≠ lf) = true := fun b hb =>
      decide_eq_true fun heq => hmem (heq ▸ hb)
    rw [List.takeWhile_eq_self_iff.mpr hall, List.dropWhile_eq_nil_iff.mpr hall] at hline
    cases hline.symm.trans h
    exact ⟨List.length_pos_iff.mpr hne, Or.inr ⟨List.splitOn_eq_singleton hmem, rfl⟩⟩

/-- The loop keeps the last of the pieces. The piece behind the last newline is no line where it is
empty, but then it is not kept either. -/
theorem readLines_eq {n : Nat} {rest : List Byte} (hn : rest.length ≤ n) (lastLine : List Byte) :
    readLines n rest lastLine = (rest.splitOn lf).foldl keepLine lastLine := by
  induction n generalizing rest lastLine with
  | zero =>
    obtain rfl := List.length_eq_zero_iff.mp (Nat.le_zero.mp hn)
    rfl
  | succ n ih =>
    unfold readLines
    cases hget : getline rest with
    | none =>
      cases rest with
      | nil => rfl
      | cons b rest => cases hget
    | some next =>
      obtain ⟨line, after⟩ := next
      obtain ⟨hlt, hpieces⟩ := splitOn_getline hget
      have hloop := ih (show after.length ≤ n by omega) (keepLine lastLine line)
      rcases hpieces with hpieces | ⟨hpieces, rfl⟩
      · rw [hpieces]
        exact hloop
      · rw [hpieces]
        exact hloop

/-- **Every content**: the last line that is not empty, and a newline. -/
theorem getLastLine_eq (content : List Byte) :
    getLastLine (some content) = ((lastNonEmpty content).map (· ++ [lf])).getD [] := by
  show readLines content.length content [] = _
  rw [readLines_eq (Nat.le_refl _), foldl_keepLine]
  rfl

/-! ## A record that was appended -/

/-- The content is empty or ends in a newline. -/
def WholeLines (content : List Byte) : Prop := content = [] ∨ content.getLast? = some lf

/-- A line of its own, as a record is: not empty, with one newline and no carriage return before it. -/
structure LineOf (s : List Byte) : Prop where
  nonempty : s ≠ []
  oneLine : lf ∉ s
  noCr : s.getLast? ≠ some cr

/-- The pieces of whole lines are theirs and an empty one. -/
theorem splitOn_wholeLines {content : List Byte} (h : WholeLines content) (s : List Byte) :
    ∃ pieces, (content ++ s).splitOn lf = pieces ++ s.splitOn lf := by
  rcases h with rfl | h
  · exact ⟨[], rfl⟩
  · obtain ⟨front, rfl⟩ := List.getLast?_eq_some_iff.mp h
    refine ⟨front.splitOn lf, ?_⟩
    rw [List.append_assoc]
    exact List.splitOn_append_cons_self front s

theorem getLastLine_append {content s : List Byte} (h : WholeLines content) (hs : LineOf s) :
    getLastLine (some (content ++ (s ++ [lf]))) = s ++ [lf] := by
  obtain ⟨pieces, hpieces⟩ := splitOn_wholeLines h (s ++ [lf])
  have hline : (s ++ [lf]).splitOn lf = s :: [].splitOn lf :=
    List.splitOn_append_cons_self_of_not_mem hs.oneLine []
  have htrim : trimCr s = s := if_neg hs.noCr
  rw [getLastLine_eq]
  unfold lastNonEmpty
  rw [hpieces, hline, List.splitOn_nil]
  simp [htrim, hs.nonempty, show trimCr [] = [] from rfl]

/-- **The last record can be read back.** `getLastLine` returns the last line of any content that is
not empty without its carriage return, and so a record that was appended to whole lines, as `handler`
appends it. -/
theorem lastLine_spec :
    (getLastLine none = [] ∧ ∀ content,
      getLastLine (some content) = ((lastNonEmpty content).map (· ++ [lf])).getD []) ∧
    (∀ content s, WholeLines content → LineOf s →
      getLastLine (some (content ++ (s ++ [lf]))) = s ++ [lf]) ∧
    ∀ (fileCreationPeriod : UInt8) (pDataBuff : CBuf msrdDataBuffSize) (record : CStr) (s : List Byte)
      (d : CFile), fileCreationPeriod ≠ createFileADay → pDataBuff.cstr = .ok record →
      record.bytes = s ++ [lf] → LineOf s → d.file = none → WholeLines (d.onDisk.getD []) →
      ∃ d', LoggerManager.handler cFileHandler fileCreationPeriod pDataBuff d = .ok d' ∧
        getLastLine d'.onDisk = record.bytes := by
  refine ⟨⟨rfl, getLastLine_eq⟩, fun content s h hs => getLastLine_append h hs, ?_⟩
  intro fileCreationPeriod pDataBuff record s d hperiod hrecord hline hs hidle hwhole
  obtain ⟨d', hwrites, -, hcontent⟩ := cMedium.append d hidle record.bytes
  have hdisk : (appendRecord cFileHandler record d).onDisk = some (d.onDisk.getD [] ++ (s ++ [lf])) := by
    rw [appendRecord_eq hwrites, ← hline]
    exact hcontent
  refine ⟨_, handler_other hperiod hrecord d, ?_⟩
  rw [hdisk, getLastLine_append hwhole hs, hline]

/-- A record behind another one. -/
theorem lastLine_secondRecord : ∃ d', LoggerManager.handler cFileHandler createOnlyOneFile
      ((CBuf.zero _).putStr (ascii "10:01;21.0\n") (by decide)) ⟨some (ascii "10:00;20.5\n"), none⟩ = .ok d' ∧
    getLastLine d'.onDisk = ascii "10:01;21.0\n" :=
  lastLine_spec.2.2 createOnlyOneFile _ ⟨ascii "10:01;21.0\n", by decide⟩ (ascii "10:01;21.0") _
    (by decide) (CBuf.cstr_putStr _ _ (by decide)) (by decide) ⟨by decide, by decide, by decide⟩ rfl
    (Or.inr (by decide))

end GenLogger.Logger
