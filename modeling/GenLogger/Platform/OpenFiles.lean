import GenLogger.Config.Storage
import GenLogger.Lib.Run
import GenLogger.Logger.LoggerManager

/-!
# Open files (`filesystemWrapper.hpp`)

A `fileSysWrapper` holds one file. The internal storage and the logger manager each own one, and both
open, use and close it within one call.

* `recorded` is a handler that does what another one does and keeps the calls made of it, with what
  they returned.
* `Balanced` are calls that start with no file open, use an open one, and leave none open.
* `perform` is one of the three operations over both devices, whatever the rest of its component
  holds.

Results:
* `retrieveMetadata_recorded`, `storeMetadata_recorded`, `handler_recorded`: keeping the calls changes
  nothing else.
* `performs_iff`: an operation returns unless it stops at the assertion, at a mailbox without a NUL,
  or in the parse of a read without one.
* `files_balanced`: in every run of the three operations, over both devices, the calls of each
  operation are balanced, whatever the devices answer.
-/

namespace GenLogger.Platform

open GenLogger.Lib GenLogger.Config GenLogger.Logger GenLogger.Measurement

/-! ## Calls -/

/-- A call of a `FileHandler`, with what it returned. -/
inductive FileCall where
  | openFile (mode : Nat) (opened : Bool)
  | read (size : Nat) (ret : Int)
  | write (bytes : List Byte) (ret : Int)
  | close (ret : Int)
  deriving Repr, DecidableEq

/-- Whether a file is open after a call. A close ends it whatever it returns. -/
def FileCall.isOpen (before : Bool) : FileCall → Bool
  | .openFile _ opened => opened || before
  | .read _ _ | .write _ _ => before
  | .close _ => false

/-- A file is opened while none is open, and everything else is done to an open one. -/
def FileCall.Allowed (before : Bool) : FileCall → Prop
  | .openFile _ _ => before = false
  | .read _ _ | .write _ _ | .close _ => before = true

/-- Whether a file is open after some calls. -/
def isOpenAfter (before : Bool) (calls : List FileCall) : Bool := calls.foldl FileCall.isOpen before

/-- Each call of a list is allowed where it stands. -/
def AllAllowed : Bool → List FileCall → Prop
  | _, [] => True
  | before, call :: calls => call.Allowed before ∧ AllAllowed (call.isOpen before) calls

/-- Calls that start with no file open, are allowed, and leave no file open. -/
structure Balanced (calls : List FileCall) : Prop where
  allowed : AllAllowed false calls
  closed : isOpenAfter false calls = false

theorem isOpenAfter_append (before : Bool) (l m : List FileCall) :
    isOpenAfter before (l ++ m) = isOpenAfter (isOpenAfter before l) m :=
  List.foldl_append

theorem allAllowed_append {before : Bool} {l m : List FileCall} (hl : AllAllowed before l)
    (hm : AllAllowed (isOpenAfter before l) m) : AllAllowed before (l ++ m) := by
  induction l generalizing before with
  | nil => exact hm
  | cons call l ih => exact ⟨hl.1, ih hl.2 hm⟩

theorem balanced_nil : Balanced [] := ⟨trivial, rfl⟩

theorem Balanced.append {l m : List FileCall} (hl : Balanced l) (hm : Balanced m) :
    Balanced (l ++ m) where
  allowed := allAllowed_append hl.allowed (by rw [hl.closed]; exact hm.allowed)
  closed := by rw [isOpenAfter_append, hl.closed, hm.closed]

/-- Balanced calls were added. -/
def AddsBalanced (before after : List FileCall) : Prop :=
  ∃ calls, after = before ++ calls ∧ Balanced calls

theorem AddsBalanced.refl (l : List FileCall) : AddsBalanced l l :=
  ⟨[], (List.append_nil l).symm, balanced_nil⟩

theorem AddsBalanced.trans {l l' l'' : List FileCall} (h : AddsBalanced l l')
    (h' : AddsBalanced l' l'') : AddsBalanced l l'' := by
  obtain ⟨calls, rfl, hcalls⟩ := h
  obtain ⟨calls', rfl, hcalls'⟩ := h'
  exact ⟨calls ++ calls', List.append_assoc _ _ _, hcalls.append hcalls'⟩

/-- An open that failed. -/
theorem addsBalanced_refused (calls : List FileCall) (mode : Nat) {opened : Bool}
    (hopen : opened = false) : AddsBalanced calls (calls ++ [.openFile mode opened]) := by
  subst hopen
  exact ⟨_, rfl, ⟨rfl, trivial⟩, rfl⟩

/-- An open that did not, one call that leaves the file open, and the close. -/
theorem addsBalanced_session (calls : List FileCall) (mode : Nat) {opened : Bool}
    (hopen : opened = true) (call : FileCall) (hallowed : call.Allowed true)
    (hstill : call.isOpen true = true) (ret : Int) :
    AddsBalanced calls (calls ++ [.openFile mode opened] ++ [call] ++ [.close ret]) := by
  subst hopen
  refine ⟨[.openFile mode true, call, .close ret], ?_, ⟨rfl, hallowed, hstill, trivial⟩, rfl⟩
  rw [List.append_assoc, List.append_assoc]
  rfl

/-! ## Keeping the calls -/

variable {σ τ : Type}

/-- A device with the calls made of it so far. -/
abbrev Recorded (σ : Type) : Type := σ × List FileCall

/-- A handler that keeps the calls made of another one. -/
def recorded (fs : FileHandler σ) : FileHandler (Recorded σ) where
  mount d := ((fs.mount d.1).1, (fs.mount d.1).2, d.2)
  openFile mode d :=
    let o := fs.openFile mode d.1
    (o.1, o.2, d.2 ++ [.openFile mode o.1])
  read n d :=
    let r := fs.read n d.1
    (r.1, r.2, d.2 ++ [.read n r.1.ret])
  write bytes d :=
    let w := fs.write bytes d.1
    (w.1, w.2, d.2 ++ [.write bytes w.1])
  close d :=
    let c := fs.close d.1
    (c.1, c.2, d.2 ++ [.close c.1])

/-- The component over another device. -/
def onDevice (st : InternalStorage σ) (d : τ) : InternalStorage τ :=
  ⟨st.metadata, st.metadataUpdatedFlag, st.metadataBuffer, st.fileSystemInit, d⟩

/-- The component over the device itself. -/
def unrecorded (st : InternalStorage (Recorded σ)) : InternalStorage σ := onDevice st st.fileSystem.1

variable {pl : Platform} {fs : FileHandler σ}

theorem createMetadata_recorded (st : InternalStorage (Recorded σ)) :
    createMetadata pl fs (unrecorded st) =
      (createMetadata pl (recorded fs) st).map fun r => (r.1, unrecorded r.2) := by
  obtain ⟨m, flag, buffer, init, d, calls⟩ := st
  unfold createMetadata recorded unrecorded onDevice
  simp only
  rcases fs.openFile 1 d with ⟨_ | _, d⟩
  · rfl
  · simp only
    split
    · rfl
    · cases (buffer.strncpy defaultMetadata).store (metadataBufferSize - 1) 0 with
      | error e => rfl
      | ok b =>
        show (parseMetadataBuffer pl b m >>= _) = Except.map _ (parseMetadataBuffer pl b m >>= _)
        cases parseMetadataBuffer pl b m <;> rfl

/-- **The calls are only kept**: what a component does over a recorded device is what it does over the
device. -/
theorem retrieveMetadata_recorded (st : InternalStorage (Recorded σ)) :
    retrieveMetadata pl fs (unrecorded st) =
      (retrieveMetadata pl (recorded fs) st).map fun r => (r.1, unrecorded r.2) := by
  cases hinit : st.fileSystemInit with
  | false =>
    unfold retrieveMetadata unrecorded onDevice
    rw [hinit]
    rfl
  | true =>
    cases hopen : (fs.openFile 0 st.fileSystem.1).1 with
    | false =>
      have hkept : ((recorded fs).openFile 0 st.fileSystem).1 = false := hopen
      rw [retrieveMetadata_created pl (unrecorded st) hinit hopen,
        retrieveMetadata_created pl st hinit hkept]
      exact createMetadata_recorded
        { st with fileSystem := ((recorded fs).openFile 0 st.fileSystem).2 }
    | true =>
      have hkept : ((recorded fs).openFile 0 st.fileSystem).1 = true := hopen
      by_cases hret : 0 < bytesRead (recorded fs) st
      · rw [retrieveMetadata_loaded pl (unrecorded st) hinit hopen hret,
          retrieveMetadata_loaded pl st hinit hkept hret]
        show Except.map _ (parseMetadataBuffer pl (readBuffer (recorded fs) st) st.metadata) = _
        cases parseMetadataBuffer pl (readBuffer (recorded fs) st) st.metadata <;> rfl
      · rw [retrieveMetadata_unread pl (unrecorded st) hinit hopen hret,
          retrieveMetadata_unread pl st hinit hkept hret]
        rfl

theorem storeMetadata_recorded (buff : List Byte) (st : InternalStorage (Recorded σ)) :
    storeMetadata fs buff (unrecorded st) =
      (storeMetadata (recorded fs) buff st).map fun r => (r.1, unrecorded r.2) := by
  obtain ⟨m, flag, buffer, init, d, calls⟩ := st
  cases init with
  | false => rfl
  | true =>
    unfold storeMetadata recorded unrecorded onDevice
    simp only
    rcases fs.openFile 1 d with ⟨_ | _, d⟩ <;> rfl

theorem handler_recorded (fileCreationPeriod : UInt8) (pDataBuff : CBuf msrdDataBuffSize)
    (d : Recorded σ) : LoggerManager.handler fs fileCreationPeriod pDataBuff d.1 =
      (LoggerManager.handler (recorded fs) fileCreationPeriod pDataBuff d).map Prod.fst := by
  unfold LoggerManager.handler
  split
  · rfl
  · cases pDataBuff.cstr with
    | error e => rfl
    | ok record =>
      unfold appendRecord recorded
      simp only
      rcases fs.openFile 2 d.1 with ⟨_ | _, d⟩
      · simp only
        rcases fs.openFile 1 d with ⟨_ | _, d⟩ <;> rfl
      · rfl

/-! ## The calls of one operation -/

section Sessions

variable {mode : Nat} {d : Recorded σ}

theorem refused_balanced (hopen : ((recorded fs).openFile mode d).1 = false) :
    AddsBalanced d.2 ((recorded fs).openFile mode d).2.2 :=
  addsBalanced_refused d.2 mode hopen

theorem read_balanced (hopen : ((recorded fs).openFile mode d).1 = true) (n : Nat) :
    AddsBalanced d.2
      ((recorded fs).close ((recorded fs).read n ((recorded fs).openFile mode d).2).2).2.2 :=
  addsBalanced_session d.2 mode hopen (.read n _) rfl rfl _

theorem written_balanced (hopen : ((recorded fs).openFile mode d).1 = true) (bytes : List Byte) :
    AddsBalanced d.2
      ((recorded fs).close ((recorded fs).write bytes ((recorded fs).openFile mode d).2).2).2.2 :=
  addsBalanced_session d.2 mode hopen (.write bytes _) rfl rfl _

end Sessions

theorem createMetadata_balanced {st st' : InternalStorage (Recorded σ)} {ret : Bool}
    (h : createMetadata pl (recorded fs) st = .ok (ret, st')) :
    AddsBalanced st.fileSystem.2 st'.fileSystem.2 := by
  obtain ⟨b, hb⟩ := createMetadata_eq pl (recorded fs) st
  rw [hb] at h
  simp only [Except.ok.injEq] at h
  cases hopen : ((recorded fs).openFile 1 st.fileSystem).1 with
  | false =>
    rw [if_pos hopen] at h
    cases h
    exact refused_balanced hopen
  | true =>
    rw [if_neg (by rw [hopen]; decide)] at h
    -- whether the write or the close failed changes what is returned only
    split at h
    · cases h; exact written_balanced hopen _
    · cases h; exact written_balanced hopen _

theorem retrieveMetadata_balanced {st st' : InternalStorage (Recorded σ)} {ret : Bool}
    (h : retrieveMetadata pl (recorded fs) st = .ok (ret, st')) :
    AddsBalanced st.fileSystem.2 st'.fileSystem.2 := by
  have hinit := (retrieveMetadata_cases h).1
  cases hopen : ((recorded fs).openFile 0 st.fileSystem).1 with
  | false =>
    rw [retrieveMetadata_created pl st hinit hopen] at h
    exact (refused_balanced hopen).trans (createMetadata_balanced h)
  | true =>
    by_cases hret : 0 < bytesRead (recorded fs) st
    · rw [retrieveMetadata_loaded pl st hinit hopen hret] at h
      cases hp : parseMetadataBuffer pl (readBuffer (recorded fs) st) st.metadata with
      | error e => rw [hp] at h; cases h
      | ok r =>
        rw [hp] at h
        cases h
        exact read_balanced hopen _
    · rw [retrieveMetadata_unread pl st hinit hopen hret] at h
      cases h
      exact read_balanced hopen _

theorem storeMetadata_balanced {buff : List Byte} {st st' : InternalStorage (Recorded σ)} {ret : Bool}
    (h : storeMetadata (recorded fs) buff st = .ok (ret, st')) :
    AddsBalanced st.fileSystem.2 st'.fileSystem.2 := by
  rw [storeMetadata_eq (storeMetadata_init h)] at h
  simp only [Except.ok.injEq] at h
  cases hopen : ((recorded fs).openFile 1 st.fileSystem).1 with
  | false =>
    rw [if_pos hopen] at h
    cases h
    exact refused_balanced hopen
  | true =>
    rw [if_neg (by rw [hopen]; decide)] at h
    cases h
    exact written_balanced hopen _

theorem appendRecord_eq (fs : FileHandler σ) (record : CStr) (d : σ) :
    appendRecord fs record d =
      let a := fs.openFile 2 d
      let c := fs.openFile 1 a.2
      if a.1 = true then writeRecord fs record a.2
      else if c.1 = true then writeRecord fs record c.2
      else c.2 := by
  unfold appendRecord
  rcases fs.openFile 2 d with ⟨_ | _, d₁⟩
  · simp only
    rcases fs.openFile 1 d₁ with ⟨_ | _, d₂⟩ <;> rfl
  · rfl

theorem appendRecord_balanced (record : CStr) (d : Recorded σ) :
    AddsBalanced d.2 (appendRecord (recorded fs) record d).2 := by
  rw [appendRecord_eq]
  simp only
  split
  · rename_i happend
    exact written_balanced happend record.bytes
  · rename_i happend
    refine (refused_balanced (Bool.eq_false_iff.mpr happend)).trans ?_
    split
    · rename_i hcreate
      exact written_balanced hcreate record.bytes
    · rename_i hcreate
      exact refused_balanced (Bool.eq_false_iff.mpr hcreate)

theorem handler_balanced {fileCreationPeriod : UInt8} {pDataBuff : CBuf msrdDataBuffSize}
    {d d' : Recorded σ} (h : LoggerManager.handler (recorded fs) fileCreationPeriod pDataBuff d = .ok d') :
    AddsBalanced d.2 d'.2 := by
  unfold LoggerManager.handler at h
  split at h
  · cases h; exact .refl d.2
  · cases hr : pDataBuff.cstr with
    | error e => rw [hr] at h; cases h
    | ok record =>
      rw [hr] at h
      cases h
      exact appendRecord_balanced record d

/-! ## Runs -/

/-- The devices of both components, with the calls made of either. -/
structure Files (σ τ : Type) where
  storage : σ
  log : τ
  calls : List FileCall
  deriving DecidableEq

/-- A call of one of the three operations. What its component holds besides the device, and the mailbox,
may be anything. -/
inductive FileUse where
  | retrieveMetadata (st : InternalStorage Unit)
  | storeMetadata (st : InternalStorage Unit) (buff : List Byte)
  | handler (fileCreationPeriod : UInt8) (pDataBuff : CBuf msrdDataBuffSize)

section Runs

variable (pl : Platform) (storageFs : FileHandler σ) (logFs : FileHandler τ)

/-- The operation, over the recorded devices. -/
def perform (s : Files σ τ) : FileUse → Except Fault (Files σ τ)
  | .retrieveMetadata st =>
    (retrieveMetadata pl (recorded storageFs) (onDevice st (s.storage, s.calls))).map fun r =>
      ⟨r.2.fileSystem.1, s.log, r.2.fileSystem.2⟩
  | .storeMetadata st buff =>
    (storeMetadata (recorded storageFs) buff (onDevice st (s.storage, s.calls))).map fun r =>
      ⟨r.2.fileSystem.1, s.log, r.2.fileSystem.2⟩
  | .handler fileCreationPeriod pDataBuff =>
    (LoggerManager.handler (recorded logFs) fileCreationPeriod pDataBuff (s.log, s.calls)).map fun d =>
      ⟨s.storage, d.1, d.2⟩

/-- An operation that returns. -/
def Performs (s : Files σ τ) (op : FileUse) (s' : Files σ τ) : Prop :=
  perform pl storageFs logFs s op = .ok s'

/-- Where an operation stops: at the assertion, at a mailbox without a NUL, and in the parse of a buffer
that the read has left without one. -/
def Stops (s : Files σ τ) : FileUse → Prop
  | .retrieveMetadata st =>
    let st := onDevice st s.storage
    st.fileSystemInit = false ∨ ((storageFs.openFile 0 s.storage).1 = true ∧
      0 < bytesRead storageFs st ∧ (0 : Byte) ∉ (readBuffer storageFs st).bytes)
  | .storeMetadata st _ => st.fileSystemInit = false
  | .handler fileCreationPeriod pDataBuff =>
    fileCreationPeriod ≠ createFileADay ∧ (0 : Byte) ∉ pDataBuff.bytes

variable {pl storageFs logFs}

theorem performs_balanced {s s' : Files σ τ} {op : FileUse} (h : Performs pl storageFs logFs s op s') :
    AddsBalanced s.calls s'.calls := by
  cases op with
  | retrieveMetadata st =>
    obtain ⟨⟨ret, st'⟩, hr, rfl⟩ := map_eq_ok.mp h
    exact retrieveMetadata_balanced hr
  | storeMetadata st buff =>
    obtain ⟨⟨ret, st'⟩, hr, rfl⟩ := map_eq_ok.mp h
    exact storeMetadata_balanced hr
  | handler fileCreationPeriod pDataBuff =>
    obtain ⟨d, hd, rfl⟩ := map_eq_ok.mp h
    exact handler_balanced hd

/-- An operation that returned has passed the assertion, and every string it used ended. -/
theorem Performs.not_stops {s s' : Files σ τ} {op : FileUse} (h : Performs pl storageFs logFs s op s') :
    ¬ Stops storageFs s op := by
  intro hstop
  cases op with
  | retrieveMetadata st =>
    obtain ⟨⟨ret, st'⟩, hr, -⟩ := map_eq_ok.mp h
    obtain ⟨hinit, -, hcase⟩ := retrieveMetadata_cases hr
    rcases hstop with hstop | ⟨hopen, hret, h0⟩
    · exact Bool.false_ne_true (hstop.symm.trans hinit)
    · cases hcase with
      | failed hno => exact hno ⟨hopen, hret⟩
      | created hclosed => exact Bool.false_ne_true (hclosed.symm.trans hopen)
      | loaded _ _ hmem => exact h0 hmem
  | storeMetadata st buff =>
    obtain ⟨⟨ret, st'⟩, hr, -⟩ := map_eq_ok.mp h
    have hinit := storeMetadata_init hr
    exact Bool.false_ne_true (hstop.symm.trans hinit)
  | handler fileCreationPeriod pDataBuff =>
    obtain ⟨d, hd, -⟩ := map_eq_ok.mp h
    unfold LoggerManager.handler at hd
    rw [if_neg hstop.1] at hd
    obtain ⟨record, hrecord, -⟩ := bind_eq_ok.mp hd
    exact hstop.2 ((CBuf.cstr_ok_iff _ _).mp hrecord).1

theorem stops_of_error {s : Files σ τ} {op : FileUse} {e : Fault}
    (h : perform pl storageFs logFs s op = .error e) : Stops storageFs s op := by
  cases op with
  | retrieveMetadata st =>
    rcases retrieveMetadata_stops (map_eq_error.mp h) with ⟨hinit, -⟩ | ⟨hopen, hret, h0, -⟩
    · exact Or.inl hinit
    · exact Or.inr ⟨hopen, hret, h0⟩
  | storeMetadata st buff =>
    refine Bool.eq_false_iff.mpr fun hinit => ?_
    have hstore := map_eq_error.mp h
    have hon : (onDevice st (s.storage, s.calls)).fileSystemInit = true := hinit
    rw [storeMetadata_eq hon] at hstore
    cases hstore
  | handler fileCreationPeriod pDataBuff =>
    have hd := map_eq_error.mp h
    unfold LoggerManager.handler at hd
    split at hd
    · cases hd
    · rename_i hday
      refine ⟨hday, fun h0 => ?_⟩
      rw [(CBuf.cstr_ok_iff _ _).mpr ⟨h0, rfl⟩] at hd
      cases hd

/-- **An operation returns unless it stops**, and then it has not returned. -/
theorem performs_iff {s : Files σ τ} {op : FileUse} :
    (∃ s', Performs pl storageFs logFs s op s') ↔ ¬ Stops storageFs s op := by
  refine ⟨fun ⟨s', h⟩ => h.not_stops, fun hno => ?_⟩
  cases hs : perform pl storageFs logFs s op with
  | ok s' => exact ⟨s', hs⟩
  | error e => exact absurd (stops_of_error hs) hno

theorem calls_kept (pl : Platform) (storageFs : FileHandler σ) (logFs : FileHandler τ) :
    Preserved (Performs pl storageFs logFs) fun s => Balanced s.calls := by
  intro s op s' h hs
  obtain ⟨calls, hcalls, hbalanced⟩ := performs_balanced hs
  rw [hcalls]
  exact h.append hbalanced

/-- **Files are opened and closed in balance**: in a run that starts with no file open, the calls of
each operation are allowed, over both devices, and it returns with no file open. It does return, unless
it stops. -/
theorem files_balanced (pl : Platform) (storageFs : FileHandler σ) (logFs : FileHandler τ)
    {s s' : Files σ τ} {ts : List (Taken (Files σ τ) FileUse)}
    (h : Run (Performs pl storageFs logFs) s ts s') (h0 : Balanced s.calls) :
    Balanced s'.calls ∧
      (∀ t ∈ ts, Balanced t.after.calls ∧ ∃ calls, t.after.calls = t.before.calls ++ calls ∧
        Balanced calls) ∧
      ∀ op, (∃ s'', Performs pl storageFs logFs s' op s'') ↔ ¬ Stops storageFs s' op := by
  have hkept := calls_kept pl storageFs logFs
  refine ⟨Run.invariant (I := fun s => Balanced s.calls) hkept h h0, fun t ht => ?_,
    fun op => performs_iff⟩
  obtain ⟨hb, hstep⟩ := Run.taken (I := fun s => Balanced s.calls) hkept h h0 t ht
  exact ⟨hkept _ _ _ hb hstep, performs_balanced hstep⟩

/-- Where there is no file yet, a retrieval creates it, a store writes it, and a record is logged. -/
theorem files_balanced_host : Balanced
    [.openFile 0 false, .openFile 1 true, .write defaultMetadata.bytes 21, .close 0,
      .openFile 1 true, .write [65] 1, .close 0, .openFile 2 true, .write [66] 1, .close 0] := by
  have hretrieve : perform .host cFileHandler cFileHandler ⟨⟨none, none⟩, ⟨none, none⟩, []⟩
      (.retrieveMetadata ⟨defaultRecord LoggerMetadata.static, false, CBuf.zero _, true, ()⟩) = .ok
        ⟨⟨some defaultMetadata.bytes, none⟩, ⟨none, none⟩,
          [.openFile 0 false, .openFile 1 true, .write defaultMetadata.bytes 21, .close 0]⟩ := by
    decide +kernel
  have hstore : perform .host cFileHandler cFileHandler
      ⟨⟨some defaultMetadata.bytes, none⟩, ⟨none, none⟩,
        [.openFile 0 false, .openFile 1 true, .write defaultMetadata.bytes 21, .close 0]⟩
      (.storeMetadata ⟨defaultRecord LoggerMetadata.static, false, CBuf.zero _, true, ()⟩ [65]) = .ok
        ⟨⟨some [65], none⟩, ⟨none, none⟩,
          [.openFile 0 false, .openFile 1 true, .write defaultMetadata.bytes 21, .close 0,
            .openFile 1 true, .write [65] 1, .close 0]⟩ := by
    decide +kernel
  have hhandler : perform .host cFileHandler cFileHandler
      ⟨⟨some [65], none⟩, ⟨none, none⟩,
        [.openFile 0 false, .openFile 1 true, .write defaultMetadata.bytes 21, .close 0,
          .openFile 1 true, .write [65] 1, .close 0]⟩
      (.handler createOnlyOneFile ((CBuf.zero _).strncpy (CStr.ofBytes [66]))) = .ok
        ⟨⟨some [65], none⟩, ⟨some [66], none⟩,
          [.openFile 0 false, .openFile 1 true, .write defaultMetadata.bytes 21, .close 0,
            .openFile 1 true, .write [65] 1, .close 0, .openFile 2 true, .write [66] 1, .close 0]⟩ := by
    decide +kernel
  exact (files_balanced .host cFileHandler cFileHandler
    (.cons hretrieve (.cons hstore (.cons hhandler (.nil _)))) balanced_nil).1

end Runs

end GenLogger.Platform
