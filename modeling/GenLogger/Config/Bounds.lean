import GenLogger.Config.Load
import GenLogger.Lib.Walk

/-!
# Where the parser reads and writes

`_parseMetadataBuffer` and `retrieveMetadata` once more, with every position of `_metadataBuffer` and
of `loggerName` that `strtok`, `strlen`, `strtoul` and `memcpy` examine or overwrite.

* The functions by position (`parseMetadataBufferAt` and the others) are written with the library of
  walks; a position outside its array ends the walk.
* The parser relies on a NUL in the buffer. The branch that creates the file stores one; the branch
  that reads it stores none and lets the read fill all 256 bytes.

Results:
* `parseMetadataBufferAt_result`, `retrieveMetadataAt_result`: without the positions they are the
  functions of the storage component.
* `retrieveMetadataAt_loggerName`: the writes to the name are always inside.
* `parseMetadataBufferAt_inside`: the parse stays inside exactly on the buffers with a NUL.
* `parsing_inside_iff`: for which files, and which residues of the buffer behind them, loading stays
  inside.
-/

namespace GenLogger.Config

open GenLogger.Lib GenLogger.Platform

variable {σ : Type}

/-- The two arrays the parser works on. -/
inductive Area where
  | metadataBuffer
  | loggerName
  deriving Repr, DecidableEq

/-- The bytes of an array. -/
def Area.size : Area → Nat
  | metadataBuffer => metadataBufferSize
  | loggerName => loggerNameLenght

theorem Area.size_metadataBuffer : Area.size .metadataBuffer = metadataBufferSize := rfl

theorem Area.size_loggerName : Area.size .loggerName = loggerNameLenght := rfl

/-- The walk stays inside both arrays. -/
def Inside {β : Type} (w : Walk Area β) : Prop := ∀ x ∈ w.touched, x.2 < x.1.size

/-! ## The functions, by position -/

/-- `static_cast<uint8_t>(std::strtoul(token, nullptr, 10))`. -/
def fieldValueAt (pl : Platform) (b : CBuf metadataBufferSize) (token : Nat) : Walk Area UInt8 := do
  let v ← strtoulAt .metadataBuffer pl.ulongMax b token
  pure (UInt8.ofNat v)

/-- The `switch (fieldIndex)` of `_parseMetadataBuffer`, on the token that begins at `token`. -/
def assignFieldAt (pl : Platform) (fieldIndex : Nat) (b : CBuf metadataBufferSize) (token : Nat)
    (m : LoggerMetadata) : Walk Area LoggerMetadata :=
  match fieldIndex with
  | 0 => do
    let len ← strlenAt .metadataBuffer b token
    let tokenLen := if loggerNameLenght ≤ len then loggerNameLenght - 1 else len
    let name ← memcpyAt .loggerName .metadataBuffer b token tokenLen 0 m.loggerName
    let name ← poke .loggerName name tokenLen 0
    pure { m with loggerName := name }
  | 1 => do
    let v ← fieldValueAt pl b token
    pure { m with fileCreationPeriod := v }
  | 2 => do
    let v ← fieldValueAt pl b token
    pure { m with fileTransmissionPeriod := v.toUInt16 }
  | 3 => do
    let v ← fieldValueAt pl b token
    pure { m with generalMeasurementPeriod := v.toUInt16 }
  | 4 => do
    let v ← fieldValueAt pl b token
    pure { m with restRequestPeriod := v.toUInt16 }
  | _ => pure m

/-- The `while (token != nullptr)` loop, from the saved pointer `saved`. The first argument bounds the
number of rounds. -/
def parseFieldsAt (pl : Platform) : Nat → Nat → LoggerMetadata → CBuf metadataBufferSize → Nat →
    Walk Area (Nat × LoggerMetadata × CBuf metadataBufferSize)
  | 0, fieldIndex, m, b, _ => pure (fieldIndex, m, b)
  | k + 1, fieldIndex, m, b, saved => do
    match ← strtokAt .metadataBuffer semicolon b saved with
    | none => pure (fieldIndex, m, b)
    | some c =>
      let m ← assignFieldAt pl fieldIndex c.buffer c.token m
      parseFieldsAt pl k (fieldIndex + 1) m c.buffer c.saved

/-- `_parseMetadataBuffer`. -/
def parseMetadataBufferAt (pl : Platform) (buffer : CBuf metadataBufferSize) (m : LoggerMetadata) :
    Walk Area (Bool × LoggerMetadata × CBuf metadataBufferSize) := do
  let (fieldIndex, m, buffer) ← parseFieldsAt pl (metadataBufferSize + 1) 0 m buffer 0
  pure (5 ≤ fieldIndex, m, buffer)

/-- The branch of `retrieveMetadata` for a file that cannot be opened. -/
def createMetadataAt (pl : Platform) (fs : FileHandler σ) (st : InternalStorage σ) :
    Walk Area (Bool × InternalStorage σ) :=
  match fs.openFile 1 st.fileSystem with
  | (false, d) => pure (false, { st with fileSystem := d })
  | (true, d) =>
    let (bytesWrote, d) := fs.write defaultMetadata.bytes d
    let (closed, d) := fs.close d
    let st := { st with fileSystem := d }
    if closed ≠ 0 ∨ bytesWrote ≤ 0 then pure (false, st)
    else do
      let buffer ← poke .metadataBuffer (st.metadataBuffer.strncpy defaultMetadata)
        (metadataBufferSize - 1) 0
      let (_, m, buffer) ← parseMetadataBufferAt pl buffer st.metadata
      pure (true, { st with metadata := m, metadataBuffer := buffer, metadataUpdatedFlag := true })

/-- `retrieveMetadata`, after its assertion. -/
def retrieveMetadataAt (pl : Platform) (fs : FileHandler σ) (st : InternalStorage σ) :
    Walk Area (Bool × InternalStorage σ) :=
  match fs.openFile 0 st.fileSystem with
  | (false, d) => createMetadataAt pl fs { st with fileSystem := d }
  | (true, d) =>
    let (got, d) := fs.read metadataBufferSize d
    let st := { st with metadataBuffer := st.metadataBuffer.fill got.bytes got.fits }
    if 0 < got.ret then do
      let (_, m, buffer) ← parseMetadataBufferAt pl st.metadataBuffer st.metadata
      pure (true, { st with metadata := m, metadataBuffer := buffer, fileSystem := (fs.close d).2 })
    else pure (false, { st with fileSystem := (fs.close d).2 })

variable {pl : Platform}

/-! ## They compute what the storage component does -/

theorem fieldValueAt_result {b : CBuf metadataBufferSize} {token : Nat} {t r : List Byte}
    (h : b.bytes.drop token = t ++ 0 :: r) :
    (fieldValueAt pl b token).result = .ok (fieldValue pl t) :=
  (Walk.bind_result_of_ok (strtoulAt_result pl.ulongMax h) _).trans rfl

/-- Assigning a token that stands in the buffer with its NUL. -/
theorem assignFieldAt_result (pl : Platform) {b : CBuf metadataBufferSize} {token : Nat}
    {t r : List Byte} (h : b.bytes.drop token = t ++ 0 :: r) (ht : (0 : Byte) ∉ t) (fieldIndex : Nat)
    (m : LoggerMetadata) :
    (assignFieldAt pl fieldIndex b token m).result = assignField pl fieldIndex t m := by
  match fieldIndex with
  | 0 =>
    refine (Walk.bind_result_of_ok (strlenAt_result h ht) _).trans ?_
    show (Walk.result do
      let name ← memcpyAt Area.loggerName Area.metadataBuffer b token
        (if loggerNameLenght ≤ t.length then loggerNameLenght - 1 else t.length) 0 m.loggerName
      _) = (do
      let name ← m.loggerName.memcpy (t.take
        (if loggerNameLenght ≤ t.length then loggerNameLenght - 1 else t.length))
      _)
    generalize hcut : (if loggerNameLenght ≤ t.length then loggerNameLenght - 1
      else t.length) = tokenLen
    have hlen : (t.take tokenLen).length = tokenLen := by
      rw [List.length_take, ← hcut]
      split <;> omega
    have hdrop : b.bytes.drop (token + 0) = t.take tokenLen ++ (t.drop tokenLen ++ 0 :: r) := by
      rw [← List.append_assoc, List.take_append_drop]
      exact h
    have hcopy : (memcpyAt Area.loggerName Area.metadataBuffer b token tokenLen 0 m.loggerName).result =
        m.loggerName.memcpy (t.take tokenLen) := by
      rw [← CBuf.memcpyAt_zero, ← memcpyAt_result _ 0 m.loggerName (Nat.zero_le _) hdrop, hlen]
    rw [Walk.bind_result, hcopy]
    refine bind_congr fun name => ?_
    exact Walk.bind_result _ _
  | 1 => exact (Walk.bind_result_of_ok (fieldValueAt_result h) _).trans rfl
  | 2 => exact (Walk.bind_result_of_ok (fieldValueAt_result h) _).trans rfl
  | 3 => exact (Walk.bind_result_of_ok (fieldValueAt_result h) _).trans rfl
  | 4 => exact (Walk.bind_result_of_ok (fieldValueAt_result h) _).trans rfl
  | n + 5 => rfl

/-- **The loop by position is the loop on the bytes from the saved pointer on.** -/
theorem parseFieldsAt_result : ∀ (k fieldIndex : Nat) (m : LoggerMetadata)
    (b : CBuf metadataBufferSize) (saved : Nat), (parseFieldsAt pl k fieldIndex m b saved).result =
      (parseFields pl k fieldIndex m (b.bytes.drop saved)).map fun r =>
        (r.1, r.2.1, CBuf.ofList (b.bytes.take saved ++ r.2.2))
  | 0, fieldIndex, m, b, saved => by
    show Except.ok (fieldIndex, m, b) =
      Except.ok (fieldIndex, m, CBuf.ofList (b.bytes.take saved ++ b.bytes.drop saved))
    rw [List.take_append_drop, CBuf.ofList_bytes]
  | k + 1, fieldIndex, m, b, saved => by
    have hcall := strtokAt_result (a := Area.metadataBuffer) semicolon b saved
    cases hs : strtok semicolon (b.bytes.drop saved) with
    | error e =>
      rw [hs] at hcall
      rw [parseFields, hs]
      exact Walk.bind_result_of_error hcall _
    | ok o =>
      cases o with
      | none =>
        rw [hs] at hcall
        rw [parseFields, hs]
        refine (Walk.bind_result_of_ok hcall _).trans ?_
        show Except.ok (fieldIndex, m, b) =
          Except.ok (fieldIndex, m, CBuf.ofList (b.bytes.take saved ++ b.bytes.drop saved))
        rw [List.take_append_drop, CBuf.ofList_bytes]
      | some t =>
        obtain ⟨c, hcut, htext, ⟨r, htoken⟩, htake, hdrop⟩ :=
          strtokAt_cut (a := Area.metadataBuffer) hs
        have hassign := assignFieldAt_result pl htoken htext fieldIndex m
        rw [assignField_eq] at hassign
        refine (Walk.bind_result_of_ok hcut _).trans ((Walk.bind_result_of_ok hassign _).trans ?_)
        rw [parseFieldsAt_result k, htake, hdrop, parseFields_some hs]
        cases parseFields pl k (fieldIndex + 1) (withField pl fieldIndex t.text m) t.rest with
        | error e => rfl
        | ok r =>
          show Except.ok (_, _, CBuf.ofList (_ ++ t.left ++ r.2.2)) =
            Except.ok (_, _, CBuf.ofList (_ ++ (t.left ++ r.2.2)))
          rw [List.append_assoc]

/-- **The parser by position is the parser.** -/
theorem parseMetadataBufferAt_result (buffer : CBuf metadataBufferSize) (m : LoggerMetadata) :
    (parseMetadataBufferAt pl buffer m).result = parseMetadataBuffer pl buffer m := by
  unfold parseMetadataBufferAt parseMetadataBuffer
  rw [Walk.bind_result, parseFieldsAt_result]
  show Except.map _ (parseFields pl _ 0 m buffer.bytes) >>= _ = _
  cases parseFields pl (metadataBufferSize + 1) 0 m buffer.bytes <;> rfl

theorem createMetadataAt_result (fs : FileHandler σ) (st : InternalStorage σ) :
    (createMetadataAt pl fs st).result = createMetadata pl fs st := by
  unfold createMetadataAt createMetadata
  rcases fs.openFile 1 st.fileSystem with ⟨_ | _, d⟩
  · rfl
  · simp only
    split
    · rfl
    · rw [Walk.bind_result]
      refine bind_congr fun buffer => ?_
      rw [Walk.bind_result, parseMetadataBufferAt_result]
      rfl

/-- **Loading by position is loading.** -/
theorem retrieveMetadataAt_result (fs : FileHandler σ) {st : InternalStorage σ}
    (hinit : st.fileSystemInit = true) :
    (retrieveMetadataAt pl fs st).result = retrieveMetadata pl fs st := by
  unfold retrieveMetadataAt retrieveMetadata
  rw [hinit]
  rcases fs.openFile 0 st.fileSystem with ⟨_ | _, d⟩
  · exact createMetadataAt_result fs _
  · show (if _ then _ else _ : Walk Area (Bool × InternalStorage σ)).result = if _ then _ else _
    split
    · rw [Walk.bind_result, parseMetadataBufferAt_result]
      rfl
    · rfl

/-! ## They stay inside exactly where they return -/

theorem fieldValueAt_guarded (b : CBuf metadataBufferSize) (token : Nat) :
    (fieldValueAt pl b token).Guarded Area.size :=
  (strtoulAt_guarded Area.size_metadataBuffer _ b token).bind fun _ => Walk.guarded_pure _

theorem assignFieldAt_guarded (fieldIndex : Nat) (b : CBuf metadataBufferSize) (token : Nat)
    (m : LoggerMetadata) : (assignFieldAt pl fieldIndex b token m).Guarded Area.size := by
  match fieldIndex with
  | 0 =>
    refine (strlenAt_guarded Area.size_metadataBuffer b token).bind fun len => ?_
    refine (memcpyAt_guarded Area.size_loggerName Area.size_metadataBuffer b token _ 0 _).bind
      fun name => ?_
    exact (poke_guarded Area.size_loggerName name _ 0).bind fun _ => Walk.guarded_pure _
  | 1 => exact (fieldValueAt_guarded b token).bind fun _ => Walk.guarded_pure _
  | 2 => exact (fieldValueAt_guarded b token).bind fun _ => Walk.guarded_pure _
  | 3 => exact (fieldValueAt_guarded b token).bind fun _ => Walk.guarded_pure _
  | 4 => exact (fieldValueAt_guarded b token).bind fun _ => Walk.guarded_pure _
  | n + 5 => exact Walk.guarded_pure m

theorem parseFieldsAt_guarded : ∀ (k fieldIndex : Nat) (m : LoggerMetadata)
    (b : CBuf metadataBufferSize) (saved : Nat),
    (parseFieldsAt pl k fieldIndex m b saved).Guarded Area.size
  | 0, _, _, _, _ => Walk.guarded_pure _
  | k + 1, fieldIndex, m, b, saved => by
    refine (strtokAt_guarded Area.size_metadataBuffer semicolon b saved).bind fun o => ?_
    cases o with
    | none => exact Walk.guarded_pure _
    | some c =>
      exact (assignFieldAt_guarded fieldIndex c.buffer c.token m).bind fun m =>
        parseFieldsAt_guarded k (fieldIndex + 1) m c.buffer c.saved

theorem parseMetadataBufferAt_guarded (buffer : CBuf metadataBufferSize) (m : LoggerMetadata) :
    (parseMetadataBufferAt pl buffer m).Guarded Area.size :=
  (parseFieldsAt_guarded _ 0 m buffer 0).bind fun _ => Walk.guarded_pure _

/-- **The parse stays inside exactly on the buffers with a NUL.** -/
theorem parseMetadataBufferAt_inside (buffer : CBuf metadataBufferSize) (m : LoggerMetadata) :
    Inside (parseMetadataBufferAt pl buffer m) ↔ (0 : Byte) ∈ buffer.bytes := by
  refine (parseMetadataBufferAt_guarded buffer m).symm.trans ?_
  rw [parseMetadataBufferAt_result]
  constructor
  · rintro ⟨⟨v, m', b⟩, h⟩
    exact (parseMetadataBuffer_ok h).1
  · intro h0
    obtain ⟨r, hr⟩ := split_at_nul h0
    obtain ⟨b, hb⟩ := parseMetadataBuffer_text pl (nul_notMem_upToNul _) hr m
    exact ⟨_, hb⟩

/-- The writes to the name stay inside, whatever the buffer holds: a token that was cut is assigned
inside, and `strtok` touches the buffer only. -/
theorem parseFieldsAt_loggerName : ∀ (k fieldIndex : Nat) (m : LoggerMetadata)
    (b : CBuf metadataBufferSize) (saved : Nat) (i : Nat),
    (Area.loggerName, i) ∈ (parseFieldsAt pl k fieldIndex m b saved).touched → i < loggerNameLenght
  | 0, _, _, _, _, _, hi => by cases hi
  | k + 1, fieldIndex, m, b, saved, i, hi => by
    rcases Walk.mem_bind_touched hi with hi | ⟨o, ho, hi⟩
    · cases strtokAt_only _ semicolon b saved _ hi
    · cases o with
      | none => cases hi
      | some c =>
        rcases Walk.mem_bind_touched hi with hi | ⟨m, -, hi⟩
        · obtain ⟨t, r, htext, htoken⟩ := strtokAt_token ho
          have hassign := assignFieldAt_result pl htoken htext fieldIndex m
          rw [assignField_eq] at hassign
          exact (assignFieldAt_guarded fieldIndex c.buffer c.token m).mp ⟨_, hassign⟩ _ hi
        · exact parseFieldsAt_loggerName k (fieldIndex + 1) m c.buffer c.saved i hi

theorem parseMetadataBufferAt_loggerName {buffer : CBuf metadataBufferSize} {m : LoggerMetadata}
    {i : Nat} (hi : (Area.loggerName, i) ∈ (parseMetadataBufferAt pl buffer m).touched) :
    i < loggerNameLenght := by
  rcases Walk.mem_bind_touched hi with hi | ⟨r, -, hi⟩
  · exact parseFieldsAt_loggerName _ 0 m buffer 0 i hi
  · cases hi

/-! ## Loading -/

theorem createMetadataAt_guarded (fs : FileHandler σ) (st : InternalStorage σ) :
    (createMetadataAt pl fs st).Guarded Area.size := by
  unfold createMetadataAt
  rcases fs.openFile 1 st.fileSystem with ⟨_ | _, d⟩
  · exact Walk.guarded_pure _
  · refine .ite (Walk.guarded_pure _) ?_
    refine (poke_guarded Area.size_metadataBuffer _ _ 0).bind fun buffer => ?_
    exact (parseMetadataBufferAt_guarded buffer st.metadata).bind fun _ => Walk.guarded_pure _

theorem retrieveMetadataAt_guarded (fs : FileHandler σ) (st : InternalStorage σ) :
    (retrieveMetadataAt pl fs st).Guarded Area.size := by
  unfold retrieveMetadataAt
  rcases fs.openFile 0 st.fileSystem with ⟨_ | _, d⟩
  · exact createMetadataAt_guarded fs _
  · refine .ite ?_ (Walk.guarded_pure _)
    exact (parseMetadataBufferAt_guarded _ st.metadata).bind fun _ => Walk.guarded_pure _

/-- **The name is never overrun**, whatever the file and the buffer hold. -/
theorem retrieveMetadataAt_loggerName {fs : FileHandler σ} {st : InternalStorage σ} {i : Nat}
    (hi : (Area.loggerName, i) ∈ (retrieveMetadataAt pl fs st).touched) : i < loggerNameLenght := by
  unfold retrieveMetadataAt createMetadataAt at hi
  split at hi
  · -- there is no file, and the default one is created
    dsimp only at hi
    split at hi
    · cases hi
    · split at hi
      · cases hi
      · rcases Walk.mem_bind_touched hi with hi | ⟨buffer, -, hi⟩
        · cases poke_only _ _ _ _ _ hi
        · rcases Walk.mem_bind_touched hi with hi | ⟨r, -, hi⟩
          · exact parseMetadataBufferAt_loggerName hi
          · cases hi
  · dsimp only at hi
    split at hi
    · rcases Walk.mem_bind_touched hi with hi | ⟨r, -, hi⟩
      · exact parseMetadataBufferAt_loggerName hi
      · cases hi
    · cases hi

/-- **Loading stays inside exactly where a file that is read leaves a NUL in the buffer.** -/
theorem retrieveMetadataAt_inside {fs : FileHandler σ} {st : InternalStorage σ}
    (hinit : st.fileSystemInit = true) : Inside (retrieveMetadataAt pl fs st) ↔
      ((fs.openFile 0 st.fileSystem).1 = true → 0 < bytesRead fs st →
        (0 : Byte) ∈ (readBuffer fs st).bytes) := by
  refine (retrieveMetadataAt_guarded fs st).symm.trans ?_
  rw [retrieveMetadataAt_result fs hinit]
  constructor
  · rintro ⟨⟨ret, st'⟩, h⟩ hopen hret
    rw [retrieveMetadata_loaded pl st hinit hopen hret] at h
    obtain ⟨r, hr, -⟩ := map_eq_ok.mp h
    exact (parseMetadataBuffer_ok hr).1
  · intro h
    cases hr : retrieveMetadata pl fs st with
    | ok r => exact ⟨r, rfl⟩
    | error e =>
      rcases retrieveMetadata_stops hr with ⟨hno, -⟩ | ⟨hopen, hret, h0, -⟩
      · rw [hinit] at hno
        cases hno
      · exact absurd (h hopen hret) h0

/-- The device holds the file: `none` cannot be opened, and `open`, `read` and `close` deliver the first
256 bytes of the others. -/
def HoldsFile (fs : FileHandler σ) (d : σ) : Option (List Byte) → Prop
  | none => (fs.openFile 0 d).1 = false
  | some c => ∃ d', fs.Reads metadataBufferSize d (c.take metadataBufferSize) d'

/-- The file behind a handler whose calls succeed. -/
theorem holdsFile_content {fs : FileHandler σ} (M : Medium fs) {d : σ} (hidle : M.Idle d) :
    HoldsFile fs d (M.content d) := by
  cases hc : M.content d with
  | none =>
    obtain ⟨d', ho, -⟩ := M.absent d hidle hc
    show (fs.openFile 0 d).1 = false
    rw [ho]
  | some c =>
    obtain ⟨d', hreads, -⟩ := M.load d hidle c hc metadataBufferSize
    exact ⟨d', hreads⟩

/-- What a file leaves in the buffer, over what it held. -/
theorem readBuffer_file {fs : FileHandler σ} (st : InternalStorage σ) {c : List Byte}
    (h : HoldsFile fs st.fileSystem (some c)) :
    (fs.openFile 0 st.fileSystem).1 = true ∧ (0 < bytesRead fs st ↔ c ≠ []) ∧
      (readBuffer fs st).bytes = c.take metadataBufferSize ++ st.metadataBuffer.bytes.drop c.length := by
  obtain ⟨d', d₁, d₂, got, r, ho, hr, hb, hret, -⟩ := h
  have hbytes : bytesRead fs st = (c.take metadataBufferSize).length := by
    unfold bytesRead
    rw [ho, hr]
    exact hret
  refine ⟨by rw [ho], ?_, ?_⟩
  · rw [hbytes, Int.natCast_pos, List.length_pos_iff, ne_eq, List.take_eq_nil_iff]
    simp
  · unfold readBuffer
    rw [CBuf.fill_bytes]
    simp only [ho, hr, hb]
    refine congrArg (c.take metadataBufferSize ++ ·) ?_
    by_cases hlen : c.length ≤ metadataBufferSize
    · rw [List.take_of_length_le hlen]
    · rw [List.drop_of_length_le (by rw [List.length_take, st.metadataBuffer.size]; omega),
        List.drop_of_length_le (by rw [st.metadataBuffer.size]; omega)]

/-- **Where parsing stays inside the buffer.** Let the device hold `file`. Whatever the record and the
buffer hold, every position that loading examines or overwrites is inside exactly when there is no file
or an empty one, or a NUL is in its first 256 bytes or in what the buffer holds behind it. -/
theorem parsing_inside_iff (pl : Platform) {fs : FileHandler σ} {d : σ} {file : Option (List Byte)}
    (hfile : HoldsFile fs d file) (m₀ : LoggerMetadata) (flag : Bool) (b₀ : CBuf metadataBufferSize) :
    Inside (retrieveMetadataAt pl fs ⟨m₀, flag, b₀, true, d⟩) ↔
      ∀ c, file = some c → c ≠ [] →
        (0 : Byte) ∈ c.take metadataBufferSize ∨ (0 : Byte) ∈ b₀.bytes.drop c.length := by
  refine (retrieveMetadataAt_inside rfl).trans ?_
  cases file with
  | none =>
    refine iff_of_true ?_ nofun
    intro hopen
    exact absurd (hfile.symm.trans hopen) Bool.false_ne_true
  | some c =>
    obtain ⟨hopen, hret, hbytes⟩ := readBuffer_file ⟨m₀, flag, b₀, true, d⟩ hfile
    rw [hbytes, List.mem_append, hret]
    constructor
    · rintro h c' hc hne
      cases hc
      exact h hopen hne
    · intro h _ hne
      exact h c rfl hne

/-- A file as the `S` command leaves it is parsed inside the buffer. -/
theorem parsing_inside_stored :
    Inside (retrieveMetadataAt .target cFileHandler
      ⟨LoggerMetadata.static, false, CBuf.zero _, true, ⟨some storedFile, none⟩⟩) := by
  have hfile : HoldsFile cFileHandler ⟨some storedFile, none⟩ (some storedFile) :=
    holdsFile_content cMedium (d := ⟨some storedFile, none⟩) rfl
  refine (parsing_inside_iff .target hfile LoggerMetadata.static false (CBuf.zero _)).mpr ?_
  intro c hc _
  cases hc
  exact Or.inl (by decide)

/-- At start-up, a file of 256 letters is loaded. -/
def lettersLoaded : Walk Area (Bool × InternalStorage CFile) :=
  retrieveMetadataAt .target cFileHandler ⟨LoggerMetadata.static, false, CBuf.zero _, true,
    ⟨some (List.replicate metadataBufferSize 65), none⟩⟩

/-- The scan for a delimiter examines the position behind the buffer. -/
theorem parsing_leaves_buffer : (Area.metadataBuffer, metadataBufferSize) ∈ lettersLoaded.touched ∧
    ¬ Inside lettersLoaded := by
  have hbehind : (Area.metadataBuffer, metadataBufferSize) ∈ lettersLoaded.touched := by
    decide +kernel
  exact ⟨hbehind, fun h => absurd (h _ hbehind) (Nat.lt_irrefl _)⟩

end GenLogger.Config
