import GenLogger.Config.Metadata
import GenLogger.Lib.Strtok
import GenLogger.Platform.FileHandler

/-!
# The internal storage component (`internalStorage_component.cpp`)

Model of `internalStorageComponent`: `InternalStorage` is the component with the record `_metadata`
points to and the device behind its `fileSystem`. `retrieveMetadata`, `storeMetadata` and
`parseMetadataBuffer` are the source's functions over any `FileHandler`.

* A call that leaves the defined behaviour of C, or that `appAssert` stops, is an error; so a result
  says that nothing of the kind happened.
* `std::strtok` works on the buffer and leaves its NULs there, so the parser returns the buffer too.
* `getMeasurementPeriod` multiplies as `int` and is an error where the product does not fit.

Results. Each operation has one specification, which the later modules use instead of its body:
* `parseFields_eq`: the loop assigns the tokens in order (`assignFields`), and ignores those from the
  sixth on.
* `parseMetadataBuffer_text`: on a buffer with a text and a NUL, the fields of the text are assigned
  in order, and the verdict is whether there are five of them; `parseMetadataBuffer_fault`: without a
  NUL the parse reads outside the buffer.
* `retrieveMetadata_cases`: all that loading can do, over any outcome of the calls on the file.
* `storeMetadata_writes`, `retrieveMetadata_loads`, `retrieveMetadata_creates`: on a `Medium`, storing
  writes the content, and retrieving parses the content or creates the default file.
* `retrieveMetadata_stops`, `storeMetadata_error`: the only ways to fail.
-/

namespace GenLogger.Config

open GenLogger.Lib GenLogger.Platform

variable {σ : Type}

/-- `internalStorageComponent`, with the record it points to and the state of `fileSystem`. -/
structure InternalStorage (σ : Type) where
  metadata : LoggerMetadata
  metadataUpdatedFlag : Bool
  metadataBuffer : CBuf metadataBufferSize
  fileSystemInit : Bool
  fileSystem : σ

/-- `appAssert`. -/
def appAssert (condition : Bool) : Except Fault Unit :=
  if condition then .ok () else .error .hang

/-! ## Parsing -/

/-- `static_cast<uint8_t>(std::strtoul(token, nullptr, 10))`. -/
def fieldValue (pl : Platform) (token : List Byte) : UInt8 :=
  UInt8.ofNat (strtoul pl.ulongMax token)

/-- The `switch (fieldIndex)` of `_parseMetadataBuffer`. -/
def assignField (pl : Platform) (fieldIndex : Nat) (token : List Byte) (m : LoggerMetadata) :
    Except Fault LoggerMetadata :=
  match fieldIndex with
  | 0 => do
    let tokenLen := if loggerNameLenght ≤ token.length then loggerNameLenght - 1 else token.length
    let name ← m.loggerName.memcpy (token.take tokenLen)
    let name ← name.store tokenLen 0
    .ok { m with loggerName := name }
  | 1 => .ok { m with fileCreationPeriod := fieldValue pl token }
  | 2 => .ok { m with fileTransmissionPeriod := (fieldValue pl token).toUInt16 }
  | 3 => .ok { m with generalMeasurementPeriod := (fieldValue pl token).toUInt16 }
  | 4 => .ok { m with restRequestPeriod := (fieldValue pl token).toUInt16 }
  | _ => .ok m

/-- The `while (token != nullptr)` loop: the number of fields, the record, and the buffer as
`strtok` leaves it. The first argument bounds the number of rounds. -/
def parseFields (pl : Platform) : Nat → Nat → LoggerMetadata → List Byte →
    Except Fault (Nat × LoggerMetadata × List Byte)
  | 0, fieldIndex, m, s => .ok (fieldIndex, m, s)
  | k + 1, fieldIndex, m, s => do
    match ← strtok semicolon s with
    | none => .ok (fieldIndex, m, s)
    | some t =>
      let m ← assignField pl fieldIndex t.text m
      let (count, m, out) ← parseFields pl k (fieldIndex + 1) m t.rest
      .ok (count, m, t.left ++ out)

/-- `_parseMetadataBuffer`: whether there were five fields, the record, and the buffer. A round
passes at least one byte, so one round more than the buffer has bytes is enough. -/
def parseMetadataBuffer (pl : Platform) (buffer : CBuf metadataBufferSize) (m : LoggerMetadata) :
    Except Fault (Bool × LoggerMetadata × CBuf metadataBufferSize) := do
  let (fieldIndex, m, out) ← parseFields pl (metadataBufferSize + 1) 0 m buffer.bytes
  .ok (5 ≤ fieldIndex, m, CBuf.ofList out)

/-! ## Loading and storing -/

/-- The branch of `retrieveMetadata` for a file that cannot be opened. -/
def createMetadata (pl : Platform) (fs : FileHandler σ) (st : InternalStorage σ) :
    Except Fault (Bool × InternalStorage σ) :=
  match fs.openFile 1 st.fileSystem with
  | (false, d) => .ok (false, { st with fileSystem := d })
  | (true, d) =>
    let (bytesWrote, d) := fs.write defaultMetadata.bytes d
    let (closed, d) := fs.close d
    let st := { st with fileSystem := d }
    if closed ≠ 0 ∨ bytesWrote ≤ 0 then .ok (false, st)
    else do
      let buffer ← (st.metadataBuffer.strncpy defaultMetadata).store (metadataBufferSize - 1) 0
      -- the parser's verdict is dropped
      let (_, m, buffer) ← parseMetadataBuffer pl buffer st.metadata
      .ok (true, { st with metadata := m, metadataBuffer := buffer, metadataUpdatedFlag := true })

/-- `retrieveMetadata`. -/
def retrieveMetadata (pl : Platform) (fs : FileHandler σ) (st : InternalStorage σ) :
    Except Fault (Bool × InternalStorage σ) := do
  appAssert st.fileSystemInit
  match fs.openFile 0 st.fileSystem with
  | (false, d) => createMetadata pl fs { st with fileSystem := d }
  | (true, d) =>
    let (got, d) := fs.read metadataBufferSize d
    let st := { st with metadataBuffer := st.metadataBuffer.fill got.bytes got.fits }
    if 0 < got.ret then do
      -- the parser's verdict is dropped here too
      let (_, m, buffer) ← parseMetadataBuffer pl st.metadataBuffer st.metadata
      .ok (true, { st with metadata := m, metadataBuffer := buffer, fileSystem := (fs.close d).2 })
    else .ok (false, { st with fileSystem := (fs.close d).2 })

/-- `storeMetadata`. -/
def storeMetadata (fs : FileHandler σ) (buff : List Byte) (st : InternalStorage σ) :
    Except Fault (Bool × InternalStorage σ) := do
  appAssert st.fileSystemInit
  match fs.openFile 1 st.fileSystem with
  | (false, d) => .ok (false, { st with fileSystem := d })
  | (true, d) =>
    let (bytesWrote, d) := fs.write buff d
    let (closed, d) := fs.close d
    .ok (!(closed == 0 || bytesWrote == 0), { st with fileSystem := d })

/-- `utilities::MS_IN_ONE_MINUTE`. -/
abbrev msInOneMinute : Nat := 60000

/-- `getMeasurementPeriod`: both factors are promoted to `int`, so the product has to fit one. -/
def getMeasurementPeriod (m : LoggerMetadata) : Except Fault UInt32 :=
  let product := m.generalMeasurementPeriod.toNat * msInOneMinute
  if product ≤ 2147483647 then .ok (UInt32.ofNat product) else .error .signedOverflow

/-- `getMetadataUpdatedFlag`. -/
def getMetadataUpdatedFlag (st : InternalStorage σ) : Bool × InternalStorage σ :=
  (st.metadataUpdatedFlag, { st with metadataUpdatedFlag := false })

/-- `initFS`, on the component as constructed. -/
def initFS (pl : Platform) (fs : FileHandler σ) (st : InternalStorage σ) :
    Except Fault (Bool × InternalStorage σ) :=
  match fs.mount st.fileSystem with
  | (false, d) => .ok (false, { st with fileSystem := d })
  | (true, d) => retrieveMetadata pl fs { st with fileSystem := d, fileSystemInit := true }

/-! ## What a parse does to the record -/

/-- A name as `memcpy` and the stored terminator leave it: at most 95 bytes of the token. -/
def putName (name : CBuf loggerNameLenght) (token : List Byte) : CBuf loggerNameLenght :=
  name.putStr (token.take (loggerNameLenght - 1))
    (Nat.lt_of_le_of_lt (List.length_take_le _ _) (by decide))

theorem putName_cstr (name : CBuf loggerNameLenght) (s : CStr) :
    (putName name s.bytes).cstr = .ok (s.truncate (loggerNameLenght - 1)) :=
  CBuf.cstr_putStr name _ (s.truncate (loggerNameLenght - 1)).noNul

/-- The record after `assignField`. -/
def withField (pl : Platform) (fieldIndex : Nat) (token : List Byte) (m : LoggerMetadata) :
    LoggerMetadata :=
  match fieldIndex with
  | 0 => { m with loggerName := putName m.loggerName token }
  | 1 => { m with fileCreationPeriod := fieldValue pl token }
  | 2 => { m with fileTransmissionPeriod := (fieldValue pl token).toUInt16 }
  | 3 => { m with generalMeasurementPeriod := (fieldValue pl token).toUInt16 }
  | 4 => { m with restRequestPeriod := (fieldValue pl token).toUInt16 }
  | _ => m

/-- The record after the tokens `ts`, the first of them being field `fieldIndex`. -/
def assignFields (pl : Platform) : Nat → List (List Byte) → LoggerMetadata → LoggerMetadata
  | _, [], m => m
  | fieldIndex, t :: ts, m => assignFields pl (fieldIndex + 1) ts (withField pl fieldIndex t m)

variable {pl : Platform}

/-- No assignment leaves its array: a token too long for the name is cut. -/
theorem assignField_eq (fieldIndex : Nat) (token : List Byte) (m : LoggerMetadata) :
    assignField pl fieldIndex token m = .ok (withField pl fieldIndex token m) := by
  match fieldIndex with
  | 0 =>
    have htake : token.take (if loggerNameLenght ≤ token.length then loggerNameLenght - 1
        else token.length) = token.take (loggerNameLenght - 1) := by
      split
      · rfl
      · rw [List.take_of_length_le (Nat.le_refl _), List.take_of_length_le (by omega)]
    have hlen : (if loggerNameLenght ≤ token.length then loggerNameLenght - 1 else token.length) =
        (token.take (loggerNameLenght - 1)).length := by
      rw [List.length_take]
      split <;> omega
    have hlt : (token.take (loggerNameLenght - 1)).length < loggerNameLenght :=
      Nat.lt_of_le_of_lt (List.length_take_le _ _) (by decide)
    simp only [assignField]
    rw [htake, hlen, ← bind_assoc, CBuf.memcpy_store m.loggerName hlt]
    rfl
  | 1 => rfl
  | 2 => rfl
  | 3 => rfl
  | 4 => rfl
  | n + 5 => rfl

/-- A round that finds a token. -/
theorem parseFields_some {k fieldIndex : Nat} {m : LoggerMetadata} {s : List Byte} {t : Token}
    (h : strtok semicolon s = .ok (some t)) : parseFields pl (k + 1) fieldIndex m s =
      (parseFields pl k (fieldIndex + 1) (withField pl fieldIndex t.text m) t.rest).map fun r =>
        (r.1, r.2.1, t.left ++ r.2.2) := by
  rw [parseFields, h]
  show (assignField pl fieldIndex t.text m >>= fun m =>
    parseFields pl k (fieldIndex + 1) m t.rest >>= fun r => Except.ok (r.1, r.2.1, t.left ++ r.2.2)) = _
  rw [assignField_eq]
  show (parseFields pl k (fieldIndex + 1) (withField pl fieldIndex t.text m) t.rest >>= _) = _
  cases parseFields pl k (fieldIndex + 1) (withField pl fieldIndex t.text m) t.rest <;> rfl

/-- **The loop assigns the tokens in order.** -/
theorem parseFields_eq : ∀ (k fieldIndex : Nat) (m : LoggerMetadata) (s : List Byte),
    parseFields pl k fieldIndex m s = (tokens semicolon k s).map fun r =>
      (fieldIndex + r.1.length, assignFields pl fieldIndex r.1 m, r.2)
  | 0, _, _, _ => rfl
  | k + 1, fieldIndex, m, s => by
    cases hs : strtok semicolon s with
    | error e => rw [parseFields, tokens, hs]; rfl
    | ok o =>
      cases o with
      | none => rw [parseFields, tokens, hs]; rfl
      | some t =>
        rw [parseFields_some hs, parseFields_eq k, tokens, hs]
        show Except.map _ (Except.map _ (tokens semicolon k t.rest)) =
          Except.map _ (tokens semicolon k t.rest >>= fun r => Except.ok (t.text :: r.1, t.left ++ r.2))
        cases tokens semicolon k t.rest with
        | error e => rfl
        | ok r =>
          have hlen : fieldIndex + 1 + r.1.length = fieldIndex + (t.text :: r.1).length := by
            rw [List.length_cons]; omega
          simp only [Except.map, hlen]
          rfl

/-- Fields from the sixth on are ignored. -/
theorem assignFields_extra : ∀ (ts : List (List Byte)) (n : Nat) (m : LoggerMetadata),
    assignFields pl (n + 5) ts m = m
  | [], _, _ => rfl
  | _ :: ts, n, m => assignFields_extra ts (n + 1) m

/-- The record after five fields or more. -/
theorem assignFields_five (a b c d e : List Byte) (ts : List (List Byte)) (m : LoggerMetadata) :
    assignFields pl 0 (a :: b :: c :: d :: e :: ts) m =
      ⟨putName m.loggerName a, fieldValue pl b, (fieldValue pl c).toUInt16,
        (fieldValue pl d).toUInt16, (fieldValue pl e).toUInt16⟩ :=
  assignFields_extra ts 0 _

/-- The first field is the name, whatever follows. -/
theorem assignFields_loggerName (pl : Platform) (a : List Byte) (ts : List (List Byte))
    (m : LoggerMetadata) :
    (assignFields pl 0 (a :: ts) m).loggerName = putName m.loggerName a := by
  match ts with
  | [] => rfl
  | [_] => rfl
  | [_, _] => rfl
  | [_, _, _] => rfl
  | b :: c :: d :: e :: ts => rw [assignFields_five]

/-- The measurement period after a parse: the low byte of the fourth field. -/
theorem assignFields_measurement (ts : List (List Byte)) (m : LoggerMetadata) :
    (assignFields pl 0 ts m).generalMeasurementPeriod =
      match ts[3]? with
      | some t => (fieldValue pl t).toUInt16
      | none => m.generalMeasurementPeriod := by
  match ts with
  | [] => rfl
  | [_] => rfl
  | [_, _] => rfl
  | [_, _, _] => rfl
  | [_, _, _, _] => rfl
  | a :: b :: c :: d :: e :: ts => rw [assignFields_five]; rfl

/-! ## The parser on a buffer -/

/-- **A buffer with a text and a NUL**: the fields of the text are assigned in order. -/
theorem parseMetadataBuffer_text (pl : Platform) {buffer : CBuf metadataBufferSize} {t r : List Byte}
    (ht : (0 : Byte) ∉ t) (h : buffer.bytes = t ++ 0 :: r) (m : LoggerMetadata) :
    ∃ b, parseMetadataBuffer pl buffer m =
      .ok (decide (5 ≤ (fields semicolon t).length), assignFields pl 0 (fields semicolon t) m, b) := by
  have hlen : t.length < metadataBufferSize + 1 := by
    have := buffer.size
    rw [h, List.length_append, List.length_cons] at this
    omega
  obtain ⟨out, hout, -⟩ := tokens_text (d := semicolon) (by decide) r _ t ht hlen
  refine ⟨CBuf.ofList out, ?_⟩
  unfold parseMetadataBuffer
  rw [parseFields_eq, h, hout]
  simp only [Except.map, Nat.zero_add]
  rfl

/-- **A buffer without a NUL** is read past its end. -/
theorem parseMetadataBuffer_fault {buffer : CBuf metadataBufferSize}
    (h : (0 : Byte) ∉ buffer.bytes) (m : LoggerMetadata) :
    parseMetadataBuffer pl buffer m = .error .outOfBounds := by
  unfold parseMetadataBuffer
  rw [parseFields_eq, tokens_fault _ _ h (by rw [buffer.size]; omega)]
  rfl

/-- The parser succeeds on the buffers with a NUL, and there by assigning the fields. -/
theorem parseMetadataBuffer_ok {buffer : CBuf metadataBufferSize} {m m' : LoggerMetadata}
    {v : Bool} {b : CBuf metadataBufferSize} (h : parseMetadataBuffer pl buffer m = .ok (v, m', b)) :
    (0 : Byte) ∈ buffer.bytes ∧
      m' = assignFields pl 0 (fields semicolon (upToNul buffer.bytes)) m := by
  by_cases h0 : (0 : Byte) ∈ buffer.bytes
  · obtain ⟨r, hr⟩ := split_at_nul h0
    obtain ⟨b', hb'⟩ := parseMetadataBuffer_text pl (nul_notMem_upToNul _) hr m
    rw [hb'] at h
    cases h
    exact ⟨h0, rfl⟩
  · rw [parseMetadataBuffer_fault h0] at h
    cases h

/-- The record the default file describes. -/
def defaultRecord (m : LoggerMetadata) : LoggerMetadata :=
  ⟨putName m.loggerName (ascii "defaultLogger"), 1, 1, 1, 1⟩

theorem fields_defaultMetadata : fields semicolon defaultMetadata.bytes =
    [ascii "defaultLogger", [49], [49], [49], [49]] := by decide

theorem assignFields_default (m : LoggerMetadata) :
    assignFields pl 0 (fields semicolon defaultMetadata.bytes) m = defaultRecord m := by
  have h1 : fieldValue pl [49] = 1 := by cases pl <;> decide
  rw [fields_defaultMetadata, assignFields_five, h1]
  rfl

/-- The buffer `createMetadata` parses. -/
theorem default_buffer (b : CBuf metadataBufferSize) :
    ∃ b' r, (b.strncpy defaultMetadata).store (metadataBufferSize - 1) 0 = .ok b' ∧
      b'.bytes = defaultMetadata.bytes ++ 0 :: r := by
  have hlen : defaultMetadata.bytes.length = 21 := by decide
  obtain ⟨r, hr⟩ := CBuf.strncpy_bytes b (s := defaultMetadata) (by rw [hlen]; decide)
  refine ⟨_, r.set 233 0, if_pos (by decide), ?_⟩
  show (b.strncpy defaultMetadata).bytes.set 255 0 = _
  rw [hr, List.set_append_right _ _ (by omega), hlen]
  rfl

/-! ## What the operations do -/

variable {fs : FileHandler σ}

theorem createMetadata_eq (pl : Platform) (fs : FileHandler σ) (st : InternalStorage σ) :
    ∃ buffer, createMetadata pl fs st =
      let o := fs.openFile 1 st.fileSystem
      let w := fs.write defaultMetadata.bytes o.2
      let c := fs.close w.2
      .ok (if o.1 = false then (false, { st with fileSystem := o.2 })
        else if c.1 ≠ 0 ∨ w.1 ≤ 0 then (false, { st with fileSystem := c.2 })
        else (true, { st with
          metadata := defaultRecord st.metadata
          metadataBuffer := buffer
          metadataUpdatedFlag := true
          fileSystem := c.2 })) := by
  obtain ⟨b', r, hb', hr⟩ := default_buffer st.metadataBuffer
  obtain ⟨b, hb⟩ := parseMetadataBuffer_text pl defaultMetadata.noNul hr st.metadata
  refine ⟨b, ?_⟩
  unfold createMetadata
  rcases fs.openFile 1 st.fileSystem with ⟨_ | _, d⟩
  · rfl
  · simp only
    split
    · rfl
    · rw [hb']
      show (parseMetadataBuffer pl b' st.metadata >>= _) = _
      rw [hb, assignFields_default]
      rfl

/-- The buffer `retrieveMetadata` parses: what the read delivers over what it held. -/
def readBuffer (fs : FileHandler σ) (st : InternalStorage σ) : CBuf metadataBufferSize :=
  let got := (fs.read metadataBufferSize (fs.openFile 0 st.fileSystem).2).1
  st.metadataBuffer.fill got.bytes got.fits

/-- `bytesRead`. -/
def bytesRead (fs : FileHandler σ) (st : InternalStorage σ) : Int :=
  (fs.read metadataBufferSize (fs.openFile 0 st.fileSystem).2).1.ret

/-- The device after `open(0)`, the read and the `close`. -/
def afterRead (fs : FileHandler σ) (st : InternalStorage σ) : σ :=
  (fs.close (fs.read metadataBufferSize (fs.openFile 0 st.fileSystem).2).2).2

theorem retrieveMetadata_created (pl : Platform) (st : InternalStorage σ)
    (hinit : st.fileSystemInit = true) (hopen : (fs.openFile 0 st.fileSystem).1 = false) :
    retrieveMetadata pl fs st =
      createMetadata pl fs { st with fileSystem := (fs.openFile 0 st.fileSystem).2 } := by
  unfold retrieveMetadata
  rw [hinit]
  rcases h : fs.openFile 0 st.fileSystem with ⟨_ | _, d⟩
  · rfl
  · rw [h] at hopen; cases hopen

theorem retrieveMetadata_opened (pl : Platform) (st : InternalStorage σ)
    (hinit : st.fileSystemInit = true) (hopen : (fs.openFile 0 st.fileSystem).1 = true) :
    retrieveMetadata pl fs st =
      if 0 < bytesRead fs st then
        (parseMetadataBuffer pl (readBuffer fs st) st.metadata).map fun r =>
          (true, { st with
            metadata := r.2.1
            metadataBuffer := r.2.2
            fileSystem := afterRead fs st })
      else .ok (false, { st with
        metadataBuffer := readBuffer fs st
        fileSystem := afterRead fs st }) := by
  unfold readBuffer bytesRead afterRead retrieveMetadata
  rw [hinit]
  rcases h : fs.openFile 0 st.fileSystem with ⟨_ | _, d⟩
  · rw [h] at hopen; cases hopen
  · show (if _ then _ else _) = _
    split
    · show (parseMetadataBuffer pl _ _ >>= _) = _
      cases parseMetadataBuffer pl
        (st.metadataBuffer.fill (fs.read metadataBufferSize d).1.bytes _) st.metadata <;> rfl
    · rfl

theorem retrieveMetadata_loaded (pl : Platform) (st : InternalStorage σ)
    (hinit : st.fileSystemInit = true) (hopen : (fs.openFile 0 st.fileSystem).1 = true)
    (hret : 0 < bytesRead fs st) :
    retrieveMetadata pl fs st =
      (parseMetadataBuffer pl (readBuffer fs st) st.metadata).map fun r =>
        (true, { st with
          metadata := r.2.1
          metadataBuffer := r.2.2
          fileSystem := afterRead fs st }) := by
  rw [retrieveMetadata_opened pl st hinit hopen, if_pos hret]

theorem retrieveMetadata_unread (pl : Platform) (st : InternalStorage σ)
    (hinit : st.fileSystemInit = true) (hopen : (fs.openFile 0 st.fileSystem).1 = true)
    (hret : ¬ 0 < bytesRead fs st) :
    retrieveMetadata pl fs st = .ok (false, { st with
      metadataBuffer := readBuffer fs st
      fileSystem := afterRead fs st }) := by
  rw [retrieveMetadata_opened pl st hinit hopen, if_neg hret]

/-- What a call of `retrieveMetadata` can do: leave the record alone and fail, create the default
file, or assign the fields of the text it read. -/
inductive Retrieved (pl : Platform) (fs : FileHandler σ) (st st' : InternalStorage σ) : Bool → Prop
  | failed (hno : ¬ ((fs.openFile 0 st.fileSystem).1 = true ∧ 0 < bytesRead fs st))
      (hm : st'.metadata = st.metadata)
      (hf : st'.metadataUpdatedFlag = st.metadataUpdatedFlag) : Retrieved pl fs st st' false
  | created (ho : (fs.openFile 0 st.fileSystem).1 = false)
      (hm : st'.metadata = defaultRecord st.metadata)
      (hf : st'.metadataUpdatedFlag = true) : Retrieved pl fs st st' true
  | loaded (ho : (fs.openFile 0 st.fileSystem).1 = true) (hret : 0 < bytesRead fs st)
      (h0 : (0 : Byte) ∈ (readBuffer fs st).bytes)
      (hm : st'.metadata =
        assignFields pl 0 (fields semicolon (upToNul (readBuffer fs st).bytes)) st.metadata)
      (hf : st'.metadataUpdatedFlag = st.metadataUpdatedFlag) : Retrieved pl fs st st' true

/-- **Every outcome of `retrieveMetadata`.** -/
theorem retrieveMetadata_cases {st st' : InternalStorage σ} {ret : Bool}
    (h : retrieveMetadata pl fs st = .ok (ret, st')) :
    st.fileSystemInit = true ∧ st'.fileSystemInit = true ∧ Retrieved pl fs st st' ret := by
  cases hinit : st.fileSystemInit with
  | false =>
    unfold retrieveMetadata at h
    rw [hinit] at h
    cases h
  | true =>
    refine ⟨rfl, ?_⟩
    cases hopen : (fs.openFile 0 st.fileSystem).1 with
    | false =>
      obtain ⟨b, hb⟩ := createMetadata_eq pl fs
        { st with fileSystem := (fs.openFile 0 st.fileSystem).2 }
      rw [retrieveMetadata_created pl _ hinit hopen, hb] at h
      simp only [Except.ok.injEq] at h
      have hno : ¬ ((fs.openFile 0 st.fileSystem).1 = true ∧ 0 < bytesRead fs st) := by
        rw [hopen]
        exact fun h => Bool.false_ne_true h.1
      split at h
      · cases h; exact ⟨hinit, .failed hno rfl rfl⟩
      · split at h
        · cases h; exact ⟨hinit, .failed hno rfl rfl⟩
        · cases h; exact ⟨hinit, .created hopen rfl rfl⟩
    | true =>
      by_cases hret : 0 < bytesRead fs st
      · rw [retrieveMetadata_loaded pl _ hinit hopen hret] at h
        obtain ⟨r, hp, hr⟩ := map_eq_ok.mp h
        cases hr
        obtain ⟨h0, hm⟩ := parseMetadataBuffer_ok hp
        exact ⟨hinit, .loaded hopen hret h0 hm rfl⟩
      · rw [retrieveMetadata_unread pl _ hinit hopen hret] at h
        cases h
        exact ⟨hinit, .failed (fun h => hret h.2) rfl rfl⟩

/-- Where the file opens, it is read and closed, and the flag stays. -/
theorem retrieveMetadata_device {st st' : InternalStorage σ} {ret : Bool}
    (hopen : (fs.openFile 0 st.fileSystem).1 = true) (h : retrieveMetadata pl fs st = .ok (ret, st')) :
    st'.fileSystem = afterRead fs st ∧ st'.metadataUpdatedFlag = st.metadataUpdatedFlag := by
  have hinit := (retrieveMetadata_cases h).1
  by_cases hret : 0 < bytesRead fs st
  · rw [retrieveMetadata_loaded pl st hinit hopen hret] at h
    obtain ⟨r, -, hr⟩ := map_eq_ok.mp h
    cases hr
    exact ⟨rfl, rfl⟩
  · rw [retrieveMetadata_unread pl st hinit hopen hret] at h
    cases h
    exact ⟨rfl, rfl⟩

theorem storeMetadata_eq {st : InternalStorage σ} (hinit : st.fileSystemInit = true)
    (buff : List Byte) : storeMetadata fs buff st =
      let o := fs.openFile 1 st.fileSystem
      let w := fs.write buff o.2
      let c := fs.close w.2
      .ok (if o.1 = false then (false, { st with fileSystem := o.2 })
        else (!(c.1 == 0 || w.1 == 0), { st with fileSystem := c.2 })) := by
  unfold storeMetadata
  rw [hinit]
  rcases fs.openFile 1 st.fileSystem with ⟨_ | _, d⟩ <;> rfl

/-- A store that returns has passed the assertion. -/
theorem storeMetadata_init {buff : List Byte} {st : InternalStorage σ}
    {r : Bool × InternalStorage σ} (h : storeMetadata fs buff st = .ok r) :
    st.fileSystemInit = true := by
  cases hinit : st.fileSystemInit with
  | false =>
    unfold storeMetadata at h
    rw [hinit] at h
    cases h
  | true => rfl

/-- Storing touches the device only. -/
theorem storeMetadata_storage {buff : List Byte} {st st' : InternalStorage σ} {ret : Bool}
    (h : storeMetadata fs buff st = .ok (ret, st')) : ∃ d, st' = { st with fileSystem := d } := by
  rw [storeMetadata_eq (storeMetadata_init h)] at h
  simp only [Except.ok.injEq] at h
  split at h
  · cases h; exact ⟨_, rfl⟩
  · cases h; exact ⟨_, rfl⟩

/-- Storing can only stop at the assertion. -/
theorem storeMetadata_error {buff : List Byte} {st : InternalStorage σ} {e : Fault}
    (h : storeMetadata fs buff st = .error e) : e = .hang := by
  cases hinit : st.fileSystemInit with
  | false =>
    unfold storeMetadata at h
    rw [hinit] at h
    cases h
    rfl
  | true =>
    rw [storeMetadata_eq hinit] at h
    cases h

/-- Loading stops at the assertion, or outside a buffer that the read has left without a NUL. -/
theorem retrieveMetadata_stops {st : InternalStorage σ} {e : Fault}
    (h : retrieveMetadata pl fs st = .error e) :
    (st.fileSystemInit = false ∧ e = .hang) ∨
      ((fs.openFile 0 st.fileSystem).1 = true ∧ 0 < bytesRead fs st ∧
        (0 : Byte) ∉ (readBuffer fs st).bytes ∧ e = .outOfBounds) := by
  cases hinit : st.fileSystemInit with
  | false =>
    unfold retrieveMetadata at h
    rw [hinit] at h
    cases h
    exact Or.inl ⟨rfl, rfl⟩
  | true =>
    by_cases hopen : (fs.openFile 0 st.fileSystem).1 = true
    · by_cases hret : 0 < bytesRead fs st
      · by_cases h0 : (0 : Byte) ∈ (readBuffer fs st).bytes
        · obtain ⟨r, hr⟩ := split_at_nul h0
          obtain ⟨b, hb⟩ := parseMetadataBuffer_text pl (nul_notMem_upToNul _) hr st.metadata
          rw [retrieveMetadata_loaded pl st hinit hopen hret, hb] at h
          cases h
        · rw [retrieveMetadata_loaded pl st hinit hopen hret, parseMetadataBuffer_fault h0] at h
          cases h
          exact Or.inr ⟨hopen, hret, h0, rfl⟩
      · rw [retrieveMetadata_unread pl st hinit hopen hret] at h
        cases h
    · obtain ⟨b, hb⟩ := createMetadata_eq pl fs
        { st with fileSystem := (fs.openFile 0 st.fileSystem).2 }
      rw [retrieveMetadata_created pl st hinit (Bool.eq_false_iff.mpr hopen), hb] at h
      cases h

/-- Loading can only stop at the assertion or outside the buffer. -/
theorem retrieveMetadata_error {st : InternalStorage σ} {e : Fault}
    (h : retrieveMetadata pl fs st = .error e) : e = .hang ∨ e = .outOfBounds := by
  rcases retrieveMetadata_stops h with ⟨-, he⟩ | ⟨-, -, -, he⟩
  · exact Or.inl he
  · exact Or.inr he

/-! ## On a file whose calls succeed -/

section Medium

variable (pl) (M : Medium fs)

/-- The content starts with what was stored. The reported result is `false`: `close` returned
`0`. -/
theorem storeMetadata_writes {st : InternalStorage σ} (hinit : st.fileSystemInit = true)
    (hidle : M.Idle st.fileSystem) (buff : List Byte) :
    ∃ d rest, storeMetadata fs buff st = .ok (false, { st with fileSystem := d }) ∧ M.Idle d ∧
      M.content d = some (buff ++ rest) := by
  obtain ⟨d, rest, ⟨d₁, d₂, ho, hw, hc⟩, hi, hcont, -⟩ := M.store st.fileSystem hidle buff
  refine ⟨d, rest, ?_, hi, hcont⟩
  rw [storeMetadata_eq hinit]
  simp only [ho, hw, hc]
  rfl

/-- Retrieving a non-empty content parses its first 256 bytes over the buffer. -/
theorem retrieveMetadata_loads {st : InternalStorage σ} (hinit : st.fileSystemInit = true)
    (hidle : M.Idle st.fileSystem) {c : List Byte} (hc : M.content st.fileSystem = some c)
    (hne : c ≠ []) : ∃ d, M.Idle d ∧ M.content d = some c ∧ retrieveMetadata pl fs st =
      (parseMetadataBuffer pl (st.metadataBuffer.fill (c.take metadataBufferSize)
        (List.length_take_le _ _)) st.metadata).map fun r =>
          (true, { st with metadata := r.2.1, metadataBuffer := r.2.2, fileSystem := d }) := by
  obtain ⟨d, ⟨d₁, d₂, got, r, ho, hr, hb, hret, hcl⟩, hi, hcont⟩ :=
    M.load st.fileSystem hidle c hc metadataBufferSize
  refine ⟨d, hi, hcont, ?_⟩
  have hpos : 0 < bytesRead fs st := by
    unfold bytesRead
    rw [ho, hr]
    rw [hret, Int.natCast_pos, List.length_pos_iff, ne_eq, List.take_eq_nil_iff]
    simp [hne]
  have hbuf : readBuffer fs st = st.metadataBuffer.fill (c.take metadataBufferSize)
      (List.length_take_le _ _) := by
    unfold readBuffer
    rw [CBuf.ext_iff]
    simp only [CBuf.fill_bytes, ho, hr, hb]
  have hafter : afterRead fs st = d := by
    unfold afterRead
    rw [ho, hr, hcl]
  rw [retrieveMetadata_loaded pl _ hinit (by rw [ho]) hpos, hbuf, hafter]

/-- Retrieving from an existing file leaves the file and the flag as they are. -/
theorem retrieveMetadata_content {st st' : InternalStorage σ} {ret : Bool}
    (hidle : M.Idle st.fileSystem) {c : List Byte} (hc : M.content st.fileSystem = some c)
    (h : retrieveMetadata pl fs st = .ok (ret, st')) :
    M.Idle st'.fileSystem ∧ M.content st'.fileSystem = some c ∧
      st'.metadataUpdatedFlag = st.metadataUpdatedFlag := by
  obtain ⟨d, ⟨d₁, d₂, got, r, ho, hr, -, -, hcl⟩, hi, hcont⟩ :=
    M.load st.fileSystem hidle c hc metadataBufferSize
  have hopen : (fs.openFile 0 st.fileSystem).1 = true := by rw [ho]
  have hafter : afterRead fs st = d := by
    unfold afterRead
    rw [ho, hr, hcl]
  obtain ⟨hdevice, hflag⟩ := retrieveMetadata_device hopen h
  rw [hdevice, hafter]
  exact ⟨hi, hcont, hflag⟩

/-- Retrieving a text into a zeroed buffer, as at start-up, assigns its fields. -/
theorem retrieveMetadata_zeroed (st : InternalStorage σ) (hinit : st.fileSystemInit = true)
    (hidle : M.Idle st.fileSystem) (hbuf : st.metadataBuffer = CBuf.zero _) {c : List Byte}
    (hc : M.content st.fileSystem = some c) (hne : c ≠ []) (hlen : c.length < metadataBufferSize)
    (h0 : (0 : Byte) ∉ c) : ∃ d b, M.Idle d ∧ M.content d = some c ∧ retrieveMetadata pl fs st =
      .ok (true, { st with
        metadata := assignFields pl 0 (fields semicolon c) st.metadata
        metadataBuffer := b
        fileSystem := d }) := by
  obtain ⟨d, hi, hd, hret⟩ := retrieveMetadata_loads pl M hinit hidle hc hne
  obtain ⟨r, hr⟩ := CBuf.fill_zero_bytes hlen
  rw [← hbuf] at hr
  obtain ⟨b, hb⟩ := parseMetadataBuffer_text pl h0 hr st.metadata
  refine ⟨d, b, hi, hd, ?_⟩
  rw [hret, hb]
  rfl

/-- Retrieving where there is no file creates the default one and loads it. -/
theorem retrieveMetadata_creates (st : InternalStorage σ) (hinit : st.fileSystemInit = true)
    (hidle : M.Idle st.fileSystem) (hc : M.content st.fileSystem = none) :
    ∃ d b, M.Idle d ∧ M.content d = some defaultMetadata.bytes ∧ retrieveMetadata pl fs st =
      .ok (true, { st with
        metadata := defaultRecord st.metadata
        metadataBuffer := b
        metadataUpdatedFlag := true
        fileSystem := d }) := by
  obtain ⟨d₀, ho, hi₀, hc₀⟩ := M.absent st.fileSystem hidle hc
  obtain ⟨d, rest, ⟨d₁, d₂, ho₁, hw, hcl⟩, hi, hcont, hrest⟩ :=
    M.store d₀ hi₀ defaultMetadata.bytes
  rw [hrest hc₀, List.append_nil] at hcont
  obtain ⟨b, hb⟩ := createMetadata_eq pl fs { st with fileSystem := d₀ }
  refine ⟨d, b, hi, hcont, ?_⟩
  rw [retrieveMetadata_created pl _ hinit (by rw [ho]), ho, hb]
  have hlen : defaultMetadata.bytes.length = 21 := by decide
  simp only [ho₁, hw, hcl, hlen]
  rfl

end Medium

end GenLogger.Config
