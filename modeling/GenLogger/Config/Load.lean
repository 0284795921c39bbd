import GenLogger.Config.Storage

/-!
# Loading is all or nothing

`retrieveMetadata` should either load the five fields of the file, whatever the record and the buffer
held before, or report a failure and leave the record alone (`AllOrNothing`). Three things in the code
are against it: the parser's verdict is dropped, the buffer is given no terminator, and every number
is cast to a byte.

* `delivered` is what the read gives, any first part of the file, and the outcomes of the calls are
  any.
* `FitsRecord` is a text of five fields of which the name fits its array and the numbers a byte.

Results:
* `isFileRecord_assignFields_iff`: the fields are loaded as they stand exactly where there are five
  that fit.
* `AllOrNothing.whole`: since a buffer without a NUL has to be reckoned with, the NUL must be the
  file's.
* `load_allOrNothing_iff`: for which files loading is all or nothing all the same, namely those read
  with a NUL, with five fields before it, a name that fits and four numbers that fit a byte.
-/

namespace GenLogger.Config

open GenLogger.Lib GenLogger.Platform

variable {σ : Type}

/-- The record is what the first five fields of a file's text say. -/
def IsFileRecord (pl : Platform) (content : List Byte) (m : LoggerMetadata) : Prop :=
  ∃ (name : CStr) (a b c d : List Byte) (rest : List (List Byte)),
    fields semicolon (upToNul content) = name.bytes :: a :: b :: c :: d :: rest ∧
      m.loggerName.cstr = .ok name ∧
      m.fileCreationPeriod.toNat = strtoul pl.ulongMax a ∧
      m.fileTransmissionPeriod.toNat = strtoul pl.ulongMax b ∧
      m.generalMeasurementPeriod.toNat = strtoul pl.ulongMax c ∧
      m.restRequestPeriod.toNat = strtoul pl.ulongMax d

/-- A text of five fields, of which the name fits its array and the numbers fit a byte. -/
def FitsRecord (pl : Platform) (text : List Byte) : Prop :=
  ∃ (name : CStr) (a b c d : List Byte) (rest : List (List Byte)),
    fields semicolon text = name.bytes :: a :: b :: c :: d :: rest ∧
      name.bytes.length < loggerNameLenght ∧
      strtoul pl.ulongMax a ≤ 255 ∧ strtoul pl.ulongMax b ≤ 255 ∧
      strtoul pl.ulongMax c ≤ 255 ∧ strtoul pl.ulongMax d ≤ 255

/-- What `read` delivers after `open(0)`. -/
def delivered (fs : FileHandler σ) (d : σ) : Transfer metadataBufferSize :=
  (fs.read metadataBufferSize (fs.openFile 0 d).2).1

/-- Whatever the record and the buffer hold, loading from the device `d` with the file `content`
either gives the fields of the file (of the default file where there is none), or fails and leaves the
record alone. -/
def AllOrNothing (pl : Platform) (fs : FileHandler σ) (d : σ) (content : List Byte) : Prop :=
  ∀ (m₀ : LoggerMetadata) (flag : Bool) (b₀ : CBuf metadataBufferSize),
    ∃ ret st', retrieveMetadata pl fs ⟨m₀, flag, b₀, true, d⟩ = .ok (ret, st') ∧
      (ret = true → IsFileRecord pl
        (if (fs.openFile 0 d).1 = true then content else defaultMetadata.bytes) st'.metadata) ∧
      (ret = false → st'.metadata = m₀)

variable {pl : Platform} {fs : FileHandler σ}

/-! ## The record after five fields -/

/-- A number that is cast to a byte is itself exactly where it fits. -/
theorem fieldValue_toNat_iff (t : List Byte) :
    (fieldValue pl t).toNat = strtoul pl.ulongMax t ↔ strtoul pl.ulongMax t ≤ 255 := by
  unfold fieldValue
  rw [UInt8.toNat_ofNat']
  omega

/-- A name is loaded whole exactly where it leaves room for its terminator. -/
theorem putName_whole_iff (buf : CBuf loggerNameLenght) (name : CStr) :
    (putName buf name.bytes).cstr = .ok name ↔ name.bytes.length < loggerNameLenght := by
  rw [putName_cstr]
  constructor
  · intro h
    have hbytes : name.bytes.take (loggerNameLenght - 1) = name.bytes :=
      congrArg CStr.bytes (Except.ok.inj h)
    have := congrArg List.length hbytes
    rw [List.length_take] at this
    simp only [loggerNameLenght] at this ⊢
    omega
  · intro h
    refine congrArg Except.ok (CStr.ext ?_)
    rw [CStr.truncate_bytes, List.take_of_length_le (by omega)]

/-- The fields are loaded as they stand exactly where there are five that fit. -/
theorem isFileRecord_assignFields_iff (content : List Byte) (m₀ : LoggerMetadata) :
    IsFileRecord pl content (assignFields pl 0 (fields semicolon (upToNul content)) m₀) ↔
      FitsRecord pl (upToNul content) := by
  unfold IsFileRecord FitsRecord
  refine exists_congr fun name => exists_congr fun a => exists_congr fun b => exists_congr fun c =>
    exists_congr fun d => exists_congr fun rest => and_congr_right fun hf => ?_
  rw [hf, assignFields_five]
  simp only [putName_whole_iff, UInt8.toNat_toUInt16, fieldValue_toNat_iff]

/-- The default file is loaded as it stands. -/
theorem isFileRecord_default (m₀ : LoggerMetadata) :
    IsFileRecord pl defaultMetadata.bytes (defaultRecord m₀) := by
  have htext : upToNul defaultMetadata.bytes = defaultMetadata.bytes :=
    upToNul_eq_self defaultMetadata.noNul
  have hone : strtoul pl.ulongMax [49] ≤ 255 := by cases pl <;> decide
  have hfits : FitsRecord pl (upToNul defaultMetadata.bytes) := by
    rw [htext]
    exact ⟨CStr.ofBytes (ascii "defaultLogger"), [49], [49], [49], [49], [],
      fields_defaultMetadata, by decide, hone, hone, hone, hone⟩
  have h := (isFileRecord_assignFields_iff defaultMetadata.bytes m₀).mpr hfits
  rw [htext, assignFields_default] at h
  exact h

/-! ## The buffer that is parsed -/

/-- Where the bytes read hold a NUL, what the buffer held before does not matter. -/
theorem readBuffer_text {st : InternalStorage σ}
    (h0 : (0 : Byte) ∈ (delivered fs st.fileSystem).bytes) :
    ∃ r, (readBuffer fs st).bytes = upToNul (delivered fs st.fileSystem).bytes ++ 0 :: r := by
  obtain ⟨r, hr⟩ := split_at_nul h0
  refine ⟨r ++ st.metadataBuffer.bytes.drop (delivered fs st.fileSystem).bytes.length, ?_⟩
  rw [← List.cons_append, ← List.append_assoc, ← hr]
  rfl

/-- Where they hold none, a buffer without a NUL keeps none. -/
theorem readBuffer_noNul {st : InternalStorage σ}
    (h0 : (0 : Byte) ∉ (delivered fs st.fileSystem).bytes)
    (hb : (0 : Byte) ∉ st.metadataBuffer.bytes) : (0 : Byte) ∉ (readBuffer fs st).bytes := by
  unfold readBuffer
  rw [CBuf.fill_bytes, List.mem_append]
  rintro (h | h)
  · exact h0 h
  · exact hb (List.mem_of_mem_drop h)

/-- The text before the first NUL is that of the file. -/
theorem upToNul_prefix {bs content : List Byte} (h0 : (0 : Byte) ∈ bs) (h : bs <+: content) :
    upToNul content = upToNul bs := by
  obtain ⟨r, hr⟩ := split_at_nul h0
  obtain ⟨s, rfl⟩ := h
  conv_lhs => rw [hr, List.append_assoc, List.cons_append]
  exact upToNul_append (nul_notMem_upToNul bs) _

/-- Reading from a file that opens, with a result that counts as success. -/
theorem retrieveMetadata_delivered (pl : Platform) (st : InternalStorage σ)
    (hinit : st.fileSystemInit = true) (hopen : (fs.openFile 0 st.fileSystem).1 = true)
    (hret : 0 < (delivered fs st.fileSystem).ret)
    (h0 : (0 : Byte) ∈ (delivered fs st.fileSystem).bytes) :
    ∃ st', retrieveMetadata pl fs st = .ok (true, st') ∧ st'.metadata = assignFields pl 0
      (fields semicolon (upToNul (delivered fs st.fileSystem).bytes)) st.metadata := by
  obtain ⟨r, hr⟩ := readBuffer_text h0
  obtain ⟨b, hb⟩ := parseMetadataBuffer_text pl (nul_notMem_upToNul _) hr st.metadata
  refine ⟨{ st with
    metadata := assignFields pl 0 (fields semicolon (upToNul (delivered fs st.fileSystem).bytes))
      st.metadata
    metadataBuffer := b
    fileSystem := afterRead fs st }, (retrieveMetadata_loaded pl st hinit hopen hret).trans ?_, rfl⟩
  rw [hb]
  rfl

/-- Without a NUL in what is read or in the buffer, the parse leaves the buffer. -/
theorem retrieveMetadata_undelivered (pl : Platform) (st : InternalStorage σ)
    (hinit : st.fileSystemInit = true) (hopen : (fs.openFile 0 st.fileSystem).1 = true)
    (hret : 0 < (delivered fs st.fileSystem).ret)
    (h0 : (0 : Byte) ∉ (delivered fs st.fileSystem).bytes)
    (hb : (0 : Byte) ∉ st.metadataBuffer.bytes) :
    retrieveMetadata pl fs st = .error .outOfBounds := by
  rw [retrieveMetadata_loaded pl st hinit hopen hret,
    parseMetadataBuffer_fault (readBuffer_noNul h0 hb)]
  rfl

/-! ## When loading is all or nothing -/

/-- A file that cannot be opened is created, or the record is left alone. -/
theorem allOrNothing_created {d : σ} (content : List Byte) (hopen : (fs.openFile 0 d).1 = false) :
    AllOrNothing pl fs d content := by
  intro m₀ flag b₀
  obtain ⟨ret, st', hret⟩ : ∃ ret st', retrieveMetadata pl fs ⟨m₀, flag, b₀, true, d⟩ =
      .ok (ret, st') := by
    obtain ⟨b, hb⟩ := createMetadata_eq pl fs ⟨m₀, flag, b₀, true, (fs.openFile 0 d).2⟩
    exact ⟨_, _, (retrieveMetadata_created pl ⟨m₀, flag, b₀, true, d⟩ rfl hopen).trans hb⟩
  refine ⟨ret, st', hret, ?_⟩
  rw [hopen, if_neg Bool.false_ne_true]
  obtain ⟨-, -, hcases⟩ := retrieveMetadata_cases hret
  cases hcases with
  | failed _ hm _ => exact ⟨nofun, fun _ => hm⟩
  | created _ hm _ =>
    rw [hm]
    exact ⟨fun _ => isFileRecord_default m₀, nofun⟩
  | loaded ho => rw [hopen] at ho; cases ho

/-- A read that delivers nothing leaves the record alone. -/
theorem allOrNothing_unread {d : σ} (content : List Byte) (hopen : (fs.openFile 0 d).1 = true)
    (hret : ¬ 0 < (delivered fs d).ret) : AllOrNothing pl fs d content := by
  intro m₀ flag b₀
  exact ⟨false, _, retrieveMetadata_unread pl ⟨m₀, flag, b₀, true, d⟩ rfl hopen hret, nofun,
    fun _ => rfl⟩

/-- A file that is read has to be read with a whole record: a buffer without a NUL shows that the
NUL must be the file's, and then the record loaded shows the fields. -/
theorem AllOrNothing.whole {d : σ} {content : List Byte} (h : AllOrNothing pl fs d content)
    (hopen : (fs.openFile 0 d).1 = true) (hread : (delivered fs d).bytes <+: content)
    (hret : 0 < (delivered fs d).ret) :
    (0 : Byte) ∈ (delivered fs d).bytes ∧ FitsRecord pl (upToNul (delivered fs d).bytes) := by
  have h0 : (0 : Byte) ∈ (delivered fs d).bytes := by
    by_contra h0
    obtain ⟨ret, st', hst', -⟩ := h LoggerMetadata.static false
      ⟨List.replicate metadataBufferSize 1, List.length_replicate⟩
    rw [retrieveMetadata_undelivered pl _ rfl hopen hret h0 (by simp)] at hst'
    cases hst'
  obtain ⟨ret, st', hst', htrue, -⟩ := h LoggerMetadata.static false (CBuf.zero _)
  obtain ⟨st'', hst'', hm⟩ := retrieveMetadata_delivered pl
    ⟨LoggerMetadata.static, false, CBuf.zero _, true, d⟩ rfl hopen hret h0
  rw [hst''] at hst'
  cases hst'
  have hfile := htrue rfl
  rw [if_pos hopen, hm] at hfile
  refine ⟨h0, ?_⟩
  rw [← upToNul_prefix h0 hread] at hfile ⊢
  exact (isFileRecord_assignFields_iff content _).mp hfile

/-- A file read with a whole record is loaded as it stands. -/
theorem allOrNothing_whole {d : σ} {content : List Byte} (hopen : (fs.openFile 0 d).1 = true)
    (hread : (delivered fs d).bytes <+: content) (hret : 0 < (delivered fs d).ret)
    (h0 : (0 : Byte) ∈ (delivered fs d).bytes)
    (hfits : FitsRecord pl (upToNul (delivered fs d).bytes)) : AllOrNothing pl fs d content := by
  intro m₀ flag b₀
  obtain ⟨st', hst', hm⟩ := retrieveMetadata_delivered pl ⟨m₀, flag, b₀, true, d⟩ rfl hopen hret h0
  refine ⟨true, st', hst', fun _ => ?_, nofun⟩
  rw [if_pos hopen, hm]
  rw [← upToNul_prefix h0 hread] at hfits ⊢
  exact (isFileRecord_assignFields_iff content m₀).mpr hfits

/-- **When loading is all or nothing.** Let the device hold the file `content`, and a read deliver a
first part of it. Loading is all or nothing exactly when a file that is opened and read is read with a
NUL after a whole record. -/
theorem load_allOrNothing_iff {d : σ} {content : List Byte}
    (hread : (fs.openFile 0 d).1 = true → (delivered fs d).bytes <+: content) :
    AllOrNothing pl fs d content ↔
      ((fs.openFile 0 d).1 = true → 0 < (delivered fs d).ret →
        (0 : Byte) ∈ (delivered fs d).bytes ∧ FitsRecord pl (upToNul (delivered fs d).bytes)) := by
  constructor
  · intro h hopen hret
    exact h.whole hopen (hread hopen) hret
  · intro h
    by_cases hopen : (fs.openFile 0 d).1 = true
    · by_cases hret : 0 < (delivered fs d).ret
      · obtain ⟨h0, hfits⟩ := h hopen hret
        exact allOrNothing_whole hopen (hread hopen) hret h0 hfits
      · exact allOrNothing_unread content hopen hret
    · exact allOrNothing_created content (Bool.eq_false_iff.mpr hopen)

/-- A file as the `S` command leaves it: the text, and NULs up to the size of the record. -/
def storedFile : List Byte := ascii "station;1;2;3;4\r\n" ++ [0]

theorem load_allOrNothing_stored :
    AllOrNothing .target cFileHandler ⟨some storedFile, none⟩ storedFile :=
  (load_allOrNothing_iff fun _ => List.prefix_refl _).mpr fun _ _ =>
    ⟨by decide, CStr.ofBytes (ascii "station"), ascii "1", ascii "2", ascii "3", ascii "4\r\n", [],
      by decide, by decide, by decide, by decide, by decide, by decide⟩

/-- A file of two fields is reported as loaded. -/
theorem load_twoFields_fails :
    (fields semicolon (ascii "station;1")).length = 2 ∧
      (∃ st', retrieveMetadata .host cFileHandler ⟨LoggerMetadata.static, false, CBuf.zero _, true,
        ⟨some (ascii "station;1"), none⟩⟩ = .ok (true, st')) ∧
      ¬ AllOrNothing .host cFileHandler ⟨some (ascii "station;1"), none⟩ (ascii "station;1") := by
  refine ⟨by decide, ?_, ?_⟩
  · obtain ⟨d, b, -, -, h⟩ := retrieveMetadata_zeroed .host cMedium ⟨LoggerMetadata.static,
      false, CBuf.zero _, true, ⟨some (ascii "station;1"), none⟩⟩ rfl rfl rfl rfl (by decide)
      (by decide) (by decide)
    exact ⟨_, h⟩
  · intro h
    exact absurd (h.whole rfl (List.prefix_refl _) (by decide)).1 (by decide)

end GenLogger.Config
