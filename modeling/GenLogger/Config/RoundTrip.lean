import GenLogger.Config.Terminal

/-!
# Storing and loading the metadata

The `S` command prints the record into an array, `storeMetadata` writes the array, and
`retrieveMetadata` parses what it reads. `storeThenLoad` runs the three, the memory that is loaded
into holding anything before.

* `reloaded` is what they give back: the first non-empty piece of the name between semicolons, and the
  low byte of each period.
* `RoundTrips` is that loading succeeds with the name and the numbers that were stored.

Results:
* `fields_metadataText`: the fields of a stored record, whatever its name.
* `retrieveMetadata_stored`, `storeThenLoad_eq`: what is loaded is `reloaded`.
* `metadata_roundTrip_iff`: a record with an ordinary name (not empty, no semicolon) comes back
  exactly when its periods fit a byte.
-/

namespace GenLogger.Config

open GenLogger.Lib GenLogger.Platform

variable {σ ρ : Type} {pl : Platform} {fs : FileHandler σ}

/-! ## The fields of a stored record -/

/-- The four numbers, as `storeMetadata` is given them. -/
def numberFields (m : LoggerMetadata) : List (List Byte) :=
  [decimal m.fileCreationPeriod.toNat, decimal m.fileTransmissionPeriod.toNat,
    decimal m.generalMeasurementPeriod.toNat, decimal m.restRequestPeriod.toNat ++ ascii "\r\n"]

/-- A number is a field of its own. -/
theorem fields_decimal (n : Nat) (t : List Byte) :
    fields semicolon (decimal n ++ semicolon :: t) = decimal n :: fields semicolon t :=
  fields_cons (decimal_ne_nil n) (notMem_decimal (by decide) n) t

/-- The name gives its pieces, the numbers four fields. -/
theorem fields_metadataText (name : CStr) (m : LoggerMetadata) :
    fields semicolon (metadataText name m) = fields semicolon name.bytes ++ numberFields m := by
  have hlast : fields semicolon (decimal m.restRequestPeriod.toNat ++ ascii "\r\n") =
      [decimal m.restRequestPeriod.toNat ++ ascii "\r\n"] := by
    have hcr : semicolon ∉ ascii "\r\n" := by decide
    refine fields_single ?_ ?_
    · exact List.append_ne_nil_of_left_ne_nil (decimal_ne_nil _) _
    · rw [List.mem_append]
      rintro (h | h)
      · exact notMem_decimal (by decide) _ h
      · exact hcr h
  unfold metadataText
  rw [fields_append_delim, fields_decimal, fields_decimal, fields_decimal, hlast]
  rfl

/-- A printed number is read back as its low byte. -/
theorem fieldValue_decimal (pl : Platform) {n : Nat} (h : n < 2 ^ 16) {r : List Byte}
    (hr : isDigit (r.headD 0) = false) : fieldValue pl (decimal n ++ r) = UInt8.ofNat n := by
  unfold fieldValue
  rw [strtoul_decimal (pl.lt_ulongMax (by omega)) hr]

theorem fieldValue_field (pl : Platform) {n : Nat} (h : n < 2 ^ 16) :
    fieldValue pl (decimal n) = UInt8.ofNat n := by
  have := fieldValue_decimal pl h (r := []) (by decide)
  rwa [List.append_nil] at this

/-- The low byte of a period, as the cast to `uint8_t` leaves it. -/
def lowByte (n : UInt16) : UInt16 := n.toUInt8.toUInt16

theorem lowByte_eq_iff (n : UInt16) : lowByte n = n ↔ n.toNat ≤ 255 := by
  unfold lowByte
  rw [← UInt16.toNat_inj]
  simp only [UInt8.toNat_toUInt16, UInt16.toNat_toUInt8]
  omega

/-- The record after the fields of a stored one, the name being `name`. -/
def reloaded (name : List Byte) (m m₀ : LoggerMetadata) : LoggerMetadata :=
  ⟨putName m₀.loggerName name, m.fileCreationPeriod, lowByte m.fileTransmissionPeriod,
    lowByte m.generalMeasurementPeriod, lowByte m.restRequestPeriod⟩

/-- **A name without a semicolon**: the five fields are the five members. -/
theorem assignFields_metadataText (pl : Platform) {name : CStr} (hne : name.bytes ≠ [])
    (hs : semicolon ∉ name.bytes) (m m₀ : LoggerMetadata) :
    assignFields pl 0 (fields semicolon (metadataText name m)) m₀ = reloaded name.bytes m m₀ := by
  have h8 : fieldValue pl (decimal m.fileCreationPeriod.toNat) = m.fileCreationPeriod := by
    rw [fieldValue_field pl (Nat.lt_of_lt_of_le m.fileCreationPeriod.toNat_lt (by decide)),
      UInt8.ofNat_toNat]
  have h16 : ∀ (n : UInt16), UInt8.ofNat n.toNat = n.toUInt8 := fun n => rfl
  have hlast : fieldValue pl (decimal m.restRequestPeriod.toNat ++ ascii "\r\n") =
      m.restRequestPeriod.toUInt8 :=
    fieldValue_decimal pl m.restRequestPeriod.toNat_lt (by decide)
  rw [fields_metadataText, fields_single hne hs]
  unfold numberFields
  rw [List.singleton_append, assignFields_five, h8, hlast, fieldValue_field pl (UInt16.toNat_lt _),
    fieldValue_field pl (UInt16.toNat_lt _), h16, h16]
  rfl

/-! ## Storing, then loading -/

section Medium

variable (pl) (M : Medium fs)

/-- A device that starts with the array of the `S` command: its text is what is parsed. -/
theorem retrieveMetadata_stored (st : InternalStorage σ) (hinit : st.fileSystemInit = true)
    (hidle : M.Idle st.fileSystem) {name : CStr} (hname : name.bytes.length < loggerNameLenght)
    {m : LoggerMetadata} {rest : List Byte}
    (hc : M.content st.fileSystem = some ((metadataArray name m).bytes ++ rest)) :
    ∃ b d, M.Idle d ∧ M.content d = some ((metadataArray name m).bytes ++ rest) ∧
      retrieveMetadata pl fs st = .ok (true, { st with
        metadata := assignFields pl 0 (fields semicolon (metadataText name m)) st.metadata
        metadataBuffer := b
        fileSystem := d }) := by
  have hlen : (metadataText name m).length < sizeofLoggerMetadata := by
    have := metadataText_length name m
    simp only [loggerNameLenght] at hname
    simp only [sizeofLoggerMetadata, loggerNameLenght]
    omega
  obtain ⟨r, hr⟩ := CBuf.snprintf_bytes (CBuf.zero sizeofLoggerMetadata) hlen
  have hbytes : (metadataArray name m).bytes ++ rest = metadataText name m ++ 0 :: (r ++ rest) := by
    unfold metadataArray
    rw [hr, List.append_assoc, List.cons_append]
  obtain ⟨d, hi, hd, hret⟩ := retrieveMetadata_loads pl M hinit hidle hc
    (by rw [hbytes]; exact List.append_ne_nil_of_right_ne_nil _ (List.cons_ne_nil _ _))
  have hlt : (metadataText name m).length < metadataBufferSize :=
    Nat.lt_trans hlen (by decide)
  obtain ⟨r', hr'⟩ := CBuf.fill_take_bytes st.metadataBuffer (r := r ++ rest) hlt
  simp only [← hbytes] at hr'
  obtain ⟨b, hb⟩ := parseMetadataBuffer_text pl (nul_notMem_metadataText name m) hr'
    st.metadata
  refine ⟨b, d, hi, hd, ?_⟩
  rw [hret, hb]
  rfl

/-- The `S` command's array is stored, and loaded into a memory that may hold anything. -/
def storeThenLoad (pl : Platform) (fs : FileHandler σ) (m m₀ : LoggerMetadata)
    (buffer₀ : CBuf metadataBufferSize) (st : InternalStorage σ) :
    Except Fault (Bool × InternalStorage σ) := do
  let name ← m.loggerName.cstr
  let (_, st) ← storeMetadata fs (metadataArray name m).bytes st
  retrieveMetadata pl fs { st with metadata := m₀, metadataBuffer := buffer₀ }

/-- The same four numbers. -/
def SameSettings (m m' : LoggerMetadata) : Prop :=
  m'.fileCreationPeriod = m.fileCreationPeriod ∧
    m'.fileTransmissionPeriod = m.fileTransmissionPeriod ∧
    m'.generalMeasurementPeriod = m.generalMeasurementPeriod ∧
    m'.restRequestPeriod = m.restRequestPeriod

/-- Loading succeeds and gives back the name and the numbers. -/
def RoundTrips (pl : Platform) (fs : FileHandler σ) (m m₀ : LoggerMetadata)
    (buffer₀ : CBuf metadataBufferSize) (st : InternalStorage σ) : Prop :=
  ∃ st', storeThenLoad pl fs m m₀ buffer₀ st = .ok (true, st') ∧
    st'.metadata.loggerName.cstr = m.loggerName.cstr ∧ SameSettings m st'.metadata

theorem storeThenLoad_eq (st : InternalStorage σ) (hinit : st.fileSystemInit = true)
    (hidle : M.Idle st.fileSystem) {m : LoggerMetadata} {name : CStr}
    (hname : m.loggerName.cstr = .ok name) (hne : name.bytes ≠ []) (hs : semicolon ∉ name.bytes)
    (m₀ : LoggerMetadata) (buffer₀ : CBuf metadataBufferSize) :
    ∃ st', storeThenLoad pl fs m m₀ buffer₀ st = .ok (true, st') ∧
      st'.metadata = reloaded name.bytes m m₀ := by
  obtain ⟨d, rest, hstore, hi, hc⟩ :=
    storeMetadata_writes M hinit hidle (metadataArray name m).bytes
  obtain ⟨b, d', -, -, hret⟩ := retrieveMetadata_stored pl M
    { st with fileSystem := d, metadata := m₀, metadataBuffer := buffer₀ } hinit hi
    (CBuf.cstr_length hname) hc
  refine ⟨{ st with
    metadata := assignFields pl 0 (fields semicolon (metadataText name m)) m₀
    metadataBuffer := b
    fileSystem := d' }, ?_, assignFields_metadataText pl hne hs m m₀⟩
  unfold storeThenLoad
  rw [hname]
  show (storeMetadata fs (metadataArray name m).bytes st >>= _) = _
  rw [hstore]
  exact hret

/-- The name of a reloaded record. -/
theorem reloaded_name {name : CStr} (hlen : name.bytes.length < loggerNameLenght)
    (m m₀ : LoggerMetadata) : (reloaded name.bytes m m₀).loggerName.cstr = .ok name := by
  refine (putName_cstr m₀.loggerName name).trans (congrArg Except.ok (CStr.ext ?_))
  rw [CStr.truncate_bytes, List.take_of_length_le (by omega)]

/-- The numbers of a reloaded record. -/
theorem reloaded_sameSettings_iff (name : List Byte) (m m₀ : LoggerMetadata) :
    SameSettings m (reloaded name m m₀) ↔ m.fileTransmissionPeriod.toNat ≤ 255 ∧
      m.generalMeasurementPeriod.toNat ≤ 255 ∧ m.restRequestPeriod.toNat ≤ 255 := by
  unfold SameSettings reloaded
  simp only [lowByte_eq_iff, true_and]

/-- **The round trip.** A record whose name is not empty and has no semicolon comes back exactly
when its three periods fit the byte they are cast to. -/
theorem metadata_roundTrip_iff (st : InternalStorage σ) (hinit : st.fileSystemInit = true)
    (hidle : M.Idle st.fileSystem) {m : LoggerMetadata} {name : CStr}
    (hname : m.loggerName.cstr = .ok name) (hne : name.bytes ≠ []) (hs : semicolon ∉ name.bytes)
    (m₀ : LoggerMetadata) (buffer₀ : CBuf metadataBufferSize) :
    RoundTrips pl fs m m₀ buffer₀ st ↔ m.fileTransmissionPeriod.toNat ≤ 255 ∧
      m.generalMeasurementPeriod.toNat ≤ 255 ∧ m.restRequestPeriod.toNat ≤ 255 := by
  obtain ⟨st', hst', hm⟩ := storeThenLoad_eq pl M st hinit hidle hname hne hs m₀ buffer₀
  rw [← reloaded_sameSettings_iff name.bytes m m₀, ← hm]
  unfold RoundTrips
  constructor
  · rintro ⟨st'', h, -, hset⟩
    rw [hst'] at h
    cases h
    exact hset
  · intro hset
    refine ⟨st', hst', ?_, hset⟩
    rw [hm, hname]
    exact reloaded_name (CBuf.cstr_length hname) m m₀

end Medium

/-- A record named `station`. -/
def stationRecord (fileTransmissionPeriod : UInt16) : LoggerMetadata :=
  ⟨(CBuf.zero _).strncpy (CStr.ofBytes (ascii "station")), createFileADay, fileTransmissionPeriod,
    1, 1⟩

/-- The storage component on a host without a metadata file. -/
def hostStorage : InternalStorage CFile :=
  ⟨LoggerMetadata.static, false, CBuf.zero _, true, ⟨none, none⟩⟩

theorem stationRecord_name (period : UInt16) :
    (stationRecord period).loggerName.cstr = .ok (CStr.ofBytes (ascii "station")) :=
  CBuf.cstr_strncpy (CBuf.zero loggerNameLenght) (by decide)

theorem metadata_roundTrip_255 : RoundTrips .target cFileHandler (stationRecord 255)
    LoggerMetadata.static (CBuf.zero _) hostStorage :=
  (metadata_roundTrip_iff .target cMedium hostStorage rfl rfl (stationRecord_name 255) (by decide)
    (by decide) _ _).mpr ⟨by decide, by decide, by decide⟩

/-- A file transmission period of 256 minutes comes back as `0`. -/
theorem metadata_roundTrip_256_fails : ¬ RoundTrips .host cFileHandler (stationRecord 256)
    LoggerMetadata.static (CBuf.zero _) hostStorage := by
  rintro ⟨st'', h, -, hset⟩
  obtain ⟨st', hst', hm⟩ := storeThenLoad_eq .host cMedium hostStorage rfl rfl
    (stationRecord_name 256) (by decide) (by decide) LoggerMetadata.static (CBuf.zero _)
  rw [hst'] at h
  cases h
  rw [hm] at hset
  exact absurd ((reloaded_sameSettings_iff _ _ _).mp hset).1 (by decide)

end GenLogger.Config
