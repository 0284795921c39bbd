import GenLogger.Lib.Decimal

/-!
# The metadata record (`loggerMetadata.hpp`, `loggerMetadata.cpp`)

Model of the record that the whole program is configured by, and of its text in the metadata file.

* `LoggerMetadata` is `struct loggerMetadata` without its three address strings, which no modelled
  function reads; they still count in `sizeof(loggerMetadata)`.
* `Platform` fixes the two widths the code depends on: the size of a pointer and the range of
  `unsigned long`.
* `metadataText` is what the `S` command prints, `"%s;%d;%d;%d;%d\r\n"`.

Results:
* `metadataText_length`: with a name of at most 95 bytes the text fits the command's array with its
  terminator.
* `nul_notMem_metadataText`: no byte of it is a NUL, so what is found again is the whole text.
-/

namespace GenLogger.Config

open GenLogger.Lib

/-- The build: the host (LP64) or the microcontroller (`TARGET_MICRO`, ILP32). -/
inductive Platform where
  | host
  | target
  deriving Repr, DecidableEq

namespace Platform

/-- `sizeof(const char*)`. -/
def sizeofPtr : Platform → Nat
  | host => 8
  | target => 4

/-- `ULONG_MAX`. -/
def ulongMax : Platform → Nat
  | host => 2 ^ 64 - 1
  | target => 2 ^ 32 - 1

theorem lt_ulongMax (pl : Platform) {n : Nat} (h : n < 2 ^ 32) : n ≤ pl.ulongMax := by
  cases pl <;> simp only [ulongMax] <;> omega

end Platform

/-- `METADATA_BUFFER_SIZE`. -/
abbrev metadataBufferSize : Nat := 256

/-- `loggerNameLenght`. -/
abbrev loggerNameLenght : Nat := 96

/-- `sizeof(loggerMetadata)`: the name, a byte and its padding, three 16-bit periods and three
address strings of 16 bytes. -/
abbrev sizeofLoggerMetadata : Nat := loggerNameLenght + 2 + 3 * 2 + 3 * 16

/-- `loggerMetadataConstants::CREATE_FILE_A_DAY`. -/
def createFileADay : UInt8 := 1

/-- `loggerMetadataConstants::CREATE_ONLY_ONE_FILE`. -/
def createOnlyOneFile : UInt8 := 2

/-- `struct loggerMetadata`. -/
structure LoggerMetadata where
  loggerName : CBuf loggerNameLenght
  fileCreationPeriod : UInt8
  fileTransmissionPeriod : UInt16
  generalMeasurementPeriod : UInt16
  restRequestPeriod : UInt16
  deriving DecidableEq

/-- The static `metadata` before anything is loaded: the member initialisers over zeroed
storage. -/
def LoggerMetadata.static : LoggerMetadata :=
  ⟨CBuf.zero _, createOnlyOneFile, 0, 0, 0⟩

/-- The delimiter of the metadata file. -/
def semicolon : Byte := 59

/-- `"%s;%d;%d;%d;%d\r\n"` of a record whose name reads `name`. -/
def metadataText (name : CStr) (m : LoggerMetadata) : List Byte :=
  name.bytes ++ semicolon :: (decimal m.fileCreationPeriod.toNat ++
    semicolon :: (decimal m.fileTransmissionPeriod.toNat ++
      semicolon :: (decimal m.generalMeasurementPeriod.toNat ++
        semicolon :: (decimal m.restRequestPeriod.toNat ++ ascii "\r\n"))))

/-- The file written where none can be opened (`defaultMetadata`). -/
def defaultMetadata : CStr := CStr.ofBytes (ascii "defaultLogger;1;1;1;1")

theorem nul_notMem_metadataText (name : CStr) (m : LoggerMetadata) :
    (0 : Byte) ∉ metadataText name m := by
  have hdec := notMem_decimal (b := 0) (by decide)
  have hcr : (0 : Byte) ∉ ascii "\r\n" := by decide
  have hsemi : (0 : Byte) ≠ semicolon := by decide
  simp only [metadataText, List.mem_append, List.mem_cons, not_or]
  exact ⟨name.noNul, hsemi, hdec _, hsemi, hdec _, hsemi, hdec _, hsemi, hdec _, hcr⟩

/-- The five fields of a record take at most 24 bytes besides the name. -/
theorem metadataText_length (name : CStr) (m : LoggerMetadata) :
    (metadataText name m).length ≤ name.bytes.length + 24 := by
  have h8 : (decimal m.fileCreationPeriod.toNat).length ≤ 3 :=
    decimal_length_le (by omega) (Nat.lt_of_lt_of_le m.fileCreationPeriod.toNat_lt (by decide))
  have h16 : ∀ n : UInt16, (decimal n.toNat).length ≤ 5 := fun n =>
    decimal_length_le (by omega) (Nat.lt_of_lt_of_le n.toNat_lt (by decide))
  have h1 := h16 m.fileTransmissionPeriod
  have h2 := h16 m.generalMeasurementPeriod
  have h3 := h16 m.restRequestPeriod
  have hcr : (ascii "\r\n").length = 2 := by decide
  simp only [metadataText, List.length_append, List.length_cons, hcr]
  omega

end GenLogger.Config
