import GenLogger.Config.Metadata
import GenLogger.Measurement.Processing
import GenLogger.Platform.FileHandler

/-!
# The logger manager (`logger_manager.cpp`)

Model of `loggerManager`: `update` notes that a record waits in the mailbox, and `handler` writes it.

* What `handler` does depends on `fileCreationPeriod` of the metadata record, which it reads each
  time: `CREATE_FILE_A_DAY` has a branch of its own, which is empty, and every other value appends.
* The path is fixed by `init`, so the log is one file, behind any `FileHandler`.
* What `handler` finds wrong with a write it only prints, so the results of `write` and `close` are
  dropped.

Results:
* `handler_ok`: the handler returns, whatever the calls on the file answer.
* `appendRecord_eq`: where `open(2)` and the calls after it succeed, they are the ones that are made.
* `handler_fileADay`, `handler_appends`: a call of it, on a file that is appended to.
-/

namespace GenLogger.Logger

open GenLogger.Lib GenLogger.Platform GenLogger.Config GenLogger.Measurement

/-- The flag of `loggerManager`. The mailbox is the buffer of the processing manager. -/
structure LoggerManager where
  availableData : Bool
  deriving Repr, DecidableEq

namespace LoggerManager

/-- `update`. -/
def update (_ : LoggerManager) : LoggerManager := ⟨true⟩

/-- `getAvailableDataFlag`. -/
def getAvailableDataFlag (m : LoggerManager) : Bool × LoggerManager := (m.availableData, ⟨false⟩)

end LoggerManager

variable {τ : Type}

section Handler

variable (fs : FileHandler τ)

/-- `write` and `close` on the file that was opened. -/
def writeRecord (record : CStr) (d : τ) : τ :=
  let (_, d) := fs.write record.bytes d
  (fs.close d).2

/-- The branch of `CREATE_ONLY_ONE_FILE`: append, or create where that fails. -/
def appendRecord (record : CStr) (d : τ) : τ :=
  match fs.openFile 2 d with
  | (true, d) => writeRecord fs record d
  | (false, d) =>
    match fs.openFile 1 d with
    | (true, d) => writeRecord fs record d
    | (false, d) => d

/-- `handler`. The branch of `CREATE_FILE_A_DAY` is empty; `default` and `CREATE_ONLY_ONE_FILE` fall
through to it from the branch above. -/
def LoggerManager.handler (fileCreationPeriod : UInt8) (pDataBuff : CBuf msrdDataBuffSize) (d : τ) :
    Except Fault τ :=
  if fileCreationPeriod = createFileADay then .ok d
  else do
    let record ← pDataBuff.cstr
    .ok (appendRecord fs record d)

end Handler

/-! ## What a call of `handler` does -/

variable {fs : FileHandler τ}

theorem handler_fileADay (pDataBuff : CBuf msrdDataBuffSize) (d : τ) :
    LoggerManager.handler fs createFileADay pDataBuff d = .ok d := rfl

/-- Every other value appends, those without a name as well. -/
theorem handler_other {fileCreationPeriod : UInt8} (h : fileCreationPeriod ≠ createFileADay)
    {pDataBuff : CBuf msrdDataBuffSize} {record : CStr} (hr : pDataBuff.cstr = .ok record) (d : τ) :
    LoggerManager.handler fs fileCreationPeriod pDataBuff d = .ok (appendRecord fs record d) := by
  unfold LoggerManager.handler
  rw [if_neg h, hr]
  rfl

/-- The handler returns, whatever the calls on the file answer. -/
theorem handler_ok (fs : FileHandler τ) (fileCreationPeriod : UInt8)
    {pDataBuff : CBuf msrdDataBuffSize} {record : CStr} (hr : pDataBuff.cstr = .ok record) (d : τ) :
    ∃ d', LoggerManager.handler fs fileCreationPeriod pDataBuff d = .ok d' := by
  by_cases h : fileCreationPeriod = createFileADay
  · subst h
    exact ⟨d, handler_fileADay pDataBuff d⟩
  · exact ⟨_, handler_other h hr d⟩

/-- Where `open(2)` and the calls after it succeed, they are the ones that are made. -/
theorem appendRecord_eq {record : CStr} {d d' : τ} (h : fs.Writes 2 d record.bytes d') :
    appendRecord fs record d = d' := by
  obtain ⟨d₁, d₂, hopen, hwrite, hclose⟩ := h
  unfold appendRecord writeRecord
  simp only [hopen, hwrite, hclose]

variable (A : Appendable fs)

/-- The bytes of the log. -/
def logBytes (d : τ) : List Byte := (A.content d).getD []

/-- **A call of `handler`** whose calls on the file succeed: the record is appended, unless the value is
`CREATE_FILE_A_DAY`. -/
theorem handler_appends {fileCreationPeriod : UInt8} {pDataBuff : CBuf msrdDataBuffSize}
    {record : CStr} (hr : pDataBuff.cstr = .ok record) {d d' : τ} (hidle : A.Idle d)
    (hwrites : fileCreationPeriod ≠ createFileADay → ∃ d', fs.Writes 2 d record.bytes d')
    (h : LoggerManager.handler fs fileCreationPeriod pDataBuff d = .ok d') :
    A.Idle d' ∧ logBytes A d' = logBytes A d ++
      if fileCreationPeriod = createFileADay then [] else record.bytes := by
  by_cases hday : fileCreationPeriod = createFileADay
  · subst hday
    cases (handler_fileADay pDataBuff d).symm.trans h
    refine ⟨hidle, ?_⟩
    rw [if_pos rfl, List.append_nil]
  · obtain ⟨d₁, hd₁⟩ := hwrites hday
    cases (handler_other hday hr d).symm.trans h
    rw [appendRecord_eq hd₁]
    obtain ⟨hidle', hcontent⟩ := A.append d hidle record.bytes d₁ hd₁
    refine ⟨hidle', ?_⟩
    unfold logBytes
    rw [if_neg hday, hcontent]
    rfl

end GenLogger.Logger
