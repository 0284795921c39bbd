import GenLogger.Config.NameSession
import GenLogger.Lib.Run

/-!
# What the store command reports

An `S` command opens the file, writes the array and closes. `storeMetadata` should return `true` where
all three succeeded (`StoreTruth`), and the terminal should print "Configuration saved!" where it
returned `true` (`PrintTruth`). But `storeMetadata` treats the `0` of a successful `close` as a
failure, and `notify` drops the result.

* `StoreCalls` are the results of the three calls, whatever they are.
* `Reported` and `Recognised` are what the code takes for success and for failure.

Results:
* `storeMetadata_ret`: the result, from what the calls return.
* `storeTruth_iff`, `printTruth_iff`: when each half holds of one command.
* `store_reports_iff`: the same of each command in a run, and that the two never hold together.
-/

namespace GenLogger.Config

open GenLogger.Lib GenLogger.Platform

variable {σ ρ : Type} {pl : Platform} {fs : FileHandler σ} {clock : RtcInterface ρ}

/-- What the calls of an `S` command return: `open(1)`, `write` and `close`. -/
structure StoreCalls where
  opened : Bool
  written : Int
  closed : Int

/-- The calls on the file system that are made for `buff`. -/
def storeCalls (fs : FileHandler σ) (buff : List Byte) (d : σ) : StoreCalls :=
  let o := fs.openFile 1 d
  let w := fs.write buff o.2
  ⟨o.1, w.1, (fs.close w.2).1⟩

namespace StoreCalls

/-- The file was opened, the whole buffer was written and `close` succeeded. -/
def Succeeded (r : StoreCalls) (size : Nat) : Prop :=
  r.opened = true ∧ r.written = size ∧ r.closed = 0

instance (r : StoreCalls) (size : Nat) : Decidable (r.Succeeded size) :=
  inferInstanceAs (Decidable (_ ∧ _))

/-- What `storeMetadata` takes for success. -/
def Reported (r : StoreCalls) : Prop := r.opened = true ∧ r.written ≠ 0 ∧ r.closed ≠ 0

/-- The failures `storeMetadata` recognises. -/
def Recognised (r : StoreCalls) (size : Nat) : Prop :=
  r.opened = false ∨ (r.closed = 0 ∧ r.written ≠ size) ∨ (r.closed ≠ 0 ∧ r.written = 0)

/-- The report agrees with the calls only where both say that the store failed. -/
theorem reported_iff_succeeded (r : StoreCalls) (size : Nat) :
    (r.Reported ↔ r.Succeeded size) ↔ r.Recognised size := by
  unfold Reported Succeeded Recognised
  by_cases ho : r.opened = true
  · by_cases hc : r.closed = 0
    · simp [ho, hc]
    · simp [ho, hc]
  · simp [ho]

theorem not_recognised_of_reported {r : StoreCalls} (h : r.Reported) (size : Nat) :
    ¬ r.Recognised size := by
  obtain ⟨ho, hw, hc⟩ := h
  rintro (h | ⟨h, -⟩ | ⟨-, h⟩)
  · rw [ho] at h; cases h
  · exact hc h
  · exact hw h

end StoreCalls

/-- A transition of the terminal that is an `S` command of the configuration menu. -/
def IsStore (t : Taken (ConfigSubsystem σ ρ) KeyPress) : Prop :=
  t.before.activeState = .basicDeviceConfig ∧ t.input.sig = .pressedKeyS

/-- What the calls of the `S` command in state `c` return, the name being `name`. -/
def commandCalls (fs : FileHandler σ) (name : CStr) (c : ConfigSubsystem σ ρ) : StoreCalls :=
  storeCalls fs (metadataArray name c.metadata).bytes c.storage.fileSystem

/-- The call of `storeMetadata` an `S` command makes. -/
def commandStore (fs : FileHandler σ) (name : CStr) (c : ConfigSubsystem σ ρ) :
    Except Fault (Bool × InternalStorage σ) :=
  storeMetadata fs (metadataArray name c.metadata).bytes c.storage

/-- `storeMetadata` returns `true` exactly when the whole record was stored. -/
def StoreTruth (fs : FileHandler σ) (t : Taken (ConfigSubsystem σ ρ) KeyPress) : Prop :=
  IsStore t → ∃ name ret st, t.before.metadata.loggerName.cstr = .ok name ∧
    commandStore fs name t.before = .ok (ret, st) ∧
    (ret = true ↔ (commandCalls fs name t.before).Succeeded sizeofLoggerMetadata)

/-- "Configuration saved!" is printed exactly when `storeMetadata` returned `true`. -/
def PrintTruth (fs : FileHandler σ) (t : Taken (ConfigSubsystem σ ρ) KeyPress) : Prop :=
  IsStore t → ∃ name ret st, t.before.metadata.loggerName.cstr = .ok name ∧
    commandStore fs name t.before = .ok (ret, st) ∧
    (t.after.console = t.before.console ++ [.text "Storing configuratoin in memory..\r\n",
      .text "Configuration saved!\r\n"] ↔ ret = true)

/-! ## One command -/

/-- The result of `storeMetadata`, from what the calls return. -/
theorem storeMetadata_ret {buff : List Byte} {st st' : InternalStorage σ} {ret : Bool}
    (h : storeMetadata fs buff st = .ok (ret, st')) :
    ret = true ↔ (storeCalls fs buff st.fileSystem).Reported := by
  rw [storeMetadata_eq (storeMetadata_init h)] at h
  unfold storeCalls StoreCalls.Reported
  simp only [Except.ok.injEq] at h ⊢
  split at h
  · rename_i ho
    cases h
    simp [ho]
  · rename_i ho
    cases h
    simp [ho, and_comm]

/-- An `S` command of a run, with its call of `storeMetadata`. -/
theorem store_transition {t : Taken (ConfigSubsystem σ ρ) KeyPress} (hs : IsStore t)
    (h : Pressed pl fs clock t.before t.input t.after) :
    ∃ name ret, t.before.metadata.loggerName.cstr = .ok name ∧
      commandStore fs name t.before = .ok (ret, t.after.storage) ∧
      (ret = true ↔ (commandCalls fs name t.before).Reported) ∧
      t.after.console = t.before.console ++ [.text "Storing configuratoin in memory..\r\n",
        .text "Configuration saved!\r\n"] := by
  unfold Pressed at h
  rw [hs.2, handler_store pl fs clock hs.1] at h
  obtain ⟨name, ret, hname, hstore, -, -, hcon⟩ := storeCommand_ok h
  exact ⟨name, ret, hname, hstore, storeMetadata_ret hstore, hcon⟩

theorem storeTruth_iff {t : Taken (ConfigSubsystem σ ρ) KeyPress}
    (h : Pressed pl fs clock t.before t.input t.after) :
    StoreTruth fs t ↔ (IsStore t → ∃ name, t.before.metadata.loggerName.cstr = .ok name ∧
      (commandCalls fs name t.before).Recognised sizeofLoggerMetadata) := by
  refine imp_congr_right fun hs => ?_
  obtain ⟨name, ret, hname, hstore, hret, -⟩ := store_transition hs h
  have hiff := StoreCalls.reported_iff_succeeded (commandCalls fs name t.before) sizeofLoggerMetadata
  constructor
  · rintro ⟨name', ret', st', hname', hstore', htruth⟩
    rw [hname] at hname'
    cases hname'
    rw [hstore] at hstore'
    cases hstore'
    rw [hret] at htruth
    exact ⟨name, hname, hiff.mp htruth⟩
  · rintro ⟨name', hname', hrec⟩
    rw [hname] at hname'
    cases hname'
    exact ⟨name, ret, _, hname, hstore, hret.trans (hiff.mpr hrec)⟩

theorem printTruth_iff {t : Taken (ConfigSubsystem σ ρ) KeyPress}
    (h : Pressed pl fs clock t.before t.input t.after) :
    PrintTruth fs t ↔ (IsStore t → ∃ name, t.before.metadata.loggerName.cstr = .ok name ∧
      (commandCalls fs name t.before).Reported) := by
  refine imp_congr_right fun hs => ?_
  obtain ⟨name, ret, hname, hstore, hret, hcon⟩ := store_transition hs h
  constructor
  · rintro ⟨name', ret', st', hname', hstore', htruth⟩
    rw [hname] at hname'
    cases hname'
    rw [hstore] at hstore'
    cases hstore'
    exact ⟨name, hname, hret.mp (htruth.mp hcon)⟩
  · rintro ⟨name', hname', hrep⟩
    rw [hname] at hname'
    cases hname'
    refine ⟨name, ret, _, hname, hstore, ?_⟩
    constructor
    · intro _
      exact hret.mpr hrep
    · intro _
      exact hcon

/-! ## Runs -/

/-- **When the reports are true.** In a run of the terminal, over any outcome of the calls:
`storeMetadata` tells the truth exactly when each store fails in a way it recognises; the terminal
does exactly when `storeMetadata` returns `true` each time; and both do only where nothing is
stored. -/
theorem store_reports_iff {c c' : ConfigSubsystem σ ρ}
    {ts : List (Taken (ConfigSubsystem σ ρ) KeyPress)} (h : Run (Pressed pl fs clock) c ts c') :
    ((∀ t ∈ ts, StoreTruth fs t) ↔ ∀ t ∈ ts, IsStore t →
      ∃ name, t.before.metadata.loggerName.cstr = .ok name ∧
        (commandCalls fs name t.before).Recognised sizeofLoggerMetadata) ∧
    ((∀ t ∈ ts, PrintTruth fs t) ↔ ∀ t ∈ ts, IsStore t →
      ∃ name, t.before.metadata.loggerName.cstr = .ok name ∧
        (commandCalls fs name t.before).Reported) ∧
    ((∀ t ∈ ts, StoreTruth fs t ∧ PrintTruth fs t) ↔ ∀ t ∈ ts, ¬ IsStore t) := by
  have htrue : Preserved (Pressed pl fs clock) fun _ => True := fun _ _ _ _ _ => trivial
  refine ⟨?_, ?_, ?_⟩
  · exact h.forall_iff htrue (fun t _ ht => storeTruth_iff ht) trivial
  · exact h.forall_iff htrue (fun t _ ht => printTruth_iff ht) trivial
  · refine h.forall_iff htrue (fun t _ ht => ?_) trivial
    rw [storeTruth_iff ht, printTruth_iff ht]
    constructor
    · rintro ⟨hstore, hprint⟩ hs
      obtain ⟨name, hname, hrec⟩ := hstore hs
      obtain ⟨name', hname', hrep⟩ := hprint hs
      rw [hname] at hname'
      cases hname'
      exact StoreCalls.not_recognised_of_reported hrep _ hrec
    · intro hs
      exact ⟨fun h => absurd h hs, fun h => absurd h hs⟩

/-- The host terminal in its configuration menu. -/
def hostMenu : ConfigSubsystem CFile Unit := { hostTerminal with activeState := .basicDeviceConfig }

/-- The store command in it. -/
def hostStore (after : ConfigSubsystem CFile Unit) : Taken (ConfigSubsystem CFile Unit) KeyPress :=
  ⟨hostMenu, ⟨.pressedKeyS, none, ⟨0, 0⟩⟩, after⟩

theorem hostMenu_name : hostMenu.metadata.loggerName.cstr = .ok (CStr.ofBytes []) :=
  CBuf.cstr_of_bytes (r := List.replicate 95 0) (CStr.ofBytes []).noNul rfl

theorem hostMenu_store : ∃ c', Pressed .host cFileHandler blankClock hostMenu
    ⟨.pressedKeyS, none, ⟨0, 0⟩⟩ c' := by
  obtain ⟨c', d, rest, hcmd, -⟩ := storeCommand_stores .host cMedium (c := hostMenu) rfl rfl
    hostMenu_name
  exact ⟨c', (handler_store .host cFileHandler blankClock (c := hostMenu) rfl none ⟨0, 0⟩).trans hcmd⟩

/-- On the host every call succeeds. -/
theorem hostMenu_calls :
    commandCalls cFileHandler (CStr.ofBytes []) hostMenu = ⟨true, sizeofLoggerMetadata, 0⟩ := by
  have hsize := (metadataArray (CStr.ofBytes []) hostMenu.metadata).size
  exact congrArg (fun n : Nat => (⟨true, n, 0⟩ : StoreCalls)) hsize

theorem store_reports_host : ∃ c', ¬ ∀ t ∈ [hostStore c'],
    StoreTruth cFileHandler t ∧ PrintTruth cFileHandler t := by
  obtain ⟨c', h⟩ := hostMenu_store
  refine ⟨c', fun hall => ?_⟩
  exact (store_reports_iff (.cons h (.nil c'))).2.2.mp hall _ List.mem_cons_self ⟨rfl, rfl⟩

/-- A store that succeeds on the host is reported as failed, and printed as saved. -/
theorem store_reports_host_fails : ∃ c', Pressed .host cFileHandler blankClock hostMenu
    ⟨.pressedKeyS, none, ⟨0, 0⟩⟩ c' ∧ ¬ StoreTruth cFileHandler (hostStore c') ∧
      ¬ PrintTruth cFileHandler (hostStore c') := by
  obtain ⟨c', h⟩ := hostMenu_store
  refine ⟨c', h, ?_, ?_⟩
  · rw [storeTruth_iff (t := hostStore c') h]
    intro htruth
    obtain ⟨name, hname, hrec⟩ := htruth ⟨rfl, rfl⟩
    cases hostMenu_name.symm.trans hname
    change (commandCalls cFileHandler (CStr.ofBytes []) hostMenu).Recognised _ at hrec
    rw [hostMenu_calls] at hrec
    simp [StoreCalls.Recognised] at hrec
  · rw [printTruth_iff (t := hostStore c') h]
    intro htruth
    obtain ⟨name, hname, hrep⟩ := htruth ⟨rfl, rfl⟩
    cases hostMenu_name.symm.trans hname
    change (commandCalls cFileHandler (CStr.ofBytes []) hostMenu).Reported at hrep
    rw [hostMenu_calls] at hrep
    exact hrep.2.2 rfl

end GenLogger.Config
