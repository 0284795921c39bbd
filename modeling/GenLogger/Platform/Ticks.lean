import GenLogger.Lib.CString

/-!
# The tick interrupt (`virtualTimer.cpp`, `interrupts.c`, `timer.c`)

Both handlers count a tick and raise the run flag of the measurement task when the period divides the
count. The period is a pointer to `measurementTaskPeriod`, read at every tick; a period of `0` is a
division by zero.

* Both count in 64 bits, but the target divides what `HAL_GetTick` leaves of the count, its lower 32
  bits.
* `executed` is a run of `n` executions since start, the super loop having cleared the flag after
  each.

Results:
* `tickHandlers_ok_iff`: the handlers divide by the period and do nothing else that can fail.
* `myTickHandler_raises_iff`: the host raises the flag at the multiples of the period.
* `sysTickHandler_raises_iff`: the target at the counts whose lower 32 bits are one.
* `schedules_agree_iff`: the two agree over a whole run exactly when it ends before the 32 bits wrap,
  or the period divides `0x100000000`.
-/

namespace GenLogger.Platform

open GenLogger.Lib

/-- The tick counter and `*taskRunFlag`. -/
structure TickState where
  tickCount : UInt64
  taskRunFlag : UInt8
  deriving Repr, DecidableEq

/-- `myTickHandler`, with `*taskTimeout` as its argument. -/
def myTickHandler (taskTimeout : UInt32) (t : TickState) : Except Fault TickState :=
  let tickCount := t.tickCount + 1
  if taskTimeout = 0 then .error .divideByZero
  else if tickCount % taskTimeout.toUInt64 = 0 then .ok ⟨tickCount, 1⟩
  else .ok ⟨tickCount, t.taskRunFlag⟩

/-- `SysTick_Handler`: `HAL_GetTick` cuts the counter to 32 bits. -/
def sysTickHandler (taskTimeout : UInt32) (t : TickState) : Except Fault TickState :=
  let ticksSinceStart := t.tickCount + 1
  if taskTimeout = 0 then .error .divideByZero
  else if ticksSinceStart.toUInt32 % taskTimeout = 0 then .ok ⟨ticksSinceStart, 1⟩
  else .ok ⟨ticksSinceStart, t.taskRunFlag⟩

/-- The handlers divide by the period and do nothing else that can fail. -/
theorem tickHandlers_ok_iff (taskTimeout : UInt32) (t : TickState) :
    ((∃ t', myTickHandler taskTimeout t = .ok t') ∧ ∃ t', sysTickHandler taskTimeout t = .ok t') ↔
      1 ≤ taskTimeout.toNat := by
  have hzero : taskTimeout = 0 ↔ taskTimeout.toNat = 0 := by
    rw [← UInt32.toNat_inj]
    rfl
  unfold myTickHandler sysTickHandler
  by_cases h : taskTimeout = 0
  · have h0 := hzero.mp h
    constructor
    · rintro ⟨⟨t', ht'⟩, _⟩
      rw [if_pos h] at ht'
      cases ht'
    · intro h1
      omega
  · have h0 : taskTimeout.toNat ≠ 0 := fun h' => h (hzero.mpr h')
    constructor
    · intro _
      omega
    · intro _
      rw [if_neg h, if_neg h]
      constructor <;> split <;> exact ⟨_, rfl⟩

/-! ## Executions since start -/

/-- A tick handler, with `*taskTimeout` as its argument. -/
abbrev TickHandler : Type := UInt32 → TickState → Except Fault TickState

/-- The state after `n` executions since start, with a fixed period. The super-loop has cleared the run
flag after the executions in `cleared`. -/
def executed (handler : TickHandler) (taskTimeout : UInt32) (cleared : Nat → Bool) :
    Nat → Except Fault TickState
  | 0 => .ok ⟨0, 0⟩
  | n + 1 => do
    let t ← executed handler taskTimeout cleared n
    handler taskTimeout (if cleared n then { t with taskRunFlag := 0 } else t)

/-- The `n`-th execution sets the run flag, whatever it was. -/
def Raises (handler : TickHandler) (taskTimeout : UInt32) (cleared : Nat → Bool) (n : Nat) : Prop :=
  ∃ m t, n = m + 1 ∧ executed handler taskTimeout cleared m = .ok t ∧
    ∀ flag, ∃ t', handler taskTimeout { t with taskRunFlag := flag } = .ok t' ∧ t'.taskRunFlag = 1

/-- Raises with no raise between them are a period apart. -/
def Apart (handler : TickHandler) (taskTimeout : UInt32) (cleared : Nat → Bool) (N : Nat) : Prop :=
  ∀ m n, m < n → n ≤ N → Raises handler taskTimeout cleared m → Raises handler taskTimeout cleared n →
    (∀ k, m < k → k < n → ¬ Raises handler taskTimeout cleared k) → n = m + taskTimeout.toNat

/-- Host and target over `N` executions: the same executions raise the flag, those whose number is a
multiple of the period. -/
structure SchedulesAgree (taskTimeout : UInt32) (host target : Nat → Bool) (N : Nat) : Prop where
  same : ∀ n, 1 ≤ n → n ≤ N →
    (Raises sysTickHandler taskTimeout target n ↔ Raises myTickHandler taskTimeout host n)
  multiples : ∀ n, 1 ≤ n → n ≤ N →
    (Raises myTickHandler taskTimeout host n ↔ taskTimeout.toNat ∣ n)
  hostApart : Apart myTickHandler taskTimeout host N
  targetApart : Apart sysTickHandler taskTimeout target N

/-- A handler that counts and divides `lower` of the count. -/
def DividesLower (handler : TickHandler) (lower : UInt64 → Nat) : Prop :=
  ∀ p t, p ≠ 0 → handler p t =
    .ok ⟨t.tickCount + 1, if p.toNat ∣ lower (t.tickCount + 1) then 1 else t.taskRunFlag⟩

theorem myTickHandler_divides : DividesLower myTickHandler UInt64.toNat := by
  intro p t hp
  have hiff : (t.tickCount + 1) % p.toUInt64 = 0 ↔ p.toNat ∣ (t.tickCount + 1).toNat := by
    rw [← UInt64.toNat_inj, UInt64.toNat_mod, UInt32.toNat_toUInt64, Nat.dvd_iff_mod_eq_zero]
    rfl
  unfold myTickHandler
  rw [if_neg hp]
  by_cases h : p.toNat ∣ (t.tickCount + 1).toNat
  · rw [if_pos h]
    exact if_pos (hiff.mpr h)
  · rw [if_neg h]
    exact if_neg fun h' => h (hiff.mp h')

theorem sysTickHandler_divides : DividesLower sysTickHandler fun c => c.toNat % 0x100000000 := by
  intro p t hp
  have hiff : (t.tickCount + 1).toUInt32 % p = 0 ↔
      p.toNat ∣ (t.tickCount + 1).toNat % 0x100000000 := by
    rw [← UInt32.toNat_inj, UInt32.toNat_mod, UInt64.toNat_toUInt32, Nat.dvd_iff_mod_eq_zero]
    rfl
  unfold sysTickHandler
  rw [if_neg hp]
  by_cases h : p.toNat ∣ (t.tickCount + 1).toNat % 0x100000000
  · exact (if_pos (hiff.mpr h)).trans (by rw [if_pos h])
  · exact (if_neg fun h' => h (hiff.mp h')).trans (by rw [if_neg h])

section

variable {handler : TickHandler} {lower : UInt64 → Nat} {p : UInt32} {cleared : Nat → Bool} {n N : Nat}

/-- The counter is the number of executions, in 64 bits. -/
theorem executed_count (h : DividesLower handler lower) (hp : p ≠ 0) (cleared : Nat → Bool) (n : Nat) :
    ∃ t, executed handler p cleared n = .ok t ∧ t.tickCount = UInt64.ofNat n := by
  induction n with
  | zero => exact ⟨_, rfl, rfl⟩
  | succ n ih =>
    obtain ⟨t, ht, hcount⟩ := ih
    have hclear : (if cleared n then { t with taskRunFlag := 0 } else t).tickCount = t.tickCount := by
      split <;> rfl
    have hstep := h p (if cleared n then { t with taskRunFlag := 0 } else t) hp
    have hrun : executed handler p cleared (n + 1) =
        handler p (if cleared n then { t with taskRunFlag := 0 } else t) := by
      show (executed handler p cleared n).bind _ = _
      rw [ht]
      rfl
    refine ⟨_, hrun.trans hstep, ?_⟩
    show TickState.tickCount _ + 1 = _
    rw [hclear, hcount]
    exact (UInt64.ofNat_add n 1).symm

/-- The `n`-th execution raises the flag when the period divides what is looked at of `n`. -/
theorem raises_iff (h : DividesLower handler lower) (hp : p ≠ 0) (hn : 1 ≤ n) :
    Raises handler p cleared n ↔ p.toNat ∣ lower (UInt64.ofNat n) := by
  obtain ⟨m, rfl⟩ := Nat.exists_eq_add_of_le' hn
  obtain ⟨t, ht, hcount⟩ := executed_count h hp cleared m
  have hnext : t.tickCount + 1 = UInt64.ofNat (m + 1) := by
    rw [hcount, UInt64.ofNat_add]
    rfl
  constructor
  · rintro ⟨m', t', hm, ht', hraise⟩
    obtain rfl : m = m' := Nat.succ.inj hm
    obtain rfl : t = t' := Except.ok.inj (ht.symm.trans ht')
    obtain ⟨t', heq, hset⟩ := hraise 0
    rw [h p _ hp] at heq
    obtain rfl := Except.ok.inj heq
    by_contra hno
    rw [← hnext] at hno
    have hzero : (0 : UInt8) = 1 := (if_neg hno).symm.trans hset
    exact absurd hzero (by decide)
  · intro hdvd
    rw [← hnext] at hdvd
    exact ⟨m, t, rfl, ht, fun flag => ⟨_, h p _ hp, if_pos hdvd⟩⟩

/-- A schedule of the multiples of the period is regular. -/
theorem apart_of_multiples (hp : p ≠ 0)
    (h : ∀ n, 1 ≤ n → n ≤ N → (Raises handler p cleared n ↔ p.toNat ∣ n)) :
    Apart handler p cleared N := by
  intro m n hmn hn hm hraise hnone
  have hpos : 0 < p.toNat := Nat.pos_of_ne_zero fun h0 => hp (UInt32.toNat_inj.mp h0)
  have hm1 : 1 ≤ m := by
    obtain ⟨k, -, rfl, -⟩ := hm
    exact Nat.le_add_left 1 k
  obtain ⟨a, ha⟩ := (h m hm1 (by omega)).mp hm
  obtain ⟨b, hb⟩ := (h n (by omega) hn).mp hraise
  have hab : a < b := by
    by_contra hle
    have hmul := Nat.mul_le_mul_left p.toNat (Nat.le_of_not_lt hle)
    omega
  have hnext : p.toNat * (a + 1) ≤ p.toNat * b := Nat.mul_le_mul_left _ hab
  rw [Nat.mul_succ] at hnext
  by_contra hne
  refine hnone (m + p.toNat) (by omega) (by omega) ((h _ (by omega) (by omega)).mpr ?_)
  exact ⟨a + 1, by rw [Nat.mul_succ, ha]⟩

end

/-- The host raises the flag at the multiples of the period. -/
theorem myTickHandler_raises_iff {p : UInt32} (hp : p ≠ 0) {host : Nat → Bool} {n : Nat} (hn : 1 ≤ n)
    (hmax : n < 0x10000000000000000) : Raises myTickHandler p host n ↔ p.toNat ∣ n := by
  rw [raises_iff myTickHandler_divides hp hn, UInt64.toNat_ofNat_of_lt' hmax]

/-- The target raises it where the period divides the lower 32 bits of the count. -/
theorem sysTickHandler_raises_iff {p : UInt32} (hp : p ≠ 0) {target : Nat → Bool} {n : Nat}
    (hn : 1 ≤ n) (hmax : n < 0x10000000000000000) :
    Raises sysTickHandler p target n ↔ p.toNat ∣ n % 0x100000000 := by
  rw [raises_iff sysTickHandler_divides hp hn]
  rw [UInt64.toNat_ofNat_of_lt' hmax]

/-- The lower 32 bits lose nothing the period sees. -/
theorem dvd_lower_iff {p n N : Nat} (hn : n ≤ N) (h : N < 0x100000000 ∨ p ∣ 0x100000000) :
    p ∣ n % 0x100000000 ↔ p ∣ n := by
  rcases h with hN | hdvd
  · rw [Nat.mod_eq_of_lt (Nat.lt_of_le_of_lt hn hN)]
  · exact Nat.dvd_mod_iff hdvd

/-- When the 32 bits wrap the target raises the flag, and the host only if the period divides the
count. -/
theorem wrap_disagrees {p : UInt32} (hp : p ≠ 0) {host target : Nat → Bool} {N : Nat}
    (hwrap : 0x100000000 ≤ N) (hdvd : ¬ p.toNat ∣ 0x100000000) :
    ¬ SchedulesAgree p host target N := by
  intro h
  have htarget : Raises sysTickHandler p target 0x100000000 :=
    (sysTickHandler_raises_iff hp (by decide) (by decide)).mpr (Nat.dvd_zero _)
  exact hdvd ((h.multiples _ (by decide) hwrap).mp ((h.same _ (by decide) hwrap).mp htarget))

/-- **Host and target schedule alike** exactly until the 32 bits wrap, or where the period divides
`0x100000000`. -/
theorem schedules_agree_iff (p : UInt32) (hp : p ≠ 0) (host target : Nat → Bool) (N : Nat)
    (hN : N < 0x10000000000000000) :
    SchedulesAgree p host target N ↔ N < 0x100000000 ∨ p.toNat ∣ 0x100000000 := by
  constructor
  · intro h
    by_contra hno
    rw [not_or, Nat.not_lt] at hno
    exact wrap_disagrees hp hno.1 hno.2 h
  · intro h
    have hhost : ∀ n, 1 ≤ n → n ≤ N → (Raises myTickHandler p host n ↔ p.toNat ∣ n) :=
      fun n hn hle => myTickHandler_raises_iff hp hn (Nat.lt_of_le_of_lt hle hN)
    have htarget : ∀ n, 1 ≤ n → n ≤ N → (Raises sysTickHandler p target n ↔ p.toNat ∣ n) :=
      fun n hn hle => (sysTickHandler_raises_iff hp hn (Nat.lt_of_le_of_lt hle hN)).trans
        (dvd_lower_iff hle h)
    exact ⟨fun n hn hle => (htarget n hn hle).trans (hhost n hn hle).symm, hhost,
      apart_of_multiples hp hhost, apart_of_multiples hp htarget⟩

/-- A period of a second, for a day and for as long as the counter lasts. -/
theorem schedules_agree_iff_second :
    SchedulesAgree 1000 (fun _ => false) (fun _ => false) 86400000 ∧
      ¬ SchedulesAgree 1000 (fun _ => false) (fun _ => false) 0xFFFFFFFFFFFFFFFF :=
  ⟨(schedules_agree_iff 1000 (by decide) _ _ _ (by decide)).mpr (Or.inl (by decide)),
    fun h => absurd ((schedules_agree_iff 1000 (by decide) _ _ _ (by decide)).mp h) (by decide)⟩

/-- A period of a second, 50 days after the start: the target raises the flag at execution `2³²`, 296 ms
after the raise before it, and the host does not. -/
theorem schedules_second_fails :
    ¬ ∀ (p : UInt32) (host target : Nat → Bool) (N : Nat), p ≠ 0 → N < 0x10000000000000000 →
      SchedulesAgree p host target N := by
  intro h
  exact wrap_disagrees (p := 1000) (by decide) (Nat.le_refl _) (by decide)
    (h 1000 (fun _ => false) (fun _ => false) 0x100000000 (by decide) (by decide))

end GenLogger.Platform
