import GenLogger.Flash.W25Q64

/-!
# The flash chip

What is assumed of the W25Q64: a memory of `2 ^ 23` bytes, of which a page program clears bits within
one page of 256 bytes, wrapping around inside it, and a block erase sets 64 KiB; both need the write
enable latch and are carried out when the chip is deselected. While the chip is busy with one of them
it answers the status register only. Each reading of that takes an input: whether the chip is still
busy.

Results, each of them the driver's function on the chip:
* `waitUntilReady_chip`: the chip is waited for.
* `modify_chip`: a command that changes the memory is carried out, with the latch set.
* `blockErase_chip`, `pageProgram_chip`, `readData_chip`: the three commands that the block device
  uses.

Out of scope: sector and chip erase, the write of the status register and the identification, which
the block device does not use and which do nothing here. More than 256 bytes are never sent to a page.
-/

namespace GenLogger.Flash

open GenLogger.Lib

/-- The memory, the write enable latch, whether the chip is busy, and the bytes it got since it was
selected. -/
structure Chip where
  mem : Nat → UInt8
  wel : Bool
  busy : Bool
  command : Option (List UInt8)

/-- The address in a command; the chip has no more than 23 bits of it. -/
def addressOf (a b c : UInt8) : Nat := (a.toNat * 0x10000 + b.toNat * 0x100 + c.toNat) % 0x800000

/-- A block of 64 KiB is set to `0xFF`. -/
def eraseBlock (addr : Nat) (mem : Nat → UInt8) (x : Nat) : UInt8 :=
  if x / 0x10000 = addr / 0x10000 then 0xFF else mem x

/-- `data` is written to the page of `addr`, from `addr` on and around: it clears bits. -/
def programPage (addr : Nat) (data : List UInt8) (mem : Nat → UInt8) (x : Nat) : UInt8 :=
  if x / 0x100 = addr / 0x100 then
    (data[(x + 0x100 - addr % 0x100) % 0x100]?).elim (mem x) (mem x &&& ·)
  else mem x

namespace Chip

/-- The command that was received, if the chip is not busy. -/
def execute (bytes : List UInt8) (s : Chip) : Chip :=
  if s.busy then s
  else match bytes with
    | [cmd] =>
      if cmd = cmdWriteEnable then { s with wel := true }
      else if cmd = cmdWriteDisable then { s with wel := false }
      else s
    | cmd :: a :: b :: c :: data =>
      if cmd = cmdBlockErase ∧ data = [] ∧ s.wel = true then
        { s with mem := eraseBlock (addressOf a b c) s.mem, wel := false, busy := true }
      else if cmd = cmdPageProgram ∧ data ≠ [] ∧ s.wel = true then
        { s with mem := programPage (addressOf a b c) data s.mem, wel := false, busy := true }
      else s
    | _ => s

/-- A falling edge of the chip select starts a command, a rising one ends it. -/
def writePin (val : UInt8) (s : Chip) : Chip :=
  match s.command with
  | none => if val = 0 then { s with command := some [] } else s
  | some bytes => if val = 0 then s else execute bytes { s with command := none }

/-- Bytes are received while the chip is selected. -/
def receive (bytes : List UInt8) (s : Chip) : Chip :=
  { s with command := s.command.map (· ++ bytes) }

/-- The status register: `BUSY` and `WEL`. -/
def status (s : Chip) : UInt8 := (if s.busy then 0x01 else 0) ||| (if s.wel then 0x02 else 0)

/-- The chip is still busy if it was and the input says so. -/
def tick (s : Chip) (still : Bool) : Chip := { s with busy := s.busy && still }

/-- What it sends: the status register, the bytes of the memory from an address on, or nothing, which
reads as `0xFF`. -/
def send (n : Nat) (s : Chip) (is : List Bool) : Option (List UInt8 × Chip × List Bool) :=
  match s.command with
  | some [cmd] =>
    if cmd = cmdReadStatusReg then
      is.head?.map fun still => (List.replicate n (s.tick still).status, s.tick still, is.tail)
    else some (List.replicate n 0xFF, s, is)
  | some [cmd, a, b, c] =>
    if cmd = cmdReadData ∧ s.busy = false then
      some ((List.range n).map fun i => s.mem ((addressOf a b c + i) % 0x800000), s, is)
    else some (List.replicate n 0xFF, s, is)
  | _ => some (List.replicate n 0xFF, s, is)

/-- Neither busy nor selected. -/
structure Ready (s : Chip) : Prop where
  busy : s.busy = false
  command : s.command = none

end Chip

/-- The chip on the bus. -/
def chip : Spi Chip Bool where
  write := Chip.receive
  read := Chip.send
  writePin := Chip.writePin

/-! ## The driver on the chip -/

theorem readStatusRegister_chip {s : Chip} (h : s.command = none) (is : List Bool) :
    chip.readStatusRegister s is =
      is.head?.map fun still => ((s.tick still).status, s.tick still, is.tail) := by
  obtain ⟨mem, wel, busy, command⟩ := s
  obtain rfl : command = none := h
  cases is with
  | nil => rfl
  | cons still is => cases busy <;> cases still <;> rfl

theorem tick_foldl (s : Chip) (l : List Bool) :
    ∃ busy, l.foldl Chip.tick s = { s with busy := busy } := by
  induction l generalizing s with
  | nil => exact ⟨s.busy, rfl⟩
  | cons still l ih =>
    obtain ⟨busy, hbusy⟩ := ih (s.tick still)
    exact ⟨busy, hbusy⟩

theorem status_busy_iff (s : Chip) : s.status &&& statusBusyMask ≠ 0 ↔ s.busy = true := by
  have hbits : ∀ busy wel : Bool, ((if busy then 0x01 else 0) ||| (if wel then 0x02 else 0) : UInt8) &&&
      statusBusyMask ≠ 0 ↔ busy = true := by decide
  exact hbits s.busy s.wel

/-- The chip is waited for. -/
theorem waitUntilReady_chip {s : Chip} (h : s.command = none) :
    Ends chip.waitUntilReady s fun _ s' => s' = { s with busy := false } := by
  have hkept (s : Chip) (still : Bool) (hs : s.command = none) : (s.tick still).command = none := hs
  have hpoll (is : List Bool) : chip.waitUntilReady s is =
      (poll Chip.tick (fun s _ => s.status &&& statusBusyMask ≠ 0) s is).map fun r =>
        (r.2.1.status, r.2.1, r.2.2) :=
    Interacts.doWhile_eq_poll (I := fun s => s.command = none) Chip.tick (fun s _ => s.status)
      hkept (fun s is hs => readStatusRegister_chip hs is) h is
  refine ⟨fun {is a s' rest} hrun => ?_, fun is => ⟨[false], ?_⟩⟩
  · rw [hpoll] at hrun
    obtain ⟨⟨still, s₁, rest⟩, hloop, heq⟩ := Option.map_eq_some_iff.mp hrun
    cases heq
    obtain ⟨waiting, rfl, hpolls⟩ := poll_polls hloop
    cases (poll_answer hpolls rest).symm.trans hloop
    have hready := mt (status_busy_iff _).mpr (of_decide_eq_false hpolls.ends)
    obtain ⟨busy, hbusy⟩ := tick_foldl s waiting
    rw [hbusy] at hready
    have hidle : (busy && still) = false := Bool.eq_false_iff.mpr hready
    rw [hbusy, ← hidle]
    rfl
  · rw [hpoll, Option.isSome_map]
    refine poll_isSome (fun s => ?_) (List.mem_append_right is (List.mem_singleton.mpr rfl)) s
    have hbusy : ¬ (s.tick false).busy = true := by simp [Chip.tick]
    exact decide_eq_false (mt (status_busy_iff _).mp hbusy)

theorem execute_command (bytes : List UInt8) (s : Chip) : (s.execute bytes).command = s.command := by
  unfold Chip.execute
  split
  · rfl
  · split
    · split
      · rfl
      · split
        · rfl
        · rfl
    · split
      · rfl
      · split
        · rfl
        · rfl
    · rfl

theorem write_foldl (bytes : List (List UInt8)) (s : Chip) {got : List UInt8}
    (h : s.command = some got) : bytes.foldl (fun s b => chip.write b s) s =
      { s with command := some (got ++ bytes.flatten) } := by
  induction bytes generalizing s got with
  | nil =>
    obtain ⟨mem, wel, busy, command⟩ := s
    obtain rfl : command = some got := h
    simp
  | cons b bytes ih =>
    have hwrite : chip.write b s = { s with command := some (got ++ b) } := by
      show ({ s with command := s.command.map (· ++ b) } : Chip) = _
      rw [h]
      rfl
    rw [List.foldl_cons, hwrite, ih { s with command := some (got ++ b) } rfl]
    simp

/-- A command that changes the memory is carried out, with the latch set. -/
theorem modify_chip {s : Chip} (h : s.Ready) (bytes : List (List UInt8)) :
    Ends (chip.modify bytes) s fun _ s' =>
      s' = { Chip.execute bytes.flatten { s with wel := true } with busy := false } := by
  have hsent : chip.csDeselect (bytes.foldl (fun s b => chip.write b s)
      (chip.csSelect (chip.writeEnable s))) = Chip.execute bytes.flatten { s with wel := true } := by
    obtain ⟨mem, wel, busy, command⟩ := s
    obtain ⟨rfl, rfl⟩ := h
    have hselect : chip.csSelect (chip.writeEnable ⟨mem, wel, false, none⟩) =
        ⟨mem, true, false, some []⟩ := rfl
    rw [hselect, write_foldl bytes _ rfl]
    rfl
  have hidle : (Chip.execute bytes.flatten { s with wel := true }).command = none :=
    (execute_command _ _).trans h.command
  have hwait := (waitUntilReady_chip hidle).map fun _ => ()
  rw [← hsent] at hwait ⊢
  refine (Ends.before (fun s => chip.csDeselect (bytes.foldl (fun s b => chip.write b s)
    (chip.csSelect (chip.writeEnable s)))) hwait).mono ?_
  rintro _ s' ⟨_, _, hs'⟩
  exact hs'

/-- The three bytes of an address carry 24 bits of it. -/
theorem addressOf_bytes (addr : UInt32) :
    addressOf ((addr >>> 16) &&& 0xFF).toUInt8 ((addr >>> 8) &&& 0xFF).toUInt8 (addr &&& 0xFF).toUInt8 =
      addr.toNat % 0x800000 := by
  have h16 : UInt32.toNat 16 % 32 = 16 := rfl
  have h8 : UInt32.toNat 8 % 32 = 8 := rfl
  have hff : UInt32.toNat 0xFF = 2 ^ 8 - 1 := rfl
  simp only [addressOf, UInt32.toNat_toUInt8, UInt32.toNat_and, UInt32.toNat_shiftRight, hff, h16, h8,
    Nat.and_two_pow_sub_one_eq_mod, Nat.shiftRight_eq_div_pow]
  omega

/-- **A block erase.** -/
theorem blockErase_chip {s : Chip} (h : s.Ready) (addr : UInt32) :
    Ends (chip.blockErase addr) s fun _ s' =>
      s'.Ready ∧ s'.mem = eraseBlock (addr.toNat % 0x800000) s.mem := by
  refine (modify_chip h [Spi.addressed cmdBlockErase addr]).mono ?_
  rintro _ _ rfl
  rw [← addressOf_bytes]
  obtain ⟨mem, wel, busy, command⟩ := s
  obtain ⟨rfl, rfl⟩ := h
  exact ⟨⟨rfl, rfl⟩, rfl⟩

theorem programPage_nil (addr : Nat) (mem : Nat → UInt8) : programPage addr [] mem = mem := by
  funext x
  unfold programPage
  split
  · rfl
  · rfl

/-- **A page program**: too much data is dropped. -/
theorem pageProgram_chip {s : Chip} (h : s.Ready) (addr : UInt32) (data : List UInt8) (size : UInt16) :
    Ends (chip.pageProgram addr data size) s fun _ s' => s'.Ready ∧ s'.mem =
      if size > 256 then s.mem
      else programPage (addr.toNat % 0x800000) (data.take size.toNat) s.mem := by
  by_cases hsize : size > 256
  · refine ⟨fun hrun => ?_, fun is => ⟨[], Option.isSome_of_eq_some (if_pos hsize)⟩⟩
    cases (if_pos hsize).symm.trans hrun
    exact ⟨h, (if_pos hsize).symm⟩
  · have hend := modify_chip h [Spi.addressed cmdPageProgram addr, data.take size.toNat]
    refine ⟨fun {is a s' rest} hrun => ?_, fun is => ?_⟩
    · replace hrun := (if_neg hsize).symm.trans hrun
      rw [hend.holds hrun, if_neg hsize, ← addressOf_bytes, List.flatten_cons, List.flatten_cons,
        List.flatten_nil, List.append_nil]
      obtain ⟨mem, wel, busy, command⟩ := s
      obtain ⟨rfl, rfl⟩ := h
      cases hdata : data.take size.toNat with
      | nil => exact ⟨⟨rfl, rfl⟩, (programPage_nil _ mem).symm⟩
      | cons b others => exact ⟨⟨rfl, rfl⟩, rfl⟩
    · obtain ⟨more, hsome⟩ := hend.returns is
      exact ⟨more, (congrArg Option.isSome (if_neg hsize)).trans hsome⟩

/-- **Reading data.** -/
theorem readData_chip {s : Chip} (h : s.Ready) (addr : UInt32) (size : UInt16) (is : List Bool) :
    chip.readData addr size s is = some ((List.range size.toNat).map fun i =>
      s.mem ((addr.toNat % 0x800000 + i) % 0x800000), s, is) := by
  rw [← addressOf_bytes]
  obtain ⟨mem, wel, busy, command⟩ := s
  obtain ⟨rfl, rfl⟩ := h
  rfl

end GenLogger.Flash
