import GenLogger.SdCard.Status

/-!
# Where a sector is on the card

A card that addresses blocks takes the argument of a read or write command as the number of a sector,
any other card as that of its first byte. The driver finds out which it is (`ccs`), and keeps it in
`CardType`: the bit `CT_BLOCK` is this fact, but `SD_disk_read` and `SD_disk_write` look at `CT_SD2`.

* `blockCommand` is the card's side: the first read or write command in what it was sent while
  selected. The argument is decoded from those bytes, not taken from the driver.
* `Card.argument` and `Card.place`: what the card expects for a sector, and where it finds it.
* `AddressesSectors` is for all calls after an initialisation, until the next one.

Results:
* `diskRead_command`, `diskWrite_command`: the argument that a transfer sends.
* `sendsBlock_address`: it is the one that `CardType` stands for.
* `sd_addresses_iff`: the sectors are addressed as the card expects, the same for reading and writing
  and without overlaps, on every card but those of version 2 that address bytes.
-/

namespace GenLogger.SdCard

open GenLogger.Lib

/-! ## The card's side -/

/-- The card addresses blocks. -/
def Card.block : Card → Bool
  | .sd2 block => block
  | _ => false

/-- The byte of the card that an argument stands for. -/
def Card.place (card : Card) (arg : UInt32) : Nat := if card.block then 512 * arg.toNat else arg.toNat

/-- The sector is within what the argument can reach. -/
def Card.Reaches (card : Card) (sector : UInt32) : Prop := card.block ∨ 512 * sector.toNat < 0x100000000

/-- The argument that the card expects for a sector. -/
def Card.argument (card : Card) (sector : UInt32) : UInt32 := if card.block then sector else 512 * sector

/-- What the card is sent. -/
def sentBytes (events : List BusEvent) : List UInt8 := events.filterMap fun
  | .csWrite _ => none
  | .tx data => some data

/-- The bytes of an argument, most significant first. -/
def joinBytes (a b c d : UInt8) : UInt32 :=
  UInt32.ofNat (a.toNat * 0x1000000 + b.toNat * 0x10000 + c.toNat * 0x100 + d.toNat)

/-- `CMD17`, `CMD18`, `CMD24` and `CMD25`. -/
def IsBlockCmd (cmd : UInt8) : Prop := cmd = cmd17 ∨ cmd = cmd18 ∨ cmd = cmd24 ∨ cmd = cmd25

instance (cmd : UInt8) : Decidable (IsBlockCmd cmd) := inferInstanceAs (Decidable (_ ∨ _))

/-- The first of them among frames of six bytes, with its argument. -/
def blockCommand : List UInt8 → Option (UInt8 × UInt32)
  | cmd :: a :: b :: c :: d :: _ :: others =>
    if IsBlockCmd cmd then some (cmd, joinBytes a b c d) else blockCommand others
  | _ => none

theorem joinBytes_split (arg : UInt32) : joinBytes (arg >>> 24).toUInt8 (arg >>> 16).toUInt8
    (arg >>> 8).toUInt8 arg.toUInt8 = arg := by
  have hlt := arg.toNat_lt
  have h24 : UInt32.toNat 24 % 32 = 24 := rfl
  have h16 : UInt32.toNat 16 % 32 = 16 := rfl
  have h8 : UInt32.toNat 8 % 32 = 8 := rfl
  apply UInt32.toNat_inj.mp
  simp only [joinBytes, UInt32.toNat_ofNat', UInt32.toNat_toUInt8, UInt32.toNat_shiftRight,
    Nat.shiftRight_eq_div_pow, h24, h16, h8]
  omega

theorem blockCommand_frame {cmd : UInt8} (h : IsBlockCmd cmd) (arg : UInt32) (others : List UInt8) :
    blockCommand (frame cmd arg ++ others) = some (cmd, arg) := by
  refine (if_pos h).trans ?_
  rw [joinBytes_split]

theorem blockCommand_skip {cmd : UInt8} (h : ¬ IsBlockCmd cmd) (arg : UInt32) (others : List UInt8) :
    blockCommand (frame cmd arg ++ others) = blockCommand others :=
  if_neg h

theorem sentBytes_tx (bytes : List UInt8) : sentBytes (bytes.map .tx) = bytes := by
  induction bytes with
  | nil => rfl
  | cons b bytes ih => exact congrArg (b :: ·) ih

/-! ## What a transfer sends -/

/-- Bytes were sent, and a read or write command among them has this argument. -/
def Commands (arg : UInt32) (s s' : Sd) : Prop := ∃ bytes : List UInt8,
  s'.trace = s.trace ++ bytes.map .tx ∧ ∀ p, blockCommand bytes = some p → p.2 = arg

/-- A command that is neither read nor write comes first. -/
theorem Commands.after {cmd : UInt8} (hcmd : ¬ IsBlockCmd cmd) {arg arg' : UInt32} {a : CmdAnswer cmd}
    {s s₁ s' : Sd} (h : Did s s₁ (a.sent arg')) (hs : Commands arg s₁ s') : Commands arg s s' := by
  obtain ⟨bytes, htrace, hbytes⟩ := hs
  cases a with
  | late ready hready =>
    refine ⟨bytes, ?_, hbytes⟩
    rw [htrace, h.trace]
    simp [CmdAnswer.sent]
  | answered ready hready stuff waiting last hstuff hwaiting hlast =>
    refine ⟨frame cmd arg' ++ bytes, ?_, fun p hp => hbytes p ?_⟩
    · rw [htrace, h.trace]
      simp [CmdAnswer.sent]
    · rwa [blockCommand_skip hcmd] at hp

/-- **A read or write command**, and what follows if it is accepted. -/
theorem commands_of_sendCmd {cmd : UInt8} (hcmd : IsBlockCmd cmd) {arg : UInt32} {s s₁ s' : Sd}
    {res : UInt8} {rx rest : List Rx} (h : sendCmd cmd arg s rx = some (res, s₁, rest))
    (haccepted : res = 0 → Spoke s₁ s') (hrefused : res ≠ 0 → s' = s₁) : Commands arg s s' := by
  obtain ⟨a, rfl, rfl, hdid⟩ := sendCmd_cases h
  cases a with
  | late ready hready =>
    obtain rfl := hrefused (by decide : (0xFF : UInt8) ≠ 0)
    exact ⟨[], hdid.trace, nofun⟩
  | answered ready hready stuff waiting last hstuff hwaiting hlast =>
    have hspoke : Spoke s₁ s' := by
      by_cases hres : last.byte = 0
      · exact haccepted hres
      · rw [hrefused hres]
        exact Spoke.refl s₁
    obtain ⟨bytes, hbytes⟩ := hspoke.sent
    refine ⟨frame cmd arg ++ bytes, ?_, fun p hp => ?_⟩
    · rw [hbytes, hdid.trace]
      simp [CmdAnswer.sent]
    · rw [blockCommand_frame hcmd] at hp
      cases hp
      rfl

theorem readSectors_commands {sector : UInt32} {count : Nat} {s s' : Sd} {n : Nat} {rx rest : List Rx}
    (h : readSectors sector count s rx = some (n, s', rest)) : Commands sector s s' := by
  by_cases hcount : count = 1
  · obtain ⟨⟨res, s₁, mid⟩, hcmd, h⟩ := Option.bind_eq_some_iff.mp ((if_pos hcount).symm.trans h)
    refine commands_of_sendCmd (by decide) hcmd (fun hres => ?_) fun hres => ?_
    · obtain ⟨⟨received, s₂, mid'⟩, hblock, heq⟩ :=
        Option.bind_eq_some_iff.mp ((if_pos hres).symm.trans h)
      cases heq
      exact spoke_of_run (rxDataBlock_spoke 0 512) hblock
    · cases (if_neg hres).symm.trans h
      rfl
  · obtain ⟨⟨res, s₁, mid⟩, hcmd, h⟩ := Option.bind_eq_some_iff.mp ((if_neg hcount).symm.trans h)
    refine commands_of_sendCmd (by decide) hcmd (fun hres => ?_) fun hres => ?_
    · obtain ⟨⟨left, s₂, mid'⟩, hblocks, h⟩ :=
        Option.bind_eq_some_iff.mp ((if_pos hres).symm.trans h)
      obtain ⟨⟨stopped, s₃, mid'⟩, hstop, heq⟩ := Option.bind_eq_some_iff.mp h
      cases heq
      exact (spoke_of_run (readBlocks_spoke count 0) hblocks).trans
        (spoke_of_run (spoke_of_quiet (sendCmd_quiet cmd12 0)) hstop)
    · cases (if_neg hres).symm.trans h
      rfl

theorem announce_commands {count : Nat} {arg : UInt32} {s s₁ s' : Sd} {rx rest : List Rx}
    (h : announce count s rx = some ((), s₁, rest)) (hs : Commands arg s₁ s') : Commands arg s s' := by
  by_cases htype : s.cardType &&& ctSd1 ≠ 0
  · obtain ⟨⟨_, s₂, mid⟩, happ, h⟩ := Option.bind_eq_some_iff.mp ((if_pos htype).symm.trans h)
    obtain ⟨⟨_, s₃, mid'⟩, hcount, heq⟩ := Option.bind_eq_some_iff.mp h
    cases heq
    obtain ⟨a, -, -, hdid⟩ := sendCmd_cases happ
    obtain ⟨a', -, -, hdid'⟩ := sendCmd_cases hcount
    exact .after (by decide) hdid (.after (by decide) hdid' hs)
  · cases (if_neg htype).symm.trans h
    exact hs

theorem writeSectors_commands {resp : UInt8} {buff : List UInt8} {sector : UInt32} {count : Nat}
    {s s' : Sd} {n : Nat} {rx rest : List Rx}
    (h : writeSectors resp buff sector count s rx = some (n, s', rest)) : Commands sector s s' := by
  by_cases hcount : count = 1
  · obtain ⟨⟨res, s₁, mid⟩, hcmd, h⟩ := Option.bind_eq_some_iff.mp ((if_pos hcount).symm.trans h)
    refine commands_of_sendCmd (by decide) hcmd (fun hres => ?_) fun hres => ?_
    · obtain ⟨⟨sent, s₂, mid'⟩, hblock, heq⟩ :=
        Option.bind_eq_some_iff.mp ((if_pos hres).symm.trans h)
      cases heq
      exact spoke_of_run (spoke_of_quiet (txDataBlock_quiet resp buff 0xFE)) hblock
    · cases (if_neg hres).symm.trans h
      rfl
  · obtain ⟨⟨⟨⟩, s₀, mid⟩, hannounce, h⟩ :=
      Option.bind_eq_some_iff.mp ((if_neg hcount).symm.trans h)
    obtain ⟨⟨res, s₁, mid⟩, hcmd, h⟩ := Option.bind_eq_some_iff.mp h
    refine announce_commands hannounce
      (commands_of_sendCmd (by decide) hcmd (fun hres => ?_) fun hres => ?_)
    · obtain ⟨⟨left, s₂, mid'⟩, hblocks, h⟩ :=
        Option.bind_eq_some_iff.mp ((if_pos hres).symm.trans h)
      obtain ⟨⟨stopped, s₃, mid'⟩, hstop, heq⟩ := Option.bind_eq_some_iff.mp h
      cases heq
      exact (spoke_of_run (spoke_of_quiet (writeBlocks_quiet resp count buff)) hblocks).trans
        (spoke_of_run (spoke_of_quiet (txDataBlock_quiet resp [] 0xFD)) hstop)
    · cases (if_neg hres).symm.trans h
      rfl

/-! ## What a call sends -/

/-- A call sends a read or write command with this argument. -/
def SendsBlock (s : Sd) (c : Call) (arg : UInt32) : Prop := ∃ rx reply s' events cmd,
  Step s ⟨c, rx, reply⟩ s' ∧ s'.trace = s.trace ++ events ∧
    blockCommand (sentBytes events) = some (cmd, arg)

/-- The call reads (`false`) or writes `sector`, and possibly more behind it. -/
inductive Transfers (sector : UInt32) : Bool → Call → Prop
  | read (pdrv : UInt8) (count : Nat) : Transfers sector false (.read pdrv sector count)
  | write (resp pdrv : UInt8) (buff : List UInt8) (count : Nat) :
      Transfers sector true (.write resp pdrv buff sector count)

/-- Between the chip selects. -/
theorem sentBytes_selected {arg : UInt32} {s s₁ s' : Sd} {events : List BusEvent}
    (h : Commands arg (select s) s₁) (hs' : s'.trace = (deselect s₁).trace)
    (hevents : s'.trace = s.trace ++ events) {p : UInt8 × UInt32}
    (hp : blockCommand (sentBytes events) = some p) : p.2 = arg := by
  obtain ⟨bytes, htrace, hbytes⟩ := h
  have hsplit : events = .csWrite 0 :: (bytes.map .tx ++ [.csWrite 1]) := by
    rw [hs'] at hevents
    have hall : s.trace ++ (.csWrite 0 :: (bytes.map .tx ++ [.csWrite 1])) = s.trace ++ events := by
      rw [← hevents]
      show _ = s₁.trace ++ [.csWrite 1]
      rw [htrace]
      simp [select]
    exact (List.append_cancel_left hall).symm
  refine hbytes p ?_
  have hsent : sentBytes events = bytes := by
    rw [hsplit, ← sentBytes_tx bytes]
    simp [sentBytes]
  rwa [hsent] at hp

/-- A call that returned at once sends nothing. -/
theorem sentBytes_still {s : Sd} {events : List BusEvent} (h : s.trace = s.trace ++ events) :
    blockCommand (sentBytes events) = none := by
  obtain rfl : events = [] := by simpa using h
  rfl

theorem finish_trace {count : Nat} {s s' : Sd} {res : DResult} {rx rest : List Rx}
    (h : finish count s rx = some (res, s', rest)) : s'.trace = (deselect s).trace := by
  cases rx with
  | nil => cases h
  | cons r rx => cases h; rfl

theorem diskRead_command {pdrv : UInt8} {sector : UInt32} {count : Nat} {s s' : Sd} {res : DResult}
    {rx rest : List Rx} (h : diskRead pdrv sector count s rx = some (res, s', rest)) :
    s'.trace = s.trace ∨
      ∃ s₁, Commands (address sector s) (select s) s₁ ∧ s'.trace = (deselect s₁).trace := by
  by_cases hargs : pdrv ≠ 0 ∨ count = 0
  · cases (if_pos hargs).symm.trans h
    exact Or.inl rfl
  · replace h := (if_neg hargs).symm.trans h
    by_cases hinit : s.stat &&& staNoinit ≠ 0
    · cases (if_pos hinit).symm.trans h
      exact Or.inl rfl
    · obtain ⟨⟨left, s₁, mid⟩, hread, hfinish⟩ :=
        Option.bind_eq_some_iff.mp ((if_neg hinit).symm.trans h)
      exact Or.inr ⟨s₁, readSectors_commands hread, finish_trace hfinish⟩

theorem diskWrite_command {resp pdrv : UInt8} {buff : List UInt8} {sector : UInt32} {count : Nat}
    {s s' : Sd} {res : DResult} {rx rest : List Rx}
    (h : diskWrite resp pdrv buff sector count s rx = some (res, s', rest)) :
    s'.trace = s.trace ∨
      ∃ s₁, Commands (address sector s) (select s) s₁ ∧ s'.trace = (deselect s₁).trace := by
  by_cases hargs : pdrv ≠ 0 ∨ count = 0
  · cases (if_pos hargs).symm.trans h
    exact Or.inl rfl
  · replace h := (if_neg hargs).symm.trans h
    by_cases hinit : s.stat &&& staNoinit ≠ 0
    · cases (if_pos hinit).symm.trans h
      exact Or.inl rfl
    · replace h := (if_neg hinit).symm.trans h
      by_cases hprotect : s.stat &&& staProtect ≠ 0
      · cases (if_pos hprotect).symm.trans h
        exact Or.inl rfl
      · obtain ⟨⟨left, s₁, mid⟩, hwrite, hfinish⟩ :=
          Option.bind_eq_some_iff.mp ((if_neg hprotect).symm.trans h)
        exact Or.inr ⟨s₁, writeSectors_commands hwrite, finish_trace hfinish⟩

/-- **A transfer** sends the address that `CardType` stands for. -/
theorem sendsBlock_address {w : Bool} {sector arg : UInt32} {c : Call} (hc : Transfers sector w c)
    {s : Sd} (h : SendsBlock s c arg) : arg = address sector s := by
  obtain ⟨rx, reply, s', events, cmd, hstep, hevents, hcmd⟩ := h
  have hcommand : s'.trace = s.trace ∨
      ∃ s₁, Commands (address sector s) (select s) s₁ ∧ s'.trace = (deselect s₁).trace := by
    cases hc with
    | read pdrv count =>
      obtain ⟨res, hread, -⟩ := run_of_map (b := Reply.result) hstep
      exact diskRead_command hread
    | write resp pdrv buff count =>
      obtain ⟨res, hwrite, -⟩ := run_of_map (b := Reply.result) hstep
      exact diskWrite_command hwrite
  rcases hcommand with hstill | ⟨s₁, hsent, hs'⟩
  · rw [sentBytes_still (hstill.symm.trans hevents)] at hcmd
    cases hcmd
  · exact sentBytes_selected hsent hs' hevents hcmd

/-! ## After the card was found -/

/-- A state after `s`, without another initialisation in between. -/
def After (s s' : Sd) : Prop := ∃ ts, Run Step s ts s' ∧ ∀ t ∈ ts, t.input.call ≠ .init 0

theorem After.cardType {s s' : Sd} (h : After s s') : s'.cardType = s.cardType := by
  obtain ⟨ts, hrun, hcalls⟩ := h
  induction hrun with
  | nil s => rfl
  | @cons s s₁ s' e ts hstep hrun ih =>
    rw [List.forall_mem_cons] at hcalls
    refine (ih hcalls.2).trans ?_
    by_cases hswitch : ∃ mode, (mode = 0 ∨ mode = 1) ∧ e.call = .ioctl 0 ctrlPower mode
    · obtain ⟨mode, hmode, hcall⟩ := hswitch
      obtain ⟨c, rx, reply⟩ := e
      cases hcall
      exact (switch_cases hmode hstep).2.1
    · exact (sameStatus_of_step hcalls.1 (fun mode hmode hc => hswitch ⟨mode, hmode, hc⟩) hstep).cardType

/-- After `s`, a read (`false`) or write of `sector` sends this argument. -/
def Sends (s : Sd) (w : Bool) (sector arg : UInt32) : Prop :=
  ∃ t c, After s t ∧ Transfers sector w c ∧ SendsBlock t c arg

/-- **Sectors are addressed**: the argument is the one the card expects; a sector is read where it was
written; and no other one overlaps it. -/
structure AddressesSectors (card : Card) (s : Sd) : Prop where
  expected : ∀ w sector arg, card.Reaches sector → Sends s w sector arg → arg = card.argument sector
  same : ∀ sector arg arg', card.Reaches sector → Sends s true sector arg → Sends s false sector arg' →
    card.place arg = card.place arg'
  apart : ∀ w w' sector sector' arg arg', card.Reaches sector → card.Reaches sector' →
    sector ≠ sector' → Sends s w sector arg → Sends s w' sector' arg' →
    card.place arg + 512 ≤ card.place arg' ∨ card.place arg' + 512 ≤ card.place arg

theorem sends_address {s : Sd} {w : Bool} {sector arg : UInt32} (h : Sends s w sector arg) :
    arg = address sector s := by
  obtain ⟨t, c, hafter, hc, hsends⟩ := h
  rw [sendsBlock_address hc hsends]
  unfold address
  rw [hafter.cardType]

/-- What `CardType` says about the address. -/
theorem address_type {card : Card} {s : Sd} (htype : s.cardType = card.type) (sector : UInt32) :
    address sector s = if card = .mmc ∨ card = .sd1 then sector * 512 else sector := by
  unfold address
  rw [htype]
  match card with
  | .mmc => rfl
  | .sd1 => rfl
  | .sd2 false => rfl
  | .sd2 true => rfl

/-- On every card but one kind this is what the card expects. -/
theorem address_expected {card : Card} (hcard : card ≠ .sd2 false) {s : Sd}
    (htype : s.cardType = card.type) (sector : UInt32) : address sector s = card.argument sector := by
  rw [address_type htype]
  match card with
  | .mmc => exact UInt32.mul_comm sector 512
  | .sd1 => exact UInt32.mul_comm sector 512
  | .sd2 true => rfl

/-- Where the card finds a sector. -/
theorem place_argument {card : Card} {sector : UInt32} (h : card.Reaches sector) :
    card.place (card.argument sector) = 512 * sector.toNat := by
  unfold Card.place Card.argument
  by_cases hblock : card.block = true
  · rw [if_pos hblock, if_pos hblock]
  · rw [if_neg hblock, if_neg hblock]
    have hlt := h.resolve_left hblock
    rw [UInt32.toNat_mul]
    exact Nat.mod_eq_of_lt hlt

theorem addressesSectors_of_ne {card : Card} (hcard : card ≠ .sd2 false) {s : Sd}
    (htype : s.cardType = card.type) : AddressesSectors card s := by
  have hexpected {w sector arg} (h : Sends s w sector arg) : arg = card.argument sector :=
    (sends_address h).trans (address_expected hcard htype sector)
  refine ⟨fun w sector arg _ h => hexpected h, fun sector arg arg' _ h h' => ?_, ?_⟩
  · rw [hexpected h, hexpected h']
  · intro w w' sector sector' arg arg' hr hr' hne h h'
    have hne' := mt UInt32.toNat_inj.mp hne
    rw [hexpected h, hexpected h', place_argument hr, place_argument hr']
    omega

/-- A card that accepts a read and has no data. -/
def promptRead : List Rx := (promptCmd cmd17 (by decide)).bytes ++ [⟨0x00, 1⟩, ⟨0xFF, 1⟩]

/-- A read is sent to any initialised card. -/
theorem sendsBlock_read {s : Sd} (hinit : Initialised s) (sector : UInt32) :
    SendsBlock s (.read 0 sector 1) (address sector s) := by
  obtain ⟨s₁, hsend, hdid⟩ := sendCmd_answer (promptCmd cmd17 (by decide)) (address sector s) (select s)
    [⟨0x00, 1⟩, ⟨0xFF, 1⟩]
  have hread : readSectors (address sector s) 1 (select s) promptRead =
      some (1, elapse { s₁ with timer1 := 200 } ⟨0x00, 1⟩, [⟨0xFF, 1⟩]) :=
    (if_pos rfl).trans (Option.bind_eq_some_iff.mpr ⟨_, hsend, rfl⟩)
  have hrun : diskRead 0 sector 1 s promptRead = some (.error,
      elapse (deselect (elapse { s₁ with timer1 := 200 } ⟨0x00, 1⟩)) ⟨0xFF, 1⟩, []) := by
    have hargs : ¬ ((0 : UInt8) ≠ 0 ∨ 1 = 0) := by decide
    have hready : ¬ s.stat &&& staNoinit ≠ 0 := not_not.mpr hinit
    exact (if_neg hargs).trans ((if_neg hready).trans (Option.bind_eq_some_iff.mpr ⟨_, hread, rfl⟩))
  refine ⟨promptRead, .result .error, _,
    .csWrite 0 :: ((frame cmd17 (address sector s)).map .tx ++ [.csWrite 1]), cmd17,
    Option.bind_eq_some_iff.mpr ⟨_, hrun, rfl⟩, ?_, ?_⟩
  · show s₁.trace ++ [.csWrite 1] = _
    rw [hdid.trace]
    simp [select, CmdAnswer.sent, promptCmd]
  · have hsent : sentBytes (.csWrite 0 :: ((frame cmd17 (address sector s)).map .tx ++ [.csWrite 1])) =
        frame cmd17 (address sector s) ++ [] := by
      rw [List.append_nil, ← sentBytes_tx (frame cmd17 (address sector s))]
      simp [sentBytes]
    rw [hsent]
    exact blockCommand_frame (by decide) (address sector s) []

/-- Sector 1 of a card of version 2 that addresses bytes is read from byte 1. -/
theorem not_addressesSectors {s : Sd} (htype : s.cardType = (Card.sd2 false).type)
    (hinit : Initialised s) : ¬ AddressesSectors (.sd2 false) s := by
  intro h
  have hsends : Sends s false 1 (address 1 s) :=
    ⟨s, _, ⟨[], .nil s, nofun⟩, .read 0 1, sendsBlock_read hinit 1⟩
  have hexpected := h.expected false 1 _ (Or.inr (by decide)) hsends
  rw [address_type htype] at hexpected
  exact absurd hexpected (by decide)

/-- **Whichever card an initialisation finds**, from then on its sectors are addressed unless it is of
version 2 and addresses bytes. -/
theorem sd_addresses_iff {card : Card} {l : List Rx} (hdetects : Detects (some card) l) {s s' : Sd}
    (hdisk : HasDisk s) {res : UInt8} {rest : List Rx}
    (h : diskInitialize 0 s (l ++ rest) = some (res, s', rest)) :
    s'.cardType = card.type ∧ Initialised s' ∧ (AddressesSectors card s' ↔ card ≠ .sd2 false) := by
  obtain ⟨s₁, hrun, hfound⟩ := diskInitialize_runs hdetects hdisk rest
  obtain rfl : s₁ = s' := by
    have hsame := hrun.symm.trans h
    simp only [Option.some.injEq, Prod.mk.injEq, and_true] at hsame
    exact hsame.2
  have htype : s₁.cardType = card.type := hfound.cardType
  have hinit : Initialised s₁ := hfound.clear.mpr (Or.inl (Option.some_ne_none card))
  refine ⟨htype, hinit, fun hsectors hcard => ?_, fun hcard => addressesSectors_of_ne hcard htype⟩
  subst hcard
  exact not_addressesSectors htype hinit hsectors

/-- A card of version 2 that addresses blocks is found, and addressed so. -/
theorem sd_addresses_block : ∃ s',
    diskInitialize 0 start (promptSd2 true) = some (s'.stat, s', []) ∧
      s'.cardType = (Card.sd2 true).type ∧ AddressesSectors (.sd2 true) s' := by
  obtain ⟨s', hrun, -⟩ := diskInitialize_runs (detects_promptSd2 true) start_hasDisk []
  obtain ⟨htype, -, hiff⟩ := sd_addresses_iff (detects_promptSd2 true) start_hasDisk hrun
  rw [List.append_nil] at hrun
  exact ⟨s', hrun, htype, hiff.mpr (by decide)⟩

/-- A card of version 2 that addresses bytes is found, and a read of its sector 1 sends `1`, its second
byte, and not `512`. -/
theorem sd_addresses_bytes_fails : ∃ s',
    diskInitialize 0 start (promptSd2 false) = some (s'.stat, s', []) ∧
      (∃ arg, SendsBlock s' (.read 0 1 1) arg ∧ arg = 1 ∧ arg ≠ (Card.sd2 false).argument 1) ∧
        ¬ AddressesSectors (.sd2 false) s' := by
  obtain ⟨s', hrun, hfound⟩ := diskInitialize_runs (detects_promptSd2 false) start_hasDisk []
  have hinit : Initialised s' := hfound.clear.mpr (Or.inl (Option.some_ne_none _))
  have htype : s'.cardType = (Card.sd2 false).type := hfound.cardType
  have harg : address 1 s' = 1 := address_type htype 1
  rw [List.append_nil] at hrun
  exact ⟨s', hrun, ⟨_, sendsBlock_read hinit 1, harg, by rw [harg]; decide⟩,
    not_addressesSectors htype hinit⟩

end GenLogger.SdCard
