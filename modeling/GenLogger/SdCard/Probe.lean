import GenLogger.Lib.Dialogue
import GenLogger.SdCard.Conversation

/-!
# Which card it is

The probe sequence of `SD_disk_initialize` from the side of the card: `Probe card l` says that the
answers `l` are those of a card of the kind `card`, or (`none`) of no card that the sequence knows.
The kinds are those of the protocol: a card of version 2 accepts `CMD8` and tells in its OCR whether
it addresses blocks (CCS), an older SD card accepts `ACMD41`, and an MMC is what remains.

* A card has one second from its `CMD8` on, so a part of the dialogue is given the ticks that are
  left.
* `UntilReady` is a card that is asked again and again until it is ready or no time is left.
* `Detects` is all that is received in an initialisation that finds a card, or none.

Results:
* `probe_follows`: the driver returns `type` after these answers exactly if they are those of a card
  of this type.
* `diskInitialize_cases`, `diskInitialize_runs`: the same for `SD_disk_initialize`, and what it leaves
  in the status variables (`Found`).
-/

namespace GenLogger.SdCard

open GenLogger.Lib

/-! ## Kinds of cards -/

/-- The cards the driver knows; those of version 2 with or without block addressing. -/
inductive Card where
  | mmc
  | sd1
  | sd2 (block : Bool)
  deriving Repr, DecidableEq

/-- What `CardType` is for a card. -/
def Card.type : Card → UInt8
  | mmc => ctMmc
  | sd1 => ctSd1
  | sd2 block => if block then ctSd2 ||| ctBlock else ctSd2

/-- And without one. -/
def typeOf (card : Option Card) : UInt8 := card.elim 0 Card.type

theorem typeOf_eq_zero_iff (card : Option Card) : typeOf card = 0 ↔ card = none := by
  cases card with
  | none => exact iff_of_true rfl rfl
  | some card =>
    refine iff_of_false ?_ (Option.some_ne_none card)
    match card with
    | .mmc => decide
    | .sd1 => decide
    | .sd2 false => decide
    | .sd2 true => decide

/-! ## The dialogue -/

/-- The card answers `cmd` with `res`, or not at all, which reads as a response, too. -/
def Answers (cmd res : UInt8) (l : List Rx) : Prop := ∃ a : CmdAnswer cmd, l = a.bytes ∧ res = a.res

/-- `ACMD41`: it does not accept the announcement, or answers `CMD41`. -/
inductive AppOpCond : List Rx → Option UInt8 → Prop
  | refused {l : List Rx} {res : UInt8} (h : Answers cmd55 res l) (hres : ¬ res ≤ 1) : AppOpCond l none
  | answered {l m : List Rx} {accepted res : UInt8} (h : Answers cmd55 accepted l)
      (haccepted : accepted ≤ 1) (hres : Answers cmd41 res m) : AppOpCond (l ++ m) (some res)

/-- It answers `CMD1`. -/
def OpCond (l : List Rx) (answer : Option UInt8) : Prop := ∃ res, Answers cmd1 res l ∧ answer = some res

/-- `Timer1` while answers come in. -/
def timer : View quiet Nat where
  see := Sd.timer1
  pass ticks l := ticks - ticksOf l
  see_of_rel h := h.timer1

/-- It is asked again and again until it is ready (`0`) or no time is left. -/
def UntilReady (round : List Rx → Option UInt8 → Prop) (ticks : Nat) (l : List Rx) : Prop :=
  ∃ answer, Rounds timer (fun _ => round) (fun left res => res ≠ some 0 ∧ left ≠ 0) ticks l answer

/-- The voltage range and the check pattern of the response to `CMD8`. -/
def Supported (ocr : List Rx) : Prop :=
  (ocr.map Rx.byte).getD 2 0 = 0x01 ∧ (ocr.map Rx.byte).getD 3 0 = 0xAA

instance (ocr : List Rx) : Decidable (Supported ocr) := inferInstanceAs (Decidable (_ ∧ _))

/-- The CCS bit of the OCR: the card reports block addressing. -/
def ccs (ocr : List Rx) : Bool := (ocr.map Rx.byte).getD 0 0 &&& 0x40 ≠ 0

/-- A card that accepted `CMD8`, with `ticks` left. -/
inductive Sd2Probe (ticks : Nat) : List Rx → Option Card → Prop
  | unsupported {ocr : List Rx} (hlen : ocr.length = 4) (h : ¬ Supported ocr) : Sd2Probe ticks ocr none
  | late {ocr l : List Rx} (hlen : ocr.length = 4) (h : Supported ocr)
      (hwait : UntilReady AppOpCond (ticks - ticksOf ocr) l) (htime : ticks ≤ ticksOf (ocr ++ l)) :
      Sd2Probe ticks (ocr ++ l) none
  | noOcr {ocr l m : List Rx} {res : UInt8} (hlen : ocr.length = 4) (h : Supported ocr)
      (hwait : UntilReady AppOpCond (ticks - ticksOf ocr) l) (htime : ticksOf (ocr ++ l) < ticks)
      (hread : Answers cmd58 res m) (hres : res ≠ 0) : Sd2Probe ticks (ocr ++ l ++ m) none
  | identified {ocr l m ocr' : List Rx} (hlen : ocr.length = 4) (h : Supported ocr)
      (hwait : UntilReady AppOpCond (ticks - ticksOf ocr) l) (htime : ticksOf (ocr ++ l) < ticks)
      (hread : Answers cmd58 0 m) (hlen' : ocr'.length = 4) :
      Sd2Probe ticks (ocr ++ l ++ m ++ ocr') (some (.sd2 (ccs ocr')))

/-- How an older card is asked whether it is ready. -/
def olderReady : Card → List Rx → Option UInt8 → Prop
  | .sd1 => AppOpCond
  | _ => OpCond

/-- An older card gets ready in time and accepts the block length, or not. -/
inductive Settles (card : Card) (ticks : Nat) : List Rx → Option Card → Prop
  | late {l : List Rx} (hwait : UntilReady (olderReady card) ticks l) (htime : ticks ≤ ticksOf l) :
      Settles card ticks l none
  | refused {l m : List Rx} {res : UInt8} (hwait : UntilReady (olderReady card) ticks l)
      (htime : ticksOf l < ticks) (hlen : Answers cmd16 res m) (hres : res ≠ 0) :
      Settles card ticks (l ++ m) none
  | settled {l m : List Rx} (hwait : UntilReady (olderReady card) ticks l) (htime : ticksOf l < ticks)
      (hlen : Answers cmd16 0 m) : Settles card ticks (l ++ m) (some card)

/-- An SD card accepts `ACMD41`. -/
def olderCard (answer : Option UInt8) : Card := if answer.any (· ≤ 1) then .sd1 else .mmc

/-- A card that did not accept `CMD8`, with `ticks` left. -/
inductive OlderProbe (ticks : Nat) : List Rx → Option Card → Prop
  | mk {l m : List Rx} {answer : Option UInt8} {card : Option Card} (h : AppOpCond l answer)
      (hsettles : Settles (olderCard answer) (ticks - ticksOf l) m card) : OlderProbe ticks (l ++ m) card

/-- **The probe sequence**, for one of the cards or none. -/
inductive Probe : List Rx → Option Card → Prop
  | silent {l : List Rx} {res : UInt8} (h : Answers cmd0 res l) (hres : res ≠ 1) : Probe l none
  | sd2 {l m n : List Rx} {card : Option Card} (h : Answers cmd0 1 l) (hcond : Answers cmd8 1 m)
      (hprobe : Sd2Probe (1000 - ticksOf m) n card) : Probe (l ++ m ++ n) card
  | older {l m n : List Rx} {res : UInt8} {card : Option Card} (h : Answers cmd0 1 l)
      (hcond : Answers cmd8 res m) (hres : res ≠ 1) (hprobe : OlderProbe (1000 - ticksOf m) n card) :
      Probe (l ++ m ++ n) card

/-! ## The driver follows it -/

theorem sendCmd_follows (cmd : UInt8) (arg : UInt32) :
    Follows timer (sendCmd cmd arg) (fun _ l res => Answers cmd res l) := by
  constructor
  · intro s rx res s' rest hrun
    obtain ⟨a, rfl, rfl, -⟩ := sendCmd_cases hrun
    exact ⟨a.bytes, rfl, a, rfl, rfl⟩
  · rintro s l res ⟨a, rfl, rfl⟩ rest
    obtain ⟨s', hrun, -⟩ := sendCmd_answer a arg s rest
    exact ⟨s', hrun⟩

theorem CmdAnswer.length_pos {cmd : UInt8} (a : CmdAnswer cmd) : 0 < a.bytes.length := by
  cases a with
  | late ready h => simp [bytes, ReadyAnswer.bytes]
  | answered ready h stuff waiting last =>
    simp only [bytes, ReadyAnswer.bytes, List.length_append, List.length_singleton]
    omega

theorem sendCmd_progress {cmd : UInt8} {arg : UInt32} {s s' : Sd} {res : UInt8} {rx rest : List Rx}
    (h : sendCmd cmd arg s rx = some (res, s', rest)) : rest.length < rx.length := by
  obtain ⟨a, rfl, -, -⟩ := sendCmd_cases h
  have hpos := a.length_pos
  rw [List.length_append]
  omega

theorem rxBytes_follows (n : Nat) :
    Follows timer (rxBytes n) (fun _ l data => l.length = n ∧ data = l.map Rx.byte) := by
  induction n with
  | zero =>
    refine Follows.congr .done fun _ l data => ?_
    rw [List.length_eq_zero_iff]
    constructor
    · rintro ⟨rfl, rfl⟩
      exact ⟨rfl, rfl⟩
    · rintro ⟨rfl, rfl⟩
      exact ⟨rfl, rfl⟩
  | succ n ih =>
    constructor
    · intro s rx data s' rest hrun
      cases rx with
      | nil => cases hrun
      | cons r rx =>
        obtain ⟨⟨others, s₁, mid⟩, hmid, heq⟩ := Option.bind_eq_some_iff.mp hrun
        cases heq
        obtain ⟨l, rfl, hlen, rfl⟩ := ih.cases hmid
        exact ⟨r :: l, rfl, congrArg (· + 1) hlen, rfl⟩
    · rintro s l data ⟨hlen, rfl⟩ rest
      cases l with
      | nil => cases hlen
      | cons r l =>
        obtain ⟨s', hrun⟩ :=
          ih.runs (s := elapse s r) ⟨Nat.succ.inj hlen, rfl⟩ rest
        exact ⟨s', Option.bind_eq_some_iff.mpr ⟨_, hrun, rfl⟩⟩

theorem appOpCond_follows (arg : UInt32) :
    Follows timer (appOpCond arg) (fun _ => AppOpCond) := by
  refine Follows.congr (.bind (sendCmd_follows cmd55 0) (sendCmd_quiet cmd55 0) fun _ =>
    .ite (.bind (sendCmd_follows cmd41 arg) (sendCmd_quiet cmd41 arg) fun _ => .done) .done)
    fun ticks n answer => ⟨?_, ?_⟩
  · rintro ⟨l, accepted, m, rfl, h, ⟨haccepted, m, res, _, rfl, hres, rfl, rfl⟩ | ⟨hno, rfl, rfl⟩⟩
    · rw [List.append_nil]
      exact .answered h haccepted hres
    · rw [List.append_nil]
      exact .refused h hno
  · rintro (⟨h, hno⟩ | ⟨h, haccepted, hres⟩)
    · exact ⟨n, _, [], (List.append_nil n).symm, h, Or.inr ⟨hno, rfl, rfl⟩⟩
    · exact ⟨_, _, _, rfl, h,
        Or.inl ⟨haccepted, _, _, [], (List.append_nil _).symm, hres, rfl, rfl⟩⟩

theorem opCond_follows : Follows timer opCond (fun _ => OpCond) := by
  refine Follows.congr (.bind (sendCmd_follows cmd1 0) (sendCmd_quiet cmd1 0) fun _ => .done)
    fun ticks l answer => ⟨?_, ?_⟩
  · rintro ⟨l, res, _, rfl, h, rfl, rfl⟩
    rw [List.append_nil]
    exact ⟨res, h, rfl⟩
  · rintro ⟨res, h, rfl⟩
    exact ⟨l, res, [], (List.append_nil l).symm, h, rfl, rfl⟩

theorem appOpCond_progress {arg : UInt32} {s s' : Sd} {answer : Option UInt8} {rx rest : List Rx}
    (h : appOpCond arg s rx = some (answer, s', rest)) : rest.length < rx.length := by
  obtain ⟨⟨accepted, s₁, mid⟩, hsend, hafter⟩ := Option.bind_eq_some_iff.mp h
  refine Nat.lt_of_le_of_lt ?_ (sendCmd_progress hsend)
  by_cases haccepted : accepted ≤ 1
  · obtain ⟨⟨res, s₂, rest⟩, hsend', heq⟩ :=
      Option.bind_eq_some_iff.mp ((if_pos haccepted).symm.trans hafter)
    cases heq
    exact Nat.le_of_lt (sendCmd_progress hsend')
  · cases (if_neg haccepted).symm.trans hafter
    exact Nat.le_refl _

theorem opCond_progress {s s' : Sd} {answer : Option UInt8} {rx rest : List Rx}
    (h : opCond s rx = some (answer, s', rest)) : rest.length < rx.length := by
  obtain ⟨⟨res, s₁, mid⟩, hsend, heq⟩ := Option.bind_eq_some_iff.mp h
  cases heq
  exact sendCmd_progress hsend

section

variable {round : Driver (Option UInt8)} {D : List Rx → Option UInt8 → Prop}

/-- Any answer that takes as long as there is time left ends the loop. -/
theorem untilReady_quiet (h : Interacts quiet round)
    (hprogress : ∀ {s rx answer s' rest}, round s rx = some (answer, s', rest) →
      rest.length < rx.length) : Interacts quiet (untilReady round) := by
  refine Interacts.doWhile Sd.timer1 h hprogress fun {s l s' r} hquiet hr hslow answer => ?_
  have hticks := ticks_le_ticksOf hr
  have hzero : s'.timer1 = 0 := by
    rw [Quiet.timer1 hquiet]
    exact Nat.sub_eq_zero_of_le (Nat.le_trans hslow hticks)
  simp [hzero]

theorem untilReady_follows (h : Follows timer round fun _ => D) (hquiet : Interacts quiet round)
    (hprogress : ∀ {s rx answer s' rest}, round s rx = some (answer, s', rest) →
      rest.length < rx.length) : Follows timer (untilReady round)
      (Rounds timer (fun _ => D) fun left res => res ≠ some 0 ∧ left ≠ 0) :=
  Follows.doWhile h hquiet hprogress fun _ _ => rfl

end

/-- What a card of the two older kinds is asked. -/
theorem olderReady_interacts {card : Card} (hcard : card = .sd1 ∨ card = .mmc) :
    Interacts quiet (untilReady (if card.type = ctSd1 then appOpCond 0 else opCond)) ∧
      Follows timer (untilReady (if card.type = ctSd1 then appOpCond 0 else opCond))
        (Rounds timer (fun _ => olderReady card) fun left res => res ≠ some 0 ∧ left ≠ 0) := by
  rcases hcard with rfl | rfl
  · exact ⟨untilReady_quiet (appOpCond_quiet 0) appOpCond_progress,
      untilReady_follows (appOpCond_follows 0) (appOpCond_quiet 0) appOpCond_progress⟩
  · exact ⟨untilReady_quiet opCond_quiet opCond_progress,
      untilReady_follows opCond_follows opCond_quiet opCond_progress⟩

/-- Whether the second is over, after two parts of the dialogue. -/
theorem ticks_left_iff (ticks : Nat) (l m : List Rx) :
    ticks - ticksOf l - ticksOf m ≠ 0 ↔ ticksOf (l ++ m) < ticks := by
  rw [ticksOf_append]
  omega

theorem sd2_type (ocr : List Rx) :
    (if (ocr.map Rx.byte).getD 0 0 &&& 0x40 ≠ 0 then ctSd2 ||| ctBlock else ctSd2) =
      typeOf (some (.sd2 (ccs ocr))) := by
  by_cases h : (ocr.map Rx.byte).getD 0 0 &&& 0x40 ≠ 0
  · have hccs : ccs ocr = true := decide_eq_true h
    rw [if_pos h, hccs]
    rfl
  · have hccs : ccs ocr = false := decide_eq_false h
    rw [if_neg h, hccs]
    rfl

theorem probeSd2_follows : Follows timer probeSd2
    (fun ticks l type => ∃ card, Sd2Probe ticks l card ∧ type = typeOf card) := by
  have hready := untilReady_follows (appOpCond_follows 0x40000000) (appOpCond_quiet 0x40000000)
    appOpCond_progress
  have hquiet := untilReady_quiet (appOpCond_quiet 0x40000000) appOpCond_progress
  refine Follows.congr (.bind (rxBytes_follows 4) (rxBytes_quiet 4) fun _ => .ite
    (.bind hready hquiet fun _ => .test (fun left => left ≠ 0) (fun _ => Iff.rfl)
      (.bind (sendCmd_follows cmd58 0) (sendCmd_quiet cmd58 0) fun _ => .ite
        (.bind (rxBytes_follows 4) (rxBytes_quiet 4) fun _ => .done) .done) .done) .done)
    fun ticks n type => ⟨?_, ?_⟩
  · rintro ⟨ocr, _, _, rfl, ⟨hlen, rfl⟩, ⟨hsup, l, answer, _, rfl, hwait, htime⟩ | ⟨hno, rfl, rfl⟩⟩
    · rcases htime with ⟨htime, m, res, _, rfl, hread, hres⟩ | ⟨hlate, rfl, rfl⟩
      · have htime := (ticks_left_iff ticks ocr l).mp htime
        rcases hres with ⟨rfl, ocr', _, _, rfl, ⟨hlen', rfl⟩, rfl, rfl⟩ | ⟨hres, rfl, rfl⟩
        · rw [List.append_nil, ← List.append_assoc, ← List.append_assoc]
          exact ⟨_, .identified hlen hsup ⟨answer, hwait⟩ htime hread hlen', sd2_type ocr'⟩
        · refine ⟨none, ?_, rfl⟩
          rw [List.append_nil, ← List.append_assoc]
          exact .noOcr hlen hsup ⟨answer, hwait⟩ htime hread hres
      · refine ⟨none, ?_, rfl⟩
        rw [List.append_nil]
        exact .late hlen hsup ⟨answer, hwait⟩
          (Nat.le_of_not_lt (mt (ticks_left_iff ticks ocr l).mpr hlate))
    · refine ⟨none, ?_, rfl⟩
      rw [List.append_nil]
      exact .unsupported hlen hno
  · rintro ⟨card, hprobe, rfl⟩
    cases hprobe with
    | unsupported hlen h =>
      exact ⟨n, _, [], (List.append_nil n).symm, ⟨hlen, rfl⟩, Or.inr ⟨h, rfl, rfl⟩⟩
    | @late ocr l hlen h hwait htime =>
      obtain ⟨answer, hwait⟩ := hwait
      refine ⟨ocr, _, l, rfl, ⟨hlen, rfl⟩, Or.inl ⟨h, l, answer, [], (List.append_nil l).symm, hwait, ?_⟩⟩
      exact Or.inr ⟨mt (ticks_left_iff ticks ocr l).mp (Nat.not_lt.mpr htime), rfl, rfl⟩
    | @noOcr ocr l m res hlen h hwait htime hread hres =>
      obtain ⟨answer, hwait⟩ := hwait
      refine ⟨ocr, _, l ++ m, List.append_assoc _ _ _, ⟨hlen, rfl⟩,
        Or.inl ⟨h, l, answer, m, rfl, hwait, ?_⟩⟩
      exact Or.inl ⟨(ticks_left_iff ticks ocr l).mpr htime, m, res, [], (List.append_nil m).symm, hread,
        Or.inr ⟨hres, rfl, rfl⟩⟩
    | @identified ocr l m ocr' hlen h hwait htime hread hlen' =>
      obtain ⟨answer, hwait⟩ := hwait
      refine ⟨ocr, _, l ++ (m ++ ocr'), by simp, ⟨hlen, rfl⟩,
        Or.inl ⟨h, l, answer, m ++ ocr', rfl, hwait, ?_⟩⟩
      refine Or.inl ⟨(ticks_left_iff ticks ocr l).mpr htime, m, 0, ocr', rfl, hread, Or.inl ⟨rfl, ?_⟩⟩
      exact ⟨ocr', _, [], (List.append_nil ocr').symm, ⟨hlen', rfl⟩, rfl, (sd2_type ocr').symm⟩

theorem settle_follows (card : Card) (hcard : card = .sd1 ∨ card = .mmc) :
    Follows timer (settle card.type)
      (fun ticks l type => ∃ c, Settles card ticks l c ∧ type = typeOf c) := by
  obtain ⟨hquiet, hready⟩ := olderReady_interacts hcard
  refine Follows.congr (.bind hready hquiet fun _ => .test (fun left => left = 0) (fun _ => Iff.rfl)
    .done (.bind (sendCmd_follows cmd16 512) (sendCmd_quiet cmd16 512) fun _ => .done))
    fun ticks n type => ⟨?_, ?_⟩
  · rintro ⟨l, answer, _, rfl, hwait, ⟨hlate, rfl, rfl⟩ | ⟨htime, m, res, _, rfl, hlen, rfl, rfl⟩⟩
    · refine ⟨none, ?_, rfl⟩
      rw [List.append_nil]
      exact .late ⟨answer, hwait⟩ (Nat.le_of_sub_eq_zero hlate)
    · rw [List.append_nil]
      have htime : ticksOf l < ticks := Nat.lt_of_sub_ne_zero htime
      by_cases hres : res = 0
      · subst hres
        exact ⟨some card, .settled ⟨answer, hwait⟩ htime hlen, rfl⟩
      · exact ⟨none, .refused ⟨answer, hwait⟩ htime hlen hres, if_pos hres⟩
  · rintro ⟨c, hsettles, rfl⟩
    cases hsettles with
    | late hwait htime =>
      obtain ⟨answer, hwait⟩ := hwait
      exact ⟨n, answer, [], (List.append_nil n).symm, hwait,
        Or.inl ⟨Nat.sub_eq_zero_of_le htime, rfl, rfl⟩⟩
    | @refused l m res hwait htime hlen hres =>
      obtain ⟨answer, hwait⟩ := hwait
      exact ⟨l, answer, m, rfl, hwait, Or.inr ⟨Nat.sub_ne_zero_of_lt htime, m, res, [],
        (List.append_nil m).symm, hlen, rfl, (if_pos hres).symm⟩⟩
    | @settled l m hwait htime hlen =>
      obtain ⟨answer, hwait⟩ := hwait
      exact ⟨l, answer, m, rfl, hwait, Or.inr ⟨Nat.sub_ne_zero_of_lt htime, m, 0, [],
        (List.append_nil m).symm, hlen, rfl, rfl⟩⟩

theorem olderCard_type (answer : Option UInt8) :
    (if answer.any (· ≤ 1) then ctSd1 else ctMmc) = (olderCard answer).type := by
  unfold olderCard
  split <;> rfl

theorem olderCard_cases (answer : Option UInt8) :
    olderCard answer = .sd1 ∨ olderCard answer = .mmc := by
  unfold olderCard
  split
  · exact Or.inl rfl
  · exact Or.inr rfl

theorem probeOld_follows : Follows timer probeOld
    (fun ticks l type => ∃ card, OlderProbe ticks l card ∧ type = typeOf card) := by
  have hsettle (answer : Option UInt8) :
      Follows timer (settle (if answer.any (· ≤ 1) then ctSd1 else ctMmc))
        (fun ticks l type => ∃ c, Settles (olderCard answer) ticks l c ∧ type = typeOf c) := by
    rw [olderCard_type]
    exact settle_follows (olderCard answer) (olderCard_cases answer)
  refine Follows.congr (.bind (appOpCond_follows 0) (appOpCond_quiet 0) hsettle)
    fun ticks n type => ⟨?_, ?_⟩
  · rintro ⟨m, answer, n, rfl, hop, card, hsettles, rfl⟩
    exact ⟨card, ⟨hop, hsettles⟩, rfl⟩
  · rintro ⟨card, ⟨hop, hsettles⟩, rfl⟩
    exact ⟨_, _, _, rfl, hop, card, hsettles, rfl⟩

theorem probe_spoke : Interacts spoke probe := by
  have hready := untilReady_quiet (appOpCond_quiet 0x40000000) appOpCond_progress
  have hsd2 : Interacts quiet probeSd2 := .bind (rxBytes_quiet 4) fun _ => .ite
    (.bind hready fun _ => .test
      (.bind (sendCmd_quiet cmd58 0) fun _ => .ite
        (.bind (rxBytes_quiet 4) fun _ => .done quiet.refl) (.done quiet.refl))
      (.done quiet.refl))
    (.done quiet.refl)
  have hsettle (answer : Option UInt8) :
      Interacts quiet (settle (if answer.any (· ≤ 1) then ctSd1 else ctMmc)) := by
    rw [olderCard_type]
    exact .bind (olderReady_interacts (olderCard_cases answer)).1 fun _ => .test (.done quiet.refl)
      (.bind (sendCmd_quiet cmd16 512) fun _ => .done quiet.refl)
  have hold : Interacts quiet probeOld := .bind (appOpCond_quiet 0) hsettle
  have hsend cmd arg := spoke_of_quiet (sendCmd_quiet cmd arg)
  exact .bind (hsend cmd0 0) fun _ => .ite
    (.before (spoke_timer1 1000) (.bind (hsend cmd8 0x1AA) fun _ =>
      .ite (spoke_of_quiet hsd2) (spoke_of_quiet hold)))
    (.done spoke.refl)

/-- **The probe sequence**: the driver finds the type of the card that answers. -/
theorem probe_follows :
    Follows timer probe (fun _ l type => ∃ card, Probe l card ∧ type = typeOf card) := by
  refine Follows.congr (.bind (sendCmd_follows cmd0 0) (sendCmd_quiet cmd0 0) fun _ => .ite
    (.before (w := fun _ => 1000) (.bind (sendCmd_follows cmd8 0x1AA) (sendCmd_quiet cmd8 0x1AA)
      fun _ => .ite probeSd2_follows probeOld_follows) fun _ => rfl) .done) fun _ n type => ⟨?_, ?_⟩
  · rintro ⟨l, res, _, rfl, h, ⟨rfl, m, res', n, rfl, hcond, hprobe⟩ | ⟨hres, rfl, rfl⟩⟩
    · rw [← List.append_assoc]
      rcases hprobe with ⟨rfl, card, hprobe, rfl⟩ | ⟨hres, card, hprobe, rfl⟩
      · exact ⟨card, .sd2 h hcond hprobe, rfl⟩
      · exact ⟨card, .older h hcond hres hprobe, rfl⟩
    · rw [List.append_nil]
      exact ⟨none, .silent h hres, rfl⟩
  · rintro ⟨card, hprobe, rfl⟩
    cases hprobe with
    | silent h hres => exact ⟨n, _, [], (List.append_nil n).symm, h, Or.inr ⟨hres, rfl, rfl⟩⟩
    | @sd2 l m n _ h hcond hprobe =>
      exact ⟨l, 1, m ++ n, List.append_assoc _ _ _, h,
        Or.inl ⟨rfl, m, 1, n, rfl, hcond, Or.inl ⟨rfl, card, hprobe, rfl⟩⟩⟩
    | @older l m n res _ h hcond hres hprobe =>
      exact ⟨l, 1, m ++ n, List.append_assoc _ _ _, h,
        Or.inl ⟨rfl, m, res, n, rfl, hcond, Or.inr ⟨hres, card, hprobe, rfl⟩⟩⟩

/-! ## Initialisation -/

/-- While `SD_PowerOn` waits for the idle state, with `cnt` more answers after the first. -/
def Idles (cnt : Nat) (l : List Rx) : Prop := ∃ waiting last, l = waiting ++ [last] ∧
  (∀ r ∈ waiting, r.byte ≠ 0x01) ∧
    (last.byte = 0x01 ∧ waiting.length ≤ cnt ∨ waiting.length = cnt)

theorem idleWait_follows (cnt : Nat) : Follows timer (idleWait cnt) (fun _ l _ => Idles cnt l) := by
  induction cnt with
  | zero =>
    constructor
    · intro s rx _ s' rest hrun
      cases rx with
      | nil => cases hrun
      | cons r rx => cases hrun; exact ⟨[r], rfl, [], r, rfl, List.forall_mem_nil _, Or.inr rfl⟩
    · rintro s l ⟨⟩ ⟨waiting, last, rfl, -, hlast⟩ rest
      obtain rfl : waiting = [] := by
        rcases hlast with ⟨-, h⟩ | h
        · exact List.eq_nil_of_length_eq_zero (Nat.le_zero.mp h)
        · exact List.eq_nil_of_length_eq_zero h
      exact ⟨elapse s last, rfl⟩
  | succ cnt ih =>
    constructor
    · intro s rx _ s' rest hrun
      cases rx with
      | nil => cases hrun
      | cons r rx =>
        by_cases hr : r.byte ≠ 0x01
        · obtain ⟨_, rfl, waiting, last, rfl, hwaiting, hlast⟩ :=
            ih.cases ((if_pos hr).symm.trans hrun)
          refine ⟨r :: (waiting ++ [last]), rfl, r :: waiting, last, rfl,
            List.forall_mem_cons.mpr ⟨hr, hwaiting⟩, ?_⟩
          simpa using hlast
        · cases (if_neg hr).symm.trans hrun
          exact ⟨[r], rfl, [], r, rfl, List.forall_mem_nil _,
            Or.inl ⟨not_not.mp hr, Nat.zero_le _⟩⟩
    · rintro s l ⟨⟩ ⟨waiting, last, rfl, hwaiting, hlast⟩ rest
      cases waiting with
      | nil =>
        have hr : ¬ last.byte ≠ 0x01 := by
          rcases hlast with ⟨h, -⟩ | h
          · exact not_not.mpr h
          · simp at h
        exact ⟨elapse s last, if_neg hr⟩
      | cons r waiting =>
        rw [List.forall_mem_cons] at hwaiting
        obtain ⟨s', hs'⟩ := ih.runs (s := elapse s r) (a := ())
          ⟨waiting, last, rfl, hwaiting.2, by simpa using hlast⟩ rest
        exact ⟨s', (if_pos hwaiting.1).trans hs'⟩

/-- What `SD_PowerOn` leaves. -/
structure PoweredOn (s s' : Sd) : Prop where
  stat : s'.stat = s.stat
  cardType : s'.cardType = s.cardType
  powerFlag : s'.powerFlag = 1
  trace : ∃ bytes : List UInt8, s'.trace =
    s.trace ++ (.csWrite 1 :: (List.replicate 10 0xFF).map .tx ++ [.csWrite 0] ++
      bytes.map .tx ++ [.csWrite 1, .tx 0xFF])

theorem powerOn_cases {s s' : Sd} {rx rest : List Rx} (h : powerOn s rx = some ((), s', rest)) :
    PoweredOn s s' ∧ ∃ l, rx = l ++ rest ∧ Idles 0x1FFF l := by
  obtain ⟨⟨_, s₁, mid⟩, hidle, heq⟩ := Option.bind_eq_some_iff.mp h
  cases heq
  obtain ⟨l, rfl, hl⟩ := (idleWait_follows 0x1FFF).cases hidle
  have hquiet : Quiet _ l s₁ := (idleWait_quiet 0x1FFF).rel_of_run hidle
  obtain ⟨bytes, hbytes⟩ := hquiet.sent
  refine ⟨⟨hquiet.stat, hquiet.cardType, rfl, frame cmd0 0 ++ bytes, ?_⟩, l, rfl, hl⟩
  show (s₁.trace ++ [.csWrite 1]) ++ [.tx 0xFF] = _
  rw [hbytes]
  simp [spiTxBuffer, select, deselect]

theorem powerOn_runs {l : List Rx} (hl : Idles 0x1FFF l) (s : Sd) (rest : List Rx) :
    ∃ s', powerOn s (l ++ rest) = some ((), s', rest) := by
  obtain ⟨s₁, hidle⟩ := (idleWait_follows 0x1FFF).runs (a := ()) hl rest
  exact ⟨_, Option.bind_eq_some_iff.mpr ⟨_, hidle, rfl⟩⟩

/-- The steps of `SD_disk_initialize` for the drive that there is. -/
theorem diskInitialize_iff {s s' : Sd} {rx rest : List Rx} {res : UInt8}
    (hdisk : s.stat &&& staNodisk = 0) : diskInitialize 0 s rx = some (res, s', rest) ↔
      ∃ s₁ mid type s₂ last, powerOn s rx = some ((), s₁, mid) ∧
        probe (select s₁) mid = some (type, s₂, last :: rest) ∧
        s' = conclude type (elapse (deselect { s₂ with cardType := type }) last) ∧ res = s'.stat := by
  have hdrv : ¬ (0 : UInt8) ≠ 0 := not_not.mpr rfl
  constructor
  · intro h
    replace h := (if_neg (not_not.mpr hdisk)).symm.trans ((if_neg hdrv).symm.trans h)
    obtain ⟨⟨⟨⟩, s₁, mid⟩, hpower, h⟩ := Option.bind_eq_some_iff.mp h
    obtain ⟨⟨type, s₂, mid'⟩, hprobe, h⟩ := Option.bind_eq_some_iff.mp h
    obtain ⟨⟨_, s₃, after⟩, hlast, h⟩ := Option.bind_eq_some_iff.mp h
    cases mid' with
    | nil => cases hlast
    | cons last mid' =>
      cases hlast
      cases h
      exact ⟨s₁, mid, type, s₂, last, hpower, hprobe, rfl, rfl⟩
  · rintro ⟨s₁, mid, type, s₂, last, hpower, hprobe, rfl, rfl⟩
    refine (if_neg hdrv).trans ((if_neg (not_not.mpr hdisk)).trans ?_)
    exact Option.bind_eq_some_iff.mpr ⟨_, hpower, Option.bind_eq_some_iff.mpr ⟨_, hprobe,
      Option.bind_eq_some_iff.mpr ⟨_, rfl, rfl⟩⟩⟩

/-- What is received during an initialisation that finds `card`. -/
def Detects (card : Option Card) (l : List Rx) : Prop :=
  ∃ pow m last, l = pow ++ m ++ [last] ∧ Idles 0x1FFF pow ∧ Probe m card

/-- What an initialisation that found `card` leaves in the status variables. -/
structure Found (card : Option Card) (s s' : Sd) : Prop where
  cardType : s'.cardType = typeOf card
  stat : s'.stat = if card = none then s.stat else s.stat &&& ~~~staNoinit
  powerFlag : s'.powerFlag = if card = none then 0 else 1

theorem found_conclude {card : Option Card} {s s' : Sd} (hstat : s'.stat = s.stat)
    (hpower : s'.powerFlag = 1) (htype : s'.cardType = typeOf card) :
    Found card s (conclude (typeOf card) s') := by
  by_cases hcard : card = none
  · have htype' : ¬ typeOf card ≠ 0 := not_not.mpr ((typeOf_eq_zero_iff card).mpr hcard)
    have hoff : conclude (typeOf card) s' = powerOff s' := if_neg htype'
    rw [hoff]
    exact ⟨htype, hstat.trans (if_pos hcard).symm, (if_pos hcard).symm⟩
  · have htype' : typeOf card ≠ 0 := mt (typeOf_eq_zero_iff card).mp hcard
    have hon : conclude (typeOf card) s' = { s' with stat := s'.stat &&& ~~~staNoinit } :=
      if_pos htype'
    rw [hon]
    exact ⟨htype, (congrArg (· &&& ~~~staNoinit) hstat).trans (if_neg hcard).symm,
      hpower.trans (if_neg hcard).symm⟩

/-- **An initialisation** finds the card that answered. -/
theorem diskInitialize_cases {s s' : Sd} {rx rest : List Rx} {res : UInt8}
    (hdisk : s.stat &&& staNodisk = 0) (h : diskInitialize 0 s rx = some (res, s', rest)) :
    ∃ card l, rx = l ++ rest ∧ Detects card l ∧ Found card s s' ∧ res = s'.stat := by
  obtain ⟨s₁, mid, type, s₂, last, hpower, hprobe, rfl, rfl⟩ := (diskInitialize_iff hdisk).mp h
  obtain ⟨hon, pow, rfl, hidles⟩ := powerOn_cases hpower
  obtain ⟨m, rfl, card, hcard, rfl⟩ := probe_follows.cases hprobe
  have hspoke : Spoke (select s₁) s₂ := probe_spoke.rel_of_run hprobe
  refine ⟨card, pow ++ m ++ [last], by simp, ⟨pow, m, last, rfl, hidles, hcard⟩, ?_, rfl⟩
  exact found_conclude (hspoke.stat.trans hon.stat) (hspoke.powerFlag.trans hon.powerFlag) rfl

/-- **A card that answers** is found. -/
theorem diskInitialize_runs {card : Option Card} {l : List Rx} (hl : Detects card l) {s : Sd}
    (hdisk : s.stat &&& staNodisk = 0) (rest : List Rx) :
    ∃ s', diskInitialize 0 s (l ++ rest) = some (s'.stat, s', rest) ∧ Found card s s' := by
  obtain ⟨pow, m, last, rfl, hidles, hcard⟩ := hl
  obtain ⟨s₁, hpower⟩ := powerOn_runs hidles s (m ++ last :: rest)
  obtain ⟨s₂, hprobe⟩ := probe_follows.runs (s := select s₁) ⟨card, hcard, rfl⟩ (last :: rest)
  have hspoke : Spoke (select s₁) s₂ := probe_spoke.rel_of_run hprobe
  obtain ⟨hon, -⟩ := powerOn_cases hpower
  refine ⟨_, (diskInitialize_iff hdisk).mpr ⟨s₁, _, _, s₂, last, ?_, hprobe, rfl, rfl⟩, ?_⟩
  · simpa using hpower
  · exact found_conclude (hspoke.stat.trans hon.stat) (hspoke.powerFlag.trans hon.powerFlag) rfl

/-! A card of version 2 that answers at once, a byte a tick. -/

/-- `res`, at once. -/
def prompt (res : UInt8) : List Rx := [⟨0xFF, 1⟩, ⟨res, 1⟩]

theorem answers_prompt {cmd res : UInt8} (hcmd : cmd ≠ cmd12) (hres : res &&& 0x80 = 0) :
    Answers cmd res (prompt res) :=
  ⟨.answered promptReady promptReady_ready [] [] ⟨res, 1⟩ (if_neg hcmd).symm (List.forall_mem_nil _)
    (Or.inl ⟨hres, Nat.zero_le 9⟩), rfl, rfl⟩

/-- The rest of the response to `CMD8`. -/
def promptCheck : List Rx := [⟨0x00, 1⟩, ⟨0x00, 1⟩, ⟨0x01, 1⟩, ⟨0xAA, 1⟩]

/-- The OCR. -/
def promptOcr (block : Bool) : List Rx :=
  [⟨if block then 0xC0 else 0x80, 1⟩, ⟨0xFF, 1⟩, ⟨0x80, 1⟩, ⟨0x00, 1⟩]

/-- All it sends during an initialisation. -/
def promptSd2 (block : Bool) : List Rx :=
  [⟨0x01, 1⟩] ++ (prompt 1 ++ prompt 1 ++
    (promptCheck ++ (prompt 1 ++ prompt 0) ++ prompt 0 ++ promptOcr block)) ++ [⟨0xFF, 1⟩]

theorem detects_promptSd2 (block : Bool) : Detects (some (.sd2 block)) (promptSd2 block) := by
  have hccs : ccs (promptOcr block) = block := by cases block <;> rfl
  have hready : UntilReady AppOpCond (1000 - ticksOf (prompt 1) - ticksOf promptCheck)
      (prompt 1 ++ prompt 0) :=
    ⟨some 0, .last (.answered (answers_prompt (by decide) rfl) (by decide)
      (answers_prompt (by decide) rfl)) rfl⟩
  have hprobe : Sd2Probe (1000 - ticksOf (prompt 1))
      (promptCheck ++ (prompt 1 ++ prompt 0) ++ prompt 0 ++ promptOcr block)
      (some (.sd2 (ccs (promptOcr block)))) :=
    .identified rfl ⟨rfl, rfl⟩ hready (by decide) (answers_prompt (by decide) rfl) rfl
  rw [hccs] at hprobe
  refine ⟨_, _, _, rfl, ⟨[], ⟨0x01, 1⟩, rfl, List.forall_mem_nil _, Or.inl ⟨rfl, Nat.zero_le _⟩⟩, ?_⟩
  exact .sd2 (answers_prompt (by decide) rfl) (answers_prompt (by decide) rfl) hprobe

end GenLogger.SdCard
