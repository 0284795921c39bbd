import GenLogger.Config.Bounds
import GenLogger.Config.Period

/-!
# The name ends

Three places copy into `loggerName`: the parser, which cuts a token to 95 bytes and stores a
terminator; the payload of the key `N`, which `strncpy` copies with the full size of the field; and
the default record. A payload is cut to 95 bytes before, by `getSerialBuffer`, so the copy is padded
with a NUL.

Results:
* `assignFields_nameEnds`, `enterPayload_nameEnds`: the parser's clamp and the payload's.
* `nameEnds_preserved`: so the name ends within its array in every state of every run (`NameEnds`).
* `storedWhole_of_nameEnds`: such a record is printed whole into the array of the `S` command, stored
  with a NUL behind it, and `retrieveMetadata` finds it terminated when it reads it again
  (`FindsTerminated`).
* `stored_whole`: the two together, over any files and any lines.
-/

namespace GenLogger.Config

open GenLogger.Lib GenLogger.Platform

variable {σ ρ : Type}

/-- The name has its terminator within the array. -/
def NameEnds (m : LoggerMetadata) : Prop := (0 : Byte) ∈ m.loggerName.bytes

variable {pl : Platform} {fs : FileHandler σ} {clock : RtcInterface ρ}

/-! ## The places that copy a name -/

theorem putName_ends (name : CBuf loggerNameLenght) (token : List Byte) :
    (0 : Byte) ∈ (putName name token).bytes := List.mem_append_right _ List.mem_cons_self

/-- The parser's clamp. -/
theorem assignFields_nameEnds {m : LoggerMetadata} (h : NameEnds m) (ts : List (List Byte)) :
    NameEnds (assignFields pl 0 ts m) := by
  cases ts with
  | nil => exact h
  | cons t ts =>
    unfold NameEnds
    rw [assignFields_loggerName]
    exact putName_ends m.loggerName t

theorem retrieved_nameEnds {st st' : InternalStorage σ} {ret : Bool}
    (h : Retrieved pl fs st st' ret) (hm : NameEnds st.metadata) : NameEnds st'.metadata := by
  cases h with
  | failed _ hm' _ => rw [hm']; exact hm
  | created _ hm' _ => rw [hm']; exact putName_ends _ _
  | loaded _ _ _ hm' _ => rw [hm']; exact assignFields_nameEnds hm _

/-- The payload of a key: only that of `N` is copied into the name, and it leaves room for a NUL. -/
theorem enterPayload_nameEnds {buff : CStr} (hlen : buff.bytes.length < loggerNameLenght)
    {c : ConfigSubsystem σ ρ} (hm : NameEnds c.metadata) :
    NameEnds (enterPayload pl clock buff c).metadata := by
  unfold enterPayload
  split
  · obtain ⟨r, hr⟩ := CBuf.strncpy_bytes c.metadata.loggerName hlen
    show (0 : Byte) ∈ (c.metadata.loggerName.strncpy buff).bytes
    rw [hr]
    exact List.mem_append_right _ List.mem_cons_self
  · unfold enterTime
    split
    · exact hm
    · dsimp only
      split <;> exact hm
  · unfold enterFile
    split <;> exact hm
  · unfold enterPeriod
    split <;> exact hm
  · unfold enterPeriod
    split <;> exact hm
  · exact hm

/-! ## A call, a boot, a run -/

/-- **A call of `handler`** with a payload that leaves room for a NUL. -/
theorem handler_nameEnds {sig : TerminalSignal} {buff : Option CStr} {ticks : Ticks}
    {c c' : ConfigSubsystem σ ρ} (hlen : ∀ b, buff = some b → b.bytes.length < loggerNameLenght)
    (hm : NameEnds c.metadata) (h : handler pl fs clock sig buff ticks c = .ok c') :
    NameEnds c'.metadata := by
  unfold ConfigSubsystem.metadata at hm ⊢
  cases handler_cases h with
  | stay _ _ hs _ => rw [hs]; exact hm
  | move _ _ hs _ => rw [hs]; exact hm
  | info _ _ ret hret _ => exact retrieved_nameEnds (retrieveMetadata_cases hret).2.2 hm
  | payload _ _ b hb hp =>
    rw [hp]
    exact enterPayload_nameEnds (hlen b hb) hm
  | store _ _ hst =>
    obtain ⟨-, d, hd⟩ := storeCommand_storage hst
    rw [hd]
    exact hm

/-- `getSerialBuffer` cuts every line it hands on. -/
theorem dispatched_length {s : System σ ρ} {sig : TerminalSignal} {b : CStr}
    (h : (dispatched s).1 = .call sig (some b)) : b.bytes.length < configBuffSize := by
  unfold dispatched at h
  rcases taskSignal s with ⟨processInput, signal, serial⟩
  dsimp only at h
  split at h
  · split at h
    · cases h
    · unfold Serial.getSerialBuffer at h
      split at h
      · cases h
      · cases h
        rw [CStr.truncate_bytes, List.length_take]
        exact Nat.lt_of_le_of_lt (Nat.min_le_left _ _) (by decide)
  · cases h

/-- **A call of `configurationTask`**, with any line. -/
theorem configurationTask_nameEnds {ticks : Ticks} {s s' : System σ ρ}
    (hm : NameEnds s.config.metadata) (h : configurationTask pl fs clock ticks s = .ok s') :
    NameEnds s'.config.metadata := by
  cases configurationTask_cases h with
  | nothing _ hc _ => rw [hc]; exact hm
  | idle _ hup => rw [(updatePeriod_cases hup).1]; exact hm
  | @call sig buff config hd hh hup =>
    have hconfig : NameEnds config.metadata := by
      refine handler_nameEnds (fun b hb => ?_) hm hh
      rw [hb] at hd
      exact dispatched_length hd
    rw [(updatePeriod_cases hup).1]
    exact hconfig

/-- **A boot**, from any device. -/
theorem main_nameEnds {device : σ} {rtc : ρ} {ticks : Ticks} {s' : System σ ρ}
    (h : main pl fs clock ticks (powerOn device rtc) = .ok s') : NameEnds s'.config.metadata := by
  obtain ⟨hfs, -⟩ := main_cases h
  exact retrieved_nameEnds (initFS_period hfs).1 (List.mem_replicate.mpr ⟨by decide, rfl⟩)

theorem nameEnds_preserved :
    Preserved (Step pl fs clock) fun s : System σ ρ => NameEnds s.config.metadata := by
  intro s i s' hm h
  cases h with
  | task h =>
    rename_i line ticks
    exact configurationTask_nameEnds (s := s.receive line) hm h
  | boot h => exact main_nameEnds h

/-! ## What the `S` command stores -/

/-- `retrieveMetadata` parses the buffer it has read, and there is a NUL in it. -/
structure FindsTerminated (pl : Platform) (fs : FileHandler σ) (st : InternalStorage σ) : Prop where
  terminated : (0 : Byte) ∈ (readBuffer fs st).bytes
  parses : retrieveMetadata pl fs st =
    (parseMetadataBuffer pl (readBuffer fs st) st.metadata).map fun r =>
      (true, { st with
        metadata := r.2.1
        metadataBuffer := r.2.2
        fileSystem := afterRead fs st })

/-- A record with this name is printed whole, with its terminator, into the array of the `S` command;
the array ends in a NUL and is shorter than the buffer it will be read into; and `retrieveMetadata` finds a
terminated buffer, wherever the file begins with the array and so after every store that succeeds. -/
structure StoredWhole (pl : Platform) (fs : FileHandler σ) (name : CStr) (m : LoggerMetadata) :
    Prop where
  fits : (metadataText name m).length + 1 ≤ sizeofLoggerMetadata
  whole : ∃ r, (metadataArray name m).bytes = metadataText name m ++ 0 :: r
  ends : (metadataArray name m).bytes.getLast? = some 0
  short : (metadataArray name m).bytes.length < metadataBufferSize
  found : ∀ (d : σ) (c : List Byte), (metadataArray name m).bytes <+: c → HoldsFile fs d (some c) →
    ∀ m₀ flag b₀, FindsTerminated pl fs ⟨m₀, flag, b₀, true, d⟩
  reloads : ∀ (M : Medium fs) (st st' : InternalStorage σ) (ret : Bool), M.Idle st.fileSystem →
    storeMetadata fs (metadataArray name m).bytes st = .ok (ret, st') →
    ∀ m₀ flag b₀, FindsTerminated pl fs ⟨m₀, flag, b₀, true, st'.fileSystem⟩

/-- A name that ends in its array, four numbers and a terminator fit the array of the `S` command. -/
theorem metadataText_fits {m₀ : LoggerMetadata} {name : CStr} (h : m₀.loggerName.cstr = .ok name)
    (m : LoggerMetadata) : (metadataText name m).length + 1 ≤ sizeofLoggerMetadata := by
  have hname := CBuf.cstr_length h
  have htext := metadataText_length name m
  simp only [loggerNameLenght, sizeofLoggerMetadata] at hname ⊢
  omega

/-- A text that fits is printed whole into a zeroed array, and zeros stay behind it. -/
theorem metadataArray_bytes {name : CStr} {m : LoggerMetadata}
    (hfits : (metadataText name m).length + 1 ≤ sizeofLoggerMetadata) :
    (metadataArray name m).bytes = metadataText name m ++
      List.replicate (sizeofLoggerMetadata - (metadataText name m).length) 0 := by
  have hrest : sizeofLoggerMetadata - (metadataText name m).length =
      sizeofLoggerMetadata - ((metadataText name m).length + 1) + 1 := by omega
  unfold metadataArray CBuf.snprintf
  rw [dif_pos (by decide), CBuf.fill_bytes, List.take_of_length_le (Nat.le_sub_of_add_le hfits)]
  show metadataText name m ++ [0] ++
    (List.replicate sizeofLoggerMetadata 0).drop (metadataText name m ++ [0]).length = _
  rw [List.drop_replicate, List.length_append, hrest, List.replicate_succ, List.append_assoc]
  rfl

/-- A file that begins with the array is read with the array's NUL, and parsed. -/
theorem found_stored (pl : Platform) {d : σ} {bs c : List Byte} (h0 : (0 : Byte) ∈ bs)
    (hlen : bs.length < metadataBufferSize) (hc : bs <+: c) (hfile : HoldsFile fs d (some c))
    (m₀ : LoggerMetadata) (flag : Bool) (b₀ : CBuf metadataBufferSize) :
    FindsTerminated pl fs ⟨m₀, flag, b₀, true, d⟩ := by
  obtain ⟨hopen, hret, hbytes⟩ := readBuffer_file ⟨m₀, flag, b₀, true, d⟩ hfile
  have hne : c ≠ [] := List.ne_nil_of_mem (hc.subset h0)
  refine ⟨?_, retrieveMetadata_loaded pl _ rfl hopen (hret.mpr hne)⟩
  rw [hbytes]
  have hread : bs <+: c.take metadataBufferSize :=
    List.prefix_take_iff.mpr ⟨hc, Nat.le_of_lt hlen⟩
  exact List.mem_append_left _ (hread.subset h0)

/-- **A record whose name ends is stored whole.** -/
theorem storedWhole_of_nameEnds {m₀ : LoggerMetadata} {name : CStr}
    (h : m₀.loggerName.cstr = .ok name) (m : LoggerMetadata) : StoredWhole pl fs name m := by
  have hfits := metadataText_fits h m
  have hbytes := metadataArray_bytes hfits
  obtain ⟨k, hk⟩ : ∃ k, sizeofLoggerMetadata - (metadataText name m).length = k + 1 :=
    ⟨_, (Nat.succ_pred_eq_of_pos (by omega)).symm⟩
  rw [hk] at hbytes
  have h0 : (0 : Byte) ∈ (metadataArray name m).bytes := by
    rw [hbytes]
    exact List.mem_append_right _ List.mem_cons_self
  have hshort : (metadataArray name m).bytes.length < metadataBufferSize := by
    rw [(metadataArray name m).size]
    decide
  refine ⟨hfits, ⟨_, hbytes⟩, ?_, hshort, ?_, ?_⟩
  · rw [hbytes, List.replicate_succ', ← List.append_assoc, List.getLast?_concat]
  · intro d c hc hfile m₀ flag b₀
    exact found_stored pl h0 hshort hc hfile m₀ flag b₀
  · intro M st st' ret hidle hst m₀ flag b₀
    obtain ⟨d, rest, hstore, hidle', hcontent⟩ :=
      storeMetadata_writes M (storeMetadata_init hst) hidle (metadataArray name m).bytes
    cases hst.symm.trans hstore
    have hfile := holdsFile_content M hidle'
    rw [hcontent] at hfile
    exact found_stored pl h0 hshort (List.prefix_append _ rest) hfile m₀ flag b₀

/-- **No stored record is truncated.** In every state of every run, over any files and any lines, the
name ends within its array; the `S` command hands the array of this name to `storeMetadata`; and a record
is stored whole under it whatever its numbers. -/
theorem stored_whole {device : σ} {rtc : ρ} {ts : List (Taken (System σ ρ) (Input σ ρ))}
    {s : System σ ρ} (h : Run (Step pl fs clock) (powerOn device rtc) ts s) :
    ∃ name, s.config.metadata.loggerName.cstr = .ok name ∧
      (∀ c', storeCommand pl fs s.config = .ok c' → ∃ ret,
        storeMetadata fs (metadataArray name s.config.metadata).bytes s.config.storage =
          .ok (ret, c'.storage)) ∧
      ∀ m, StoredWhole pl fs name m := by
  have hstatic : NameEnds (powerOn device rtc).config.metadata :=
    List.mem_replicate.mpr ⟨by decide, rfl⟩
  have hends : NameEnds s.config.metadata :=
    h.invariant (I := fun s => NameEnds s.config.metadata) nameEnds_preserved hstatic
  have hname : s.config.metadata.loggerName.cstr =
      .ok (CStr.ofBytes s.config.metadata.loggerName.bytes) := if_pos hends
  refine ⟨_, hname, ?_, storedWhole_of_nameEnds hname⟩
  intro c' hc
  obtain ⟨name, ret, hname', hstore, -⟩ := storeCommand_ok hc
  cases hname.symm.trans hname'
  exact ⟨ret, hstore⟩

/-- The record of the first boot of a host is stored whole. -/
theorem stored_whole_firstBoot : ∃ s name,
    Run (Step .host cFileHandler blankClock) (powerOn ⟨none, none⟩ ()) [bootOf ⟨none, none⟩ s] s ∧
      s.config.metadata.loggerName.cstr = .ok name ∧
      StoredWhole .host cFileHandler name s.config.metadata := by
  obtain ⟨s, h, -⟩ := hostFirstBoot ⟨0, 0⟩
  have hrun : Run (Step .host cFileHandler blankClock) (powerOn ⟨none, none⟩ ())
    [bootOf ⟨none, none⟩ s] s := .cons (.boot h) (.nil s)
  obtain ⟨name, hname, -, hstored⟩ := stored_whole hrun
  exact ⟨s, name, hrun, hname, hstored _⟩

end GenLogger.Config
