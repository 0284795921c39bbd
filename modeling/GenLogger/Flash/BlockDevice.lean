import GenLogger.Flash.Chip

/-!
# The block device of LittleFS (`littleFSInterface.cpp`)

LittleFS sees the flash as blocks: its callbacks turn a block and an offset into an address and call
the flash driver. They pass their 32-bit sizes on to 16-bit parameters, and return `0` whatever
happens: `page_program` drops more than 256 bytes, and a size of 65536 arrives as `0`.

* `Request` is a range of a block, in pages, as `cfg` promises LittleFS.
* `Faithful` is what the callbacks are for: erasing, then programming and reading the range, on
  whatever the flash holds, does what the results say.

Results:
* `w25q64Erase_chip`, `w25q64Prog_chip`, `w25q64Read_chip`: what each callback does to the chip.
* `bytesAt_programmed`: what was erased holds what is written to it.
* `flash_faithful_iff`: the callbacks are faithful exactly on the requests that the 16-bit sizes and
  the page limit let through (`Fits`).
-/

namespace GenLogger.Flash

open GenLogger.Lib

/-! ## The callbacks -/

/-- The sizes in `struct lfs_config`. -/
structure LfsConfig where
  readSize : UInt32
  progSize : UInt32
  blockSize : UInt32
  blockCount : UInt32
  deriving Repr, DecidableEq

/-- `cfg`. -/
def cfg : LfsConfig where
  readSize := 256
  progSize := 256
  blockSize := 65536
  blockCount := 128

section

variable {σ ι : Type} (dev : Spi σ ι)

/-- `w25q64_read`: its result, and what is at `buffer` then. -/
def w25q64Read (c : LfsConfig) (block off : UInt32) (buffer : List UInt8) (size : UInt32) (s : σ)
    (is : List ι) : Option ((Int × List UInt8) × σ × List ι) := do
  let (data, s, is) ← dev.readData (block * c.blockSize + off) size.toUInt16 s is
  some ((0, data ++ buffer.drop data.length), s, is)

/-- `w25q64_prog`. -/
def w25q64Prog (c : LfsConfig) (block off : UInt32) (buffer : List UInt8) (size : UInt32) (s : σ)
    (is : List ι) : Option (Int × σ × List ι) := do
  let ((), s, is) ← dev.pageProgram (block * c.blockSize + off) buffer size.toUInt16 s is
  some (0, s, is)

/-- `w25q64_erase`. -/
def w25q64Erase (c : LfsConfig) (block : UInt32) (s : σ) (is : List ι) :
    Option (Int × σ × List ι) := do
  let ((), s, is) ← dev.blockErase (block * c.blockSize) s is
  some (0, s, is)

end

/-! ## What they are asked for -/

/-- A range of a block, in pages. -/
@[mk_iff]
structure Request (block off size : UInt32) : Prop where
  hblock : block.toNat < cfg.blockCount.toNat
  hoff : off.toNat % cfg.progSize.toNat = 0
  hsize : size.toNat % cfg.progSize.toNat = 0
  hfits : off.toNat + size.toNat ≤ cfg.blockSize.toNat

instance (block off size : UInt32) : Decidable (Request block off size) :=
  decidable_of_iff' _ (request_iff block off size)

/-- Where it is in the memory. -/
def base (block off : UInt32) : Nat := cfg.blockSize.toNat * block.toNat + off.toNat

/-- `data` written from an address on: it clears bits. -/
def programmed (addr : Nat) (data : List UInt8) (mem : Nat → UInt8) (x : Nat) : UInt8 :=
  if addr ≤ x then (data[x - addr]?).elim (mem x) (mem x &&& ·) else mem x

/-- The bytes from an address on. -/
def bytesAt (mem : Nat → UInt8) (addr n : Nat) : List UInt8 := (List.range n).map fun i => mem (addr + i)

variable {block off size : UInt32}

theorem Request.base_lt (h : Request block off size) : base block off + size.toNat ≤ 0x800000 := by
  have hblock : block.toNat < 128 := h.hblock
  have hfits : off.toNat + size.toNat ≤ 65536 := h.hfits
  show 65536 * block.toNat + off.toNat + size.toNat ≤ _
  omega

theorem Request.base_mod (h : Request block off size) : base block off % 256 = 0 := by
  have hoff : off.toNat % 256 = 0 := h.hoff
  show (65536 * block.toNat + off.toNat) % 256 = 0
  omega

/-- The address does not overflow. -/
theorem Request.address (h : Request block off size) :
    (block * cfg.blockSize + off).toNat = base block off := by
  have hlt := h.base_lt
  unfold base at hlt ⊢
  rw [UInt32.toNat_add, UInt32.toNat_mul, Nat.mul_comm]
  omega

/-- A size is kept, except that of a whole block. -/
theorem Request.toUInt16 (h : Request block off size) :
    size.toUInt16.toNat = if size.toNat < 65536 then size.toNat else 0 := by
  have hfits : off.toNat + size.toNat ≤ 65536 := h.hfits
  rw [UInt32.toNat_toUInt16]
  split
  · omega
  · omega

/-- What `page_program` gets: the page, too much, or nothing. -/
theorem Request.page_cases (h : Request block off size) :
    (size.toNat ≤ 256 ∧ ¬ size.toUInt16 > 256 ∧ size.toUInt16.toNat = size.toNat) ∨
      (¬ size.toNat ≤ 256 ∧
        (size.toUInt16 > 256 ∨ (¬ size.toUInt16 > 256 ∧ size.toUInt16.toNat = 0))) := by
  have hsent := h.toUInt16
  have hpage : size.toUInt16 > 256 ↔ 256 < size.toUInt16.toNat := by
    rw [gt_iff_lt, UInt16.lt_iff_toNat_lt]
    exact Iff.rfl
  rw [hpage, hsent]
  by_cases hwhole : size.toNat < 65536
  · rw [if_pos hwhole]
    omega
  · rw [if_neg hwhole]
    omega

/-! ## Bytes -/

section

variable {addr x : Nat} {data : List UInt8} {mem : Nat → UInt8}

theorem programmed_inside {i : Nat} (hi : i < data.length) :
    programmed addr data mem (addr + i) = mem (addr + i) &&& data[i] := by
  rw [programmed, if_pos (Nat.le_add_right addr i), Nat.add_sub_cancel_left, List.getElem?_eq_getElem hi]
  rfl

theorem programmed_outside (hx : x < addr ∨ addr + data.length ≤ x) :
    programmed addr data mem x = mem x := by
  unfold programmed
  split
  · rw [List.getElem?_eq_none (by omega)]
    rfl
  · rfl

/-- `0xFF` clears nothing. -/
theorem programmed_blank (hdata : ∀ b ∈ data, b = 0xFF) : programmed addr data mem = mem := by
  funext x
  by_cases hx : x < addr ∨ addr + data.length ≤ x
  · exact programmed_outside hx
  · obtain ⟨i, rfl⟩ := Nat.exists_eq_add_of_le (show addr ≤ x by omega)
    have hi : i < data.length := by omega
    rw [programmed_inside hi, hdata _ (List.getElem_mem hi)]
    exact UInt8.and_neg_one

/-- What was erased holds what is written to it. -/
theorem bytesAt_programmed (herased : ∀ i < data.length, mem (addr + i) = 0xFF) {k n : Nat}
    (hfits : k + n ≤ data.length) :
    bytesAt (programmed addr data mem) (addr + k) n = (data.drop k).take n := by
  have hlength : ((data.drop k).take n).length = n := by
    rw [List.length_take, List.length_drop]
    omega
  refine List.ext_getElem (by rw [bytesAt, List.length_map, List.length_range, hlength]) fun i hi hi' => ?_
  have hin : k + i < data.length := by omega
  have hwritten : programmed addr data mem (addr + (k + i)) = data[k + i] := by
    rw [programmed_inside hin, herased _ hin]
    exact UInt8.neg_one_and
  simpa [bytesAt, Nat.add_assoc] using hwritten

end

/-! ## What they do -/

/-- **Erasing** changes exactly the bytes of the block. -/
theorem w25q64Erase_chip (hblock : block.toNat < cfg.blockCount.toNat) {s : Chip} (h : s.Ready) :
    Ends (w25q64Erase chip cfg block) s fun code s' => code = 0 ∧ s'.Ready ∧
      ∀ x, s'.mem x = if x / 0x10000 = block.toNat then 0xFF else s.mem x := by
  refine ((blockErase_chip h (block * cfg.blockSize)).map fun _ => (0 : Int)).mono ?_
  rintro _ s' ⟨_, rfl, hready, hmem⟩
  refine ⟨rfl, hready, fun x => ?_⟩
  have hlt : block.toNat < 128 := hblock
  have haddr : (block * cfg.blockSize).toNat % 0x800000 / 0x10000 = block.toNat := by
    rw [UInt32.toNat_mul]
    show block.toNat * 65536 % 2 ^ 32 % 0x800000 / 0x10000 = _
    omega
  rw [hmem, eraseBlock, haddr]

/-- A page that starts at `addr`. -/
theorem programPage_aligned {addr : Nat} (haddr : addr % 256 = 0) {data : List UInt8}
    (hdata : data.length ≤ 256) (mem : Nat → UInt8) : programPage addr data mem = programmed addr data mem := by
  funext x
  unfold programPage programmed
  by_cases hpage : x / 0x100 = addr / 0x100
  · have hle : addr ≤ x := by omega
    have hindex : (x + 0x100 - addr % 0x100) % 0x100 = x - addr := by omega
    rw [if_pos hpage, if_pos hle, hindex]
  · rw [if_neg hpage]
    by_cases hle : addr ≤ x
    · have hout : data[x - addr]? = none := List.getElem?_eq_none (by omega)
      rw [if_pos hle, hout]
      rfl
    · rw [if_neg hle]

/-- **Programming** up to one page does what it is asked for, and more than that nothing. -/
theorem w25q64Prog_chip (hreq : Request block off size) {data : List UInt8}
    (hdata : data.length = size.toNat) {s : Chip} (h : s.Ready) :
    Ends (w25q64Prog chip cfg block off data size) s fun code s' => code = 0 ∧ s'.Ready ∧
      s'.mem = if size.toNat ≤ 256 then programmed (base block off) data s.mem else s.mem := by
  refine ((pageProgram_chip h (block * cfg.blockSize + off) data size.toUInt16).map
    fun _ => (0 : Int)).mono ?_
  rintro _ s' ⟨_, rfl, hready, hmem⟩
  refine ⟨rfl, hready, hmem.trans ?_⟩
  have hlt := hreq.base_lt
  rw [hreq.address]
  rcases hreq.page_cases with ⟨hsize, hpage, htake⟩ | ⟨hsize, hdrop⟩
  · have hall : data.take size.toUInt16.toNat = data := by
      rw [htake, ← hdata, List.take_length]
    rw [if_neg hpage, if_pos hsize, hall]
    by_cases hzero : size.toNat = 0
    · obtain rfl : data = [] := List.eq_nil_of_length_eq_zero (hdata.trans hzero)
      rw [programPage_nil, programmed_blank (List.forall_mem_nil _)]
    · rw [Nat.mod_eq_of_lt (show base block off < 0x800000 by omega)]
      exact programPage_aligned hreq.base_mod (hdata ▸ hsize) s.mem
  · rw [if_neg hsize]
    rcases hdrop with hpage | ⟨hpage, htake⟩
    · rw [if_pos hpage]
    · rw [if_neg hpage, htake]
      exact programPage_nil _ s.mem

/-- **Reading** less than a whole block does what it is asked for, and a whole block nothing. -/
theorem w25q64Read_chip (hreq : Request block off size) {buffer : List UInt8}
    (hbuffer : buffer.length = size.toNat) {s : Chip} (h : s.Ready) (is : List Bool) :
    w25q64Read chip cfg block off buffer size s is = some ((0,
      if size.toNat < 65536 then bytesAt s.mem (base block off) size.toNat else buffer), s, is) := by
  have hlt := hreq.base_lt
  refine (congrArg (· >>= _) (readData_chip h (block * cfg.blockSize + off) size.toUInt16 is)).trans ?_
  rw [hreq.address, hreq.toUInt16]
  by_cases hwhole : size.toNat < 65536
  · have hbytes : (List.range size.toNat).map (fun i =>
        s.mem ((base block off % 0x800000 + i) % 0x800000)) = bytesAt s.mem (base block off) size.toNat := by
      refine List.map_congr_left fun i hi => ?_
      have hin : i < size.toNat := List.mem_range.mp hi
      rw [show (base block off % 0x800000 + i) % 0x800000 = base block off + i by omega]
    have hrest : buffer.drop (bytesAt s.mem (base block off) size.toNat).length = [] := by
      rw [bytesAt, List.length_map, List.length_range, ← hbuffer, List.drop_length]
    rw [if_pos hwhole, if_pos hwhole, hbytes]
    show some ((0, _ ++ buffer.drop _), s, is) = _
    rw [hrest, List.append_nil]
  · rw [if_neg hwhole, if_neg hwhole]
    rfl

/-! ## Faithful callbacks -/

/-- Pages of `size` bytes at `off`, among those asked for. -/
structure Within (off size off' size' : UInt32) : Prop where
  hoff : off'.toNat % cfg.readSize.toNat = 0
  hsize : size'.toNat % cfg.readSize.toNat = 0
  hlow : off.toNat ≤ off'.toNat
  hhigh : off'.toNat + size'.toNat ≤ off.toNat + size.toNat

theorem Request.within (h : Request block off size) {off' size' : UInt32}
    (hin : Within off size off' size') : Request block off' size' where
  hblock := h.hblock
  hoff := hin.hoff
  hsize := hin.hsize
  hfits := Nat.le_trans hin.hhigh h.hfits

theorem Within.base_eq {off' size' : UInt32} (h : Within off size off' size') (block : UInt32) :
    base block off' = base block off + (off'.toNat - off.toNat) := by
  have hlow := h.hlow
  unfold base
  omega

/-- On whatever the flash holds, the callbacks do what they are asked for: a callback that returns `0`
carried out the whole request, and what is programmed where the flash was erased is read back. -/
structure Faithful (block off size : UInt32) (data : List UInt8) : Prop where
  erase {s : Chip} (h : s.Ready) : Ends (w25q64Erase chip cfg block) s fun code s' =>
    s'.Ready ∧ (code = 0 → ∀ x, s'.mem x = if x / 0x10000 = block.toNat then 0xFF else s.mem x)
  prog {s : Chip} (h : s.Ready) : Ends (w25q64Prog chip cfg block off data size) s fun code s' =>
    s'.Ready ∧ (code = 0 → s'.mem = programmed (base block off) data s.mem)
  read {s : Chip} (h : s.Ready) {buffer : List UInt8} (hbuffer : buffer.length = size.toNat) :
    Ends (w25q64Read chip cfg block off buffer size) s fun r s' => s'.Ready ∧ s'.mem = s.mem ∧
      (r.1 = 0 → r.2 = bytesAt s.mem (base block off) size.toNat)
  progRead {s : Chip} (h : s.Ready) (herased : ∀ i < size.toNat, s.mem (base block off + i) = 0xFF) :
    Ends (w25q64Prog chip cfg block off data size) s fun _ s₁ =>
      (∀ x, x < base block off ∨ base block off + size.toNat ≤ x → s₁.mem x = s.mem x) ∧
      ∀ {off' size' : UInt32}, Within off size off' size' →
      ∀ {buffer : List UInt8}, buffer.length = size'.toNat →
        Ends (w25q64Read chip cfg block off' buffer size') s₁ fun r s₂ => s₂.mem = s₁.mem ∧
          r.2 = (data.drop (off'.toNat - off.toNat)).take size'.toNat

/-- The requests on which the 16-bit sizes do no harm. -/
def Fits (size : UInt32) (data : List UInt8) : Prop :=
  size.toNat ≤ 256 ∨ size.toNat < 65536 ∧ ∀ b ∈ data, b = 0xFF

theorem Fits.lt {data : List UInt8} (h : Fits size data) : size.toNat < 65536 := by
  rcases h with hpage | ⟨hlt, -⟩
  · omega
  · exact hlt

/-- A request that fits is programmed. -/
theorem w25q64Prog_fits (hreq : Request block off size) {data : List UInt8}
    (hdata : data.length = size.toNat) (hfits : Fits size data) {s : Chip} (h : s.Ready) :
    Ends (w25q64Prog chip cfg block off data size) s fun code s' => code = 0 ∧ s'.Ready ∧
      s'.mem = programmed (base block off) data s.mem := by
  refine (w25q64Prog_chip hreq hdata h).mono ?_
  rintro code s' ⟨hcode, hready, hmem⟩
  refine ⟨hcode, hready, hmem.trans ?_⟩
  rcases hfits with hpage | ⟨-, hblank⟩
  · rw [if_pos hpage]
  · rw [programmed_blank hblank, ite_self]

/-- A request that fits is read. -/
theorem w25q64Read_fits (hreq : Request block off size) (hlt : size.toNat < 65536) {buffer : List UInt8}
    (hbuffer : buffer.length = size.toNat) {s : Chip} (h : s.Ready) :
    Ends (w25q64Read chip cfg block off buffer size) s fun r s' =>
      r = (0, bytesAt s.mem (base block off) size.toNat) ∧ s' = s := by
  have hread (is : List Bool) := (w25q64Read_chip hreq hbuffer h is).trans (by rw [if_pos hlt])
  exact .done hread ⟨rfl, rfl⟩

theorem Fits.faithful (hreq : Request block off size) {data : List UInt8}
    (hdata : data.length = size.toNat) (hfits : Fits size data) : Faithful block off size data where
  erase h := (w25q64Erase_chip hreq.hblock h).mono fun _ _ hend => ⟨hend.2.1, fun _ => hend.2.2⟩
  prog h := (w25q64Prog_fits hreq hdata hfits h).mono fun _ _ hend => ⟨hend.2.1, fun _ => hend.2.2⟩
  read h _ hbuffer := by
    refine (w25q64Read_fits hreq hfits.lt hbuffer h).mono ?_
    rintro _ _ ⟨rfl, rfl⟩
    exact ⟨h, rfl, fun _ => rfl⟩
  progRead h herased := by
    refine (w25q64Prog_fits hreq hdata hfits h).mono ?_
    rintro _ s₁ ⟨-, hready, hmem⟩
    refine ⟨fun x hx => ?_, fun {off' size'} hin _ hbuffer => ?_⟩
    · rw [hmem]
      exact programmed_outside (hdata ▸ hx)
    · have hhigh := hin.hhigh
      have hlow := hin.hlow
      have hsub := hfits.lt
      refine (w25q64Read_fits (hreq.within hin) (by omega) hbuffer hready).mono ?_
      rintro _ _ ⟨rfl, rfl⟩
      refine ⟨rfl, ?_⟩
      rw [hmem, hin.base_eq block]
      exact bytesAt_programmed (hdata ▸ herased) (by omega)

/-- A flash that was never written. -/
def blank : Chip where
  mem _ := 0xFF
  wel := false
  busy := false
  command := none

theorem blank_ready : blank.Ready := ⟨rfl, rfl⟩

theorem Faithful.fits (hreq : Request block off size) {data : List UInt8}
    (hdata : data.length = size.toNat) (h : Faithful block off size data) : Fits size data := by
  have hlt : size.toNat < 65536 := by
    by_contra hwhole
    -- nothing is read, and a buffer of zeros keeps them
    have hbuffer : (List.replicate size.toNat (0 : UInt8)).length = size.toNat := List.length_replicate
    have hrun := w25q64Read_chip hreq hbuffer blank_ready []
    rw [if_neg hwhole] at hrun
    have hread := ((h.read blank_ready hbuffer).holds hrun).2.2 rfl
    have hzero : (0 : UInt8) ∈ bytesAt blank.mem (base block off) size.toNat := by
      rw [← hread]
      exact List.mem_replicate.mpr ⟨by omega, rfl⟩
    obtain ⟨i, -, hi⟩ := List.mem_map.mp hzero
    cases hi
  by_cases hpage : size.toNat ≤ 256
  · exact .inl hpage
  · refine .inr ⟨hlt, fun b hb => ?_⟩
    obtain ⟨code, s, ⟨-, hprog⟩, hcode, -, hkept⟩ :=
      (h.prog blank_ready).both (w25q64Prog_chip hreq hdata blank_ready)
    rw [if_neg hpage] at hkept
    obtain ⟨i, hi, rfl⟩ := List.mem_iff_getElem.mp hb
    have hwritten := congrFun ((hprog hcode).symm.trans hkept) (base block off + i)
    rw [programmed_inside hi] at hwritten
    exact UInt8.neg_one_and.symm.trans hwritten

/-- **The block device**: the callbacks are faithful on a range of a block exactly if it is at most one page,
or less than the whole block and only `0xFF` is written to it. -/
theorem flash_faithful_iff (hreq : Request block off size) {data : List UInt8}
    (hdata : data.length = size.toNat) : Faithful block off size data ↔ Fits size data :=
  ⟨Faithful.fits hreq hdata, Fits.faithful hreq hdata⟩

/-- A page of zeros. -/
theorem flash_faithful_page : Faithful 127 65280 256 (List.replicate 256 0) :=
  (flash_faithful_iff (by decide) List.length_replicate).mpr (.inl (by decide))

/-- Two pages of zeros are dropped, a whole block is not read, and both calls return `0`. -/
theorem flash_pages_fail :
    (Request 0 0 512 ∧
      w25q64Prog chip cfg 0 0 (List.replicate 512 0) 512 blank [] = some (0, blank, []) ∧
      blank.mem ≠ programmed (base 0 0) (List.replicate 512 0) blank.mem ∧
      ¬ Faithful 0 0 512 (List.replicate 512 0)) ∧
    (Request 0 0 65536 ∧
      w25q64Read chip cfg 0 0 (List.replicate 65536 0) 65536 blank [] =
        some ((0, List.replicate 65536 0), blank, []) ∧
      blank.mem (base 0 0) = 0xFF ∧ ¬ Faithful 0 0 65536 (List.replicate 65536 0)) := by
  have hpages : Request 0 0 512 := by decide
  have hwhole : Request 0 0 65536 := by decide
  have hrun : w25q64Prog chip cfg 0 0 (List.replicate 512 0) 512 blank [] = some (0, blank, []) := rfl
  have hmem : blank.mem ≠ programmed (base 0 0) (List.replicate 512 0) blank.mem := by
    intro heq
    have hzero : programmed (base 0 0) (List.replicate 512 0) blank.mem 0 = 0 := rfl
    cases (congrFun heq 0).trans hzero
  have hblock : ¬ Faithful 0 0 65536 (List.replicate 65536 0) := fun h =>
    absurd (h.fits hwhole List.length_replicate).lt (by decide)
  exact ⟨⟨hpages, hrun, hmem, fun h => hmem (((h.prog blank_ready).holds hrun).2 rfl)⟩,
    hwhole, w25q64Read_chip hwhole List.length_replicate blank_ready [], rfl, hblock⟩

end GenLogger.Flash
