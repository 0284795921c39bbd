import GenLogger.Fat.Mount
import GenLogger.Lib.Packed
import GenLogger.Lib.Run

/-!
# The allocation table (`get_fat`, `put_fat`)

Model of the two functions of `ff.c` that read and write an entry, for the three types of volume. The
table as the volume has it is a number for each cluster (`Geometry.entry`), packed in the bytes of the
sectors from `fs->fatbase` on; the functions see it through a window of one sector.

* An entry of FAT12 may be in two sectors. A drive that fails between the two leaves the first half
  written: the entry is torn then, and no other.
* The four bits above an entry of FAT32 are kept as they are.
* `WindowOp` is whatever goes through the window, the directory sectors included.

Results:
* `getFat_spec`: `get_fat` leaves the volume as it is, and returns the entry or `0xFFFFFFFF` with the drive.
* `putFat_spec`: `put_fat` sets the entry where it succeeds, and never changes another one.
* `run_entry`, `run_getFat`: so what `put_fat` has stored is what `get_fat` gives after any run.
* `run_sync`: and after `sync_fs`, what who mounts the volume gets.
-/

namespace GenLogger.Fat

open GenLogger.Lib

variable {g : Geometry}

/-! ## `ff.c` -/

/-- `get_fat`: `1` where there is no such entry, `0xFFFFFFFF` where the drive fails. -/
def getFat (g : Geometry) (clst : Nat) (s : Fs) : Nat × Fs :=
  if clst < 2 ∨ g.nFatent ≤ clst then (1, s)
  else
    match g.fsType with
    | .fat12 =>
      let bc := clst + clst / 2
      let (res, s) := moveWindow g (g.fatbase + bc / g.ssize) s
      if res ≠ .ok then (0xFFFFFFFF, s)
      else
        let wc := (s.win (bc % g.ssize)).toNat
        let (res, s) := moveWindow g (g.fatbase + (bc + 1) / g.ssize) s
        if res ≠ .ok then (0xFFFFFFFF, s)
        else
          let wc := (s.win ((bc + 1) % g.ssize)).toNat <<< 8 ||| wc
          (if clst % 2 = 1 then wc >>> 4 else wc &&& 0xFFF, s)
    | .fat16 =>
      let (res, s) := moveWindow g (g.fatbase + clst / (g.ssize / 2)) s
      if res ≠ .ok then (0xFFFFFFFF, s) else (ldWord s.win (clst * 2 % g.ssize), s)
    | .fat32 =>
      let (res, s) := moveWindow g (g.fatbase + clst / (g.ssize / 4)) s
      if res ≠ .ok then (0xFFFFFFFF, s)
      else (ldDword s.win (clst * 4 % g.ssize) &&& 0x0FFFFFFF, s)

/-- The first byte of an entry of twelve bits, where `p` was before. -/
def firstByte (clst val : Nat) (p : UInt8) : Nat :=
  if clst % 2 = 1 then p.toNat &&& 0x0F ||| (val % 256) <<< 4 else val

/-- The second one. -/
def secondByte (clst val : Nat) (p : UInt8) : Nat :=
  if clst % 2 = 1 then val >>> 4 else p.toNat &&& 0xF0 ||| (val >>> 8) % 256 &&& 0x0F

/-- `put_fat`. -/
def putFat (g : Geometry) (clst val : Nat) (s : Fs) : FResult × Fs :=
  if 2 ≤ clst ∧ clst < g.nFatent then
    match g.fsType with
    | .fat12 =>
      let bc := clst + clst / 2
      let (res, s) := moveWindow g (g.fatbase + bc / g.ssize) s
      if res ≠ .ok then (res, s)
      else
        let s := s.edit fun win =>
          stByte win (bc % g.ssize) (firstByte clst val (win (bc % g.ssize)))
        let (res, s) := moveWindow g (g.fatbase + (bc + 1) / g.ssize) s
        if res ≠ .ok then (res, s)
        else
          (.ok, s.edit fun win =>
            stByte win ((bc + 1) % g.ssize) (secondByte clst val (win ((bc + 1) % g.ssize))))
    | .fat16 =>
      let (res, s) := moveWindow g (g.fatbase + clst / (g.ssize / 2)) s
      if res ≠ .ok then (res, s) else (.ok, s.edit fun win => stWord win (clst * 2 % g.ssize) val)
    | .fat32 =>
      let (res, s) := moveWindow g (g.fatbase + clst / (g.ssize / 4)) s
      if res ≠ .ok then (res, s)
      else
        (.ok, s.edit fun win => stDword win (clst * 4 % g.ssize)
          (val &&& 0x0FFFFFFF ||| ldDword win (clst * 4 % g.ssize) &&& 0xF0000000))
  else (.intErr, s)

/-! ## The table as numbers -/

/-- The bytes of the table, one sector behind the other. -/
def Geometry.tableBytes (g : Geometry) (view : Nat → Sector) (k : Nat) : UInt8 :=
  view (g.fatbase + k / g.ssize) (k % g.ssize)

/-- The entry of a cluster. -/
def Geometry.entry (g : Geometry) (view : Nat → Sector) (c : Nat) : Nat :=
  match g.fsType with
  | .fat12 => Packed.entry12 (g.tableBytes view) c
  | .fat16 => Packed.entry16 (g.tableBytes view) c
  | .fat32 => Packed.entry28 (g.tableBytes view) c

/-- The sectors of the first copy of the table. -/
def Geometry.fatSectors (g : Geometry) : Set Nat := fun k => g.fatbase ≤ k ∧ k < g.fatbase + g.fsize

theorem Geometry.Valid.fatSectors_notMem (hg : g.Valid) {k : Nat} (hk : k ∈ g.fatSectors) :
    k ∉ g.shadow := by
  have hmul : 1 * g.fsize ≤ g.nFats * g.fsize := Nat.mul_le_mul_right g.fsize hg.nFats
  have hclusters : 0 < (g.nFatent - 2) * g.csize :=
    Nat.mul_pos (Nat.sub_pos_of_lt hg.nFatent) hg.csize_pos
  have hdatabase := hg.database
  have hsectors := hg.sectors
  obtain ⟨hlo, hhi⟩ := hk
  rintro (hinvalid | ⟨hcopy, -⟩ | ⟨hfat32, hinfo⟩)
  · omega
  · omega
  · have hbase := hg.fsInfo hfat32
    omega

theorem Geometry.Valid.fatSectors_lt (hg : g.Valid) {k : Nat} (hk : k ∈ g.fatSectors) :
    k < 0x100000000 := by
  have hle := hg.fat_le
  obtain ⟨-, hhi⟩ := hk
  omega

/-- A byte of the table is in a sector of the table. -/
theorem Geometry.Valid.mem_fatSectors (hg : g.Valid) {k : Nat}
    (hk : k < g.fsType.tableSize g.nFatent) : g.fatbase + k / g.ssize ∈ g.fatSectors := by
  have hdiv : k / g.ssize < g.fsize :=
    Nat.div_lt_of_lt_mul (Nat.mul_comm g.ssize g.fsize ▸ hk.trans_le hg.table)
  exact ⟨Nat.le_add_right .., Nat.add_lt_add_left hdiv _⟩

/-- The bytes of an entry. -/
def FsType.Holds (t : FsType) (c k : Nat) : Prop :=
  match t with
  | .fat12 => k = c + c / 2 ∨ k = c + c / 2 + 1
  | .fat16 => ∃ j < 2, k = 2 * c + j
  | .fat32 => ∃ j < 4, k = 4 * c + j

theorem FsType.Holds.lt {t : FsType} {c k n : Nat} (h : t.Holds c k) (hc : c < n) :
    k < t.tableSize n := by
  cases t with
  | fat12 =>
    simp only [FsType.Holds, FsType.tableSize] at h ⊢
    omega
  | fat16 =>
    obtain ⟨j, hj, rfl⟩ := h
    simp only [FsType.tableSize]
    omega
  | fat32 =>
    obtain ⟨j, hj, rfl⟩ := h
    simp only [FsType.tableSize]
    omega

/-- An entry is the bytes it is in. -/
theorem Geometry.entry_congr {v v' : Nat → Sector} {c : Nat}
    (h : ∀ k, g.fsType.Holds c k → g.tableBytes v' k = g.tableBytes v k) :
    g.entry v' c = g.entry v c := by
  unfold Geometry.entry
  cases hfs : g.fsType with
  | fat12 =>
    rw [hfs] at h
    simp only [Packed.entry12, h _ (.inl rfl), h _ (.inr rfl)]
  | fat16 =>
    rw [hfs] at h
    exact Packed.entry16_congr fun j hj => h _ ⟨j, hj, rfl⟩
  | fat32 =>
    rw [hfs] at h
    exact congrArg (· % 268435456) (Packed.word32_congr fun j hj => h _ ⟨j, hj, rfl⟩)

theorem Geometry.notMem_empty (g : Geometry) : ∀ k ∈ g.fatSectors, k ∉ (∅ : Set Nat) :=
  fun k _ => Set.notMem_empty k

/-- What keeps the sectors of the table keeps the table. -/
theorem Kept.tableBytes {seen written : Set Nat} {s s' : Fs} (hg : g.Valid)
    (h : Kept g seen written s s') (hwritten : ∀ k ∈ g.fatSectors, k ∉ written) {k : Nat}
    (hk : k < g.fsType.tableSize g.nFatent) : g.tableBytes s'.view k = g.tableBytes s.view k := by
  have hmem := hg.mem_fatSectors hk
  exact congrFun (h.view _ (hg.fatSectors_notMem hmem) (hwritten _ hmem)) _

theorem Kept.entry {seen written : Set Nat} {s s' : Fs} (hg : g.Valid)
    (h : Kept g seen written s s') (hwritten : ∀ k ∈ g.fatSectors, k ∉ written) {c : Nat}
    (hc : c < g.nFatent) : g.entry s'.view c = g.entry s.view c :=
  Geometry.entry_congr fun _ hk => h.tableBytes hg hwritten (hk.lt hc)

/-! ## `get_fat` -/

/-- Entries of `m` bytes do not cross sectors of `m * h`. -/
theorem aligned {m h c j : Nat} (hj : j < m) :
    (m * c + j) / (m * h) = c / h ∧ (m * c + j) % (m * h) = c * m % (m * h) + j := by
  have hpos : 0 < m := Nat.zero_lt_of_lt hj
  have hdiv : (m * c + j) / m = c := by
    rw [Nat.mul_add_div hpos, Nat.div_eq_of_lt hj, Nat.add_zero]
  have hmod : (m * c + j) % m = j := by
    rw [Nat.mul_add_mod, Nat.mod_eq_of_lt hj]
  constructor
  · rw [← Nat.div_div_eq_div_mul, hdiv]
  · rw [Nat.mod_mul, hdiv, hmod, Nat.mul_comm c m, Nat.mul_mod_mul_left, Nat.add_comm]

theorem Geometry.Valid.ssize_two (hg : g.Valid) : g.ssize = 2 * (g.ssize / 2) := by
  have h := hg.ssize
  simp only [List.mem_cons, List.not_mem_nil, or_false] at h
  omega

theorem Geometry.Valid.ssize_four (hg : g.Valid) : g.ssize = 4 * (g.ssize / 4) := by
  have h := hg.ssize
  simp only [List.mem_cons, List.not_mem_nil, or_false] at h
  omega

section Get

variable {s : Fs}

/-- The window on the sector `q` of the table. -/
structure MovedTo (g : Geometry) (q : Nat) (s : Fs) (r : FResult × Fs) : Prop where
  kept : Kept g g.fatSectors ∅ s r.2
  info : r.2.info = s.info
  winsect : r.1 = .ok → r.2.winsect = g.fatbase + q
  win : r.1 = .ok → ∀ k, k / g.ssize = q → r.2.win (k % g.ssize) = g.tableBytes s.view k
  res : r.1 = .ok ∨ r.1 = .diskErr
  works : s.drive.Works → r.1 = .ok

theorem movedTo (hg : g.Valid) (hs : s.Sound g) {k q : Nat}
    (hk : k < g.fsType.tableSize g.nFatent) (hq : k / g.ssize = q) :
    MovedTo g q s (moveWindow g (g.fatbase + q) s) := by
  have hmem : g.fatbase + q ∈ g.fatSectors := hq ▸ hg.mem_fatSectors hk
  have hlt := hg.fatSectors_lt hmem
  exact {
    kept := (kept_moveWindow hg hs hlt).mono (Set.singleton_subset_iff.mpr hmem) (Set.empty_subset ∅)
    info := info_moveWindow ..
    winsect := winsect_moveWindow
    win := by
      rintro hok k rfl
      rw [win_moveWindow hg hs hlt (hg.fatSectors_notMem hmem) hok]
      rfl
    res := moveWindow_res ..
    works := moveWindow_works }

/-- What `get_fat` does: it leaves the volume as it is, and returns the entry or fails. -/
structure GotFat (g : Geometry) (c : Nat) (s : Fs) (r : Nat × Fs) : Prop where
  kept : Kept g g.fatSectors ∅ s r.2
  info : r.2.info = s.info
  val : r.1 = 0xFFFFFFFF ∨ r.1 = g.entry s.view c
  works : s.drive.Works → r.1 = g.entry s.view c

theorem getFat_range {c : Nat} (hc : c < 2 ∨ g.nFatent ≤ c) (s : Fs) : getFat g c s = (1, s) :=
  if_pos hc

/-- An entry is read without anything to be written back. -/
theorem wflag_getFat (c : Nat) (hclean : s.wflag = false) : (getFat g c s).2.wflag = false := by
  have hmove : ∀ {s : Fs} (k : Nat), s.wflag = false → (moveWindow g k s).2.wflag = false :=
    fun _ => wflag_moveWindow
  unfold getFat
  split
  · exact hclean
  · cases g.fsType with
    | fat12 =>
      simp only
      split
      · exact hmove _ hclean
      · split <;> exact hmove _ (hmove _ hclean)
    | fat16 =>
      simp only
      split <;> exact hmove _ hclean
    | fat32 =>
      simp only
      split <;> exact hmove _ hclean

/-- Where the bytes of an entry are that does not cross sectors. -/
theorem Geometry.at_aligned {c m j : Nat} (hss : g.ssize = m * (g.ssize / m)) (hj : j < m) :
    (m * c + j) / g.ssize = c / (g.ssize / m) ∧ (m * c + j) % g.ssize = c * m % g.ssize + j := by
  have h := aligned (h := g.ssize / m) (c := c) hj
  rwa [← hss] at h

theorem getFat_aligned {c m : Nat} (ld : Sector → Nat) (hss : g.ssize = m * (g.ssize / m))
    (hld : ∀ win : Sector, (∀ j < m, win (c * m % g.ssize + j) = g.tableBytes s.view (m * c + j)) →
      ld win = g.entry s.view c) {r : FResult × Fs} (hr : MovedTo g (c / (g.ssize / m)) s r) :
    GotFat g c s (if r.1 ≠ .ok then (0xFFFFFFFF, r.2) else (ld r.2.win, r.2)) := by
  by_cases hok : r.1 = .ok
  · have hval : ld r.2.win = g.entry s.view c := by
      refine hld _ fun j hj => ?_
      have hat := g.at_aligned (c := c) hss hj
      rw [← hat.2]
      exact hr.win hok _ hat.1
    rw [if_neg (not_not.mpr hok)]
    exact ⟨hr.kept, hr.info, .inr hval, fun _ => hval⟩
  · rw [if_pos hok]
    exact ⟨hr.kept, hr.info, .inl rfl, fun hd => absurd (hr.works hd) hok⟩

/-- An entry of twelve bits may cross them. -/
theorem getFat_split {c q₁ q₂ : Nat} (hg : g.Valid) (hfs : g.fsType = .fat12) (hc : c < g.nFatent)
    (hq₁ : (c + c / 2) / g.ssize = q₁) (hq₂ : (c + c / 2 + 1) / g.ssize = q₂) {r₁ r₂ : FResult × Fs}
    (hr₁ : MovedTo g q₁ s r₁) (hr₂ : MovedTo g q₂ r₁.2 r₂) :
    GotFat g c s
      (if r₁.1 ≠ .ok then (0xFFFFFFFF, r₁.2)
      else if r₂.1 ≠ .ok then (0xFFFFFFFF, r₂.2)
      else
        (if c % 2 = 1 then
            ((r₂.2.win ((c + c / 2 + 1) % g.ssize)).toNat <<< 8 |||
              (r₁.2.win ((c + c / 2) % g.ssize)).toNat) >>> 4
          else
            ((r₂.2.win ((c + c / 2 + 1) % g.ssize)).toNat <<< 8 |||
              (r₁.2.win ((c + c / 2) % g.ssize)).toNat) &&& 0xFFF,
          r₂.2)) := by
  have hkept := hr₁.kept.trans hr₂.kept
  by_cases hok₁ : r₁.1 = .ok
  · rw [if_neg (not_not.mpr hok₁)]
    by_cases hok₂ : r₂.1 = .ok
    · rw [if_neg (not_not.mpr hok₂), hr₁.win hok₁ _ hq₁, hr₂.win hok₂ _ hq₂]
      have hk : c + c / 2 + 1 < g.fsType.tableSize g.nFatent :=
        FsType.Holds.lt (c := c) (by rw [hfs]; exact .inr rfl) hc
      rw [hr₁.kept.tableBytes hg g.notMem_empty hk, Packed.shiftLeft_or_eq _ (UInt8.toNat_lt _)]
      have hval : (if c % 2 = 1 then ((g.tableBytes s.view (c + c / 2)).toNat +
          2 ^ 8 * (g.tableBytes s.view (c + c / 2 + 1)).toNat) >>> 4
          else ((g.tableBytes s.view (c + c / 2)).toNat +
            2 ^ 8 * (g.tableBytes s.view (c + c / 2 + 1)).toNat) &&& 0xFFF) = g.entry s.view c := by
        have hlow : ∀ x, x &&& 0xFFF = x % 2 ^ 12 := fun x => Packed.and_low x 12
        have hlt := (g.tableBytes s.view (c + c / 2)).toNat_lt
        simp only [Geometry.entry, hfs, Packed.entry12, hlow, Nat.shiftRight_eq_div_pow]
        split <;> omega
      exact ⟨hkept, hr₂.info.trans hr₁.info, .inr hval, fun _ => hval⟩
    · rw [if_pos hok₂]
      exact ⟨hkept, hr₂.info.trans hr₁.info, .inl rfl,
        fun hd => absurd (hr₂.works (hr₁.kept.works hd)) hok₂⟩
  · rw [if_pos hok₁]
    exact ⟨hr₁.kept, hr₁.info, .inl rfl, fun hd => absurd (hr₁.works hd) hok₁⟩

theorem getFat_spec (hg : g.Valid) (hs : s.Sound g) {c : Nat} (h2 : 2 ≤ c) (hc : c < g.nFatent) :
    GotFat g c s (getFat g c s) := by
  have hrange : ¬ (c < 2 ∨ g.nFatent ≤ c) := by omega
  have hlt := fun k (hk : g.fsType.Holds c k) => hk.lt hc
  unfold getFat
  rw [if_neg hrange]
  cases hfs : g.fsType with
  | fat12 =>
    rw [hfs] at hlt
    have hr₁ := movedTo hg hs (hfs ▸ hlt _ (.inl rfl)) rfl
    have hr₂ := movedTo hg hr₁.kept.sound (hfs ▸ hlt _ (.inr rfl)) rfl
    exact getFat_split hg hfs hc rfl rfl hr₁ hr₂
  | fat16 =>
    rw [hfs] at hlt
    have hat := fun j (hj : j < 2) => g.at_aligned (c := c) hg.ssize_two hj
    refine getFat_aligned (fun win => ldWord win (c * 2 % g.ssize)) hg.ssize_two (fun win hwin => ?_)
      (movedTo hg hs (hfs ▸ hlt _ ⟨0, by decide, rfl⟩) (hat 0 (by decide)).1)
    have h₀ := hwin 0 (by decide)
    have h₁ := hwin 1 (by decide)
    simp only [Nat.add_zero] at h₀
    simp only [ldWord]
    rw [h₀, h₁, Packed.shiftLeft_or_eq _ (UInt8.toNat_lt _)]
    simp only [Geometry.entry, hfs, Packed.entry16, Nat.reducePow]
  | fat32 =>
    rw [hfs] at hlt
    have hat := fun j (hj : j < 4) => g.at_aligned (c := c) hg.ssize_four hj
    refine getFat_aligned (fun win => ldDword win (c * 4 % g.ssize) &&& 0x0FFFFFFF) hg.ssize_four
      (fun win hwin => ?_) (movedTo hg hs (hfs ▸ hlt _ ⟨0, by decide, rfl⟩) (hat 0 (by decide)).1)
    have hword : Packed.word32 win (c * 4 % g.ssize) =
        Packed.word32 (g.tableBytes s.view) (4 * c) := by
      have h₀ := hwin 0 (by decide)
      simp only [Nat.add_zero] at h₀
      simp only [Packed.word32, h₀, hwin 1 (by decide), hwin 2 (by decide), hwin 3 (by decide)]
    have hlow : ∀ x, x &&& 0x0FFFFFFF = x % 2 ^ 28 := fun x => Packed.and_low x 28
    simp only [ldDword]
    rw [Packed.shifts_eq, hword, hlow]
    simp only [Geometry.entry, hfs, Packed.entry28, Nat.reducePow]

end Get

/-! ## `put_fat` -/

section Put

variable {s : Fs}

/-- What `put_fat` does: the entry is changed and no other. One that it fails to change is as it was,
unless it is in two bytes that are written one after the other. -/
structure PutFat (g : Geometry) (c val : Nat) (s : Fs) (r : FResult × Fs) : Prop where
  kept : Kept g g.fatSectors g.fatSectors s r.2
  info : r.2.info = s.info
  others : ∀ c' < g.nFatent, c' ≠ c → g.entry r.2.view c' = g.entry s.view c'
  val : r.1 = .ok → g.entry r.2.view c = val % 2 ^ g.fsType.width
  failed : r.1 ≠ .ok → g.fsType ≠ .fat12 → g.entry r.2.view c = g.entry s.view c
  res : r.1 = .ok ∨ r.1 = .diskErr
  works : s.drive.Works → r.1 = .ok

theorem putFat_range {c : Nat} (hc : c < 2 ∨ g.nFatent ≤ c) (val : Nat) (s : Fs) :
    putFat g c val s = (.intErr, s) :=
  if_neg (by omega)

/-- An edit of the window, byte by byte of the table. -/
theorem tableBytes_edit {q : Nat} (hwinsect : s.winsect = g.fatbase + q) (f : Sector → Sector)
    (k : Nat) : g.tableBytes (s.edit f).view k =
      if k / g.ssize = q then f s.win (k % g.ssize) else g.tableBytes s.view k := by
  unfold Geometry.tableBytes
  rw [view_edit, hwinsect]
  by_cases hq : k / g.ssize = q
  · rw [if_pos hq, hq, Function.update_self]
  · have hne : g.fatbase + k / g.ssize ≠ g.fatbase + q := by omega
    rw [if_neg hq, Function.update_of_ne hne]

theorem tableBytes_winsect {k q : Nat} (hwinsect : s.winsect = g.fatbase + q)
    (hk : k / g.ssize = q) : g.tableBytes s.view k = s.win (k % g.ssize) := by
  unfold Geometry.tableBytes
  rw [hk, ← hwinsect, s.view_winsect]

/-- One byte of the table is written. -/
theorem tableBytes_stByte {k : Nat} (hwinsect : s.winsect = g.fatbase + k / g.ssize)
    (x : Sector → Nat) :
    g.tableBytes (s.edit fun win => stByte win (k % g.ssize) (x win)).view =
      Function.update (g.tableBytes s.view) k (UInt8.ofNat (x s.win)) := by
  funext k'
  rw [tableBytes_edit hwinsect]
  by_cases hk : k' = k
  · subst hk
    rw [if_pos rfl, stByte, Function.update_self, Function.update_self]
  · rw [Function.update_of_ne hk]
    by_cases hq : k' / g.ssize = k / g.ssize
    · have hmod : k' % g.ssize ≠ k % g.ssize := by
        intro hmod
        have h' := Nat.div_add_mod k' g.ssize
        rw [hq, hmod, Nat.div_add_mod] at h'
        exact hk h'.symm
      rw [if_pos hq, stByte, Function.update_of_ne hmod, tableBytes_winsect hwinsect hq]
    · rw [if_neg hq]

theorem kept_edit_table (hg : g.Valid) (hs : s.Sound g) {k q : Nat}
    (hk : k < g.fsType.tableSize g.nFatent) (hq : k / g.ssize = q)
    (hwinsect : s.winsect = g.fatbase + q) (f : Sector → Sector) :
    Kept g g.fatSectors g.fatSectors s (s.edit f) := by
  subst hq
  have hmem : s.winsect ∈ g.fatSectors := hwinsect ▸ hg.mem_fatSectors hk
  have hsub := Set.singleton_subset_iff.mpr hmem
  exact (kept_edit hs (hg.fatSectors_notMem hmem) f).mono hsub hsub

theorem stWord_apply (win : Sector) (i val j : Nat) : stWord win i val j =
    if j = i + 1 then UInt8.ofNat (val >>> 8) else if j = i then UInt8.ofNat val else win j := by
  simp only [stWord, stByte, Function.update_apply]

theorem stDword_apply (win : Sector) (i val j : Nat) : stDword win i val j =
    if j = i + 3 then UInt8.ofNat (val >>> 24) else if j = i + 2 then UInt8.ofNat (val >>> 16)
    else if j = i + 1 then UInt8.ofNat (val >>> 8) else if j = i then UInt8.ofNat val
    else win j := by
  simp only [stDword, stByte, Function.update_apply]

/-- An entry of `m` bytes that does not cross sectors. -/
theorem putFat_aligned (hg : g.Valid) {c m val : Nat} (hm : 0 < m)
    (hss : g.ssize = m * (g.ssize / m)) (hc : c < g.nFatent) (f : Sector → Sector)
    (hf : ∀ win i, (∀ j < m, i ≠ c * m % g.ssize + j) → f win i = win i)
    (hholds : ∀ c' k, g.fsType.Holds c' k ↔ ∃ j < m, k = m * c' + j)
    (hval : ∀ v v' : Nat → Sector, (∀ j < m, g.tableBytes v' (m * c + j) =
      f (v (g.fatbase + c / (g.ssize / m))) (c * m % g.ssize + j)) →
      g.entry v' c = val % 2 ^ g.fsType.width)
    {r : FResult × Fs} (hr : MovedTo g (c / (g.ssize / m)) s r) :
    PutFat g c val s (if r.1 ≠ .ok then (r.1, r.2) else (.ok, r.2.edit f)) := by
  have hempty := g.notMem_empty
  have hsize : m * c + 0 < g.fsType.tableSize g.nFatent := ((hholds c _).mpr ⟨0, hm, rfl⟩).lt hc
  have hkept := hr.kept.mono (le_refl g.fatSectors) (Set.empty_subset g.fatSectors)
  by_cases hok : r.1 = .ok
  · have hwinsect := hr.winsect hok
    have hedit := tableBytes_edit hwinsect f
    rw [if_neg (not_not.mpr hok)]
    refine ⟨hkept.trans (kept_edit_table hg hr.kept.sound hsize (g.at_aligned hss hm).1
      hwinsect f), hr.info, ?_, ?_, fun hfail => absurd rfl hfail, .inl rfl, fun _ => rfl⟩
    · intro c' hc' hne
      refine (Geometry.entry_congr fun k hk => ?_).trans (hr.kept.entry hg hempty hc')
      obtain ⟨j, hj, rfl⟩ := (hholds c' k).mp hk
      rw [hedit]
      by_cases hq : (m * c' + j) / g.ssize = c / (g.ssize / m)
      · rw [if_pos hq, tableBytes_winsect hwinsect hq]
        refine hf _ _ fun j' hj' heq => hne ?_
        have hat := g.at_aligned (c := c) hss hj'
        rw [← hat.2] at heq
        have h := Nat.div_add_mod (m * c' + j) g.ssize
        rw [hq, heq, ← hat.1, Nat.div_add_mod] at h
        have hdiv := congrArg (· / m) h
        simp only [Nat.mul_add_div hm, Nat.div_eq_of_lt hj, Nat.div_eq_of_lt hj'] at hdiv
        omega
      · rw [if_neg hq]
    · intro _
      refine hval r.2.view _ fun j hj => ?_
      have hat := g.at_aligned (c := c) hss hj
      rw [hedit, if_pos hat.1, hat.2, ← hwinsect, r.2.view_winsect]
  · rw [if_pos hok]
    have hentry := fun c' hc' => hr.kept.entry (c := c') hg hempty hc'
    exact ⟨hkept, hr.info, fun c' hc' _ => hentry c' hc', fun h => absurd h hok,
      fun _ _ => hentry c hc, hr.res, fun hd => absurd (hr.works hd) hok⟩

/-! ### Entries of twelve bits -/

theorem toNat_firstByte (c val : Nat) (p : UInt8) : (UInt8.ofNat (firstByte c val p)).toNat =
    if c % 2 = 1 then p.toNat % 16 + 16 * (val % 16) else val % 256 := by
  unfold firstByte
  rw [UInt8.toNat_ofNat', Packed.low_or_high]
  split <;> omega

theorem toNat_secondByte (c val : Nat) (p : UInt8) : (UInt8.ofNat (secondByte c val p)).toNat =
    if c % 2 = 1 then val / 16 % 256 else p.toNat / 16 * 16 + val / 256 % 16 := by
  have hlow : (val >>> 8) % 256 &&& 0x0F = val / 256 % 16 := by
    have hmask : (val >>> 8) % 256 &&& 0x0F = (val >>> 8) % 256 % 2 ^ 4 := Packed.and_low _ 4
    rw [Nat.shiftRight_eq_div_pow] at hmask ⊢
    omega
  have hlt := p.toNat_lt
  unfold secondByte
  rw [UInt8.toNat_ofNat', hlow, Packed.high_or_low hlt (Nat.mod_lt _ (by decide)),
    Nat.shiftRight_eq_div_pow]
  split <;> omega

theorem entry_fat12 (hfs : g.fsType = .fat12) (v : Nat → Sector) (c : Nat) :
    g.entry v c = Packed.entry12 (g.tableBytes v) c := by
  simp only [Geometry.entry, hfs]

/-- The window once the byte `k` of the table is written in it. -/
def putByte (g : Geometry) (x : UInt8 → Nat) (k : Nat) (s : Fs) : Fs :=
  s.edit fun win => stByte win (k % g.ssize) (x (win (k % g.ssize)))

theorem tableBytes_putByte {k : Nat} (hwinsect : s.winsect = g.fatbase + k / g.ssize)
    (x : UInt8 → Nat) : g.tableBytes (putByte g x k s).view =
      Function.update (g.tableBytes s.view) k (UInt8.ofNat (x (g.tableBytes s.view k))) := by
  unfold putByte
  rw [tableBytes_stByte hwinsect fun win => x (win (k % g.ssize)), tableBytes_winsect hwinsect rfl]

/-- The first byte of the entry is written. -/
theorem entry_putByte_first (hfs : g.fsType = .fat12) {c val : Nat}
    (hwinsect : s.winsect = g.fatbase + (c + c / 2) / g.ssize) {c' : Nat} (hne : c' ≠ c) :
    g.entry (putByte g (firstByte c val) (c + c / 2) s).view c' = g.entry s.view c' := by
  rw [entry_fat12 hfs, entry_fat12 hfs, tableBytes_putByte hwinsect]
  refine Packed.entry12_put_first hne fun hodd => ?_
  rw [toNat_firstByte, if_pos hodd]
  omega

/-- The second byte. -/
theorem entry_putByte_second (hfs : g.fsType = .fat12) {c val : Nat}
    (hwinsect : s.winsect = g.fatbase + (c + c / 2 + 1) / g.ssize) {c' : Nat} (hne : c' ≠ c) :
    g.entry (putByte g (secondByte c val) (c + c / 2 + 1) s).view c' = g.entry s.view c' := by
  rw [entry_fat12 hfs, entry_fat12 hfs, tableBytes_putByte hwinsect]
  refine Packed.entry12_put_second hne fun heven => ?_
  rw [toNat_secondByte, if_neg (by omega)]
  omega

/-- Both of them. -/
theorem entry_putByte_both (hfs : g.fsType = .fat12) {c val : Nat} (p : UInt8)
    (hwinsect : s.winsect = g.fatbase + (c + c / 2 + 1) / g.ssize)
    (hfirst : g.tableBytes s.view (c + c / 2) = UInt8.ofNat (firstByte c val p)) :
    g.entry (putByte g (secondByte c val) (c + c / 2 + 1) s).view c = val % 4096 := by
  rw [entry_fat12 hfs, tableBytes_putByte hwinsect]
  refine Packed.entry12_put (b := g.tableBytes s.view) ?_ ?_
  · rw [Function.update_of_ne (Nat.succ_ne_self _).symm, hfirst, toNat_firstByte]
    split <;> omega
  · rw [Function.update_self, toNat_secondByte]

/-- The bytes of an entry of twelve bits are written one after the other. -/
theorem putFat_split (hg : g.Valid) (hfs : g.fsType = .fat12) {c val : Nat} (hc : c < g.nFatent)
    {r₁ r₂ : FResult × Fs} (hr₁ : MovedTo g ((c + c / 2) / g.ssize) s r₁)
    (hr₂ : r₁.1 = .ok → MovedTo g ((c + c / 2 + 1) / g.ssize)
      (putByte g (firstByte c val) (c + c / 2) r₁.2) r₂) :
    PutFat g c val s
      (if r₁.1 ≠ .ok then (r₁.1, r₁.2)
      else if r₂.1 ≠ .ok then (r₂.1, r₂.2)
      else (.ok, putByte g (secondByte c val) (c + c / 2 + 1) r₂.2)) := by
  have hempty := g.notMem_empty
  have hsub := Set.empty_subset g.fatSectors
  have hk₁ : c + c / 2 < g.fsType.tableSize g.nFatent :=
    FsType.Holds.lt (c := c) (by rw [hfs]; exact .inl rfl) hc
  have hk₂ : c + c / 2 + 1 < g.fsType.tableSize g.nFatent :=
    FsType.Holds.lt (c := c) (by rw [hfs]; exact .inr rfl) hc
  have hkept₁ := hr₁.kept.mono (le_refl _) hsub
  by_cases hok₁ : r₁.1 = .ok
  · have hr₂ := hr₂ hok₁
    have hwinsect₁ := hr₁.winsect hok₁
    have hedit₁ := kept_edit_table hg hr₁.kept.sound hk₁ rfl hwinsect₁ (fun win =>
      stByte win ((c + c / 2) % g.ssize) (firstByte c val (win ((c + c / 2) % g.ssize))))
    have hkept₂ := (hkept₁.trans hedit₁).trans (hr₂.kept.mono (le_refl _) hsub)
    have hothers : ∀ c' < g.nFatent, c' ≠ c → g.entry r₂.2.view c' = g.entry s.view c' := by
      intro c' hc' hne
      rw [hr₂.kept.entry hg hempty hc', entry_putByte_first hfs hwinsect₁ hne,
        hr₁.kept.entry hg hempty hc']
    rw [if_neg (not_not.mpr hok₁)]
    by_cases hok₂ : r₂.1 = .ok
    · have hwinsect₂ := hr₂.winsect hok₂
      have hedit₂ := kept_edit_table hg hr₂.kept.sound hk₂ rfl hwinsect₂ (fun win =>
        stByte win ((c + c / 2 + 1) % g.ssize) (secondByte c val (win ((c + c / 2 + 1) % g.ssize))))
      rw [if_neg (not_not.mpr hok₂)]
      refine ⟨hkept₂.trans hedit₂, hr₂.info.trans hr₁.info, ?_, ?_, fun _ h => absurd hfs h,
        .inl rfl, fun _ => rfl⟩
      · intro c' hc' hne
        rw [entry_putByte_second hfs hwinsect₂ hne, hothers c' hc' hne]
      · intro _
        rw [hfs]
        refine entry_putByte_both hfs (g.tableBytes r₁.2.view (c + c / 2)) hwinsect₂ ?_
        rw [hr₂.kept.tableBytes hg hempty hk₁, tableBytes_putByte hwinsect₁, Function.update_self]
    · rw [if_pos hok₂]
      exact ⟨hkept₂, hr₂.info.trans hr₁.info, hothers, fun h => absurd h hok₂,
        fun _ h => absurd hfs h, hr₂.res,
        fun hd => absurd (hr₂.works (hr₁.kept.works hd)) hok₂⟩
  · rw [if_pos hok₁]
    exact ⟨hkept₁, hr₁.info, fun c' hc' _ => hr₁.kept.entry hg hempty hc', fun h => absurd h hok₁,
      fun _ h => absurd hfs h, hr₁.res, fun hd => absurd (hr₁.works hd) hok₁⟩

theorem putFat_spec (hg : g.Valid) (hs : s.Sound g) {c : Nat} (h2 : 2 ≤ c) (hc : c < g.nFatent)
    (val : Nat) : PutFat g c val s (putFat g c val s) := by
  have hlt := fun k (hk : g.fsType.Holds c k) => hk.lt hc
  unfold putFat
  rw [if_pos ⟨h2, hc⟩]
  cases hfs : g.fsType with
  | fat12 =>
    rw [hfs] at hlt
    have hr₁ := movedTo hg hs (hfs ▸ hlt _ (.inl rfl)) rfl
    exact putFat_split hg hfs hc hr₁ fun hok =>
      movedTo hg (kept_edit_table hg hr₁.kept.sound (hfs ▸ hlt _ (.inl rfl)) rfl (hr₁.winsect hok)
        _).sound (hfs ▸ hlt _ (.inr rfl)) rfl
  | fat16 =>
    rw [hfs] at hlt
    have hr := movedTo hg hs (hfs ▸ hlt _ ⟨0, by decide, rfl⟩)
      (g.at_aligned (c := c) hg.ssize_two (j := 0) (by decide)).1
    refine putFat_aligned hg (by decide) hg.ssize_two hc (fun win => stWord win (c * 2 % g.ssize) val)
      ?_ ?_ ?_ hr
    · intro win i hi
      exact (stWord_apply ..).trans ((if_neg (hi 1 (by decide))).trans (if_neg (hi 0 (by decide))))
    · intro c' k
      rw [hfs]
      rfl
    · intro v v' hbytes
      have h₀ := hbytes 0 (by decide)
      have h₁ := hbytes 1 (by decide)
      rw [stWord_apply, if_neg (by omega), if_pos (Nat.add_zero _)] at h₀
      rw [stWord_apply, if_pos rfl] at h₁
      simp only [Geometry.entry, hfs]
      refine Packed.entry16_put ?_ ?_
      · exact (congrArg UInt8.toNat h₀).trans UInt8.toNat_ofNat'
      · rw [h₁, UInt8.toNat_ofNat', Nat.shiftRight_eq_div_pow]
  | fat32 =>
    rw [hfs] at hlt
    have hr := movedTo hg hs (hfs ▸ hlt _ ⟨0, by decide, rfl⟩)
      (g.at_aligned (c := c) hg.ssize_four (j := 0) (by decide)).1
    refine putFat_aligned hg (by decide) hg.ssize_four hc (fun win => stDword win (c * 4 % g.ssize)
      (val &&& 0x0FFFFFFF ||| ldDword win (c * 4 % g.ssize) &&& 0xF0000000)) ?_ ?_ ?_ hr
    · intro win i hi
      rw [stDword_apply, if_neg (hi 3 (by decide)), if_neg (hi 2 (by decide)),
        if_neg (hi 1 (by decide))]
      exact if_neg (hi 0 (by decide))
    · intro c' k
      rw [hfs]
      rfl
    · intro v v' hbytes
      simp only [ldDword, Packed.shifts_eq] at hbytes
      have hold := Packed.word32_lt (v (g.fatbase + c / (g.ssize / 4))) (c * 4 % g.ssize)
      rw [Packed.replace_low28 hold] at hbytes
      have h₀ := hbytes 0 (by decide)
      have h₁ := hbytes 1 (by decide)
      have h₂ := hbytes 2 (by decide)
      have h₃ := hbytes 3 (by decide)
      rw [stDword_apply, if_neg (by omega), if_neg (by omega), if_neg (by omega),
        if_pos (Nat.add_zero _)] at h₀
      rw [stDword_apply, if_neg (by omega), if_neg (by omega), if_pos rfl] at h₁
      rw [stDword_apply, if_neg (by omega), if_pos rfl] at h₂
      rw [stDword_apply, if_pos rfl] at h₃
      simp only [Geometry.entry, hfs, Packed.entry28]
      rw [Packed.word32_put (v := val % 268435456 + 268435456 *
        (Packed.word32 (v (g.fatbase + c / (g.ssize / 4))) (c * 4 % g.ssize) / 268435456))]
      · exact Nat.add_mul_mod_self_left .. |>.trans (Nat.mod_mod _ _)
      · omega
      · exact (congrArg UInt8.toNat h₀).trans UInt8.toNat_ofNat'
      · rw [h₁, UInt8.toNat_ofNat', Nat.shiftRight_eq_div_pow]
      · rw [h₂, UInt8.toNat_ofNat', Nat.shiftRight_eq_div_pow]
      · rw [h₃, UInt8.toNat_ofNat', Nat.shiftRight_eq_div_pow]

/-- An entry is as wide as the type says. -/
theorem Geometry.entry_lt (g : Geometry) (v : Nat → Sector) (c : Nat) :
    g.entry v c < 2 ^ g.fsType.width := by
  have hlt := fun k => (g.tableBytes v k).toNat_lt
  unfold Geometry.entry
  cases g.fsType with
  | fat12 =>
    have h₁ := hlt (c + c / 2)
    have h₂ := hlt (c + c / 2 + 1)
    simp only [Packed.entry12, FsType.width]
    split <;> omega
  | fat16 =>
    have h₁ := hlt (2 * c)
    have h₂ := hlt (2 * c + 1)
    simp only [Packed.entry16, FsType.width]
    omega
  | fat32 => exact Nat.mod_lt _ (by decide)

end Put

/-! ## Runs -/

/-- What goes through the window: entries of the table, sectors of directories, all of it written back. -/
inductive WindowOp where
  | get (c : Nat)
  | put (c val : Nat)
  | look (sector : Nat)
  | write (f : Sector → Sector)
  | sync

/-- A directory is written outside of the table. -/
def WindowOp.Allowed (g : Geometry) (s : Fs) : WindowOp → Prop
  | .get _ => True
  | .put _ _ => True
  | .look sector => sector < 0x100000000
  | .write _ => s.winsect ∉ g.fatSectors ∧ s.winsect ∉ g.shadow
  | .sync => True

/-- What an access leaves behind. -/
def WindowOp.run (g : Geometry) (s : Fs) : WindowOp → Fs
  | .get c => (getFat g c s).2
  | .put c val => (putFat g c val s).2
  | .look sector => (moveWindow g sector s).2
  | .write f => s.edit f
  | .sync => (syncFs g s).2

/-- An access that is allowed. -/
def WindowStep (g : Geometry) (s : Fs) (op : WindowOp) (s' : Fs) : Prop :=
  op.Allowed g s ∧ s' = op.run g s

section Run

variable {s s' : Fs} {ts : List (Taken Fs WindowOp)}

/-- A step is sound, and changes at most the entry that it puts. -/
theorem WindowStep.spec (hg : g.Valid) (hs : s.Sound g) {op : WindowOp} (h : WindowStep g s op s') :
    s'.Sound g ∧ ∀ c < g.nFatent, (∀ val, op ≠ .put c val) → g.entry s'.view c = g.entry s.view c := by
  have hempty := g.notMem_empty
  obtain ⟨hallowed, rfl⟩ := h
  cases op with
  | get c =>
    by_cases hc : c < 2 ∨ g.nFatent ≤ c
    · rw [WindowOp.run, getFat_range hc]
      exact ⟨hs, fun _ _ _ => rfl⟩
    · have hget := getFat_spec (c := c) hg hs (by omega) (by omega)
      exact ⟨hget.kept.sound, fun c' hc' _ => hget.kept.entry hg hempty hc'⟩
  | put c val =>
    by_cases hc : c < 2 ∨ g.nFatent ≤ c
    · rw [WindowOp.run, putFat_range hc]
      exact ⟨hs, fun _ _ _ => rfl⟩
    · have hput := putFat_spec (c := c) hg hs (by omega) (by omega) val
      exact ⟨hput.kept.sound, fun c' hc' hne =>
        hput.others c' hc' fun heq => hne val (by rw [heq])⟩
  | look sector =>
    have hkept := kept_moveWindow hg hs hallowed
    exact ⟨hkept.sound, fun c hc _ => hkept.entry hg hempty hc⟩
  | write f =>
    have hkept := kept_edit hs hallowed.2 f
    refine ⟨hkept.sound, fun c hc _ => hkept.entry hg ?_ hc⟩
    rintro k hk rfl
    exact hallowed.1 hk
  | sync =>
    have hkept := kept_syncFs hg hs
    exact ⟨hkept.sound, fun c hc _ => hkept.entry hg hempty hc⟩

theorem run_entry (hg : g.Valid) (hs : s.Sound g) (hrun : Run (WindowStep g) s ts s') {c : Nat}
    (hc : c < g.nFatent) (hout : ∀ t ∈ ts, ∀ val, t.input ≠ .put c val) :
    s'.Sound g ∧ g.entry s'.view c = g.entry s.view c := by
  induction hrun with
  | nil => exact ⟨hs, rfl⟩
  | cons hstep _ ih =>
    rw [List.forall_mem_cons] at hout
    obtain ⟨hs', hentry⟩ := hstep.spec hg hs
    obtain ⟨hs'', hentry'⟩ := ih hs' hout.2
    exact ⟨hs'', hentry'.trans (hentry c hc hout.1)⟩

/-- An entry that was put is read back, whatever went through the window since, and however the drive
was doing. -/
theorem run_getFat (hg : g.Valid) (hs : s.Sound g) {c val : Nat} (h2 : 2 ≤ c) (hc : c < g.nFatent)
    (hput : (putFat g c val s).1 = .ok) (hrun : Run (WindowStep g) (putFat g c val s).2 ts s')
    (hout : ∀ t ∈ ts, ∀ val', t.input ≠ .put c val') :
    (getFat g c s').1 = 0xFFFFFFFF ∨ (getFat g c s').1 = val % 2 ^ g.fsType.width := by
  have hspec := putFat_spec hg hs h2 hc val
  obtain ⟨hs', hentry⟩ := run_entry hg hspec.kept.sound hrun hc hout
  refine (getFat_spec hg hs' h2 hc).val.imp id fun hval => ?_
  rw [hval, hentry, hspec.val hput]

theorem run_getFat_small :
    (putFat smallGeometry 4 0xFFF smallFs).1 = .ok ∧
      ((getFat smallGeometry 4 (syncFs smallGeometry (putFat smallGeometry 4 0xFFF smallFs).2).2).1 =
          0xFFFFFFFF ∨
        (getFat smallGeometry 4 (syncFs smallGeometry (putFat smallGeometry 4 0xFFF smallFs).2).2).1 =
          0xFFF % 2 ^ 12) := by
  have hput : (putFat smallGeometry 4 0xFFF smallFs).1 = .ok := by decide
  have hrun : Run (WindowStep smallGeometry) (putFat smallGeometry 4 0xFFF smallFs).2 _ _ :=
    .cons (i := WindowOp.sync) ⟨trivial, rfl⟩ (.nil _)
  refine ⟨hput, run_getFat valid_smallGeometry sound_smallFs (by decide) (by decide) hput hrun ?_⟩
  intro t ht val
  rw [List.mem_singleton.mp ht]
  exact nofun

end Run

end GenLogger.Fat
