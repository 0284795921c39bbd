import GenLogger.Fat.Volume

/-!
# The sector window (`sync_window`, `move_window`, `sync_fs`)

Model of the functions of `ff.c` that move `fs->win`. It holds one sector in front of the drive, and
`fs->wflag` says that it is newer: together they are a block held in front of a store (`Fs.held`), and
what a reader is owed is the `view` of it.

* Not every sector is owed to a reader: the other copies of the table are only written, the results of
  these writes are not looked at, nor is the one of FSInfo, and `0xFFFFFFFF` is the number of no sector.
  `Geometry.shadow` are those.
* `Kept g seen written s s'` is what the callers get: the view is the same but for the sectors `written`,
  the drive but for those `seen` or `written`, and a drive that works goes on.
* The sector numbers are 32 bits wide, as `dwordSub` has it; there are no other wraps on a valid volume.

Results:
* `kept_syncWindow`, `kept_moveWindow`, `kept_syncFs`: a move of the window changes nothing that the
  volume has, however the transfers go; `kept_edit`: a change in the window is one of its sector.
* `win_moveWindow`: a window that was moved shows what the volume has there.
* `sectors_syncFs`, `wflag_syncFs`: after `sync_fs` the drive has everything, and the window nothing new.
* `mirrored_syncWindow`: the copies of the table stay equal while the drive works.
* `moveWindow_works`, `syncFs_works`: nothing fails but the drive.
-/

namespace GenLogger.Fat

open GenLogger.Lib

variable {g : Geometry}

/-! ## `ff.c` -/

/-- `for (nf = fs->n_fats; nf >= 2; nf--)` of `sync_window`, with `nf` more copies to go. -/
def mirror (g : Geometry) (win : Sector) : Nat → Nat → Drive → Drive
  | 0, _, d => d
  | nf + 1, wsect, d => mirror g win nf (wsect + g.fsize) (d.write (fun _ => win) (wsect + g.fsize) 1).2

/-- `sync_window`. -/
def syncWindow (g : Geometry) (s : Fs) : FResult × Fs :=
  if s.wflag then
    let (written, d) := s.drive.write (fun _ => s.win) s.winsect 1
    if written then
      -- the other copies follow the first, whatever comes of it
      let d := if dwordSub s.winsect g.fatbase < g.fsize then mirror g s.win (g.nFats - 1) s.winsect d
        else d
      (.ok, { s with wflag := false, drive := d })
    else (.diskErr, { s with drive := d })
  else (.ok, s)

/-- `move_window`. -/
def moveWindow (g : Geometry) (sector : Nat) (s : Fs) : FResult × Fs :=
  if sector ≠ s.winsect then
    let (res, s) := syncWindow g s
    if res = .ok then
      let (ok, buffer, d) := s.drive.read
      if ok then (.ok, { s with drive := d, winsect := sector, win := buffer sector })
      else (.diskErr, { s with drive := d, winsect := 0xFFFFFFFF, win := buffer sector })
    else (res, s)
  else (.ok, s)

/-- The FSInfo structure. -/
def fsInfo (s : Fs) : Sector :=
  let win := stWord (fun _ => 0) 510 0xAA55
  let win := stDword win 0 0x41615252
  let win := stDword win 484 0x61417272
  let win := stDword win 488 s.freeClst
  stDword win 492 s.lastClst

/-- `sync_fs`. -/
def syncFs (g : Geometry) (s : Fs) : FResult × Fs :=
  let (res, s) := syncWindow g s
  if res = .ok then
    let s := if g.fsType = .fat32 ∧ s.fsiFlag = 1 then
        { s with
          win := fsInfo s
          winsect := g.volbase + 1
          drive := (s.drive.write (fun _ => fsInfo s) (g.volbase + 1) 1).2
          fsiFlag := 0 }
      else s
    let (synced, d) := s.drive.sync
    (if synced then .ok else .diskErr, { s with drive := d })
  else (res, s)

/-! ## What a reader is owed -/

/-- The window as a block in front of the drive. -/
def Fs.held (s : Fs) : Held Nat Sector := ⟨s.drive.sectors, s.winsect, s.win, s.wflag⟩

/-- The sectors as the volume has them. -/
def Fs.view (s : Fs) : Nat → Sector := s.held.view

theorem Fs.view_winsect (s : Fs) : s.view s.winsect = s.win := s.held.view_key

/-- The sectors that nobody reads back. -/
def Geometry.shadow (g : Geometry) : Set Nat := fun k =>
  k = 0xFFFFFFFF ∨ (g.fatbase + g.fsize ≤ k ∧ k < g.fatbase + g.nFats * g.fsize) ∨
    (g.fsType = .fat32 ∧ k = g.volbase + 1)

/-- A window that has nothing new is what the drive has there, and one that has is on a sector that is
read back. -/
structure Fs.Sound (g : Geometry) (s : Fs) : Prop where
  winsect : s.winsect < 0x100000000
  coherent : s.held.Coherent g.shadow
  dirty : s.wflag = true → s.winsect ∉ g.shadow

/-- All copies of the table are equal. -/
def Drive.Mirrored (g : Geometry) (d : Drive) : Prop :=
  ∀ i < g.nFats, ∀ k < g.fsize, d.sectors (g.fatbase + i * g.fsize + k) = d.sectors (g.fatbase + k)

/-- What a function leaves as it was: what the volume has of the sectors it did not write, and what is
on the drive of those it had no window on. -/
structure Kept (g : Geometry) (seen written : Set Nat) (s s' : Fs) : Prop where
  sound : s'.Sound g
  view : ∀ k ∉ g.shadow, k ∉ written → s'.view k = s.view k
  drive : ∀ k ∉ g.shadow, k ∉ seen → k ≠ s.winsect → s'.drive.sectors k = s.drive.sectors k
  winsect : s'.winsect = s.winsect ∨ s'.winsect ∈ seen ∨ s'.winsect ∈ g.shadow
  works : s.drive.Works → s'.drive.Works
  mirrored : s.drive.Works → s.drive.Mirrored g → s'.drive.Mirrored g

theorem sound_smallFs : smallFs.Sound smallGeometry := ⟨by decide, fun _ _ => rfl, nofun⟩

theorem dwordSub_lt_iff {a b n : Nat} (ha : a < 0x100000000) (hb : b + n ≤ 0x100000000) :
    dwordSub a b < n ↔ b ≤ a ∧ a < b + n := by
  unfold dwordSub
  omega

/-! ## The copies of the table -/

theorem sectors_mirror {win : Sector} {k : Nat} (nf : Nat) {wsect : Nat} {d : Drive}
    (hk : ∀ i < nf, k ≠ wsect + (i + 1) * g.fsize) :
    (mirror g win nf wsect d).sectors k = d.sectors k := by
  induction nf generalizing wsect d with
  | zero => rfl
  | succ nf ih =>
    have hhead := hk 0 nf.succ_pos
    rw [mirror, ih, Drive.sectors_write_of_notMem (by omega)]
    intro i hi
    have htail := hk (i + 1) (Nat.succ_lt_succ hi)
    rw [Nat.add_mul, Nat.one_mul] at htail
    omega

theorem works_mirror {win : Sector} (nf : Nat) {wsect : Nat} {d : Drive} (h : d.Works) :
    (mirror g win nf wsect d).Works := by
  induction nf generalizing wsect d with
  | zero => exact h
  | succ nf ih => exact ih (h.write _ _ _).2

/-- Each copy gets what the first one got. -/
theorem sectors_mirror_copy {win : Sector} (hsize : 0 < g.fsize) (nf : Nat) {wsect : Nat} {d : Drive}
    (hd : d.Works) {i : Nat} (hi : i < nf) :
    (mirror g win nf wsect d).sectors (wsect + (i + 1) * g.fsize) = win := by
  induction nf generalizing wsect d i with
  | zero => exact absurd hi i.not_lt_zero
  | succ nf ih =>
    have hwrite := hd.write (fun _ => win) (wsect + g.fsize) 1
    rw [mirror]
    cases i with
    | zero =>
      rw [sectors_mirror, Drive.sectors_write_of_ok hwrite.1, if_pos (by omega)]
      intro i _
      have hpos : 0 < (i + 1) * g.fsize := Nat.mul_pos i.succ_pos hsize
      omega
    | succ i =>
      rw [Nat.add_mul (i + 1), Nat.one_mul, Nat.add_comm (_ * _) g.fsize, ← Nat.add_assoc]
      exact ih hwrite.2 (Nat.lt_of_succ_lt_succ hi)

/-- Behind a sector of the first copy, the others lie in the shadow. -/
theorem mem_shadow_of_mirror {wsect i : Nat} (hbase : g.fatbase ≤ wsect)
    (hsize : wsect < g.fatbase + g.fsize) (hi : i < g.nFats - 1) :
    wsect + (i + 1) * g.fsize ∈ g.shadow := by
  have hmul : (i + 2) * g.fsize ≤ g.nFats * g.fsize := Nat.mul_le_mul_right g.fsize (by omega)
  refine .inr (.inl ⟨?_, ?_⟩)
  · have hle : g.fsize ≤ (i + 1) * g.fsize := Nat.le_mul_of_pos_left g.fsize i.succ_pos
    omega
  · have hsplit : (i + 2) * g.fsize = (i + 1) * g.fsize + g.fsize := by
      rw [← Nat.succ_mul]
    omega

/-! ## `sync_window` -/

section SyncWindow

variable {s : Fs}

theorem Geometry.Valid.fat_le (hg : g.Valid) : g.fatbase + g.fsize ≤ 0x100000000 := by
  have hmul : 1 * g.fsize ≤ g.nFats * g.fsize := Nat.mul_le_mul_right g.fsize hg.nFats
  have hdatabase := hg.database
  have hsectors := hg.sectors
  omega

/-- What `sync_window` does to the drive is at the window and in the shadow. -/
theorem sectors_syncWindow (hg : g.Valid) (hs : s.Sound g) {k : Nat} (hk : k ∉ g.shadow)
    (hne : k ≠ s.winsect) : (syncWindow g s).2.drive.sectors k = s.drive.sectors k := by
  have hwrite : (s.drive.write (fun _ => s.win) s.winsect 1).2.sectors k = s.drive.sectors k :=
    Drive.sectors_write_of_notMem (by omega)
  unfold syncWindow
  by_cases hflag : s.wflag
  · rw [if_pos hflag]
    simp only
    by_cases hok : (s.drive.write (fun _ => s.win) s.winsect 1).1
    · rw [if_pos hok]
      by_cases hfat : dwordSub s.winsect g.fatbase < g.fsize
      · have hrange := (dwordSub_lt_iff hs.winsect hg.fat_le).mp hfat
        simp only [if_pos hfat]
        rw [sectors_mirror, hwrite]
        rintro i hi rfl
        exact hk (mem_shadow_of_mirror hrange.1 hrange.2 hi)
      · simp only [if_neg hfat]
        exact hwrite
    · rw [if_neg hok]
      exact hwrite
  · rw [if_neg hflag]

/-- What `sync_window` makes of the members of `FATFS`. -/
theorem syncWindow_eq (g : Geometry) (s : Fs) : ∃ d wflag, (syncWindow g s).2 =
    { s with drive := d, wflag := wflag } ∧ ((syncWindow g s).1 = .ok ∧ wflag = false ∨
      (syncWindow g s).1 = .diskErr ∧ wflag = true ∧ s.wflag = true) := by
  unfold syncWindow
  by_cases hflag : s.wflag = true
  · rw [if_pos hflag]
    simp only
    by_cases hok : (s.drive.write (fun _ => s.win) s.winsect 1).1
    · rw [if_pos hok]
      exact ⟨_, _, rfl, .inl ⟨rfl, rfl⟩⟩
    · rw [if_neg hok]
      exact ⟨_, _, rfl, .inr ⟨rfl, hflag, hflag⟩⟩
  · rw [if_neg hflag]
    exact ⟨_, _, rfl, .inl ⟨rfl, Bool.eq_false_iff.mpr hflag⟩⟩

/-- A window without changes stays as it is. -/
theorem syncWindow_clean (hclean : s.wflag = false) : syncWindow g s = (.ok, s) :=
  if_neg (hclean ▸ Bool.false_ne_true)

/-- A window that was written back is what the drive has. -/
theorem sectors_syncWindow_winsect (hg : g.Valid) (hs : s.Sound g) (hflag : s.wflag = true)
    (hok : (syncWindow g s).1 = .ok) : (syncWindow g s).2.drive.sectors s.winsect = s.win := by
  unfold syncWindow at hok ⊢
  rw [if_pos hflag] at hok ⊢
  simp only at hok ⊢
  by_cases hwritten : (s.drive.write (fun _ => s.win) s.winsect 1).1
  · have hwrite : (s.drive.write (fun _ => s.win) s.winsect 1).2.sectors s.winsect = s.win := by
      rw [Drive.sectors_write_of_ok hwritten, if_pos (by omega)]
    rw [if_pos hwritten]
    by_cases hfat : dwordSub s.winsect g.fatbase < g.fsize
    · have hrange := (dwordSub_lt_iff hs.winsect hg.fat_le).mp hfat
      simp only [if_pos hfat]
      rw [sectors_mirror, hwrite]
      intro i _ heq
      have hle : g.fsize ≤ (i + 1) * g.fsize := Nat.le_mul_of_pos_left g.fsize i.succ_pos
      omega
    · simp only [if_neg hfat]
      exact hwrite
  · rw [if_neg hwritten] at hok
    cases hok

theorem coherent_syncWindow (hg : g.Valid) (hs : s.Sound g) :
    (syncWindow g s).2.held.Coherent g.shadow := by
  by_cases hflag : s.wflag = true
  · have hwritten := sectors_syncWindow_winsect hg hs hflag
    obtain ⟨d, wflag, heq, hres⟩ := syncWindow_eq g s
    rw [heq] at hwritten ⊢
    intro hclean _
    rcases hres with ⟨hok, -⟩ | ⟨-, hdirty, -⟩
    · exact hwritten hok
    · exact absurd (hclean.symm.trans hdirty) Bool.false_ne_true
  · unfold syncWindow
    rw [if_neg hflag]
    exact hs.coherent

/-- Writing a sector of the first copy back keeps the copies equal. -/
theorem mirrored_mirror {win : Sector} {wsect : Nat} (hbase : g.fatbase ≤ wsect)
    (hsize : wsect < g.fatbase + g.fsize) {d : Drive} (hd : d.Works) (hmirrored : d.Mirrored g) :
    (mirror g win (g.nFats - 1) wsect (d.write (fun _ => win) wsect 1).2).Mirrored g := by
  have hwrite := hd.write (fun _ => win) wsect 1
  obtain ⟨j, rfl⟩ := Nat.exists_eq_add_of_le hbase
  have hpos : 0 < g.fsize := by omega
  -- a sector of a copy that is not the one written
  have hother : ∀ i, ∀ k < g.fsize, k ≠ j →
      (mirror g win (g.nFats - 1) (g.fatbase + j) (d.write (fun _ => win) (g.fatbase + j) 1).2).sectors
        (g.fatbase + i * g.fsize + k) = d.sectors (g.fatbase + i * g.fsize + k) := by
    intro i k hk hne
    have hmod : ∀ i', i * g.fsize + k ≠ i' * g.fsize + j := by
      intro i' heq
      have h := congrArg (· % g.fsize) heq
      have hj : j < g.fsize := by omega
      simp only [Nat.add_comm (_ * _), Nat.add_mul_mod_self_right, Nat.mod_eq_of_lt hk,
        Nat.mod_eq_of_lt hj] at h
      exact hne h
    rw [sectors_mirror, Drive.sectors_write_of_notMem]
    · have h := hmod 0
      omega
    · intro i' _
      have h := hmod (i' + 1)
      omega
  intro i hi k hk
  have hfirst := hother 0 k hk
  rw [Nat.zero_mul, Nat.add_zero] at hfirst
  by_cases hne : k = j
  · subst hne
    have hself : (mirror g win (g.nFats - 1) (g.fatbase + k)
        (d.write (fun _ => win) (g.fatbase + k) 1).2).sectors (g.fatbase + k) = win := by
      rw [sectors_mirror, Drive.sectors_write_of_ok hwrite.1, if_pos (by omega)]
      intro i _
      have h : 0 < (i + 1) * g.fsize := Nat.mul_pos i.succ_pos hpos
      omega
    cases i with
    | zero => rw [Nat.zero_mul, Nat.add_zero]
    | succ i =>
      rw [hself, Nat.add_right_comm]
      exact sectors_mirror_copy hpos (g.nFats - 1) hwrite.2 (by omega)
  · rw [hother i k hk hne, hfirst hne]
    exact hmirrored i hi k hk

theorem mirrored_syncWindow (hg : g.Valid) (hs : s.Sound g) (hd : s.drive.Works)
    (hmirrored : s.drive.Mirrored g) : (syncWindow g s).2.drive.Mirrored g := by
  unfold syncWindow
  by_cases hflag : s.wflag = true
  · rw [if_pos hflag]
    simp only [(hd.write (fun _ => s.win) s.winsect 1).1, if_true]
    by_cases hfat : dwordSub s.winsect g.fatbase < g.fsize
    · have hrange := (dwordSub_lt_iff hs.winsect hg.fat_le).mp hfat
      rw [if_pos hfat]
      exact mirrored_mirror hrange.1 hrange.2 hd hmirrored
    · rw [if_neg hfat]
      -- the sector is in no copy
      have hother : ∀ i < g.nFats, ∀ k < g.fsize, g.fatbase + i * g.fsize + k ≠ s.winsect := by
        intro i hi k hk heq
        cases i with
        | zero => exact hfat ((dwordSub_lt_iff hs.winsect hg.fat_le).mpr (by omega))
        | succ i =>
          have hle : g.fsize ≤ (i + 1) * g.fsize := Nat.le_mul_of_pos_left g.fsize i.succ_pos
          have hmul : (i + 1 + 1) * g.fsize ≤ g.nFats * g.fsize := Nat.mul_le_mul_right g.fsize hi
          rw [Nat.add_mul (i + 1), Nat.one_mul] at hmul
          exact hs.dirty hflag (.inr (.inl (by omega)))
      intro i hi k hk
      have h := hother i hi k hk
      have h0 := hother 0 hg.nFats k hk
      rw [Drive.sectors_write_of_notMem (by omega), Drive.sectors_write_of_notMem (by omega)]
      exact hmirrored i hi k hk
  · rw [if_neg hflag]
    exact hmirrored

theorem works_syncWindow (hd : s.drive.Works) :
    (syncWindow g s).1 = .ok ∧ (syncWindow g s).2.drive.Works := by
  unfold syncWindow
  by_cases hflag : s.wflag
  · have hwrite := hd.write (fun _ => s.win) s.winsect 1
    rw [if_pos hflag]
    simp only [hwrite.1, if_true]
    refine ⟨trivial, ?_⟩
    split
    · exact works_mirror _ hwrite.2
    · exact hwrite.2
  · rw [if_neg hflag]
    exact ⟨rfl, hd⟩

/-- Writing the window back changes nothing that the volume has. -/
theorem kept_syncWindow (hg : g.Valid) (hs : s.Sound g) : Kept g ∅ ∅ s (syncWindow g s).2 := by
  have hdrive := fun k => sectors_syncWindow (k := k) hg hs
  have hcoherent := coherent_syncWindow hg hs
  have hworks := works_syncWindow (g := g) (s := s)
  have hmirrored := mirrored_syncWindow hg hs
  obtain ⟨d, wflag, heq, hres⟩ := syncWindow_eq g s
  rw [heq] at hdrive hcoherent hworks hmirrored ⊢
  have hview : Set.EqOn (Fs.view { s with drive := d, wflag := wflag }) s.view g.shadowᶜ :=
    Held.view_stored rfl rfl hdrive
  have hdirty : wflag = true → s.winsect ∉ g.shadow := by
    intro hflag
    rcases hres with ⟨-, hclean⟩ | ⟨-, -, hbefore⟩
    · exact absurd (hclean.symm.trans hflag) Bool.false_ne_true
    · exact hs.dirty hbefore
  exact ⟨⟨hs.winsect, hcoherent, hdirty⟩, fun k hk _ => hview hk,
    fun k hk _ hne => hdrive k hk hne, .inl rfl, fun hd => (hworks hd).2, hmirrored⟩

end SyncWindow

/-! ## Composition -/

namespace Kept

variable {seen written : Set Nat} {s s₁ s₂ : Fs}

theorem refl (hs : s.Sound g) : Kept g seen written s s :=
  ⟨hs, fun _ _ _ => rfl, fun _ _ _ _ => rfl, .inl rfl, id, fun _ => id⟩

theorem mono {seen' written' : Set Nat} (h : Kept g seen written s s₁) (hseen : seen ⊆ seen')
    (hwritten : written ⊆ written') : Kept g seen' written' s s₁ where
  sound := h.sound
  view k hk hw := h.view k hk (fun hmem => hw (hwritten hmem))
  drive k hk hw := h.drive k hk (fun hmem => hw (hseen hmem))
  winsect := h.winsect.imp_right (Or.imp_left fun hmem => hseen hmem)
  works := h.works
  mirrored := h.mirrored

theorem trans (h₁ : Kept g seen written s s₁) (h₂ : Kept g seen written s₁ s₂) :
    Kept g seen written s s₂ where
  sound := h₂.sound
  view k hk hw := (h₂.view k hk hw).trans (h₁.view k hk hw)
  drive k hk hw hne := by
    rw [h₂.drive k hk hw ?_, h₁.drive k hk hw hne]
    rintro rfl
    rcases h₁.winsect with heq | hmem | hmem
    · exact hne heq
    · exact hw hmem
    · exact hk hmem
  winsect := by
    rcases h₂.winsect with heq | hmem
    · rw [heq]
      exact h₁.winsect
    · exact .inr hmem
  works hd := h₂.works (h₁.works hd)
  mirrored hd hm := h₂.mirrored (h₁.works hd) (h₁.mirrored hd hm)

end Kept

/-! ## `move_window` -/

section MoveWindow

variable {s : Fs} {sector : Nat}

/-- The window on another sector, after a transfer that worked or did not. -/
theorem kept_fetch (hs : s.Sound g) (hclean : s.wflag = false) {d : Drive} (win : Sector)
    (hsectors : d.sectors = s.drive.sectors) (hd : s.drive.Works → d.Works)
    (hsector : sector < 0x100000000) (hwin : sector ∉ g.shadow → win = s.drive.sectors sector) :
    Kept g {sector} ∅ s { s with drive := d, winsect := sector, win := win } where
  sound := ⟨hsector, fun _ hk => (congrFun hsectors sector).trans (hwin hk).symm,
    fun hflag => absurd (hclean.symm.trans hflag) Bool.false_ne_true⟩
  view _ hk _ := Held.view_fetched (h := s.held) hs.coherent hclean hsectors hwin hk
  drive _ _ _ _ := congrFun hsectors _
  winsect := .inr (.inl rfl)
  works := hd
  mirrored _ hm i hi k hk := by
    rw [hsectors]
    exact hm i hi k hk

/-- Moving the window changes nothing that the volume has, also where it fails. -/
theorem kept_moveWindow (hg : g.Valid) (hs : s.Sound g) (hsector : sector < 0x100000000) :
    Kept g {sector} ∅ s (moveWindow g sector s).2 := by
  unfold moveWindow
  by_cases hmoved : sector ≠ s.winsect
  · have hsync := kept_syncWindow hg hs
    obtain ⟨d, wflag, heq, hres⟩ := syncWindow_eq g s
    rw [if_pos hmoved]
    simp only
    rw [heq] at hsync ⊢
    have hsync := hsync.mono (Set.empty_subset {sector}) (le_refl ∅)
    by_cases hok : (syncWindow g s).1 = .ok
    · have hclean : wflag = false :=
        hres.elim And.right fun hfail => absurd (hok.symm.trans hfail.1) nofun
      rw [if_pos hok]
      have hread := fun hd : d.Works => hd.read.2
      by_cases hread1 : d.read.1
      · rw [if_pos hread1]
        refine hsync.trans (kept_fetch hsync.sound hclean _ (Drive.sectors_read d) hread hsector
          fun _ => ?_)
        exact congrFun (Drive.read_ok hread1) sector
      · rw [if_neg hread1]
        have hfetch := kept_fetch hsync.sound hclean (d.read.2.1 sector)
          (Drive.sectors_read d) hread (by omega : 0xFFFFFFFF < 0x100000000) (fun hk => absurd (.inl rfl) hk)
        refine hsync.trans ⟨hfetch.sound, hfetch.view, fun k hk _ => hfetch.drive k hk ?_,
          .inr (.inr (.inl rfl)), hfetch.works, hfetch.mirrored⟩
        rintro rfl
        exact hk (.inl rfl)
    · rw [if_neg hok]
      exact hsync
  · rw [if_neg hmoved]
    exact .refl hs

theorem winsect_moveWindow (hok : (moveWindow g sector s).1 = .ok) :
    (moveWindow g sector s).2.winsect = sector := by
  unfold moveWindow at hok ⊢
  by_cases hmoved : sector ≠ s.winsect
  · rw [if_pos hmoved] at hok ⊢
    simp only at hok ⊢
    by_cases hsync : (syncWindow g s).1 = .ok
    · rw [if_pos hsync] at hok ⊢
      by_cases hread : (syncWindow g s).2.drive.read.1
      · rw [if_pos hread]
      · rw [if_neg hread] at hok
        cases hok
    · rw [if_neg hsync] at hok
      exact absurd hok hsync
  · rw [if_neg hmoved]
    exact (not_not.mp hmoved).symm

/-- Nothing is to be written back where a window without changes was moved to. -/
theorem wflag_moveWindow (hclean : s.wflag = false) : (moveWindow g sector s).2.wflag = false := by
  unfold moveWindow
  rw [syncWindow_clean hclean]
  simp only [if_true]
  split_ifs <;> exact hclean

/-- A window that was moved shows what the volume has there. -/
theorem win_moveWindow (hg : g.Valid) (hs : s.Sound g) (hsector : sector < 0x100000000)
    (hk : sector ∉ g.shadow) (hok : (moveWindow g sector s).1 = .ok) :
    (moveWindow g sector s).2.win = s.view sector := by
  have hview := (moveWindow g sector s).2.view_winsect
  rw [winsect_moveWindow hok] at hview
  rw [← hview]
  exact (kept_moveWindow hg hs hsector).view sector hk (Set.notMem_empty sector)

/-- A move fails with the drive. -/
theorem moveWindow_res (g : Geometry) (sector : Nat) (s : Fs) :
    (moveWindow g sector s).1 = .ok ∨ (moveWindow g sector s).1 = .diskErr := by
  obtain ⟨d, wflag, heq, hres⟩ := syncWindow_eq g s
  unfold moveWindow
  split
  · simp only
    split
    · split
      · exact .inl rfl
      · exact .inr rfl
    · exact (hres.imp And.left And.left)
  · exact .inl rfl

theorem moveWindow_works (hd : s.drive.Works) : (moveWindow g sector s).1 = .ok := by
  have hsync := works_syncWindow (g := g) hd
  unfold moveWindow
  split
  · simp only [hsync.1, hsync.2.read.1, if_true]
  · rfl

/-- The members that the window is not about. -/
def Fs.info (s : Fs) : Nat × Nat × UInt8 := (s.lastClst, s.freeClst, s.fsiFlag)

@[simp] theorem info_syncWindow (g : Geometry) (s : Fs) : (syncWindow g s).2.info = s.info := by
  obtain ⟨d, wflag, heq, -⟩ := syncWindow_eq g s
  rw [heq]
  rfl

@[simp] theorem info_moveWindow (g : Geometry) (sector : Nat) (s : Fs) :
    (moveWindow g sector s).2.info = s.info := by
  unfold moveWindow
  split
  · simp only
    split
    · split <;> exact info_syncWindow g s
    · exact info_syncWindow g s
  · rfl

end MoveWindow

/-! ## `sync_fs` -/

section SyncFs

variable {s : Fs}

/-- FSInfo takes the place of a window that is written back. -/
theorem kept_fsInfo (hg : g.Valid) (hs : s.Sound g) (hclean : s.wflag = false)
    (hfs : g.fsType = .fat32) : Kept g ∅ ∅ s { s with
      win := fsInfo s
      winsect := g.volbase + 1
      drive := (s.drive.write (fun _ => fsInfo s) (g.volbase + 1) 1).2
      fsiFlag := 0 } := by
  have hshadow : g.volbase + 1 ∈ g.shadow := .inr (.inr ⟨hfs, rfl⟩)
  have hbase := hg.fsInfo hfs
  have hfat := hg.fat_le
  have hsectors : ∀ k ∉ g.shadow,
      (s.drive.write (fun _ => fsInfo s) (g.volbase + 1) 1).2.sectors k = s.drive.sectors k := by
    intro k hk
    refine Drive.sectors_write_of_notMem fun hrange => hk ?_
    obtain rfl : k = g.volbase + 1 := by omega
    exact hshadow
  refine ⟨⟨?_, fun _ hkey => absurd hshadow hkey, ?_⟩, fun k hk _ => ?_, fun k hk _ _ => hsectors k hk,
    .inr (.inr hshadow), fun hd => (hd.write _ _ _).2, fun _ hm i hi k hk => ?_⟩
  · simp only
    omega
  · intro hflag
    exact absurd (hclean.symm.trans hflag) Bool.false_ne_true
  · have hne : k ≠ g.volbase + 1 := fun heq => hk (heq ▸ hshadow)
    have hview := Held.view_eqOn_store (h := s.held) hs.coherent hclean hk
    exact ((Held.view_of_ne hne).trans (hsectors k hk)).trans hview.symm
  · rw [Drive.sectors_write_of_notMem (by omega), Drive.sectors_write_of_notMem (by omega)]
    exact hm i hi k hk

theorem kept_sync (hs : s.Sound g) : Kept g ∅ ∅ s { s with drive := s.drive.sync.2 } where
  sound := ⟨hs.winsect, hs.coherent, hs.dirty⟩
  view _ _ _ := rfl
  drive _ _ _ _ := rfl
  winsect := .inl rfl
  works hd := hd.sync.2
  mirrored _ := id

/-- `sync_fs` changes nothing that the volume has. -/
theorem kept_syncFs (hg : g.Valid) (hs : s.Sound g) : Kept g ∅ ∅ s (syncFs g s).2 := by
  have hsync := kept_syncWindow hg hs
  obtain ⟨d, wflag, heq, hres⟩ := syncWindow_eq g s
  unfold syncFs
  simp only
  rw [heq] at hsync ⊢
  by_cases hok : (syncWindow g s).1 = .ok
  · have hclean : wflag = false :=
      hres.elim And.right fun hfail => absurd (hok.symm.trans hfail.1) nofun
    rw [if_pos hok]
    by_cases hinfo : g.fsType = .fat32 ∧ s.fsiFlag = 1
    · rw [if_pos hinfo]
      have hfs := kept_fsInfo hg hsync.sound hclean hinfo.1
      exact hsync.trans (hfs.trans (kept_sync hfs.sound))
    · rw [if_neg hinfo]
      exact hsync.trans (kept_sync hsync.sound)
  · rw [if_neg hok]
    exact hsync

theorem wflag_syncFs (hok : (syncFs g s).1 = .ok) : (syncFs g s).2.wflag = false := by
  obtain ⟨d, wflag, heq, hres⟩ := syncWindow_eq g s
  unfold syncFs at hok ⊢
  simp only at hok ⊢
  rw [heq] at hok ⊢
  rcases hres with ⟨hsync, hclean⟩ | ⟨hsync, -, -⟩
  · rw [if_pos hsync]
    split_ifs <;> exact hclean
  · rw [hsync, if_neg nofun] at hok
    cases hok

/-- Where nothing is to be written back, all that the volume has is on the drive. -/
theorem Fs.Sound.sectors_of_clean (hs : s.Sound g) (hclean : s.wflag = false) :
    ∀ k ∉ g.shadow, s.drive.sectors k = s.view k := fun _ hk =>
  (Held.view_eqOn_store (h := s.held) hs.coherent hclean hk).symm

@[simp] theorem freeClst_syncFs (g : Geometry) (s : Fs) :
    (syncFs g s).2.freeClst = s.freeClst := by
  obtain ⟨d, wflag, heq, -⟩ := syncWindow_eq g s
  unfold syncFs
  simp only
  rw [heq]
  split_ifs <;> rfl

theorem syncFs_works (hd : s.drive.Works) : (syncFs g s).1 = .ok := by
  have hsync := works_syncWindow (g := g) hd
  unfold syncFs
  simp only [hsync.1, if_true]
  split_ifs with hinfo hfail
  · rfl
  · exact absurd (hsync.2.write _ _ _).2.sync.1 hfail
  · rfl
  · next hfail => exact absurd hsync.2.sync.1 hfail

end SyncFs

/-! ## Writing in the window -/

/-- `fs->win` with `f` done to it, and `fs->wflag = 1`. -/
def Fs.edit (f : Sector → Sector) (s : Fs) : Fs := { s with win := f s.win, wflag := true }

@[simp] theorem info_edit (f : Sector → Sector) (s : Fs) : (s.edit f).info = s.info := rfl

theorem view_edit (f : Sector → Sector) (s : Fs) :
    (s.edit f).view = Function.update s.view s.winsect (f s.win) :=
  Held.view_edited rfl rfl

theorem kept_edit {s : Fs} (hs : s.Sound g) (hk : s.winsect ∉ g.shadow) (f : Sector → Sector) :
    Kept g {s.winsect} {s.winsect} s (s.edit f) where
  sound := ⟨hs.winsect, nofun, fun _ => hk⟩
  view k _ hw := by
    rw [view_edit, Function.update_of_ne hw]
  drive _ _ _ _ := rfl
  winsect := .inl rfl
  works := id
  mirrored _ := id

end GenLogger.Fat
