import GenLogger.Fat.Chain
import GenLogger.Lib.Chunks

/-!
# The data area (`clust2sect`)

The clusters behind the table, and the bytes of a chain of them as one sequence (`Geometry.bytes`).

* `Geometry.sector` is the `q`-th sector of a chain, which `clust2sect` and the sector in the cluster give.
* `Geometry.sectorsOf` are all of them; no sector is in two chains.

Results:
* `clust2sect_eq`: where `clust2sect` leads to.
* `bytes_transfer`, `bytes_update`: a transfer within a cluster is a splice of the sequence, and so is a
  change in one sector.
* `kept_data`: a transfer of one file is none of another's business.
-/

namespace GenLogger.Fat

open GenLogger.Lib

variable {g : Geometry}

/-! ## `ff.c` -/

/-- `clust2sect`: `0` for a number that is not one of a cluster. -/
def clust2sect (g : Geometry) (clst : Nat) : Nat :=
  let clst := dwordSub clst 2
  if g.nFatent - 2 ≤ clst then 0 else clst * g.csize + g.database

/-! ## The sectors of a chain -/

/-- The cluster of a sector. -/
def Geometry.clusterOf (g : Geometry) (k : Nat) : Nat := (k - g.database) / g.csize + 2

/-- The sectors of the clusters `cs`. -/
def Geometry.sectorsOf (g : Geometry) (cs : List Nat) : Set Nat :=
  fun k => g.database ≤ k ∧ g.clusterOf k ∈ cs

/-- The `q`-th sector of a chain. -/
def Geometry.sector (g : Geometry) (cs : List Nat) (q : Nat) : Nat :=
  g.database + (cs.getD (q / g.csize) 0 - 2) * g.csize + q % g.csize

/-- The bytes of a chain, one sector behind the other. -/
def Geometry.bytes (g : Geometry) (cs : List Nat) (v : Nat → Sector) (ofs : Nat) : UInt8 :=
  v (g.sector cs (ofs / g.ssize)) (ofs % g.ssize)

theorem clust2sect_eq (hg : g.Valid) {c : Nat} (hc : c ∈ g.clusters) :
    clust2sect g c = g.database + (c - 2) * g.csize := by
  obtain ⟨h2, hlt⟩ := mem_clusters.mp hc
  have hclusters := hg.clusters
  have hwidth : 2 ^ g.fsType.width ≤ 2 ^ 28 := Nat.pow_le_pow_right (by decide) (by
    cases g.fsType <;> decide)
  have hsub : dwordSub c 2 = c - 2 := by
    unfold dwordSub
    omega
  simp only [clust2sect, hsub]
  rw [if_neg (by omega), Nat.add_comm]

theorem Geometry.Valid.database_pos (hg : g.Valid) : 0 < g.database := by
  have hvolbase := hg.volbase
  have hdatabase := hg.database
  omega

section Chain

variable {cs m : List Nat} {q : Nat}

theorem clusterOf_add (hg : g.Valid) {c j : Nat} (h2 : 2 ≤ c) (hj : j < g.csize) :
    g.clusterOf (g.database + (c - 2) * g.csize + j) = c := by
  unfold Geometry.clusterOf
  rw [Nat.add_assoc, Nat.add_sub_cancel_left, Nat.mul_comm, Nat.mul_add_div hg.csize_pos,
    Nat.div_eq_of_lt hj, Nat.add_zero, Nat.sub_add_cancel h2]

theorem div_csize_lt (hq : q < cs.length * g.csize) : q / g.csize < cs.length :=
  Nat.div_lt_of_lt_mul (Nat.mul_comm cs.length g.csize ▸ hq)

theorem clusterOf_sector (hg : g.Valid) (hcs : ∀ c ∈ cs, c ∈ g.clusters)
    (hq : q < cs.length * g.csize) :
    ∃ h : q / g.csize < cs.length, g.clusterOf (g.sector cs q) = cs[q / g.csize] := by
  have hlt := div_csize_lt hq
  have h2 := (mem_clusters.mp (hcs _ (List.getElem_mem hlt))).1
  refine ⟨hlt, ?_⟩
  unfold Geometry.sector
  rw [List.getD_eq_getElem _ _ hlt, clusterOf_add hg h2 (Nat.mod_lt q hg.csize_pos)]

theorem sector_mem (hg : g.Valid) (hcs : ∀ c ∈ cs, c ∈ g.clusters) (hq : q < cs.length * g.csize) :
    g.sector cs q ∈ g.sectorsOf cs := by
  obtain ⟨hlt, hcluster⟩ := clusterOf_sector hg hcs hq
  refine ⟨?_, ?_⟩
  · unfold Geometry.sector
    omega
  · rw [hcluster]
    exact List.getElem_mem hlt

/-- No sector is twice in a chain. -/
theorem sector_inj (hg : g.Valid) (hcs : ∀ c ∈ cs, c ∈ g.clusters) (hnodup : cs.Nodup) {q' : Nat}
    (hq : q < cs.length * g.csize) (hq' : q' < cs.length * g.csize)
    (h : g.sector cs q' = g.sector cs q) : q' = q := by
  obtain ⟨hlt, hcluster⟩ := clusterOf_sector hg hcs hq
  obtain ⟨hlt', hcluster'⟩ := clusterOf_sector hg hcs hq'
  rw [h, hcluster] at hcluster'
  have hdiv : q / g.csize = q' / g.csize := (hnodup.getElem_inj_iff).mp hcluster'
  unfold Geometry.sector at h
  rw [hdiv] at h
  have hmod : q' % g.csize = q % g.csize := Nat.add_left_cancel h
  rw [← Nat.div_add_mod q' g.csize, ← Nat.div_add_mod q g.csize, hdiv, hmod]

theorem sector_append (hq : q < cs.length * g.csize) : g.sector (cs ++ m) q = g.sector cs q := by
  have hlt := div_csize_lt hq
  unfold Geometry.sector
  rw [List.getD_append _ _ _ _ hlt]

/-- A number and one that comes a little later. -/
theorem div_mod_add {n q j : Nat} (h : q % n + j < n) :
    (q + j) / n = q / n ∧ (q + j) % n = q % n + j := by
  have hsplit : q + j = n * (q / n) + (q % n + j) := by
    rw [← Nat.add_assoc, Nat.div_add_mod]
  rw [hsplit]
  constructor
  · rw [Nat.mul_add_div (by omega), Nat.div_eq_of_lt h, Nat.add_zero]
  · rw [Nat.mul_add_mod, Nat.mod_eq_of_lt h]

/-- The sectors of a cluster follow one another. -/
theorem sector_add {j : Nat} (h : q % g.csize + j < g.csize) :
    g.sector cs (q + j) = g.sector cs q + j := by
  obtain ⟨hdiv, hmod⟩ := div_mod_add h
  unfold Geometry.sector
  rw [hmod, hdiv, Nat.add_assoc _ _ j]

theorem sectorsOf_lt (hg : g.Valid) (hcs : ∀ c ∈ cs, c ∈ g.clusters) {k : Nat}
    (hk : k ∈ g.sectorsOf cs) : k < g.database + (g.nFatent - 2) * g.csize := by
  obtain ⟨hlo, hmem⟩ := hk
  have hlt := (mem_clusters.mp (hcs _ hmem)).2
  unfold Geometry.clusterOf at hlt
  have hdiv : (k - g.database) / g.csize < g.nFatent - 2 := by omega
  have hmul := (Nat.div_lt_iff_lt_mul hg.csize_pos).mp hdiv
  omega

/-- The data area is behind all that `fs->win` is used for by the table. -/
theorem sectorsOf_notMem (hg : g.Valid) (hcs : ∀ c ∈ cs, c ∈ g.clusters) {k : Nat}
    (hk : k ∈ g.sectorsOf cs) : k ∉ g.shadow ∧ k ∉ g.fatSectors ∧ k < 0x100000000 := by
  have hlt := sectorsOf_lt hg hcs hk
  have hmul : 1 * g.fsize ≤ g.nFats * g.fsize := Nat.mul_le_mul_right g.fsize hg.nFats
  have hdatabase := hg.database
  have hsectors := hg.sectors
  obtain ⟨hlo, -⟩ := hk
  refine ⟨?_, fun hfat => ?_, by omega⟩
  · rintro (hinvalid | ⟨-, hhi⟩ | ⟨hfat32, hinfo⟩)
    · omega
    · omega
    · have hbase := hg.fsInfo hfat32
      omega
  · obtain ⟨-, hhi⟩ := hfat
    omega

end Chain

/-! ## Transfers -/

section Transfer

variable {cs : List Nat} {q cc : Nat} {v v' : Nat → Sector}

/-- The bytes of a chain are in its sectors. -/
theorem bytes_congr (hg : g.Valid) (hcs : ∀ c ∈ cs, c ∈ g.clusters)
    (hv : Set.EqOn v' v (g.sectorsOf cs)) {ofs : Nat} (hofs : ofs < cs.length * g.csize * g.ssize) :
    g.bytes cs v' ofs = g.bytes cs v ofs := by
  have hq : ofs / g.ssize < cs.length * g.csize := (Nat.div_lt_iff_lt_mul hg.ssize_pos).mpr hofs
  exact congrFun (hv (sector_mem hg hcs hq)) _

/-- The sectors of a transfer within a cluster. -/
theorem mem_transfer_iff (hg : g.Valid) (hcs : ∀ c ∈ cs, c ∈ g.clusters) (hnodup : cs.Nodup)
    (hfits : q % g.csize + cc ≤ g.csize) (hlast : q + cc ≤ cs.length * g.csize) {q' : Nat}
    (hq' : q' < cs.length * g.csize) :
    g.sector cs q ≤ g.sector cs q' ∧ g.sector cs q' < g.sector cs q + cc ↔ q ≤ q' ∧ q' < q + cc := by
  constructor
  · rintro ⟨hlo, hhi⟩
    obtain ⟨j, hj⟩ := Nat.exists_eq_add_of_le hlo
    have hadd : g.sector cs (q + j) = g.sector cs q' := by
      rw [sector_add (by omega), hj]
    have heq := sector_inj hg hcs hnodup hq' (by omega) hadd
    omega
  · rintro ⟨hlo, hhi⟩
    obtain ⟨j, rfl⟩ := Nat.exists_eq_add_of_le hlo
    rw [sector_add (by omega)]
    omega

/-- A transfer of whole sectors is a splice. -/
theorem bytes_transfer (hg : g.Valid) (hcs : ∀ c ∈ cs, c ∈ g.clusters) (hnodup : cs.Nodup)
    (hfits : q % g.csize + cc ≤ g.csize) (hlast : q + cc ≤ cs.length * g.csize) {l : List UInt8}
    (hl : l.length = g.ssize * cc) {data : Nat → Sector}
    (hdata : ∀ i j, j < g.ssize → ∀ h : g.ssize * i + j < l.length,
      data (g.sector cs q + i) j = l[g.ssize * i + j])
    (hv : ∀ k ∈ g.sectorsOf cs, v' k =
      if g.sector cs q ≤ k ∧ k < g.sector cs q + cc then data k else v k) {ofs : Nat}
    (hofs : ofs < cs.length * g.csize * g.ssize) :
    g.bytes cs v' ofs = splice (g.bytes cs v) (g.ssize * q) l ofs := by
  have hss := hg.ssize_pos
  have hq' : ofs / g.ssize < cs.length * g.csize := (Nat.div_lt_iff_lt_mul hss).mpr hofs
  have hiff := mem_transfer_iff hg hcs hnodup hfits hlast hq'
  have hsplit := Nat.div_add_mod ofs g.ssize
  have hmod := Nat.mod_lt ofs hss
  unfold Geometry.bytes
  rw [hv _ (sector_mem hg hcs hq')]
  by_cases hin : q ≤ ofs / g.ssize ∧ ofs / g.ssize < q + cc
  · obtain ⟨i, hi⟩ := Nat.exists_eq_add_of_le hin.1
    have hle : g.ssize * i + g.ssize ≤ g.ssize * cc := by
      rw [← Nat.mul_succ]
      exact Nat.mul_le_mul_left g.ssize (by omega)
    rw [hi, Nat.mul_add] at hsplit
    have hlt : g.ssize * i + ofs % g.ssize < l.length := by omega
    have hofs' : ofs = g.ssize * q + (g.ssize * i + ofs % g.ssize) := by omega
    rw [if_pos (hiff.mpr hin), hi, sector_add (by omega), hdata i _ hmod hlt]
    conv_rhs => rw [hofs']
    rw [splice_add hlt]
  · rw [if_neg (mt hiff.mp hin)]
    by_cases hbefore : ofs / g.ssize < q
    · have hmul : g.ssize * (ofs / g.ssize + 1) ≤ g.ssize * q := Nat.mul_le_mul_left g.ssize hbefore
      rw [Nat.mul_succ] at hmul
      rw [splice_of_lt (by omega)]
    · have hmul : g.ssize * (q + cc) ≤ g.ssize * (ofs / g.ssize) :=
        Nat.mul_le_mul_left g.ssize (by omega)
      rw [Nat.mul_add] at hmul
      rw [splice_of_ge (by omega)]

/-- A change in one sector is one, where the rest of the sector is what it was. -/
theorem bytes_update (hg : g.Valid) (hcs : ∀ c ∈ cs, c ∈ g.clusters) (hnodup : cs.Nodup)
    (hq : q < cs.length * g.csize) {i : Nat} {l : List UInt8} (hi : i + l.length ≤ g.ssize)
    (buf : Sector) (hv : ∀ k ∈ g.sectorsOf cs, v' k =
      if k = g.sector cs q then splice buf i l else v k) {ofs : Nat}
    (hofs : ofs < cs.length * g.csize * g.ssize)
    (hbuf : ofs / g.ssize = q → ofs < g.ssize * q + i ∨ g.ssize * q + i + l.length ≤ ofs →
      buf (ofs % g.ssize) = v (g.sector cs q) (ofs % g.ssize)) :
    g.bytes cs v' ofs = splice (g.bytes cs v) (g.ssize * q + i) l ofs := by
  have hss := hg.ssize_pos
  have hq' : ofs / g.ssize < cs.length * g.csize :=
    Nat.div_lt_of_lt_mul (Nat.mul_comm _ g.ssize ▸ hofs)
  have hsplit := Nat.div_add_mod ofs g.ssize
  have hmod := Nat.mod_lt ofs hss
  unfold Geometry.bytes
  rw [hv _ (sector_mem hg hcs hq')]
  by_cases hsame : ofs / g.ssize = q
  · rw [hsame] at hsplit ⊢
    rw [if_pos rfl]
    by_cases hbefore : ofs < g.ssize * q + i
    · rw [splice_of_lt hbefore, splice_of_lt (by omega), hbuf hsame (.inl hbefore), hsame]
    · by_cases hafter : g.ssize * q + i + l.length ≤ ofs
      · rw [splice_of_ge hafter, splice_of_ge (by omega), hbuf hsame (.inr hafter), hsame]
      · obtain ⟨j, hj⟩ := Nat.exists_eq_add_of_le (Nat.not_lt.mp hbefore)
        have hmodj : ofs % g.ssize = i + j := by omega
        rw [hmodj, hj, splice_add (by omega), splice_add (by omega)]
  · rw [if_neg fun h => hsame (sector_inj hg hcs hnodup hq hq' h)]
    rcases Nat.lt_or_gt_of_ne hsame with hlt | hgt
    · have hmul := Nat.mul_le_mul_left g.ssize (Nat.succ_le_of_lt hlt)
      rw [Nat.mul_succ] at hmul
      rw [splice_of_lt (by omega)]
    · have hmul := Nat.mul_le_mul_left g.ssize (Nat.succ_le_of_lt hgt)
      rw [Nat.mul_succ] at hmul
      rw [splice_of_ge (by omega)]

variable {s : Fs}

/-- What a file reads is of no consequence. -/
theorem kept_disk_read (hs : s.Sound g) (seen written : Set Nat) :
    Kept g seen written s { s with drive := s.drive.read.2.2 } where
  sound := ⟨hs.winsect, by simpa [Fs.held] using hs.coherent, hs.dirty⟩
  view k _ _ := by simp [Fs.view, Fs.held]
  drive k _ _ _ := by simp
  winsect := .inl rfl
  works hd := hd.read.2
  mirrored _ hm i hi k hk := by simpa using hm i hi k hk

/-- What it writes is so for all that is not in its sectors. -/
theorem kept_data (hg : g.Valid) (hs : s.Sound g)
    (hwinsect : s.winsect ∉ g.sectorsOf cs) {sect : Nat} (data : Nat → Sector)
    (hrange : ∀ k, sect ≤ k → k < sect + cc → k ∈ g.sectorsOf cs) :
    Kept g (g.sectorsOf cs) (g.sectorsOf cs) s
      { s with drive := (s.drive.write data sect cc).2 } := by
  have hout : ∀ k ∉ g.sectorsOf cs, (s.drive.write data sect cc).2.sectors k = s.drive.sectors k :=
    fun k hk => Drive.sectors_write_of_notMem fun h => hk (hrange k h.1 h.2)
  refine ⟨⟨hs.winsect, ?_, hs.dirty⟩, fun k _ hk => ?_, fun k _ hk _ => hout k hk, .inl rfl,
    fun hd => (hd.write _ _ _).2, fun _ hm i hi k hk => ?_⟩
  · intro hclean hkey
    exact (hout _ hwinsect).trans (hs.coherent hclean hkey)
  · have hview : Set.EqOn (Fs.view { s with drive := (s.drive.write data sect cc).2 }) s.view
        (g.sectorsOf cs)ᶜ := Held.view_stored rfl rfl fun k hk _ => hout k hk
    exact hview hk
  · have hnot : ∀ i < g.nFats, g.fatbase + i * g.fsize + k ∉ g.sectorsOf cs := by
      rintro i hi ⟨hlo, -⟩
      have hmul : (i + 1) * g.fsize ≤ g.nFats * g.fsize := Nat.mul_le_mul_right g.fsize hi
      have hdatabase := hg.database
      rw [Nat.succ_mul] at hmul
      omega
    have hnot0 := hnot 0 hg.nFats
    rw [Nat.zero_mul, Nat.add_zero] at hnot0
    exact (hout _ (hnot i hi)).trans ((hm i hi k hk).trans (hout _ hnot0).symm)

end Transfer

end GenLogger.Fat
