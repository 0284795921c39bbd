import GenLogger.Lib.WriteBack
import Mathlib.Algebra.Group.Nat.Defs

/-!
# A FAT volume (`ff.c`, `diskio.c`)

Model of what FatFs keeps of a volume and of the drive below it: `Drive` is `disk_read`, `disk_write` and
`disk_ioctl(CTRL_SYNC)`, `Geometry` and `Fs` are `FATFS`. The members that `find_volume` sets and nothing
changes later are a record of their own, so that it is a parameter of what comes after a mount.

* A sector is its bytes by offset, whatever the sector size. Behind the end of a sector nothing is said.
* A drive has the outcomes of its transfers to come. A transfer that fails leaves anything in the sectors
  and in the buffer it is about. `Drive.Works` is that none fails from here on.
* `Geometry.Valid` is what the functions of the table and of files need of a volume. `Fat.Mount` says
  which boot sectors give one.

Results:
* `Drive.read_ok`, `Drive.sectors_write_of_ok`, `Drive.sectors_write_of_notMem`: what a transfer gives, and
  which sectors it does not change.
* `Drive.Works.read`, `Drive.Works.write`, `Drive.Works.sync`: a drive that works goes on working.
* `valid_smallGeometry`: there are such volumes, for one the small one that the witnesses are about.
-/

namespace GenLogger.Fat

open GenLogger.Lib

/-- The bytes of a sector by offset. What is beyond the size of a sector has no meaning. -/
abbrev Sector := Nat → UInt8

/-- The `FRESULT`s of the functions on an open file and below them. -/
inductive FResult where
  | ok
  | diskErr
  | intErr
  | noFile
  | denied
  | exist
  | invalidObject
  | notEnoughCore
  | notReady
  | writeProtected
  | noFilesystem
  | mkfsAborted
  | invalidParameter
  deriving Repr, DecidableEq

/-- What a `DWORD` holds of `n`. -/
def dword (n : Nat) : Nat := n % 0x100000000

/-- `a - b` of two `DWORD`s. -/
def dwordSub (a b : Nat) : Nat := (a + 0x100000000 - b) % 0x100000000

/-! ## Bytes -/

/-- `ld_word` at the offset `i`. -/
def ldWord (p : Sector) (i : Nat) : Nat := (p (i + 1)).toNat <<< 8 ||| (p i).toNat

/-- `ld_dword` at the offset `i`. -/
def ldDword (p : Sector) (i : Nat) : Nat :=
  (((p (i + 3)).toNat <<< 8 ||| (p (i + 2)).toNat) <<< 8 ||| (p (i + 1)).toNat) <<< 8 ||| (p i).toNat

/-- `*ptr = (BYTE)val` at the offset `i`. -/
def stByte (p : Sector) (i val : Nat) : Sector := Function.update p i (UInt8.ofNat val)

/-- `st_word` at the offset `i`. -/
def stWord (p : Sector) (i val : Nat) : Sector := stByte (stByte p i val) (i + 1) (val >>> 8)

/-- `st_dword` at the offset `i`. -/
def stDword (p : Sector) (i val : Nat) : Sector :=
  stByte (stByte (stByte (stByte p i val) (i + 1) (val >>> 8)) (i + 2) (val >>> 16)) (i + 3) (val >>> 24)

/-! ## The drive -/

/-- What is on the drive, and how the transfers to come will go: `none` is one that works, `some left`
one that fails and leaves `left`. Those after the last one of the list work. -/
structure Drive where
  sectors : Nat → Sector
  faults : List (Option (Nat → Sector))

namespace Drive

/-- `disk_read`: whether it returns `RES_OK`, and what the buffer has of each sector it asked for. -/
def read (d : Drive) : Bool × (Nat → Sector) × Drive :=
  match d.faults.head?.join with
  | none => (true, d.sectors, { d with faults := d.faults.tail })
  | some left => (false, left, { d with faults := d.faults.tail })

/-- `disk_write` of `count` sectors from `sector` on: whether it returns `RES_OK`. -/
def write (d : Drive) (data : Nat → Sector) (sector count : Nat) : Bool × Drive :=
  match d.faults.head?.join with
  | none =>
    (true, ⟨fun k => if sector ≤ k ∧ k < sector + count then data k else d.sectors k, d.faults.tail⟩)
  | some left =>
    (false, ⟨fun k => if sector ≤ k ∧ k < sector + count then left k else d.sectors k, d.faults.tail⟩)

/-- `disk_ioctl` with `CTRL_SYNC`: whether it returns `RES_OK`. -/
def sync (d : Drive) : Bool × Drive :=
  (d.faults.head?.join.isNone, { d with faults := d.faults.tail })

/-- No transfer will fail. -/
def Works (d : Drive) : Prop := ∀ fault ∈ d.faults, fault = none

end Drive

/-! ## The volume -/

/-- `FS_FAT12`, `FS_FAT16` and `FS_FAT32`. -/
inductive FsType where
  | fat12
  | fat16
  | fat32
  deriving Repr, DecidableEq

/-- The members of `FATFS` that a mount sets: where the parts of the volume begin, and how large they
are. -/
structure Geometry where
  fsType : FsType
  /-- `SS(fs)`. -/
  ssize : Nat
  /-- The sectors of a cluster. -/
  csize : Nat
  nFats : Nat
  nRootdir : Nat
  /-- The entries of the table, two more than there are clusters. -/
  nFatent : Nat
  /-- The sectors of one table. -/
  fsize : Nat
  volbase : Nat
  fatbase : Nat
  dirbase : Nat
  database : Nat
  deriving Repr, DecidableEq

/-- The members of `FATFS` that the functions change, and the drive below: where to look for a free
cluster, how many there are, and the window. -/
structure Fs where
  drive : Drive
  lastClst : Nat
  freeClst : Nat
  /-- Bit 7 is set where there is no FSInfo, bit 0 where it has to be written. -/
  fsiFlag : UInt8
  wflag : Bool
  winsect : Nat
  win : Sector

/-- The bits of an entry. -/
def FsType.width : FsType → Nat
  | .fat12 => 12
  | .fat16 => 16
  | .fat32 => 28

/-- `szbfat`: the bytes of a table with `n` entries. -/
def FsType.tableSize (n : Nat) : FsType → Nat
  | .fat12 => n * 3 / 2 + n % 2
  | .fat16 => n * 2
  | .fat32 => n * 4

/-- What a volume has to be for its sectors to be where they are looked for. -/
structure Geometry.Valid (g : Geometry) : Prop where
  ssize : g.ssize ∈ [512, 1024, 2048, 4096]
  csize : ∃ k, g.csize = 2 ^ k
  nFats : 1 ≤ g.nFats
  nFatent : 2 < g.nFatent
  /-- No cluster has the number that ends a chain. -/
  clusters : g.nFatent < 2 ^ g.fsType.width
  table : g.fsType.tableSize g.nFatent ≤ g.fsize * g.ssize
  volbase : g.volbase < g.fatbase
  /-- `fs->volbase + 1` is FSInfo and not the table. -/
  fsInfo : g.fsType = .fat32 → g.volbase + 1 < g.fatbase
  database : g.fatbase + g.nFats * g.fsize ≤ g.database
  sectors : g.database + (g.nFatent - 2) * g.csize < 0x100000000

namespace Geometry.Valid

variable {g : Geometry}

theorem ssize_pos (hg : g.Valid) : 0 < g.ssize := by
  have h := hg.ssize
  simp only [List.mem_cons, List.not_mem_nil, or_false] at h
  omega

theorem csize_pos (hg : g.Valid) : 0 < g.csize := by
  obtain ⟨k, hk⟩ := hg.csize
  rw [hk]
  exact Nat.two_pow_pos k

theorem fsize_pos (hg : g.Valid) : 0 < g.fsize := by
  have hent := hg.nFatent
  have htable := hg.table
  refine Nat.pos_of_ne_zero fun h0 => ?_
  rw [h0, Nat.zero_mul] at htable
  revert htable
  cases g.fsType <;> simp only [FsType.tableSize] <;> omega

/-- The data area is behind FSInfo. -/
theorem volbase_lt_database (hg : g.Valid) : g.volbase + 1 < g.database := by
  have hvol := hg.volbase
  have hdata := hg.database
  have hpos := Nat.mul_pos hg.nFats hg.fsize_pos
  omega

end Geometry.Valid

/-! ## A volume of four clusters

The chain of its only file is `[2, 3, 5]`. -/

/-- FAT12, with two copies of a table of one sector. -/
def smallGeometry : Geometry where
  fsType := .fat12
  ssize := 512
  csize := 1
  nFats := 2
  nRootdir := 16
  nFatent := 6
  fsize := 1
  volbase := 0
  fatbase := 1
  dirbase := 3
  database := 4

/-- The boot sector, as far as a mount reads it. -/
def smallBoot : Sector := fun i =>
  if i < 54 then [0xEB, 0xFE, 0x90, 0x4D, 0x53, 0x44, 0x4F, 0x53, 0x35, 0x2E, 0x30, 0x00, 0x02, 0x01, 0x01, 0x00,
    0x02, 0x10, 0x00, 0x08, 0x00, 0xF8, 0x01, 0x00].getD i 0
  else if i < 510 then [0x46, 0x41, 0x54].getD (i - 54) 0
  else [0x55, 0xAA].getD (i - 510) 0

/-- The table: `2` leads to `3`, `3` to `5`, which is the last one, and `4` is free. -/
def smallTable : Sector :=
  fun i => [0xF8, 0xFF, 0xFF, 0x03, 0x50, 0x00, 0x00, 0xF0, 0xFF].getD i 0

/-- The volume is mounted, with nothing in the window. -/
def smallFs : Fs where
  drive := ⟨fun k => if k = 0 then smallBoot else if k = 1 ∨ k = 2 then smallTable else fun _ => 0, []⟩
  lastClst := 0xFFFFFFFF
  freeClst := 1
  fsiFlag := 0x80
  wflag := false
  winsect := 0xFFFFFFFF
  win := fun _ => 0

theorem valid_smallGeometry : smallGeometry.Valid where
  ssize := by decide
  csize := ⟨0, rfl⟩
  nFats := by decide
  nFatent := by decide
  clusters := by decide
  table := by decide
  volbase := by decide
  fsInfo := nofun
  database := by decide
  sectors := by decide

/-! ## What a transfer does -/

namespace Drive

variable {d : Drive} {data : Nat → Sector} {sector count : Nat}

@[simp] theorem sectors_read (d : Drive) : d.read.2.2.sectors = d.sectors := by
  unfold read
  split <;> rfl

theorem read_ok (h : d.read.1 = true) : d.read.2.1 = d.sectors := by
  unfold read at h ⊢
  split at h
  · rfl
  · cases h

@[simp] theorem sectors_sync (d : Drive) : d.sync.2.sectors = d.sectors := rfl

/-- A transfer touches the sectors it is about. -/
theorem sectors_write_of_notMem {k : Nat} (hk : ¬ (sector ≤ k ∧ k < sector + count)) :
    (d.write data sector count).2.sectors k = d.sectors k := by
  unfold write
  split <;> exact if_neg hk

theorem sectors_write_of_ok (h : (d.write data sector count).1 = true) (k : Nat) :
    (d.write data sector count).2.sectors k =
      if sector ≤ k ∧ k < sector + count then data k else d.sectors k := by
  unfold write at h ⊢
  split at h
  · rfl
  · cases h

theorem Works.head (h : d.Works) : d.faults.head?.join = none := by
  cases hfaults : d.faults with
  | nil => rfl
  | cons fault rest => exact h fault (hfaults ▸ List.mem_cons_self)

theorem Works.tail (h : d.Works) (sectors : Nat → Sector) : Works ⟨sectors, d.faults.tail⟩ :=
  fun fault hmem => h fault (List.mem_of_mem_tail hmem)

theorem Works.read (h : d.Works) : d.read.1 = true ∧ d.read.2.2.Works := by
  unfold Drive.read
  rw [h.head]
  exact ⟨rfl, h.tail d.sectors⟩

theorem Works.write (h : d.Works) (data : Nat → Sector) (sector count : Nat) :
    (d.write data sector count).1 = true ∧ (d.write data sector count).2.Works := by
  unfold Drive.write
  rw [h.head]
  exact ⟨rfl, h.tail _⟩

theorem Works.sync (h : d.Works) : d.sync.1 = true ∧ d.sync.2.Works := by
  unfold Drive.sync
  rw [h.head]
  exact ⟨rfl, h.tail d.sectors⟩

end Drive

end GenLogger.Fat
