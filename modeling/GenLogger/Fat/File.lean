import GenLogger.Fat.DataArea
import GenLogger.Fat.LinkMap

/-!
# An open file (`f_read`, `f_write`, `f_lseek`, `f_sync`)

Model of the file object `FIL` and of the four functions of `ff.c` on it, split at their rounds. They go
through the file sector by sector: whole ones go straight to or from the drive, as many at once as are in
a cluster, the others through the buffer of the object.

* The flags of the object are fields; `validate` is `attached`, that the object is of this volume.
* The file size is 32 bits wide (`_FS_EXFAT` is 0), and there may be a link map (`_USE_FASTSEEK` is 1).
* The loops have counters, and where one would run out there is no result. `fRead_spec`, `fWrite_spec` and
  `fLseek_spec` say that none does.
* `ABORT` is the error that the object remembers: every later call returns it.
* `f_sync` has the time as a parameter, `GET_FATTIME()`.

What the functions do is in `Fat.FileRead`, `Fat.FileWrite`, `Fat.FileSeek` and `Fat.FileOpen`.
-/

namespace GenLogger.Fat

open GenLogger.Lib

variable {g : Geometry}

/-- `FIL`. `attached` is that `obj.fs` and `obj.id` are those of the volume, `canRead` to `dirty` are
the flags. -/
structure Fil where
  attached : Bool
  canRead : Bool
  canWrite : Bool
  modified : Bool
  dirty : Bool
  sclust : Nat
  objsize : Nat
  err : FResult
  fptr : Nat
  clust : Nat
  sect : Nat
  buf : Sector
  dirSect : Nat
  /-- `dir_ptr`, from `fs->win` on. -/
  dirPtr : Nat
  cltbl : Option (List Nat)

/-! ## `ff.c` -/

/-- `if (fp->flag & FA_DIRTY)`: the sector is written back. -/
def flush (fp : Fil) (s : Fs) : FResult × Fil × Fs :=
  if fp.dirty then
    let (written, d) := s.drive.write (fun _ => fp.buf) fp.sect 1
    if written then (.ok, { fp with dirty := false }, { s with drive := d })
    else (.diskErr, fp, { s with drive := d })
  else (.ok, fp, s)

/-- `if (fp->sect != sect)`: another sector is loaded. -/
def loadSector (sect : Nat) (fp : Fil) (s : Fs) : FResult × Fil × Fs :=
  if fp.sect ≠ sect then
    let (res, fp, s) := flush fp s
    if res ≠ .ok then (res, fp, s)
    else
      let (ok, buffer, d) := s.drive.read
      if ok then (.ok, { fp with buf := buffer sect, sect := sect }, { s with drive := d })
      else (.diskErr, { fp with buf := buffer sect }, { s with drive := d })
  else (.ok, fp, s)

/-- `(fp->fptr / SS(fs)) & (fs->csize - 1)`. -/
def csect (g : Geometry) (fp : Fil) : Nat := fp.fptr / g.ssize &&& (g.csize - 1)

/-- `if (csect + cc > fs->csize)`. -/
def clip (g : Geometry) (csect cc : Nat) : Nat := if g.csize < csect + cc then g.csize - csect else cc

/-! ### `f_read` -/

/-- The cluster that `f_read` goes on with. -/
def readClust (g : Geometry) (fp : Fil) (s : Fs) : Nat × Fs :=
  if fp.fptr = 0 then (fp.sclust, s)
  else
    match fp.cltbl with
    | some tbl => (clmtClust g tbl fp.fptr, s)
    | none => getFat g fp.clust s

/-- `if (csect == 0)` of `f_read`. -/
def enterRead (g : Geometry) (fp : Fil) (s : Fs) : FResult × Fil × Fs :=
  if csect g fp = 0 then
    let (clst, s) := readClust g fp s
    if clst < 2 then (.intErr, fp, s)
    else if clst = 0xFFFFFFFF then (.diskErr, fp, s)
    else (.ok, { fp with clust := clst }, s)
  else (.ok, fp, s)

/-- `if (cc)` of `f_read`: `cc` sectors at once. -/
def readDirect (g : Geometry) (sect cc : Nat) (fp : Fil) (s : Fs) :
    FResult × List UInt8 × Fil × Fs :=
  let (ok, buffer, d) := s.drive.read
  if ok then
    let buffer := if fp.dirty ∧ dwordSub fp.sect sect < cc then Function.update buffer fp.sect fp.buf
      else buffer
    (.ok, chunk (fun i => buffer (sect + i / g.ssize) (i % g.ssize)) 0 (g.ssize * cc), fp,
      { s with drive := d })
  else (.diskErr, [], fp, { s with drive := d })

/-- What `f_read` takes from `fp->buf`. -/
def readBuffer (g : Geometry) (btr : Nat) (fp : Fil) : List UInt8 :=
  chunk fp.buf (fp.fptr % g.ssize) (min (g.ssize - fp.fptr % g.ssize) btr)

/-- One round of `f_read`, with the bytes that it got. -/
def readStep (g : Geometry) (btr : Nat) (fp : Fil) (s : Fs) : FResult × List UInt8 × Fil × Fs :=
  if fp.fptr % g.ssize = 0 then
    let (res, fp, s) := enterRead g fp s
    if res ≠ .ok then (res, [], fp, s)
    else
      let sect := clust2sect g fp.clust
      if sect = 0 then (.intErr, [], fp, s)
      else
        let sect := sect + csect g fp
        let cc := btr / g.ssize
        if cc ≠ 0 then readDirect g sect (clip g (csect g fp) cc) fp s
        else
          let (res, fp, s) := loadSector sect fp s
          if res ≠ .ok then (res, [], fp, s) else (.ok, readBuffer g btr fp, fp, s)
  else (.ok, readBuffer g btr fp, fp, s)

/-- `for ( ; btr; ..)` of `f_read`, for `fuel` rounds. -/
def readLoop (g : Geometry) : Nat → Nat → List UInt8 → Fil → Fs →
    Option (FResult × List UInt8 × Fil × Fs)
  | 0, _, _, _, _ => none
  | fuel + 1, btr, rbuff, fp, s =>
    if btr = 0 then some (.ok, rbuff, fp, s)
    else
      let (res, got, fp, s) := readStep g btr fp s
      if res ≠ .ok then some (res, rbuff, { fp with err := res }, s)
      else
        readLoop g fuel (btr - got.length) (rbuff ++ got) { fp with fptr := fp.fptr + got.length } s

/-- `f_read`: the result, and the `*br` bytes in `buff`. -/
def fRead (g : Geometry) (btr : Nat) (fp : Fil) (s : Fs) :
    Option (FResult × List UInt8 × Fil × Fs) :=
  if fp.attached = false then some (.invalidObject, [], fp, s)
  else if fp.err ≠ .ok then some (fp.err, [], fp, s)
  else if fp.canRead = false then some (.denied, [], fp, s)
  else
    let remain := dwordSub fp.objsize fp.fptr
    readLoop g (btr + 1) (if remain < btr then remain else btr) [] fp s

/-! ### `f_write` -/

/-- The cluster that `f_write` goes on with, which may be a new one. -/
def writeClust (g : Geometry) (fp : Fil) (s : Fs) : Option (Nat × Fs) :=
  if fp.fptr = 0 then
    if fp.sclust = 0 then createChain g 0 s else some (fp.sclust, s)
  else
    match fp.cltbl with
    | some tbl => some (clmtClust g tbl fp.fptr, s)
    | none => createChain g fp.clust s

/-- `if (csect == 0)` of `f_write`: also whether there is a cluster. -/
def enterWrite (g : Geometry) (fp : Fil) (s : Fs) : Option (FResult × Bool × Fil × Fs) :=
  if csect g fp = 0 then
    (writeClust g fp s).map fun (clst, s) =>
      if clst = 0 then (.ok, false, fp, s)
      else if clst = 1 then (.intErr, true, fp, s)
      else if clst = 0xFFFFFFFF then (.diskErr, true, fp, s)
      else
        (.ok, true, { fp with
          clust := clst
          sclust := if fp.sclust = 0 then clst else fp.sclust }, s)
  else some (.ok, true, fp, s)

/-- `if (cc)` of `f_write`: `cc` sectors at once. -/
def writeDirect (g : Geometry) (wbuff : List UInt8) (sect cc : Nat) (fp : Fil) (s : Fs) :
    FResult × Nat × Fil × Fs :=
  let data := fun k i => wbuff.getD ((k - sect) * g.ssize + i) 0
  let (ok, d) := s.drive.write data sect cc
  if ok then
    let fp := if dwordSub fp.sect sect < cc then { fp with buf := data fp.sect, dirty := false } else fp
    (.ok, g.ssize * cc, fp, { s with drive := d })
  else (.diskErr, 0, fp, { s with drive := d })

/-- A sector that has to be filled only if the file has some of it. -/
def placeSector (sect : Nat) (fp : Fil) (s : Fs) : FResult × Fil × Fs :=
  if fp.sect ≠ sect ∧ fp.fptr < fp.objsize then
    let (ok, buffer, d) := s.drive.read
    if ok then (.ok, { fp with buf := buffer sect, sect := sect }, { s with drive := d })
    else (.diskErr, { fp with buf := buffer sect }, { s with drive := d })
  else (.ok, { fp with sect := sect }, s)

/-- What `f_write` puts in `fp->buf`. -/
def writeBuffer (g : Geometry) (wbuff : List UInt8) (fp : Fil) : Nat × Fil :=
  let wcnt := min (g.ssize - fp.fptr % g.ssize) wbuff.length
  (wcnt, { fp with buf := splice fp.buf (fp.fptr % g.ssize) (wbuff.take wcnt), dirty := true })

/-- A round of `f_write` on a sector boundary, with nothing left to be written back. -/
def putSector (g : Geometry) (wbuff : List UInt8) (fp : Fil) (s : Fs) : FResult × Nat × Fil × Fs :=
  let sect := clust2sect g fp.clust
  if sect = 0 then (.intErr, 0, fp, s)
  else
    let sect := sect + csect g fp
    let cc := wbuff.length / g.ssize
    if cc ≠ 0 then writeDirect g wbuff sect (clip g (csect g fp) cc) fp s
    else
      let (res, fp, s) := placeSector sect fp s
      if res ≠ .ok then (res, 0, fp, s)
      else
        let (wcnt, fp) := writeBuffer g wbuff fp
        (.ok, wcnt, fp, s)

/-- The same, once the cluster is known. -/
def writeSector (g : Geometry) (wbuff : List UInt8) (fp : Fil) (s : Fs) : FResult × Nat × Fil × Fs :=
  let (res, fp, s) := flush fp s
  if res ≠ .ok then (res, 0, fp, s) else putSector g wbuff fp s

/-- One round of `f_write`, with the number of bytes that it wrote, `0` where it is the last one. -/
def writeStep (g : Geometry) (wbuff : List UInt8) (fp : Fil) (s : Fs) :
    Option (FResult × Nat × Fil × Fs) :=
  if fp.fptr % g.ssize = 0 then
    (enterWrite g fp s).map fun (res, more, fp, s) =>
      if more = false then (.ok, 0, fp, s)
      else if res ≠ .ok then (res, 0, fp, s)
      else writeSector g wbuff fp s
  else
    let (wcnt, fp) := writeBuffer g wbuff fp
    some (.ok, wcnt, fp, s)

/-- What `f_write` does behind each round. -/
def Fil.advance (fp : Fil) (wcnt : Nat) : Fil :=
  let fptr := fp.fptr + wcnt
  { fp with fptr := fptr, objsize := if fp.objsize < fptr then fptr else fp.objsize }

/-- `for ( ; btw; ..)` of `f_write`, for `fuel` rounds. -/
def writeLoop (g : Geometry) : Nat → List UInt8 → Nat → Fil → Fs →
    Option (FResult × Nat × Fil × Fs)
  | 0, _, _, _, _ => none
  | fuel + 1, wbuff, bw, fp, s =>
    if wbuff.length = 0 then some (.ok, bw, fp, s)
    else
      match writeStep g wbuff fp s with
      | none => none
      | some (res, wcnt, fp, s) =>
        if res ≠ .ok then some (res, bw, { fp with err := res }, s)
        else if wcnt = 0 then some (.ok, bw, fp, s)
        else writeLoop g fuel (wbuff.drop wcnt) (bw + wcnt) (fp.advance wcnt) s

/-- `f_write`: the result, and `*bw`. -/
def fWrite (g : Geometry) (buff : List UInt8) (fp : Fil) (s : Fs) :
    Option (FResult × Nat × Fil × Fs) :=
  if fp.attached = false then some (.invalidObject, 0, fp, s)
  else if fp.err ≠ .ok then some (fp.err, 0, fp, s)
  else if fp.canWrite = false then some (.denied, 0, fp, s)
  else
    let btw := if (fp.fptr + buff.length) % 0x100000000 < fp.fptr then 0xFFFFFFFF - fp.fptr
      else buff.length
    (writeLoop g (btw + 1) (buff.take btw) 0 fp s).map fun (res, bw, fp, s) =>
      if res ≠ .ok then (res, bw, fp, s) else (.ok, bw, { fp with modified := true }, s)

/-! ### `f_lseek` -/

/-- `if (fp->fptr % SS(fs) && ..)`: the sector of the pointer is loaded. -/
def fillCache (g : Geometry) (sect : Nat) (fp : Fil) (s : Fs) : FResult × Fil × Fs :=
  if fp.fptr % g.ssize ≠ 0 then
    let (res, fp, s) := loadSector sect fp s
    if res ≠ .ok then (res, { fp with err := res }, s) else (.ok, fp, s)
  else (.ok, fp, s)

/-- `if (ofs == CREATE_LINKMAP)` of `f_lseek`, with the table of the object. -/
def putLinkmap (g : Geometry) (tbl : List Nat) (fp : Fil) (s : Fs) : Option (FResult × Fil × Fs) :=
  (createLinkmap g (tbl.headD 0) fp.sclust s).map fun (res, items, s) =>
    if res = .ok ∨ res = .notEnoughCore then
      (res, { fp with cltbl := some (items ++ tbl.drop items.length) }, s)
    else (res, { fp with err := res }, s)

/-- `if (fp->cltbl)` of `f_lseek`, for an offset. -/
def fastSeek (g : Geometry) (tbl : List Nat) (ofs : Nat) (fp : Fil) (s : Fs) : FResult × Fil × Fs :=
  let ofs := if fp.objsize < ofs then fp.objsize else ofs
  let fp := { fp with fptr := ofs }
  if ofs = 0 then (.ok, fp, s)
  else
    let fp := { fp with clust := clmtClust g tbl (ofs - 1) }
    let dsc := clust2sect g fp.clust
    if dsc = 0 then (.intErr, { fp with err := .intErr }, s)
    else
      fillCache g (dsc + ((ofs - 1) / g.ssize &&& (g.csize - 1))) fp s

/-- `while (ofs > bcs)` of `f_lseek`, for `fuel` rounds: the offset in the last cluster, and that. -/
def seekLoop (g : Geometry) : Nat → Nat → Nat → Fil → Fs →
    Option (FResult × Nat × Nat × Fil × Fs)
  | 0, _, _, _, _ => none
  | fuel + 1, ofs, clst, fp, s =>
    let bcs := g.csize * g.ssize
    if ofs ≤ bcs then some (.ok, ofs, clst, fp, s)
    else
      let fp := { fp with fptr := fp.fptr + bcs }
      let next := if fp.canWrite then createChain g clst s else some (getFat g clst s)
      match next with
      | none => none
      | some (clst, s) =>
        -- the file is clipped where the disk is full
        if fp.canWrite ∧ clst = 0 then some (.ok, 0, clst, fp, s)
        else if clst = 0xFFFFFFFF then some (.diskErr, ofs - bcs, clst, fp, s)
        else if clst ≤ 1 ∨ g.nFatent ≤ clst then some (.intErr, ofs - bcs, clst, fp, s)
        else seekLoop g fuel (ofs - bcs) clst { fp with clust := clst } s

/-- Where `f_lseek` starts from: the rest of the offset, and the cluster. -/
def seekStart (g : Geometry) (ifptr ofs : Nat) (fp : Fil) (s : Fs) :
    Option (FResult × Nat × Nat × Fil × Fs) :=
  let bcs := g.csize * g.ssize
  if 0 < ifptr ∧ (ifptr - 1) / bcs ≤ (ofs - 1) / bcs then
    -- `x & ~m`
    let fptr := (ifptr - 1) - ((ifptr - 1) &&& (bcs - 1))
    some (.ok, ofs - fptr, fp.clust, { fp with fptr := fptr }, s)
  else if fp.sclust = 0 then
    (createChain g 0 s).map fun (clst, s) =>
      if clst = 1 then (.intErr, ofs, clst, fp, s)
      else if clst = 0xFFFFFFFF then (.diskErr, ofs, clst, fp, s)
      else (.ok, ofs, clst, { fp with sclust := clst, clust := clst }, s)
  else some (.ok, ofs, fp.sclust, { fp with clust := fp.sclust }, s)

/-- `if (ofs)` of `f_lseek`: the sector it ends in, `0` on a boundary. -/
def seekWalk (g : Geometry) (ifptr ofs : Nat) (fp : Fil) (s : Fs) :
    Option (FResult × Nat × Fil × Fs) :=
  match seekStart g ifptr ofs fp s with
  | none => none
  | some (res, ofs, clst, fp, s) =>
    if res ≠ .ok then some (res, 0, fp, s)
    else if clst = 0 then some (.ok, 0, fp, s)
    else
      (seekLoop g (ofs + 1) ofs clst fp s).map fun (res, ofs, clst, fp, s) =>
        if res ≠ .ok then (res, 0, fp, s)
        else
          let fp := { fp with fptr := fp.fptr + ofs }
          if ofs % g.ssize ≠ 0 then
            let nsect := clust2sect g clst
            if nsect = 0 then (.intErr, 0, fp, s) else (.ok, nsect + ofs / g.ssize, fp, s)
          else (.ok, 0, fp, s)

/-- What `f_lseek` does once it is there. -/
def seekEnd (g : Geometry) (nsect : Nat) (fp : Fil) (s : Fs) : FResult × Fil × Fs :=
  fillCache g nsect
    (if fp.objsize < fp.fptr then { fp with objsize := fp.fptr, modified := true } else fp) s

/-- `f_lseek`. -/
def fLseek (g : Geometry) (ofs : Nat) (fp : Fil) (s : Fs) : Option (FResult × Fil × Fs) :=
  if fp.attached = false then some (.invalidObject, fp, s)
  else if fp.err ≠ .ok then some (fp.err, fp, s)
  else
    match fp.cltbl with
    | some tbl =>
      -- `CREATE_LINKMAP`
      if ofs = 0xFFFFFFFF then putLinkmap g tbl fp s else some (fastSeek g tbl ofs fp s)
    | none =>
      let ofs := if fp.objsize < ofs ∧ fp.canWrite = false then fp.objsize else ofs
      let ifptr := fp.fptr
      let fp := { fp with fptr := 0 }
      if ofs = 0 then some (seekEnd g 0 fp s)
      else
        (seekWalk g ifptr ofs fp s).map fun (res, nsect, fp, s) =>
          if res ≠ .ok then (res, { fp with err := res }, s) else seekEnd g nsect fp s

/-! ### `f_sync` -/

/-- `st_clust`, for the entry at `dir`. -/
def stClust (g : Geometry) (win : Sector) (dir cl : Nat) : Sector :=
  let win := stWord win (dir + 26) cl
  if g.fsType = .fat32 then stWord win (dir + 20) (cl >>> 16) else win

/-- The entry that `f_sync` makes of the one at `fp->dir_ptr`. -/
def putEntry (g : Geometry) (tm : Nat) (fp : Fil) (win : Sector) : Sector :=
  let dir := fp.dirPtr
  let win := stByte win (dir + 11) ((win (dir + 11)).toNat ||| 0x20)
  let win := stClust g win dir fp.sclust
  let win := stDword win (dir + 28) fp.objsize
  let win := stDword win (dir + 22) tm
  stWord win (dir + 18) 0

/-- `f_sync`, at the time `tm`. -/
def fSync (g : Geometry) (tm : Nat) (fp : Fil) (s : Fs) : FResult × Fil × Fs :=
  if fp.attached = false then (.invalidObject, fp, s)
  else if fp.modified = false then (.ok, fp, s)
  else
    let (res, fp, s) := flush fp s
    if res ≠ .ok then (res, fp, s)
    else
      let (res, s) := moveWindow g fp.dirSect s
      if res ≠ .ok then (res, fp, s)
      else
        let (res, s) := syncFs g (s.edit (putEntry g tm fp))
        (res, { fp with modified := false }, s)

end GenLogger.Fat
