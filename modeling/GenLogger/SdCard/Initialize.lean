import GenLogger.Lib.Interaction
import GenLogger.SdCard.Driver

/-!
# The SD card driver: initialisation, status and control (`sd_spi.c`)

Model of `SD_disk_initialize`, which wakes the card, asks it which kind it is and waits until it is
ready, of `SD_disk_status` and of `SD_disk_ioctl`.

* The loops `do { … } while (Timer1);` have no bound in the code: here they get as much fuel as there
  are answers, which is enough because every round takes one.
* `SD_disk_ioctl` gets the byte its `buff` points to as an argument; what it stores behind `buff` is
  in `stores`, as for the other functions.
* `sectorCount` is the arithmetic of `GET_SECTOR_COUNT`, in the 8 and 16 bits of its variables. The
  register is received into a local array, and the byte behind that is cut off.
-/

namespace GenLogger.SdCard

open GenLogger.Lib

/-- `CMD1` (`SEND_OP_COND`). -/
def cmd1 : UInt8 := 0x40 + 1
/-- `CMD9` (`SEND_CSD`). -/
def cmd9 : UInt8 := 0x40 + 9
/-- `CMD10` (`SEND_CID`). -/
def cmd10 : UInt8 := 0x40 + 10
/-- `CMD16` (`SET_BLOCKLEN`). -/
def cmd16 : UInt8 := 0x40 + 16
/-- `CMD41` (`SEND_OP_COND` of an SD card). -/
def cmd41 : UInt8 := 0x40 + 41
/-- `CMD58` (`READ_OCR`). -/
def cmd58 : UInt8 := 0x40 + 58

/-- `STA_NODISK`. -/
def staNodisk : UInt8 := 0x02
/-- `CT_MMC`. -/
def ctMmc : UInt8 := 0x01
/-- `CT_BLOCK`. -/
def ctBlock : UInt8 := 0x08

/-! ## Power -/

/-- `while ((SPI_RxByte() != 0x01) && cnt) cnt--;`. -/
def idleWait : Nat → Driver Unit
  | 0, s, rx => do
    let (_, s, rx) ← spiRxByte s rx
    some ((), s, rx)
  | cnt + 1, s, rx => do
    let (res, s, rx) ← spiRxByte s rx
    if res ≠ 0x01 then idleWait cnt s rx else some ((), s, rx)

/-- `SD_PowerOn`. -/
def powerOn : Driver Unit := fun s rx => do
  let s := select (spiTxBuffer (List.replicate 10 0xFF) (deselect s))
  let ((), s, rx) ← idleWait 0x1FFF (spiTxBuffer (frame cmd0 0) s) rx
  some ((), { spiTxByte 0xFF (deselect s) with powerFlag := 1 }, rx)

/-- `SD_PowerOff`. -/
def powerOff (s : Sd) : Sd := { s with powerFlag := 0 }

/-! ## Which card it is -/

/-- `for (n = 0; n < count; n++) *ptr++ = SPI_RxByte();`. -/
def rxBytes : Nat → Driver (List UInt8)
  | 0, s, rx => some ([], s, rx)
  | n + 1, s, rx => do
    let (data, s, rx) ← spiRxByte s rx
    let (others, s, rx) ← rxBytes n s rx
    some (data :: others, s, rx)

/-- `SD_SendCmd(CMD55, 0) <= 1 && SD_SendCmd(CMD41, arg)`: the response to `CMD41`, if it is sent. -/
def appOpCond (arg : UInt32) : Driver (Option UInt8) := fun s rx => do
  let (accepted, s, rx) ← sendCmd cmd55 0 s rx
  if accepted ≤ 1 then do
    let (res, s, rx) ← sendCmd cmd41 arg s rx
    some (some res, s, rx)
  else some (none, s, rx)

/-- `SD_SendCmd(CMD1, 0)`. -/
def opCond : Driver (Option UInt8) := fun s rx => do
  let (res, s, rx) ← sendCmd cmd1 0 s rx
  some (some res, s, rx)

/-- `do { if (round() == 0) break; } while (Timer1);`. -/
def untilReady (round : Driver (Option UInt8)) : Driver (Option UInt8) := fun s rx =>
  doWhile round (fun s res => res ≠ some 0 ∧ s.timer1 ≠ 0) rx.length s rx

/-- The card accepted `CMD8`: the type of an SD card of version 2, or `0`. -/
def probeSd2 : Driver UInt8 := fun s rx => do
  let (ocr, s, rx) ← rxBytes 4 s rx
  if ocr.getD 2 0 = 0x01 ∧ ocr.getD 3 0 = 0xAA then do
    let (_, s, rx) ← untilReady (appOpCond 0x40000000) s rx
    if s.timer1 ≠ 0 then do
      let (res, s, rx) ← sendCmd cmd58 0 s rx
      if res = 0 then do
        let (ocr, s, rx) ← rxBytes 4 s rx
        some (if ocr.getD 0 0 &&& 0x40 ≠ 0 then ctSd2 ||| ctBlock else ctSd2, s, rx)
      else some (0, s, rx)
    else some (0, s, rx)
  else some (0, s, rx)

/-- The wait and the block length of an older card: `type`, or `0`. -/
def settle (type : UInt8) : Driver UInt8 := fun s rx => do
  let (_, s, rx) ← untilReady (if type = ctSd1 then appOpCond 0 else opCond) s rx
  if s.timer1 = 0 then some (0, s, rx)
  else do
    let (res, s, rx) ← sendCmd cmd16 512 s rx
    some (if res ≠ 0 then 0 else type, s, rx)

/-- The card did not accept `CMD8`: the type of an SD card of version 1 or of an MMC, or `0`. -/
def probeOld : Driver UInt8 := fun s rx => do
  let (res, s, rx) ← appOpCond 0 s rx
  settle (if res.any (· ≤ 1) then ctSd1 else ctMmc) s rx

/-- The probe sequence of `SD_disk_initialize`: `type`. -/
def probe : Driver UInt8 := fun s rx => do
  let (res, s, rx) ← sendCmd cmd0 0 s rx
  if res = 1 then do
    let (res, s, rx) ← sendCmd cmd8 0x1AA { s with timer1 := 1000 } rx
    if res = 1 then probeSd2 s rx else probeOld s rx
  else some (0, s, rx)

/-- What `SD_disk_initialize` does with `type`. -/
def conclude (type : UInt8) (s : Sd) : Sd :=
  if type ≠ 0 then { s with stat := s.stat &&& ~~~staNoinit } else powerOff s

/-- `SD_disk_initialize`. -/
def diskInitialize (drv : UInt8) : Driver UInt8 := fun s rx => do
  if drv ≠ 0 then some (staNoinit, s, rx)
  else if s.stat &&& staNodisk ≠ 0 then some (s.stat, s, rx)
  else do
    let ((), s, rx) ← powerOn s rx
    let (type, s, rx) ← probe (select s) rx
    let (_, s, rx) ← spiRxByte (deselect { s with cardType := type }) rx
    some ((conclude type s).stat, conclude type s, rx)

/-! ## Status and control -/

/-- `SD_disk_status`. -/
def diskStatus (drv : UInt8) (s : Sd) : UInt8 := if drv ≠ 0 then staNoinit else s.stat

/-- `CTRL_SYNC`. -/
def ctrlSync : UInt8 := 0
/-- `GET_SECTOR_COUNT`. -/
def getSectorCount : UInt8 := 1
/-- `GET_SECTOR_SIZE`. -/
def getSectorSize : UInt8 := 2
/-- `CTRL_POWER`. -/
def ctrlPower : UInt8 := 5
/-- `MMC_GET_CSD`. -/
def mmcGetCsd : UInt8 := 11
/-- `MMC_GET_CID`. -/
def mmcGetCid : UInt8 := 12
/-- `MMC_GET_OCR`. -/
def mmcGetOcr : UInt8 := 13

/-- The stores of a list of bytes, from `buff` on. -/
def storeAll (buff : Nat) (data : List UInt8) (s : Sd) : Sd :=
  { s with stores := s.stores ++ data.zipIdx.map fun d => (buff + d.2, d.1) }

/-- `CTRL_POWER` with `*ptr` as `mode`. -/
def powerControl (mode : UInt8) : Driver DResult := fun s rx => do
  if mode = 0 then some (.ok, powerOff s, rx)
  else if mode = 1 then do
    let ((), s, rx) ← powerOn s rx
    some (.ok, s, rx)
  else if mode = 2 then some (.ok, store 1 s.powerFlag s, rx)
  else some (.parerr, s, rx)

/-- `(SD_SendCmd(cmd, 0) == 0) && SD_RxDataBlock(buff, 16)`. -/
def readRegister (cmd : UInt8) : Driver Bool := fun s rx => do
  let (res, s, rx) ← sendCmd cmd 0 s rx
  if res = 0 then rxDataBlock 0 16 s rx else some (false, s, rx)

/-- The number of sectors in a CSD register. In the shift by `n - 9` the core takes the low byte of the
register, and a count from 32 on leaves `0`. -/
def sectorCount (csd : List UInt8) : UInt32 :=
  let reg (i : Nat) : UInt8 := csd.getD i 0
  if reg 0 >>> 6 = 1 then
    let csize : UInt16 := (reg 9).toUInt16 + ((reg 8).toUInt16 <<< 8) + 1
    csize.toUInt32 <<< 10
  else
    let n : UInt8 :=
      (reg 5 &&& 15 : UInt8) + ((reg 10 &&& 128 : UInt8) >>> 7) + ((reg 9 &&& 3 : UInt8) <<< 1) + 2
    let csize : UInt16 :=
      (reg 8 >>> 6).toUInt16 + ((reg 7).toUInt16 <<< 2) + ((reg 6 &&& 3 : UInt8).toUInt16 <<< 10) + 1
    if n - 9 < 32 then csize.toUInt32 <<< (n - 9).toUInt32 else 0

/-- `GET_SECTOR_COUNT`. The register is received into `csd`, a local: the byte that `SD_RxDataBlock`
stores behind its end is not followed further. -/
def getCount : Driver DResult := fun s rx => do
  let (received, csd, rx) ← readRegister cmd9 { s with stores := [] } rx
  let s := { csd with stores := s.stores }
  if received then do
    let count := sectorCount ((csd.stores.take 16).map Prod.snd)
    some (.ok, storeAll 0 [count.toUInt8, (count >>> 8).toUInt8, (count >>> 16).toUInt8,
      (count >>> 24).toUInt8] s, rx)
  else some (.error, s, rx)

/-- `CTRL_SYNC`. -/
def sync : Driver DResult := fun s rx => do
  let (ready, s, rx) ← readyWait s rx
  some (if ready = 0xFF then .ok else .error, s, rx)

/-- `MMC_GET_CSD` and `MMC_GET_CID`. -/
def getRegister (cmd : UInt8) : Driver DResult := fun s rx => do
  let (received, s, rx) ← readRegister cmd s rx
  some (if received then .ok else .error, s, rx)

/-- `MMC_GET_OCR`. There is no `break`: the result is that of `default`. -/
def getOcr : Driver DResult := fun s rx => do
  let (res, s, rx) ← sendCmd cmd58 0 s rx
  if res = 0 then do
    let (ocr, s, rx) ← rxBytes 4 s rx
    some (.parerr, storeAll 0 ocr s, rx)
  else some (.parerr, s, rx)

/-- `switch (ctrl)` of `SD_disk_ioctl`. -/
def control (ctrl : UInt8) : Driver DResult := fun s rx => do
  if ctrl = getSectorCount then getCount s rx
  else if ctrl = getSectorSize then some (.ok, storeAll 0 [0x00, 0x02] s, rx)
  else if ctrl = ctrlSync then sync s rx
  else if ctrl = mmcGetCsd then getRegister cmd9 s rx
  else if ctrl = mmcGetCid then getRegister cmd10 s rx
  else if ctrl = mmcGetOcr then getOcr s rx
  else some (.parerr, s, rx)

/-- `SD_disk_ioctl`, `mode` being the byte at `buff`. -/
def diskIoctl (drv ctrl mode : UInt8) : Driver DResult := fun s rx => do
  if drv ≠ 0 then some (.parerr, s, rx)
  else if ctrl = ctrlPower then powerControl mode s rx
  else if s.stat &&& staNoinit ≠ 0 then some (.notrdy, s, rx)
  else do
    let (res, s, rx) ← control ctrl (select s) rx
    let (_, s, rx) ← spiRxByte (deselect s) rx
    some (res, s, rx)

end GenLogger.SdCard
