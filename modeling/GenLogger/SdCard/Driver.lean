import GenLogger.Lib.Poll

/-!
# The SD card driver (`sd_spi.c`)

Model of the bus, of the commands, and of `SD_disk_read` and `SD_disk_write`.

* The driver talks to the card over SPI: `SPI_TxByte` sends, and every `SPI_RxByte` takes the next
  byte of what the card (or a stuck line, or nothing) will answer, with the milliseconds that pass
  meanwhile. The answers are the input of every function, so a statement about all of them is one
  about every card.
* A function returns `none` where the answers do not suffice for it to return.
* The two timers are set before each wait and counted down by the tick interrupt, down to `0`.
* What is stored behind a caller's `buff` is kept in `stores`, whatever the size of the buffer, so a
  store past its end can be seen.
* `resp` of `SD_TxDataBlock` is an argument where the code has set nothing.

Out of scope: transfers that the HAL reports as failed; the driver does not look at their result.
-/

namespace GenLogger.SdCard

open GenLogger.Lib

/-- A byte that is received, and the ticks until it is. -/
structure Rx where
  byte : UInt8
  ticks : Nat
  deriving Repr, DecidableEq

/-- What the driver does to the bus. -/
inductive BusEvent where
  /-- `csWrite(SDCard, val)`. -/
  | csWrite (val : UInt8)
  | tx (data : UInt8)
  deriving Repr, DecidableEq

/-- The variables of `sd_spi.c`; and (not part of the program) what it did to the bus, and what it
stored behind the caller's `buff`, by offset. -/
structure Sd where
  timer1 : Nat
  timer2 : Nat
  stat : UInt8
  cardType : UInt8
  powerFlag : UInt8
  trace : List BusEvent
  stores : List (Nat × UInt8)
  deriving Repr, DecidableEq

/-- A function of the driver. -/
abbrev Driver (α : Type) : Type := Sd → List Rx → Option (α × Sd × List Rx)

/-! ## The bus -/

/-- The tick interrupt, while a byte is received. -/
def elapse (s : Sd) (r : Rx) : Sd :=
  { s with timer1 := s.timer1 - r.ticks, timer2 := s.timer2 - r.ticks }

/-- `SELECT`. -/
def select (s : Sd) : Sd := { s with trace := s.trace ++ [.csWrite 0] }

/-- `DESELECT`. -/
def deselect (s : Sd) : Sd := { s with trace := s.trace ++ [.csWrite 1] }

/-- `SPI_TxByte`. -/
def spiTxByte (data : UInt8) (s : Sd) : Sd := { s with trace := s.trace ++ [.tx data] }

/-- `SPI_TxBuffer`. -/
def spiTxBuffer (buffer : List UInt8) (s : Sd) : Sd :=
  { s with trace := s.trace ++ buffer.map .tx }

/-- `SPI_RxByte`. -/
def spiRxByte : Driver UInt8
  | _, [] => none
  | s, r :: rx => some (r.byte, elapse s r, rx)

/-- `*buff = …`, `buff` being that far behind the caller's. -/
def store (buff : Nat) (data : UInt8) (s : Sd) : Sd :=
  { s with stores := s.stores ++ [(buff, data)] }

/-! ## Waiting, commands and blocks -/

/-- `SD_ReadyWait`: 500 ms for a card that is not ready. -/
def readyWait : Driver UInt8 := fun s rx => do
  let (res, s, rx) ← poll elapse (fun s r => r.byte ≠ 0xFF ∧ s.timer2 ≠ 0) { s with timer2 := 500 } rx
  some (res.byte, s, rx)

/-- `do *buff++ = SPI_RxByte(); while (len--);`. -/
def receive : Nat → Nat → Driver Unit
  | 0, buff, s, rx => do
    let (data, s, rx) ← spiRxByte s rx
    some ((), store buff data s, rx)
  | len + 1, buff, s, rx => do
    let (data, s, rx) ← spiRxByte s rx
    receive len (buff + 1) (store buff data s) rx

/-- `SD_RxDataBlock`: 200 ms for a card that has no data. -/
def rxDataBlock (buff len : Nat) : Driver Bool := fun s rx => do
  let (token, s, rx) ← poll elapse (fun s r => r.byte = 0xFF ∧ s.timer1 ≠ 0) { s with timer1 := 200 } rx
  if token.byte ≠ 0xFE then some (false, s, rx)
  else do
    let ((), s, rx) ← receive len buff s rx
    let (_, s, rx) ← spiRxByte s rx
    let (_, s, rx) ← spiRxByte s rx
    some (true, s, rx)

/-- `while (i <= 64)` of `SD_TxDataBlock`, with `n` more answers after this one. -/
def dataResponse : Nat → Driver UInt8
  | 0, s, rx => spiRxByte s rx
  | n + 1, s, rx => do
    let (resp, s, rx) ← spiRxByte s rx
    if resp &&& 0x1F = 0x05 then some (resp, s, rx) else dataResponse n s rx

/-- `SD_TxDataBlock`. `resp` is what the variable holds before it is set, if it is. -/
def txDataBlock (resp : UInt8) (buff : List UInt8) (token : UInt8) : Driver Bool := fun s rx => do
  let (ready, s, rx) ← readyWait s rx
  if ready ≠ 0xFF then some (false, s, rx)
  else if token ≠ 0xFD then do
    let s := spiTxBuffer (buff.take 512) (spiTxByte token s)
    let (_, s, rx) ← spiRxByte s rx
    let (_, s, rx) ← spiRxByte s rx
    let (resp, s, rx) ← dataResponse 64 s rx
    let (_, s, rx) ← poll elapse (fun _ r => r.byte = 0) s rx
    some (resp &&& 0x1F = 0x05, s, rx)
  else some (resp &&& 0x1F = 0x05, spiTxByte token s, rx)

/-- `CMD0` (`GO_IDLE_STATE`). -/
def cmd0 : UInt8 := 0x40 + 0
/-- `CMD8` (`SEND_IF_COND`). -/
def cmd8 : UInt8 := 0x40 + 8
/-- `CMD12` (`STOP_TRANSMISSION`). -/
def cmd12 : UInt8 := 0x40 + 12
/-- `CMD17` (`READ_SINGLE_BLOCK`). -/
def cmd17 : UInt8 := 0x40 + 17
/-- `CMD18` (`READ_MULTIPLE_BLOCK`). -/
def cmd18 : UInt8 := 0x40 + 18
/-- `CMD23` (`SET_BLOCK_COUNT`). -/
def cmd23 : UInt8 := 0x40 + 23
/-- `CMD24` (`WRITE_BLOCK`). -/
def cmd24 : UInt8 := 0x40 + 24
/-- `CMD25` (`WRITE_MULTIPLE_BLOCK`). -/
def cmd25 : UInt8 := 0x40 + 25
/-- `CMD55` (`APP_CMD`). -/
def cmd55 : UInt8 := 0x40 + 55

/-- The six bytes of a command. -/
def frame (cmd : UInt8) (arg : UInt32) : List UInt8 :=
  [cmd, (arg >>> 24).toUInt8, (arg >>> 16).toUInt8, (arg >>> 8).toUInt8, arg.toUInt8,
    if cmd = cmd0 then 0x95 else if cmd = cmd8 then 0x87 else 1]

/-- `do res = SPI_RxByte(); while ((res & 0x80) && --n);`, with `n` more answers after this one. -/
def cmdResponse : Nat → Driver UInt8
  | 0, s, rx => spiRxByte s rx
  | n + 1, s, rx => do
    let (res, s, rx) ← spiRxByte s rx
    if res &&& 0x80 ≠ 0 then cmdResponse n s rx else some (res, s, rx)

/-- `SD_SendCmd`. -/
def sendCmd (cmd : UInt8) (arg : UInt32) : Driver UInt8 := fun s rx => do
  let (ready, s, rx) ← readyWait s rx
  if ready ≠ 0xFF then some (0xFF, s, rx)
  else do
    let s := spiTxBuffer (frame cmd arg) s
    if cmd = cmd12 then do
      let (_, s, rx) ← spiRxByte s rx
      cmdResponse 9 s rx
    else cmdResponse 9 s rx

/-! ## Sectors -/

/-- `DRESULT`. -/
inductive DResult where
  | ok
  | error
  | wrprt
  | notrdy
  | parerr
  deriving Repr, DecidableEq

/-- `STA_NOINIT`. -/
def staNoinit : UInt8 := 0x01
/-- `STA_PROTECT`. -/
def staProtect : UInt8 := 0x04
/-- `CT_SD1`. -/
def ctSd1 : UInt8 := 0x02
/-- `CT_SD2`. -/
def ctSd2 : UInt8 := 0x04

/-- `if (!(CardType & CT_SD2)) sector *= 512;`. -/
def address (sector : UInt32) (s : Sd) : UInt32 :=
  if s.cardType &&& ctSd2 = 0 then sector * 512 else sector

/-- `do { if (!SD_RxDataBlock(buff, 512)) break; buff += 512; } while (--count);`. The result is
`count`. -/
def readBlocks : Nat → Nat → Driver Nat
  | 0, _, s, rx => some (0, s, rx)
  | count + 1, buff, s, rx => do
    let (received, s, rx) ← rxDataBlock buff 512 s rx
    if received then readBlocks count (buff + 512) s rx else some (count + 1, s, rx)

/-- The transfer of `SD_disk_read`: the `count` it leaves. -/
def readSectors (sector : UInt32) (count : Nat) : Driver Nat := fun s rx => do
  if count = 1 then do
    let (res, s, rx) ← sendCmd cmd17 sector s rx
    if res = 0 then do
      let (received, s, rx) ← rxDataBlock 0 512 s rx
      some (if received then 0 else count, s, rx)
    else some (count, s, rx)
  else do
    let (res, s, rx) ← sendCmd cmd18 sector s rx
    if res = 0 then do
      let (count, s, rx) ← readBlocks count 0 s rx
      let (_, s, rx) ← sendCmd cmd12 0 s rx
      some (count, s, rx)
    else some (count, s, rx)

/-- `DESELECT(); SPI_RxByte(); return count ? RES_ERROR : RES_OK;`. -/
def finish (count : Nat) : Driver DResult := fun s rx => do
  let (_, s, rx) ← spiRxByte (deselect s) rx
  some (if count = 0 then .ok else .error, s, rx)

/-- `SD_disk_read`. -/
def diskRead (pdrv : UInt8) (sector : UInt32) (count : Nat) : Driver DResult := fun s rx => do
  if pdrv ≠ 0 ∨ count = 0 then some (.parerr, s, rx)
  else if s.stat &&& staNoinit ≠ 0 then some (.notrdy, s, rx)
  else do
    let (count, s, rx) ← readSectors (address sector s) count (select s) rx
    finish count s rx

/-- `do { if (!SD_TxDataBlock(buff, 0xFC)) break; buff += 512; } while (--count);`. -/
def writeBlocks (resp : UInt8) : Nat → List UInt8 → Driver Nat
  | 0, _, s, rx => some (0, s, rx)
  | count + 1, buff, s, rx => do
    let (sent, s, rx) ← txDataBlock resp buff 0xFC s rx
    if sent then writeBlocks resp count (buff.drop 512) s rx else some (count + 1, s, rx)

/-- `SD_SendCmd(CMD55, 0); SD_SendCmd(CMD23, count);` for a card of type `CT_SD1`. -/
def announce (count : Nat) : Driver Unit := fun s rx => do
  if s.cardType &&& ctSd1 ≠ 0 then do
    let (_, s, rx) ← sendCmd cmd55 0 s rx
    let (_, s, rx) ← sendCmd cmd23 (UInt32.ofNat count) s rx
    some ((), s, rx)
  else some ((), s, rx)

/-- The transfer of `SD_disk_write`: the `count` it leaves. -/
def writeSectors (resp : UInt8) (buff : List UInt8) (sector : UInt32) (count : Nat) : Driver Nat :=
  fun s rx => do
    if count = 1 then do
      let (res, s, rx) ← sendCmd cmd24 sector s rx
      if res = 0 then do
        let (sent, s, rx) ← txDataBlock resp buff 0xFE s rx
        some (if sent then 0 else count, s, rx)
      else some (count, s, rx)
    else do
      let ((), s, rx) ← announce count s rx
      let (res, s, rx) ← sendCmd cmd25 sector s rx
      if res = 0 then do
        let (count, s, rx) ← writeBlocks resp count buff s rx
        let (stopped, s, rx) ← txDataBlock resp [] 0xFD s rx
        some (if stopped then count else 1, s, rx)
      else some (count, s, rx)

/-- `SD_disk_write`. `resp` is what the stack holds where `SD_TxDataBlock` keeps its `resp`. -/
def diskWrite (resp : UInt8) (pdrv : UInt8) (buff : List UInt8) (sector : UInt32) (count : Nat) :
    Driver DResult := fun s rx => do
  if pdrv ≠ 0 ∨ count = 0 then some (.parerr, s, rx)
  else if s.stat &&& staNoinit ≠ 0 then some (.notrdy, s, rx)
  else if s.stat &&& staProtect ≠ 0 then some (.wrprt, s, rx)
  else do
    let (count, s, rx) ← writeSectors resp buff (address sector s) count (select s) rx
    finish count s rx

end GenLogger.SdCard
