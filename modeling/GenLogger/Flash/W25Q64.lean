import GenLogger.Lib.Interaction

/-!
# The flash driver (`W25Qx_module.cpp`)

Model of the class `W25Q64`, which reaches the chip through function pointers that `init` sets to
`spi_transmit`, `spi_receive` and `csWrite`.

* `Spi` is what they do to a state `σ`; what is received depends on inputs that will come, and a
  function returns `none` where these do not suffice. Transfers do not fail.
* `wait_until_ready` has no bound in the code: here it gets as much fuel as there are inputs, which is
  enough where reading the status register takes one.
* `modify` is what the four commands that change the memory share.
-/

namespace GenLogger.Flash

open GenLogger.Lib

/-- `CMD_WRITE_ENABLE`. -/
def cmdWriteEnable : UInt8 := 0x06
/-- `CMD_WRITE_DISABLE`. -/
def cmdWriteDisable : UInt8 := 0x04
/-- `CMD_READ_STATUS_REG`. -/
def cmdReadStatusReg : UInt8 := 0x05
/-- `CMD_WRITE_STATUS_REG`. -/
def cmdWriteStatusReg : UInt8 := 0x01
/-- `CMD_CHIP_ERASE`. -/
def cmdChipErase : UInt8 := 0xC7
/-- `CMD_SECTOR_ERASE`. -/
def cmdSectorErase : UInt8 := 0x20
/-- `CMD_BLOCK_ERASE`. -/
def cmdBlockErase : UInt8 := 0xD8
/-- `CMD_PAGE_PROGRAM`. -/
def cmdPageProgram : UInt8 := 0x02
/-- `CMD_READ_DATA`. -/
def cmdReadData : UInt8 := 0x03
/-- `CMD_READ_JDEC`. -/
def cmdReadJdec : UInt8 := 0x9F
/-- `STATUS_BUSY_MASK`. -/
def statusBusyMask : UInt8 := 0x01

/-- The function pointers of `W25Q64`; `writePin` is that of the device `W25QX`. -/
structure Spi (σ ι : Type) where
  write : List UInt8 → σ → σ
  read : Nat → σ → List ι → Option (List UInt8 × σ × List ι)
  writePin : UInt8 → σ → σ

namespace Spi

variable {σ ι : Type} (dev : Spi σ ι)

/-- `cs_select`. -/
def csSelect (s : σ) : σ := dev.writePin 0 s

/-- `cs_deselect`. -/
def csDeselect (s : σ) : σ := dev.writePin 1 s

/-- `write_enable`. -/
def writeEnable (s : σ) : σ := dev.csDeselect (dev.write [cmdWriteEnable] (dev.csSelect s))

/-- `write_disable`. -/
def writeDisable (s : σ) : σ := dev.csDeselect (dev.write [cmdWriteDisable] (dev.csSelect s))

/-- `read_status_register`. -/
def readStatusRegister (s : σ) (is : List ι) : Option (UInt8 × σ × List ι) := do
  let (status, s, is) ← dev.read 1 (dev.write [cmdReadStatusReg] (dev.csSelect s)) is
  some (status.getD 0 0, dev.csDeselect s, is)

/-- `read_JDEC`. -/
def readJdec (s : σ) : σ :=
  let s := dev.write [cmdReadJdec] (dev.csSelect s)
  dev.csDeselect (dev.write [0x00] (dev.write [0x00] (dev.write [0x00] s)))

/-- `write_status_register`. The write enable in the middle deselects the chip. -/
def writeStatusRegister (status : UInt8) (s : σ) : σ :=
  dev.csDeselect (dev.write [cmdWriteStatusReg, status] (dev.writeEnable (dev.csSelect s)))

/-- `wait_until_ready`. -/
def waitUntilReady (s : σ) (is : List ι) : Option (UInt8 × σ × List ι) :=
  doWhile dev.readStatusRegister (fun _ status => status &&& statusBusyMask ≠ 0) is.length s is

/-- A command with the three bytes of an address. -/
def addressed (cmd : UInt8) (addr : UInt32) : List UInt8 :=
  [cmd, ((addr >>> 16) &&& 0xFF).toUInt8, ((addr >>> 8) &&& 0xFF).toUInt8, (addr &&& 0xFF).toUInt8]

/-- A command that changes the memory: `bytes`, one write each, between write enable and wait. -/
def modify (bytes : List (List UInt8)) (s : σ) (is : List ι) : Option (Unit × σ × List ι) := do
  let s := bytes.foldl (fun s b => dev.write b s) (dev.csSelect (dev.writeEnable s))
  let (_, s, is) ← dev.waitUntilReady (dev.csDeselect s) is
  some ((), s, is)

/-- `chip_erase`. -/
def chipErase : σ → List ι → Option (Unit × σ × List ι) := dev.modify [[cmdChipErase]]

/-- `sector_erase`. -/
def sectorErase (addr : UInt32) : σ → List ι → Option (Unit × σ × List ι) :=
  dev.modify [addressed cmdSectorErase addr]

/-- `block_erase`. -/
def blockErase (addr : UInt32) : σ → List ι → Option (Unit × σ × List ι) :=
  dev.modify [addressed cmdBlockErase addr]

/-- `page_program`. -/
def pageProgram (addr : UInt32) (data : List UInt8) (size : UInt16) (s : σ) (is : List ι) :
    Option (Unit × σ × List ι) :=
  if size > 256 then some ((), s, is)
  else dev.modify [addressed cmdPageProgram addr, data.take size.toNat] s is

/-- `read_data`: what is stored to `data`. -/
def readData (addr : UInt32) (size : UInt16) (s : σ) (is : List ι) :
    Option (List UInt8 × σ × List ι) := do
  let (data, s, is) ← dev.read size.toNat (dev.write (addressed cmdReadData addr) (dev.csSelect s)) is
  some (data, dev.csDeselect s, is)

end Spi

end GenLogger.Flash
