import Mathlib.Logic.Function.Basic
import RtsmartLib.Lib.Machine

/-!
This module contains the SPI driver: its instances, the per-bus owner cache `g_handle_id` and the
three paths that configure a bus (creation, an explicit update, the lazy update of a transfer).
The GPIO writes that give the chip select pin its idle level are left out, nothing here reads them.
-/

namespace Spi

def spiHalMaxDevices : Int := 3

def spiHalMode0 : Int := 0

def spiHalMode3 : Int := 3

def spiCsActiveHigh : UInt8 := 0x10

def csActive : UInt8 := 1

def csInactive : UInt8 := 0

def intMax : Nat := 0x7fffffff

structure RtQspiConfiguration where
  mode : UInt8 := 0
  dataWidth : UInt8 := 0
  hardCs : UInt8 := 0
  softCs : UInt8 := 0
  maxHz : UInt32 := 0
  mediumSize : UInt32 := 0
  ddrMode : UInt8 := 0
  qspiDlWidth : UInt8 := 0
  deriving DecidableEq, Repr

/--
`struct drv_spi_inst`. The 64 bit handle counter is modelled as a `Nat`.
-/
structure DrvSpiInst where
  handleId : Nat
  devFd : Int
  spiId : Int
  mode : UInt8
  baudrate : UInt32
  dataBits : UInt8
  csPin : Int
  dataLine : UInt8
  csStatus : UInt8
  useHwCs : Bool
  deriving DecidableEq, Repr

structure QspiStage where
  content : UInt32 := 0
  size : UInt8 := 0
  qspiLines : UInt8 := 0
  deriving DecidableEq, Repr

/--
`struct rt_qspi_message` with its parent `struct rt_spi_message`. Of the two buffers only whether
they are there is kept.
-/
structure RtQspiMessage where
  sendBuf : Bool := false
  recvBuf : Bool := false
  length : Nat := 0
  csTake : Bool := false
  csRelease : Bool := false
  instruction : QspiStage := {}
  address : QspiStage := {}
  alternateBytes : QspiStage := {}
  dummyCycles : UInt32 := 0
  qspiDataLines : UInt8 := 0
  deriving DecidableEq, Repr

/--
What the driver and the kernel know of the buses: the handle that last configured each of them and
the configuration that is in force on it.
-/
structure SpiBus where
  gHandleId : Int → Nat
  applied : Int → Option RtQspiConfiguration

def SpiBus.ioctlConfig (b : SpiBus) (ret : Int) (spiId : Int) (config : RtQspiConfiguration)
    : SpiBus :=
  if ret = 0 then { b with applied := Function.update b.applied spiId (some config) } else b

def SpiBus.setOwner (b : SpiBus) (inst : DrvSpiInst) : SpiBus :=
  { b with gHandleId := Function.update b.gHandleId inst.spiId inst.handleId }

structure Sent where
  inst : DrvSpiInst
  msg : RtQspiMessage
  applied : Option RtQspiConfiguration

structure SpiResult where
  ret : Int
  inst : Option DrvSpiInst
  bus : SpiBus
  sent : Option Sent

def softCsOf (csPin : Int) : UInt8 := UInt8.ofNat (csPin.toNat ||| 0x80)

def DrvSpiInst.pinConfig (inst : DrvSpiInst) : RtQspiConfiguration :=
  {
    mode := inst.mode
    dataWidth := inst.dataBits
    hardCs := 0
    softCs := if inst.csPin ≠ -1 then softCsOf inst.csPin else 0
    maxHz := inst.baudrate
    qspiDlWidth := inst.dataLine
  }

structure CreateArgs where
  spiId : Int
  activeLow : Bool
  mode : Int
  baudrate : UInt32
  dataBits : UInt8
  csPin : Int
  dataLine : UInt8

structure CreateEnv where
  mallocOk : Bool
  fpioaRet : Int
  gpioCreateRet : Int
  gpioModeRet : Int
  devFd : Int
  configRet : Int

def CreateArgs.valid (a : CreateArgs) : Bool :=
  !(a.spiId < 0 || a.spiId ≥ spiHalMaxDevices)
    && !(a.mode < spiHalMode0 || a.mode > spiHalMode3)
    && a.baudrate != 0
    && !(a.dataBits < 4 || a.dataBits > 32)
    && (a.dataLine == 1 || a.dataLine == 2 || a.dataLine == 4 || a.dataLine == 8)
    && !(a.dataLine == 8 && a.spiId != 0)
    && !((a.csPin < 0 || a.csPin > 63) && a.csPin != -1)

def CreateArgs.inst (a : CreateArgs) (devFd : Int) (handleId : Nat) : DrvSpiInst :=
  {
    handleId := handleId
    devFd := devFd
    spiId := a.spiId
    mode :=
      if a.csPin ≠ -1 ∧ !a.activeLow then
        UInt8.ofNat a.mode.toNat ||| spiCsActiveHigh
      else
        UInt8.ofNat a.mode.toNat
    baudrate := a.baudrate
    dataBits := a.dataBits
    csPin := a.csPin
    dataLine := a.dataLine
    csStatus := csInactive
    useHwCs := a.csPin ≠ -1
  }

/--
Returns the result together with the next value of the handle counter. `old` is what the caller's
handle held: a rejected argument leaves it alone, every later failure clears it.
-/
def drvSpiInstCreate (old : Option DrvSpiInst) (a : CreateArgs) (env : CreateEnv) (idx : Nat)
    (b : SpiBus) : SpiResult × Nat :=
  if !a.valid then
    (⟨-1, old, b, none⟩, idx)
  else if !env.mallocOk then
    (⟨-1, none, b, none⟩, idx)
  else if a.csPin ≠ -1 ∧ (env.fpioaRet ≠ 0 ∨ env.gpioCreateRet ≠ 0 ∨ env.gpioModeRet ≠ 0) then
    (⟨-1, none, b, none⟩, idx)
  else if env.devFd < 0 then
    (⟨-1, none, b, none⟩, idx)
  else
    let inst := a.inst env.devFd idx
    let b := b.ioctlConfig env.configRet inst.spiId inst.pinConfig
    if env.configRet ≠ 0 then
      (⟨env.configRet, none, b, none⟩, idx + 1)
    else
      (⟨0, some inst, b.setOwner inst, none⟩, idx + 1)

def lazyConfig (inst : DrvSpiInst) (configRet : Int) (b : SpiBus) : Int × SpiBus :=
  if b.gHandleId inst.spiId ≠ inst.handleId then
    let b := b.ioctlConfig configRet inst.spiId inst.pinConfig
    if configRet ≠ 0 then (configRet, b) else (0, b.setOwner inst)
  else
    (0, b)

def takeCs (inst : DrvSpiInst) (csChange : Bool) : DrvSpiInst × Bool × Bool :=
  if inst.csPin ≠ -1 then
    let csTake := inst.csStatus != csActive
    if csChange then
      ({ inst with csStatus := csInactive }, csTake, true)
    else
      ({ inst with csStatus := csActive }, csTake, false)
  else
    (inst, false, false)

def drvSpiTransfer (inst : Option DrvSpiInst) (txData rxData : Bool) (len : Nat) (csChange : Bool)
    (configRet rwRet : Int) (b : SpiBus) : SpiResult :=
  match inst with
  | none => ⟨-1, none, b, none⟩
  | some inst =>
    if inst.devFd < 0 then
      ⟨-1, some inst, b, none⟩
    else if len = 0 then
      ⟨0, some inst, b, none⟩
    else if len > intMax ∨ (!txData ∧ !rxData) then
      ⟨-1, some inst, b, none⟩
    else
      let (ret, b) := lazyConfig inst configRet b
      if ret ≠ 0 then
        ⟨ret, some inst, b, none⟩
      else
        let (inst, csTake, csRelease) := takeCs inst csChange
        let msg :=
          {
            sendBuf := txData
            recvBuf := rxData
            length := len
            csTake := csTake
            csRelease := csRelease
            qspiDataLines := inst.dataLine
          }
        ⟨rwRet, some inst, b, some ⟨inst, msg, b.applied inst.spiId⟩⟩

def drvSpiRead (inst : Option DrvSpiInst) (rxData : Bool) (len : Nat) (csChange : Bool)
    (configRet rwRet : Int) (b : SpiBus) : SpiResult :=
  drvSpiTransfer inst false rxData len csChange configRet rwRet b

def drvSpiWrite (inst : Option DrvSpiInst) (txData : Bool) (len : Nat) (csChange : Bool)
    (configRet rwRet : Int) (b : SpiBus) : SpiResult :=
  drvSpiTransfer inst txData false len csChange configRet rwRet b

def drvSpiTransferMessage (inst : Option DrvSpiInst) (msg : Option RtQspiMessage)
    (configRet rwRet : Int) (b : SpiBus) : SpiResult :=
  match inst, msg with
  | some inst, some msg =>
    if inst.devFd < 0 ∨ msg.length > intMax then
      ⟨-1, some inst, b, none⟩
    else
      let (ret, b) := lazyConfig inst configRet b
      if ret ≠ 0 then
        ⟨ret, some inst, b, none⟩
      else
        let msg := { msg with qspiDataLines := inst.dataLine }
        ⟨rwRet, some inst, b, some ⟨inst, msg, b.applied inst.spiId⟩⟩
  | inst, _ => ⟨-1, inst, b, none⟩

def drvSpiUpdateConfig (inst : DrvSpiInst) (configRet : Int) (b : SpiBus) : Int × SpiBus :=
  if inst.csPin = -1 ∧ inst.useHwCs then
    (-1, b)
  else
    let config :=
      {
        mode := inst.mode
        dataWidth := inst.dataBits
        hardCs := 0
        softCs := if inst.csPin ≠ -1 ∧ inst.useHwCs then softCsOf inst.csPin else 0
        maxHz := inst.baudrate
        qspiDlWidth := inst.dataLine
      }
    let b := b.ioctlConfig configRet inst.spiId config
    if configRet ≠ 0 then (configRet, b) else (0, b.setOwner inst)

def changeSetting (inst : DrvSpiInst) (change : DrvSpiInst → DrvSpiInst) (configRet : Int)
    (b : SpiBus) : SpiResult :=
  let (ret, b) := drvSpiUpdateConfig (change inst) configRet b
  if ret ≠ 0 then ⟨ret, some inst, b, none⟩ else ⟨0, some (change inst), b, none⟩

def drvSpiSetBaudrate (inst : Option DrvSpiInst) (baudrate : UInt32) (configRet : Int)
    (b : SpiBus) : SpiResult :=
  match inst with
  | none => ⟨-1, none, b, none⟩
  | some inst =>
    if inst.devFd < 0 ∨ baudrate = 0 then
      ⟨-1, some inst, b, none⟩
    else
      changeSetting inst (fun i => { i with baudrate := baudrate }) configRet b

def drvSpiSetDatamode (inst : Option DrvSpiInst) (mode : UInt8) (configRet : Int) (b : SpiBus)
    : SpiResult :=
  match inst with
  | none => ⟨-1, none, b, none⟩
  | some inst =>
    if inst.devFd < 0 ∨ mode > 3 then
      ⟨-1, some inst, b, none⟩
    else
      changeSetting inst (fun i => { i with mode := (i.mode &&& spiCsActiveHigh) ||| mode })
        configRet b

def drvSpiSetCsPolarity (inst : Option DrvSpiInst) (isActiveHi : Bool) (configRet : Int)
    (b : SpiBus) : SpiResult :=
  match inst with
  | none => ⟨-1, none, b, none⟩
  | some inst =>
    if inst.devFd < 0 then
      ⟨-1, some inst, b, none⟩
    else if inst.csPin ≠ -1 then
      let mode :=
        if isActiveHi then inst.mode ||| spiCsActiveHigh else inst.mode &&& ~~~spiCsActiveHigh
      changeSetting inst (fun i => { i with mode := mode }) configRet b
    else
      ⟨0, some inst, b, none⟩

def drvSpiSetCsMode (inst : Option DrvSpiInst) (useHwCs : Bool) (configRet : Int) (b : SpiBus)
    : SpiResult :=
  match inst with
  | none => ⟨-1, none, b, none⟩
  | some inst =>
    if inst.devFd < 0 then
      ⟨-1, some inst, b, none⟩
    else if useHwCs ∧ inst.csPin = -1 then
      ⟨-1, some inst, b, none⟩
    else
      changeSetting inst (fun i => { i with useHwCs := useHwCs }) configRet b

def drvSpiSetDataBits (inst : Option DrvSpiInst) (dataBits : UInt8) (configRet : Int)
    (b : SpiBus) : SpiResult :=
  match inst with
  | none => ⟨-1, none, b, none⟩
  | some inst =>
    if inst.devFd < 0 ∨ dataBits < 4 ∨ dataBits > 32 then
      ⟨-1, some inst, b, none⟩
    else
      changeSetting inst (fun i => { i with dataBits := dataBits }) configRet b

inductive SpiOp where
  | create (p : Nat) (args : CreateArgs) (env : CreateEnv)
  | destroy (p : Nat)
  | setBaudrate (p : Nat) (baudrate : UInt32) (configRet : Int)
  | setDatamode (p : Nat) (mode : UInt8) (configRet : Int)
  | setCsPolarity (p : Nat) (isActiveHi : Bool) (configRet : Int)
  | setCsMode (p : Nat) (useHwCs : Bool) (configRet : Int)
  | setDataBits (p : Nat) (dataBits : UInt8) (configRet : Int)
  | transfer (p : Nat) (txData rxData : Bool) (len : Nat) (csChange : Bool) (configRet rwRet : Int)
  | read (p : Nat) (rxData : Bool) (len : Nat) (csChange : Bool) (configRet rwRet : Int)
  | write (p : Nat) (txData : Bool) (len : Nat) (csChange : Bool) (configRet rwRet : Int)
  | transferMessage (p : Nat) (msg : Option RtQspiMessage) (configRet rwRet : Int)

def SpiOp.target (op : SpiOp) : Nat :=
  match op with
  | .create p _ _ | .destroy p | .setBaudrate p _ _ | .setDatamode p _ _ | .setCsPolarity p _ _
  | .setCsMode p _ _ | .setDataBits p _ _ | .transfer p _ _ _ _ _ _ | .read p _ _ _ _ _
  | .write p _ _ _ _ _ | .transferMessage p _ _ _ => p

structure SpiState where
  insts : Nat → Option DrvSpiInst
  idx : Nat
  bus : SpiBus

def SpiState.init (applied : Int → Option RtQspiConfiguration) : SpiState :=
  ⟨fun _ => none, 0, ⟨fun _ => 0, applied⟩⟩

def SpiState.finish (s : SpiState) (p : Nat) (r : SpiResult) : SpiState :=
  { s with insts := Function.update s.insts p r.inst, bus := r.bus }

def SpiOp.call (op : SpiOp) (inst : Option DrvSpiInst) (b : SpiBus) : SpiResult :=
  match op with
  | .create _ _ _ => ⟨0, inst, b, none⟩
  | .destroy _ => ⟨0, none, b, none⟩
  | .setBaudrate _ baudrate ret => drvSpiSetBaudrate inst baudrate ret b
  | .setDatamode _ mode ret => drvSpiSetDatamode inst mode ret b
  | .setCsPolarity _ isActiveHi ret => drvSpiSetCsPolarity inst isActiveHi ret b
  | .setCsMode _ useHwCs ret => drvSpiSetCsMode inst useHwCs ret b
  | .setDataBits _ dataBits ret => drvSpiSetDataBits inst dataBits ret b
  | .transfer _ txData rxData len csChange ret rwRet =>
    drvSpiTransfer inst txData rxData len csChange ret rwRet b
  | .read _ rxData len csChange ret rwRet => drvSpiRead inst rxData len csChange ret rwRet b
  | .write _ txData len csChange ret rwRet => drvSpiWrite inst txData len csChange ret rwRet b
  | .transferMessage _ msg ret rwRet => drvSpiTransferMessage inst msg ret rwRet b

def spiMachine : Lib.Machine SpiState SpiOp (Option Sent) where
  step s op :=
    match op with
    | .create p args env =>
      let (r, idx) := drvSpiInstCreate (s.insts p) args env s.idx s.bus
      ({ s.finish p r with idx := idx }, r.sent)
    | op =>
      let r := op.call (s.insts op.target) s.bus
      (s.finish op.target r, r.sent)

end Spi
