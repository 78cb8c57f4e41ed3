import RtsmartLib.Hal.FpioaTable
import Mathlib.Logic.Function.Basic

/-!
This module contains the pin multiplexer driver: the two banks of registers, the read back of a pin's
function, and the selection of a function for a pin.
-/

namespace Fpioa

def fpioaPinMaxFuncs : Nat := 5
def fpioaPinMaxNum : Nat := 72
def fpioaPinFuncAltNum : Nat := 4

def gpio0Code : Nat := FpioaFunc.gpio0.code
def gpio63Code : Nat := FpioaFunc.gpio63.code
def gpio71Code : Nat := FpioaFunc.gpio71.code

/-
The functions that a pin selects from, by their numbers.
-/
def availFunc (pin : Nat) : List Nat :=
  (gPinFuncArray.getD pin []).map FpioaFunc.code

/-
The fields of a register of the main bank. A register of the PMU bank has no bit 4 in `ds`, no `msc` and
no bit 13 in `io_sel`; its other fields stand at the same places.
-/
def fieldMsc : BitVec 32 := 0x200#32
def fieldIoSel : BitVec 32 := 0x3800#32
def fieldPmu : BitVec 32 := 0x19ef#32

def ioSel (value : BitVec 32) : BitVec 3 := value.extractLsb' 11 3

def setIoSel (value : BitVec 32) (sel : Nat) : BitVec 32 :=
  (value &&& ~~~fieldIoSel) ||| ((BitVec.ofNat 3 sel).setWidth 32 <<< 11)

def setMsc (value tmp : BitVec 32) : BitVec 32 :=
  (value &&& ~~~fieldMsc) ||| (tmp &&& fieldMsc)

def convertIomuxToPmu (data : BitVec 32) : BitVec 32 := data &&& fieldPmu

def convertPmuToIomux (data : BitVec 32) : BitVec 32 := data &&& fieldPmu

/-
A bank of registers. `attempts` says which of the next attempts to map it succeed; all later ones do.
-/
structure IomuxBank where
  regs : Nat → BitVec 32
  mapped : Bool
  attempts : List Bool

structure FpioaState where
  iomux : IomuxBank
  pmuIomux : IomuxBank

def mmapIomux (bank : IomuxBank) : Bool × IomuxBank :=
  if bank.mapped then
    (true, bank)
  else
    match bank.attempts with
    | [] => (true, { bank with mapped := true })
    | ok :: attempts => (ok, { bank with mapped := ok, attempts := attempts })

def drvFpioaGetIomux (bank : IomuxBank) (pin : Nat) : Option (BitVec 32) × IomuxBank :=
  let (ok, bank) := mmapIomux bank
  (if ok then some (bank.regs pin) else none, bank)

def drvFpioaSetIomux (bank : IomuxBank) (pin : Nat) (value : BitVec 32) : Int × IomuxBank :=
  let (ok, bank) := mmapIomux bank
  if ok then
    (0, { bank with regs := Function.update bank.regs pin ((bank.regs pin &&& 0x200#32) ||| value) })
  else
    (-1, bank)

def drvFpioaGetPmuIomux (bank : IomuxBank) (pin : Nat) : Option (BitVec 32) × IomuxBank :=
  let (ok, bank) := mmapIomux bank
  (if ok then some (convertPmuToIomux (bank.regs pin)) else none, bank)

def drvFpioaSetPmuIomux (bank : IomuxBank) (pin : Nat) (value : BitVec 32) : Int × IomuxBank :=
  drvFpioaSetIomux bank pin (convertIomuxToPmu value)

section

/-
Whether the board supports the hardware RTC, whose pins are those of the PMU bank.
-/
variable (hwRtc : Bool)

def drvFpioaPinEnabled (pin : Int) : Bool :=
  if pin < 0 ∨ pin ≥ fpioaPinMaxNum then false
  else if !hwRtc ∧ pin ≥ 64 then false
  else true

/-
`none` is the return value -1.
-/
def drvFpioaGetPinCfg (s : FpioaState) (pin : Int) : Option (BitVec 32) × FpioaState :=
  if drvFpioaPinEnabled hwRtc pin then
    if 64 > pin then
      let (value, bank) := drvFpioaGetIomux s.iomux pin.toNat
      (value, { s with iomux := bank })
    else
      let (value, bank) := drvFpioaGetPmuIomux s.pmuIomux (pin - 64).toNat
      (value, { s with pmuIomux := bank })
  else
    (none, s)

def drvFpioaSetPinCfg (s : FpioaState) (pin : Int) (value : BitVec 32) : Int × FpioaState :=
  if drvFpioaPinEnabled hwRtc pin then
    if 64 > pin then
      let (ret, bank) := drvFpioaSetIomux s.iomux pin.toNat value
      (ret, { s with iomux := bank })
    else
      let (ret, bank) := drvFpioaSetPmuIomux s.pmuIomux (pin - 64).toNat value
      (ret, { s with pmuIomux := bank })
  else
    (-1, s)

def drvFpioaGetFuncCfg (func : Nat) : Option (BitVec 32) :=
  if gpio63Code ≥ func then some 0x18f#32
  else if gpio71Code ≥ func then some 0x98f#32
  else (gFuncDescribArray.find? (·.func.code == func)).map (·.cfg)

def drvFpioaGetPinFunc (s : FpioaState) (pin : Int) : Option Nat × FpioaState :=
  if drvFpioaPinEnabled hwRtc pin then
    match drvFpioaGetPinCfg hwRtc s pin with
    | (none, s) => (none, s)
    | (some cfg, s) =>
      let sel := (ioSel cfg).toNat
      if fpioaPinMaxFuncs ≤ sel then (none, s) else ((availFunc pin.toNat)[sel]?, s)
  else
    (none, s)

/-
The pins from `pin` on that can have the function, after `pinCnt` of them have been found.
-/
def availablePinsLoop (func : Nat) (rows : List (List FpioaFunc)) (pin pinCnt : Nat) : List Nat :=
  match rows with
  | [] => []
  | row :: rows =>
    if drvFpioaPinEnabled hwRtc pin = true ∧ func ∈ row.map FpioaFunc.code then
      if fpioaPinFuncAltNum ≤ pinCnt + 1 then
        [pin]
      else
        pin :: availablePinsLoop func rows (pin + 1) (pinCnt + 1)
    else
      availablePinsLoop func rows (pin + 1) pinCnt

def drvFpioaFuncAvailablePins (func : Nat) : List Nat :=
  availablePinsLoop hwRtc func gPinFuncArray 0 0

/-
The body of the loop over the pins that can have the function: one that has it loses it.
-/
def setPinFuncRelease (func : Nat) (s : FpioaState) (altPin : Nat) : FpioaState :=
  let (currFunc, s) := drvFpioaGetPinFunc hwRtc s altPin
  if currFunc = some func then
    match drvFpioaGetPinCfg hwRtc s altPin with
    | (none, s) => s
    | (some tmp, s) => (drvFpioaSetPinCfg hwRtc s altPin (setMsc (setIoSel 0#32 0) tmp)).2
  else
    s

def funcSel (pin func : Nat) : Option Nat :=
  if gpio71Code ≥ func ∧ gpio0Code ≤ func then
    some (if gpio63Code < func then 1 else 0)
  else
    (availFunc pin).findIdx? (· == func)

def drvFpioaSetPinFunc (s : FpioaState) (pin : Int) (func : Nat) : Int × FpioaState :=
  if drvFpioaPinEnabled hwRtc pin then
    match funcSel pin.toNat func with
    | none => (-1, s)
    | some sel =>
      let s := (drvFpioaFuncAvailablePins hwRtc func).foldl (setPinFuncRelease hwRtc func) s
      match drvFpioaGetFuncCfg func with
      | none => (-1, s)
      | some cfg =>
        match drvFpioaGetPinCfg hwRtc s pin with
        | (none, s) => (-1, s)
        | (some tmp, s) => drvFpioaSetPinCfg hwRtc s pin (setMsc (setIoSel cfg sel) tmp)
  else
    (-1, s)

end

end Fpioa
