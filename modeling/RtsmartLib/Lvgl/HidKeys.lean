import Mathlib.Logic.Function.Basic

/-!
This module contains the LVGL input device for HID keyboards: the translation of key codes with the modifiers,
and the queue of key events that it reports from.
-/

namespace Lvgl

def keyEsc : Nat := 1
def key1 : Nat := 2
def key2 : Nat := 3
def key3 : Nat := 4
def key4 : Nat := 5
def key5 : Nat := 6
def key6 : Nat := 7
def key7 : Nat := 8
def key8 : Nat := 9
def key9 : Nat := 10
def key0 : Nat := 11
def keyMinus : Nat := 12
def keyEqual : Nat := 13
def keyBackspace : Nat := 14
def keyTab : Nat := 15
def keyQ : Nat := 16
def keyW : Nat := 17
def keyE : Nat := 18
def keyR : Nat := 19
def keyT : Nat := 20
def keyY : Nat := 21
def keyU : Nat := 22
def keyI : Nat := 23
def keyO : Nat := 24
def keyP : Nat := 25
def keyLeftBrace : Nat := 26
def keyRightBrace : Nat := 27
def keyEnter : Nat := 28
def keyA : Nat := 30
def keyS : Nat := 31
def keyD : Nat := 32
def keyF : Nat := 33
def keyG : Nat := 34
def keyH : Nat := 35
def keyJ : Nat := 36
def keyK : Nat := 37
def keyL : Nat := 38
def keySemicolon : Nat := 39
def keyApostrophe : Nat := 40
def keyGrave : Nat := 41
def keyLeftShift : Nat := 42
def keyBackslash : Nat := 43
def keyZ : Nat := 44
def keyX : Nat := 45
def keyC : Nat := 46
def keyV : Nat := 47
def keyB : Nat := 48
def keyN : Nat := 49
def keyM : Nat := 50
def keyComma : Nat := 51
def keyDot : Nat := 52
def keySlash : Nat := 53
def keyRightShift : Nat := 54
def keyKpAsterisk : Nat := 55
def keySpace : Nat := 57
def keyCapsLock : Nat := 58
def keyKp7 : Nat := 71
def keyKp8 : Nat := 72
def keyKp9 : Nat := 73
def keyKpMinus : Nat := 74
def keyKp4 : Nat := 75
def keyKp5 : Nat := 76
def keyKp6 : Nat := 77
def keyKpPlus : Nat := 78
def keyKp1 : Nat := 79
def keyKp2 : Nat := 80
def keyKp3 : Nat := 81
def keyKp0 : Nat := 82
def keyKpDot : Nat := 83
def keyKpEnter : Nat := 96
def keyKpSlash : Nat := 98
def keyHome : Nat := 102
def keyUp : Nat := 103
def keyPageUp : Nat := 104
def keyLeft : Nat := 105
def keyRight : Nat := 106
def keyEnd : Nat := 107
def keyDown : Nat := 108
def keyPageDown : Nat := 109
def keyDelete : Nat := 111

/-
The keys of LVGL that are no characters.
-/
inductive LvKey where
  | enter
  | esc
  | backspace
  | del
  | next
  | prev
  | up
  | down
  | left
  | right
  | home
  | endKey
  deriving DecidableEq, Repr

/-
A key value other than zero.
-/
inductive HidKey where
  | lv (key : LvKey)
  | char (c : Char)
  deriving DecidableEq, Repr

inductive LvIndevState where
  | released
  | pressed
  deriving DecidableEq, Repr

structure KeyEvent where
  code : Nat
  value : Int
  deriving DecidableEq, Repr

def keyReleased : Int := 0

def keyPressed : Int := 1

def lvK230HidKeyQueueSize : Nat := 32

def lvK230HidMaxReadBatch : Nat := 16

def lvK230HidTranslatedKeys : Nat := 128

/-
What the device remembers of a keyboard. A key value of zero is `none`, and the times of events are left out.
-/
structure LvK230HidCtx where
  activeKey : Option HidKey
  activeKeyState : LvIndevState
  shiftPressed : Bool
  capsLockEnabled : Bool
  translatedKeys : Nat → Option HidKey
  keyEvents : List (HidKey × LvIndevState)

def LvK230HidCtx.init : LvK230HidCtx :=
  {
    activeKey := none
    activeKeyState := .released
    shiftPressed := false
    capsLockEnabled := false
    translatedKeys := fun _ => none
    keyEvents := []
  }

def apostrophe : Char := Char.ofNat 39

def quotationMark : Char := Char.ofNat 34

def backslash : Char := Char.ofNat 92

def graveAccent : Char := Char.ofNat 96

/-
Each key with what it stands for alone and together with shift.
-/
def alphaKeys : List (Nat × Char × Char) :=
  [
    (keyA, 'a', 'A'), (keyB, 'b', 'B'), (keyC, 'c', 'C'), (keyD, 'd', 'D'), (keyE, 'e', 'E'),
    (keyF, 'f', 'F'), (keyG, 'g', 'G'), (keyH, 'h', 'H'), (keyI, 'i', 'I'), (keyJ, 'j', 'J'),
    (keyK, 'k', 'K'), (keyL, 'l', 'L'), (keyM, 'm', 'M'), (keyN, 'n', 'N'), (keyO, 'o', 'O'),
    (keyP, 'p', 'P'), (keyQ, 'q', 'Q'), (keyR, 'r', 'R'), (keyS, 's', 'S'), (keyT, 't', 'T'),
    (keyU, 'u', 'U'), (keyV, 'v', 'V'), (keyW, 'w', 'W'), (keyX, 'x', 'X'), (keyY, 'y', 'Y'),
    (keyZ, 'z', 'Z')
  ]

def asciiKeys : List (Nat × Char × Char) :=
  [
    (key1, '1', '!'), (key2, '2', '@'), (key3, '3', '#'), (key4, '4', '$'), (key5, '5', '%'),
    (key6, '6', '^'), (key7, '7', '&'), (key8, '8', '*'), (key9, '9', '('), (key0, '0', ')'),
    (keySpace, ' ', ' '), (keyMinus, '-', '_'), (keyEqual, '=', '+'), (keyLeftBrace, '[', '{'),
    (keyRightBrace, ']', '}'), (keyBackslash, backslash, '|'), (keySemicolon, ';', ':'),
    (keyApostrophe, apostrophe, quotationMark), (keyGrave, graveAccent, '~'), (keyComma, ',', '<'),
    (keyDot, '.', '>'), (keySlash, '/', '?'), (keyKp0, '0', '0'), (keyKp1, '1', '1'), (keyKp2, '2', '2'),
    (keyKp3, '3', '3'), (keyKp4, '4', '4'), (keyKp5, '5', '5'), (keyKp6, '6', '6'), (keyKp7, '7', '7'),
    (keyKp8, '8', '8'), (keyKp9, '9', '9'), (keyKpDot, '.', '.'), (keyKpPlus, '+', '+'),
    (keyKpMinus, '-', '-'), (keyKpSlash, '/', '/'), (keyKpAsterisk, '*', '*')
  ]

def specialKeys : List (Nat × LvKey × LvKey) :=
  [
    (keyEnter, .enter, .enter), (keyKpEnter, .enter, .enter), (keyEsc, .esc, .esc),
    (keyBackspace, .backspace, .backspace), (keyDelete, .del, .del), (keyTab, .next, .prev),
    (keyUp, .up, .up), (keyDown, .down, .down), (keyLeft, .left, .left), (keyRight, .right, .right),
    (keyHome, .home, .home), (keyEnd, .endKey, .endKey), (keyPageUp, .prev, .prev),
    (keyPageDown, .next, .next)
  ]

/-
The `switch` on a key code that the translations are made of.
-/
def translateBy {α : Type} (keys : List (Nat × α × α)) (shifted : Bool) (code : Nat) : Option α :=
  match keys with
  | [] => none
  | (key, plain, other) :: keys =>
    if code = key then some (if shifted then other else plain) else translateBy keys shifted code

def lvK230HidIsShiftKey (code : Nat) : Bool :=
  code = keyLeftShift || code = keyRightShift

def lvK230HidTranslateAlphaKey (shifted : Bool) (code : Nat) : Option Char :=
  translateBy alphaKeys shifted code

def lvK230HidTranslateAsciiKey (ctx : LvK230HidCtx) (code : Nat) : Option Char :=
  let shifted := ctx.shiftPressed != ctx.capsLockEnabled
  match lvK230HidTranslateAlphaKey shifted code with
  | some alphaKey => some alphaKey
  | none => translateBy asciiKeys shifted code

def lvK230HidTranslateSpecialKey (ctx : LvK230HidCtx) (code : Nat) : Option LvKey :=
  translateBy specialKeys ctx.shiftPressed code

def lvK230HidTranslateKeycode (ctx : LvK230HidCtx) (code : Nat) : Option HidKey :=
  match lvK230HidTranslateSpecialKey ctx code with
  | some key => some (.lv key)
  | none => (lvK230HidTranslateAsciiKey ctx code).map .char

/-
The oldest event makes room in a full queue.
-/
def lvK230HidEnqueueKeyEvent (ctx : LvK230HidCtx) (key : HidKey) (state : LvIndevState) : LvK230HidCtx :=
  let keyEvents :=
    if ctx.keyEvents.length ≥ lvK230HidKeyQueueSize then ctx.keyEvents.drop 1 else ctx.keyEvents
  { ctx with keyEvents := keyEvents ++ [(key, state)] }

/-
The key value for an event of a key that is no modifier. What a key has been translated to is remembered until
it is released.
-/
def eventKey (ctx : LvK230HidCtx) (event : KeyEvent) : Option HidKey × LvK230HidCtx :=
  if event.value = keyReleased ∧ event.code < lvK230HidTranslatedKeys
      ∧ ctx.translatedKeys event.code ≠ none then
    (ctx.translatedKeys event.code,
      { ctx with translatedKeys := Function.update ctx.translatedKeys event.code none })
  else
    let key := lvK230HidTranslateKeycode ctx event.code
    if event.value ≠ keyReleased ∧ event.code < lvK230HidTranslatedKeys then
      (key, { ctx with translatedKeys := Function.update ctx.translatedKeys event.code key })
    else
      (key, ctx)

/-
The body of the loop over the events of a frame.
-/
def collectKeyEvent (ctx : LvK230HidCtx) (event : KeyEvent) : LvK230HidCtx :=
  if lvK230HidIsShiftKey event.code then
    if event.value = keyReleased then
      { ctx with shiftPressed := false }
    else
      { ctx with shiftPressed := true }
  else if event.code = keyCapsLock ∧ event.value = keyPressed then
    { ctx with capsLockEnabled := !ctx.capsLockEnabled }
  else
    let (key, ctx) := eventKey ctx event
    match key with
    | none => ctx
    | some key =>
      lvK230HidEnqueueKeyEvent ctx key (if event.value = keyReleased then .released else .pressed)

/-
`frames` are the frames that the driver returns. It has no more where they end or one has no events.
-/
def lvK230HidCollectKeyEvents (reads : Nat) (frames : List (List KeyEvent)) (ctx : LvK230HidCtx)
    : LvK230HidCtx :=
  match reads, frames with
  | reads + 1, frame :: frames =>
    if ctx.keyEvents.length < lvK230HidKeyQueueSize ∧ frame ≠ [] then
      lvK230HidCollectKeyEvents reads frames (frame.foldl collectKeyEvent ctx)
    else
      ctx
  | _, _ => ctx

structure LvIndevData where
  key : Option HidKey
  state : LvIndevState
  continueReading : Bool
  deriving DecidableEq, Repr

def lvK230HidKeypadReadCb (frames : List (List KeyEvent)) (ctx : LvK230HidCtx)
    : LvIndevData × LvK230HidCtx :=
  let ctx :=
    if ctx.keyEvents = [] then lvK230HidCollectKeyEvents lvK230HidMaxReadBatch frames ctx else ctx
  match ctx.keyEvents with
  | [] => (⟨ctx.activeKey, ctx.activeKeyState, false⟩, ctx)
  | (key, state) :: keyEvents =>
    (⟨some key, state, keyEvents ≠ []⟩,
      { ctx with keyEvents := keyEvents, activeKey := some key, activeKeyState := state })

end Lvgl
