import RtsmartLib.Lib.Memory
import RtsmartLib.Lib.Transmit
import RtsmartLib.Modem.AtCmd

/-!
This module contains the line that an AT command is sent with: it is formatted into a buffer, and written to
the port from there.
-/

namespace Modem

open Lib

/-
A C string without its NUL.
-/
abbrev CString := { text : List Byte // 0 ∉ text }

def defAtDev : CString :=
  ⟨[0x2f, 0x64, 0x65, 0x76, 0x2f, 0x74, 0x74, 0x79, 0x55, 0x53, 0x42, 0x32], by decide⟩

def defDialCmd : CString :=
  ⟨[0x41, 0x54, 0x2b, 0x4d, 0x44, 0x49, 0x41, 0x4c, 0x55, 0x50, 0x3d, 0x31, 0x2c, 0x31], by decide⟩

/-
The configuration that `modem_init` is given, whose strings may be null.
-/
structure ModemCfg where
  reqReadyGpio : Int
  wakeTimeoutMs : Int
  atDev : Option CString
  dialCmd : Option CString
  dialTimeoutMs : Int

structure EffectiveCfg where
  reqReadyGpio : Int
  wakeTimeoutMs : Int
  atDev : CString
  dialCmd : CString
  dialTimeoutMs : Int

def applyDefaults (cfg : Option ModemCfg) : EffectiveCfg :=
  let d : EffectiveCfg := ⟨26, 60000, defAtDev, defDialCmd, 30000⟩
  match cfg with
  | none => d
  | some cfg =>
    {
      reqReadyGpio := if cfg.reqReadyGpio > 0 then cfg.reqReadyGpio else d.reqReadyGpio
      wakeTimeoutMs := if cfg.wakeTimeoutMs > 0 then cfg.wakeTimeoutMs else d.wakeTimeoutMs
      atDev := cfg.atDev.getD d.atDev
      dialCmd := cfg.dialCmd.getD d.dialCmd
      dialTimeoutMs := if cfg.dialTimeoutMs > 0 then cfg.dialTimeoutMs else d.dialTimeoutMs
    }

def lineSize : Nat := 64

def intMax : Nat := 2 ^ 31 - 1

/-
`snprintf(line, sizeof(line), "%s\r", cmd)` returns the length of the whole text, also where the buffer does
not hold it, and fails where that is no `int`. The memory starts with the buffer.
-/
def formatLine (stack : Memory) (cmd : List Byte) : Int × Memory :=
  let text := cmd ++ [0x0d]
  let stack := writeBytes 0 (text.take (lineSize - 1) ++ [0]) stack
  (if text.length > intMax then -1 else text.length, stack)

/-
The result is how much has been written, and what. The time is over where the outcomes end.
-/
def atWriteAll (buf : Memory) (len off : Nat) (outcomes : List WriteOutcome) : Nat × List Byte :=
  match outcomes with
  | [] => (off, [])
  | outcome :: outcomes =>
    if off < len then
      match outcome with
      | .wrote n =>
        let w := min n (len - off)
        if w > 0 then
          let r := atWriteAll buf len (off + w) outcomes
          (r.1, readBytes buf off w ++ r.2)
        else
          (off, [])
      | .again => atWriteAll buf len off outcomes
      | .failed | .deadline => (off, [])
    else
      (off, [])

/-
What a command meets: whether the port is open, how its attempts to write end, the buffer each time that it
looks for a result before its timeout, and the buffer in the end.
-/
structure AtPort where
  atFd : Bool
  writes : List WriteOutcome
  looks : List (List RxByte)
  last : List RxByte

/-
`resp` is the text that the caller gets, if it has got any.
-/
structure AtCmdRun where
  rc : Int
  written : List Byte
  resp : Option (List Byte)

def atWait (looks : List (List RxByte)) : Int :=
  match looks with
  | [] => -1
  | buf :: looks =>
    let rc := atResult buf
    if rc ≥ 0 then rc else atWait looks

def atCmd (stack : Memory) (cmd : CString) (respSize : Nat) (port : AtPort) : AtCmdRun :=
  if port.atFd then
    let (n, line) := formatLine stack cmd.val
    let w := if n ≤ 0 then (0, []) else atWriteAll line n.toNat 0 port.writes
    let rc := if n ≤ 0 ∨ w.1 ≠ n then -1 else atWait port.looks
    let resp :=
      if respSize > 0 then some ((bytesOf (cString port.last)).take (respSize - 1)) else none
    ⟨rc, w.2, resp⟩
  else
    ⟨-1, [], none⟩

def modemDial (stack : Memory) (cfg : EffectiveCfg) (port : AtPort) : AtCmdRun :=
  atCmd stack cfg.dialCmd 256 port

/--
The command fails and nothing is written, or exactly the command and a carriage return are, and what is
written comes from inside the buffer of the line.
-/
def WritesLine (cmd : CString) (run : AtCmdRun) : Prop :=
  run.written.length ≤ lineSize
    ∧ ((run.rc = -1 ∧ run.written = []) ∨ run.written = cmd.val ++ [0x0d])

def WriteOutcome.progress (outcome : WriteOutcome) : Progress :=
  match outcome with
  | .wrote n => if n = 0 then .stop else .took n
  | .again => .retry
  | .failed | .deadline => .stop

/--
Nothing can be written, because the port is closed, the length of the line is no `int` or the port takes no
byte before it fails, or the line with a NUL fits the buffer and the port takes all of it.
-/
def LineFits (cmd : CString) (port : AtPort) : Prop :=
  port.atFd = false ∨ cmd.val.length + 1 > intMax ∨ accepts WriteOutcome.progress port.writes = 0
    ∨ (cmd.val.length + 1 < lineSize ∧ cmd.val.length + 1 ≤ accepts WriteOutcome.progress port.writes)

theorem atWriteAll_eq (buf : Memory) {len off : Nat} (hoff : off ≤ len) (outcomes : List WriteOutcome)
    : let t := transmit WriteOutcome.progress (readBytes buf off (len - off)) outcomes
      atWriteAll buf len off outcomes = (off + t.sent.length, t.sent) := by
  induction outcomes generalizing off with
  | nil =>
    rw [transmit_no_results]
    rfl
  | cons outcome outcomes ih =>
    unfold atWriteAll
    by_cases hlt : off < len
    . have hdata : readBytes buf off (len - off) ≠ [] := by
        rw [← List.length_pos_iff, length_readBytes]
        omega
      rw [if_pos hlt, transmit_cons _ hdata]
      cases outcome with
      | wrote n =>
        by_cases hzero : n = 0
        . simp [WriteOutcome.progress, hzero]
        . -- a count beyond the rest of the line stands for all of it
          have hpos : min n (len - off) > 0 := by
            omega
          have hdrop : (readBytes buf off (len - off)).drop n
              = readBytes buf (off + min n (len - off)) (len - (off + min n (len - off))) := by
            rw [drop_readBytes, ← Nat.sub_sub]
            by_cases hle : n ≤ len - off
            . rw [Nat.min_eq_left hle]
            . rw [Nat.min_eq_right (by omega), Nat.sub_eq_zero_of_le (by omega), Nat.sub_self]
              rfl
          have htake : (readBytes buf off (len - off)).take n = readBytes buf off (min n (len - off)) := by
            by_cases hle : n ≤ len - off
            . rw [Nat.min_eq_left hle, take_readBytes buf off hle]
            . rw [Nat.min_eq_right (by omega), List.take_of_length_le (by rw [length_readBytes]; omega)]
          have hnext := ih (show off + min n (len - off) ≤ len by omega)
          simp only [WriteOutcome.progress, hzero, if_false]
          rw [if_pos hpos, hnext, hdrop, htake, List.length_append, length_readBytes, Nat.add_assoc]
      | again =>
        apply ih hoff
      | failed => rfl
      | deadline => rfl
    . have hdata : len - off = 0 := by
        omega
      rw [if_neg hlt, hdata, readBytes_zero, transmit_nil]
      rfl

def lineText (cmd : List Byte) : List Byte :=
  cmd ++ [0x0d]

@[simp]
theorem length_lineText (cmd : List Byte) : (lineText cmd).length = cmd.length + 1 := by
  simp [lineText]

theorem formatLine_snd (stack : Memory) (cmd : List Byte)
    : (formatLine stack cmd).2 = writeBytes 0 ((lineText cmd).take (lineSize - 1) ++ [0]) stack := rfl

/-
Below the NUL the buffer holds the start of the line.
-/
theorem readBytes_formatLine (stack : Memory) (cmd : List Byte) {n : Nat} (hn : n ≤ cmd.length + 1)
    (hsize : n < lineSize)
    : readBytes (formatLine stack cmd).2 0 n = (lineText cmd).take n := by
  have hle : n ≤ ((lineText cmd).take (lineSize - 1)).length := by
    rw [List.length_take, length_lineText]
    omega
  have hself := readBytes_writeBytes_self 0 ((lineText cmd).take (lineSize - 1) ++ [0]) stack
  rw [formatLine_snd, ← take_readBytes _ _ (show n ≤ ((lineText cmd).take (lineSize - 1) ++ [0]).length by
    rw [List.length_append]; omega), hself, List.take_append_of_le_length hle, List.take_take,
    Nat.min_eq_left (by omega)]

/-
The line does not fit, and the last byte of the buffer is a NUL, which no line holds.
-/
theorem readBytes_formatLine_ne (stack : Memory) (cmd : CString) {n : Nat}
    (hlong : lineSize ≤ cmd.val.length + 1)
    : readBytes (formatLine stack cmd.val).2 0 n ≠ lineText cmd.val := by
  intro heq
  have hn : n = cmd.val.length + 1 := by
    rw [← length_lineText, ← heq, length_readBytes]
  have hlen : ((lineText cmd.val).take (lineSize - 1)).length = lineSize - 1 := by
    rw [List.length_take, length_lineText]
    omega
  have hnul : (readBytes (formatLine stack cmd.val).2 0 n).getD (lineSize - 1) 0 = 0 := by
    have hin : lineSize - 1 < ((lineText cmd.val).take (lineSize - 1) ++ [0]).length := by
      rw [List.length_append, hlen, List.length_singleton]
      apply Nat.lt_succ_self
    have hmem := writeBytes_of_mem 0 hin stack
    have hlast : lineSize - 1 < n := by
      unfold lineSize at hlong ⊢
      omega
    rw [getD_readBytes _ _ hlast, formatLine_snd, hmem, List.getD_append_right _ _ _ _ (by rw [hlen]), hlen]
    simp
  rw [heq] at hnul
  have hlt : lineSize - 1 < (lineText cmd.val).length := by
    rw [length_lineText]
    unfold lineSize at hlong ⊢
    omega
  rw [List.getD_eq_getElem _ _ hlt] at hnul
  have hmem : (0 : Byte) ∈ lineText cmd.val := List.mem_of_getElem hnul
  unfold lineText at hmem
  rw [List.mem_append] at hmem
  cases hmem with
  | inl h => exact cmd.property h
  | inr h => simp at h

/-
What an open port takes of a line whose length is an `int`.
-/
theorem atCmd_written (stack : Memory) (cmd : CString) (respSize : Nat) {port : AtPort}
    (hopen : port.atFd = true) (hint : cmd.val.length + 1 ≤ intMax)
    : let n := cmd.val.length + 1
      let k := accepts WriteOutcome.progress port.writes
      (atCmd stack cmd respSize port).written = readBytes (formatLine stack cmd.val).2 0 (min k n)
        ∧ (k < n → (atCmd stack cmd respSize port).rc = -1) := by
  have hn : (formatLine stack cmd.val).1 = ((cmd.val.length + 1 : Nat) : Int) := by
    have hlen : ¬(cmd.val ++ [(0x0d : Byte)]).length > intMax := by
      rw [List.length_append, List.length_singleton]
      omega
    unfold formatLine
    dsimp only
    rw [if_neg hlen, List.length_append, List.length_singleton]
  have hwrite := atWriteAll_eq (formatLine stack cmd.val).2 (Nat.zero_le (cmd.val.length + 1)) port.writes
  have hpos : ¬((cmd.val.length + 1 : Nat) : Int) ≤ 0 := by
    omega
  dsimp only at hwrite
  rw [Nat.sub_zero, transmit_sent_eq, Nat.zero_add] at hwrite
  unfold atCmd
  dsimp only
  rw [if_pos hopen, hn, if_neg hpos, Int.toNat_natCast, hwrite]
  dsimp only
  generalize accepts WriteOutcome.progress port.writes = k
  have htake : (readBytes (formatLine stack cmd.val).2 0 (cmd.val.length + 1)).take k
      = readBytes (formatLine stack cmd.val).2 0 (min k (cmd.val.length + 1)) := by
    by_cases hle : k ≤ cmd.val.length + 1
    . rw [Nat.min_eq_left hle, take_readBytes _ _ hle]
    . rw [Nat.min_eq_right (by omega), List.take_of_length_le (by rw [length_readBytes]; omega)]
  rw [htake]
  constructor
  . rfl
  . intro hlt
    rw [if_pos]
    right
    rw [length_readBytes]
    omega

/-
Without a port, and for a line whose length is no `int`, the command fails before it writes.
-/
theorem atCmd_unstarted (stack : Memory) (cmd : CString) (respSize : Nat) {port : AtPort}
    (h : port.atFd = false ∨ cmd.val.length + 1 > intMax)
    : (atCmd stack cmd respSize port).rc = -1 ∧ (atCmd stack cmd respSize port).written = [] := by
  unfold atCmd
  by_cases hopen : port.atFd = true
  . have hlen : (cmd.val ++ [(0x0d : Byte)]).length > intMax := by
      rw [hopen] at h
      rw [List.length_append, List.length_singleton]
      simpa using h
    unfold formatLine
    dsimp only
    rw [if_pos hopen, if_pos hlen]
    exact ⟨rfl, rfl⟩
  . rw [if_neg hopen]
    exact ⟨rfl, rfl⟩

theorem atCmd_writesLine_iff (stack : Memory) (cmd : CString) (respSize : Nat) (port : AtPort)
    : WritesLine cmd (atCmd stack cmd respSize port) ↔ LineFits cmd port := by
  unfold WritesLine LineFits
  rw [← or_assoc]
  by_cases hunstarted : port.atFd = false ∨ cmd.val.length + 1 > intMax
  . obtain ⟨hrc, hwritten⟩ := atCmd_unstarted stack cmd respSize hunstarted
    rw [hwritten]
    constructor
    . intro _
      exact Or.inl hunstarted
    . intro _
      exact ⟨Nat.zero_le _, Or.inl ⟨hrc, rfl⟩⟩
  rw [or_iff_right hunstarted]
  rw [not_or, Bool.not_eq_false, Nat.not_lt] at hunstarted
  obtain ⟨hwritten, hfailed⟩ := atCmd_written stack cmd respSize hunstarted.1 hunstarted.2
  rw [hwritten, length_readBytes]
  generalize accepts WriteOutcome.progress port.writes = k at hfailed ⊢
  constructor
  . intro h
    cases h.2 with
    | inl hnothing =>
      left
      have hlen := congrArg List.length hnothing.2
      rw [length_readBytes, List.length_nil] at hlen
      omega
    | inr hline =>
      right
      have hlen := congrArg List.length hline
      rw [length_readBytes, ← lineText, length_lineText] at hlen
      constructor
      . by_contra hlong
        exact readBytes_formatLine_ne stack cmd (Nat.not_lt.mp hlong) hline
      . omega
  . intro h
    cases h with
    | inl hzero =>
      rw [hzero, Nat.zero_min]
      exact ⟨Nat.zero_le _, Or.inl ⟨hfailed (by omega), rfl⟩⟩
    | inr hfits =>
      rw [Nat.min_eq_right hfits.2, readBytes_formatLine stack cmd.val (Nat.le_refl _) hfits.1]
      refine ⟨Nat.le_of_lt hfits.1, Or.inr ?_⟩
      rw [List.take_of_length_le (by rw [length_lineText])]
      rfl

/-
Any command, also the dial command of any configuration, is sent right exactly if its line fits the buffer
and is taken as a whole, or nothing of it can be written.
-/
theorem modem_writesLine_iff (stack : Memory) (port : AtPort)
    : (∀ cmd respSize, WritesLine cmd (atCmd stack cmd respSize port) ↔ LineFits cmd port)
        ∧ ∀ cfg, WritesLine (applyDefaults cfg).dialCmd (modemDial stack (applyDefaults cfg) port)
          ↔ LineFits (applyDefaults cfg).dialCmd port := by
  constructor
  . intro cmd respSize
    apply atCmd_writesLine_iff
  . intro cfg
    apply atCmd_writesLine_iff

/-
The dial command has a length of 64 bytes. The port gets the 63 bytes that fit the buffer, the NUL and the
byte behind the buffer, but no carriage return.
-/
def longDialCmd : CString :=
  ⟨List.replicate 64 0x41, by decide⟩

theorem longDialCmd_not_writesLine
    : let cfg := applyDefaults (some ⟨0, 0, none, some longDialCmd, 0⟩)
      let run := modemDial (fun _ => 0x55) cfg ⟨true, [.wrote 65], [], []⟩
      run.written = List.replicate 63 0x41 ++ [0x00, 0x55] ∧ ¬WritesLine cfg.dialCmd run := by
  have hwritten : (modemDial (fun _ => 0x55) (applyDefaults (some ⟨0, 0, none, some longDialCmd, 0⟩))
      ⟨true, [.wrote 65], [], []⟩).written = List.replicate 63 0x41 ++ [0x00, 0x55] := by
    decide +kernel
  dsimp only
  constructor
  . exact hwritten
  . intro h
    have hlen := h.1
    rw [hwritten] at hlen
    exact absurd hlen (by decide)

end Modem
