import RtsmartLib.Lib.Memory

/-!
This module contains 16 byte blocks as big-endian numbers, chained block modes and counter mode over
an arbitrary block function, and how a mode splits over consecutive pieces of its input.
-/

namespace Lib

abbrev Block := { bytes : List Byte // bytes.length = 16 }

def Block.ofList (bytes : List Byte) : Block :=
  ⟨bytes.take 16 ++ List.replicate (16 - (bytes.take 16).length) 0, by simp⟩

def Block.xor (a b : Block) : Block :=
  ⟨List.zipWith (fun x y => x ^^^ y) a.1 b.1, by simp [a.2, b.2]⟩

theorem Block.ofList_val {bytes : List Byte} (h : bytes.length = 16)
    : (Block.ofList bytes).1 = bytes := by
  have htake : bytes.take 16 = bytes := by
    apply List.take_of_length_le
    omega
  simp [Block.ofList, htake, h]

theorem Block.getD_xor (a b : Block) (i : Nat)
    : (a.xor b).1.getD i 0 = a.1.getD i 0 ^^^ b.1.getD i 0 := by
  by_cases hi : i < 16
  . simp [Block.xor, a.2, b.2, hi]
  . simp [Block.xor, a.2, b.2, Nat.not_lt.mp hi]

theorem Block.ext_getD {a b : Block} (h : ∀ i, i < 16 → a.1.getD i 0 = b.1.getD i 0) : a = b := by
  apply Subtype.ext
  apply List.ext_getElem (a.2.trans b.2.symm)
  intro i hi hi'
  have hget := h i (by rw [a.2] at hi; exact hi)
  simpa [List.getElem?_eq_getElem, hi, hi'] using hget

theorem Block.xor_right_cancel {a b iv : Block} (h : a.xor iv = b.xor iv) : a = b := by
  apply Block.ext_getD
  intro i _
  have hbyte := congrArg (fun c : Block => c.1.getD i 0) h
  rw [Block.getD_xor, Block.getD_xor] at hbyte
  exact (BitVec.xor_left_inj _).mp hbyte

theorem Block.xor_xor_cancel_left (a b : Block) : a.xor (a.xor b) = b := by
  apply Block.ext_getD
  intro i _
  rw [Block.getD_xor, Block.getD_xor]
  rw [← BitVec.xor_assoc]
  simp

theorem Block.xor_xor_cancel_right (a b : Block) : (a.xor b).xor b = a := by
  apply Block.ext_getD
  intro i _
  rw [Block.getD_xor, Block.getD_xor]
  rw [BitVec.xor_assoc]
  simp

@[simp]
theorem Block.ofList_block (b : Block) : Block.ofList b.1 = b :=
  Subtype.ext (Block.ofList_val b.2)

def valueBE (bytes : List Byte) : Nat :=
  match bytes with
  | [] => 0
  | b :: bytes => b.toNat * 256 ^ bytes.length + valueBE bytes

@[simp]
theorem valueBE_nil : valueBE [] = 0 := rfl

theorem valueBE_cons (b : Byte) (bytes : List Byte)
    : valueBE (b :: bytes) = b.toNat * 256 ^ bytes.length + valueBE bytes := rfl

def bytesBE (n v : Nat) : List Byte :=
  match n with
  | 0 => []
  | n + 1 => BitVec.ofNat 8 (v / 256 ^ n) :: bytesBE n v

@[simp]
theorem length_bytesBE (n v : Nat) : (bytesBE n v).length = n := by
  induction n with
  | zero => rfl
  | succ n ih => simp [bytesBE, ih]

theorem valueBE_lt (bytes : List Byte) : valueBE bytes < 256 ^ bytes.length := by
  induction bytes with
  | nil => simp
  | cons b bytes ih =>
    rw [valueBE_cons]
    have hb : b.toNat < 256 := b.isLt
    have hmul : b.toNat * 256 ^ bytes.length ≤ 255 * 256 ^ bytes.length := by
      apply Nat.mul_le_mul_right
      omega
    rw [List.length_cons]
    rw [Nat.pow_succ]
    omega

theorem valueBE_append (a b : List Byte)
    : valueBE (a ++ b) = valueBE a * 256 ^ b.length + valueBE b := by
  induction a with
  | nil => simp
  | cons x a ih =>
    rw [List.cons_append]
    rw [valueBE_cons, valueBE_cons]
    rw [ih]
    rw [List.length_append]
    rw [Nat.pow_add]
    rw [Nat.add_mul]
    rw [Nat.mul_assoc]
    rw [Nat.add_assoc]

theorem valueBE_bytesBE (n v : Nat) : valueBE (bytesBE n v) = v % 256 ^ n := by
  induction n with
  | zero =>
    rw [Nat.pow_zero]
    rw [Nat.mod_one]
    rfl
  | succ n ih =>
    unfold bytesBE
    rw [valueBE_cons]
    rw [ih]
    rw [length_bytesBE]
    rw [BitVec.toNat_ofNat]
    rw [Nat.pow_succ 256 n]
    rw [Nat.mod_mul]
    rw [Nat.mul_comm]
    rw [Nat.add_comm]

theorem eq_of_valueBE {a b : List Byte} (hlen : a.length = b.length)
    (h : valueBE a = valueBE b)
    : a = b := by
  induction a generalizing b with
  | nil =>
    cases b with
    | nil => rfl
    | cons y b => cases hlen
  | cons x a ih =>
    cases b with
    | nil => cases hlen
    | cons y b =>
      have hlen : a.length = b.length := by
        simpa using hlen
      rw [valueBE_cons, valueBE_cons] at h
      have ha := valueBE_lt a
      have hb := valueBE_lt b
      rw [hlen] at h ha
      have hpos : 0 < 256 ^ b.length := by
        apply Nat.pow_pos
        omega
      have hx : (x.toNat * 256 ^ b.length + valueBE a) / 256 ^ b.length = x.toNat := by
        rw [Nat.add_comm]
        rw [Nat.add_mul_div_right _ _ hpos]
        rw [Nat.div_eq_of_lt ha]
        rw [Nat.zero_add]
      have hy : (y.toNat * 256 ^ b.length + valueBE b) / 256 ^ b.length = y.toNat := by
        rw [Nat.add_comm]
        rw [Nat.add_mul_div_right _ _ hpos]
        rw [Nat.div_eq_of_lt hb]
        rw [Nat.zero_add]
      have hxy : x = y := by
        apply BitVec.eq_of_toNat_eq
        rw [← hx, ← hy, h]
      rw [hxy] at h
      rw [hxy, ih hlen (by omega)]

/--
The counter block `n` steps later, as a 128 bit number that wraps.
-/
def Block.add (counter : Block) (n : Nat) : Block :=
  ⟨bytesBE 16 (valueBE counter.1 + n), length_bytesBE 16 _⟩

theorem Block.eq_add_of_valueBE {a counter : Block} {n : Nat}
    (h : valueBE a.1 = (valueBE counter.1 + n) % 256 ^ 16)
    : a = counter.add n := by
  apply Subtype.ext
  apply eq_of_valueBE
  . rw [a.2]
    rw [(counter.add n).2]
  . rw [h]
    unfold Block.add
    rw [valueBE_bytesBE]

theorem Block.add_zero (counter : Block) : counter.add 0 = counter := by
  symm
  apply Block.eq_add_of_valueBE
  rw [Nat.add_zero]
  rw [Nat.mod_eq_of_lt]
  have := valueBE_lt counter.1
  rw [counter.2] at this
  exact this

theorem Block.add_add (counter : Block) (m n : Nat)
    : (counter.add m).add n = counter.add (m + n) := by
  apply Block.eq_add_of_valueBE
  unfold Block.add
  dsimp only
  rw [valueBE_bytesBE, valueBE_bytesBE]
  rw [Nat.mod_add_mod]
  rw [Nat.add_assoc]

/-
One step of a chained mode turns the chaining value and an input block into an output block and the
next chaining value.
-/
abbrev ChainStep := Block → Block → Block × Block

def cbcEncrypt (encrypt : Block → Block) : ChainStep :=
  fun iv block =>
    let output := encrypt (block.xor iv)
    (output, output)

def cbcDecrypt (decrypt : Block → Block) : ChainStep :=
  fun iv block => ((decrypt block).xor iv, block)

def chain (step : ChainStep) (n : Nat) (iv : Block) (input : List Byte) : List Byte × Block :=
  match n with
  | 0 => ([], iv)
  | n + 1 =>
    let (block, iv) := step iv (Block.ofList (input.take 16))
    let (output, iv) := chain step n iv (input.drop 16)
    (block.1 ++ output, iv)

theorem chain_succ (step : ChainStep) (n : Nat) (iv : Block) (input : List Byte)
    : chain step (n + 1) iv input
        = ((step iv (Block.ofList (input.take 16))).1.1
              ++ (chain step n (step iv (Block.ofList (input.take 16))).2 (input.drop 16)).1,
            (chain step n (step iv (Block.ofList (input.take 16))).2 (input.drop 16)).2) := rfl

@[simp]
theorem length_chain (step : ChainStep) (n : Nat) (iv : Block) (input : List Byte)
    : (chain step n iv input).1.length = 16 * n := by
  induction n generalizing iv input with
  | zero => rfl
  | succ n ih =>
    rw [chain_succ]
    rw [List.length_append]
    rw [ih]
    rw [(step iv (Block.ofList (input.take 16))).1.2]
    omega

theorem chain_add (step : ChainStep) (m n : Nat) (iv : Block) (input : List Byte)
    : chain step (m + n) iv input
        = ((chain step m iv input).1
              ++ (chain step n (chain step m iv input).2 (input.drop (16 * m))).1,
            (chain step n (chain step m iv input).2 (input.drop (16 * m))).2) := by
  induction m generalizing iv input with
  | zero => simp [chain]
  | succ m ih =>
    rw [Nat.succ_add]
    rw [chain_succ, chain_succ]
    rw [ih]
    rw [List.drop_drop]
    rw [Nat.mul_succ]
    rw [Nat.add_comm (16 * m) 16]
    rw [List.append_assoc]

theorem chain_append (step : ChainStep) {n : Nat} (iv : Block) {input : List Byte}
    (hn : 16 * n ≤ input.length) (rest : List Byte)
    : chain step n iv (input ++ rest) = chain step n iv input := by
  induction n generalizing iv input with
  | zero => rfl
  | succ n ih =>
    rw [chain_succ, chain_succ]
    rw [List.take_append_of_le_length (by omega)]
    rw [List.drop_append_of_le_length (by omega)]
    rw [ih]
    rw [List.length_drop]
    omega

theorem chain_snoc (step : ChainStep) (n : Nat) (iv : Block) (input : List Byte)
    : chain step (n + 1) iv input
        = let last := step (chain step n iv input).2
              (Block.ofList ((input.drop (16 * n)).take 16))
          ((chain step n iv input).1 ++ last.1.1, last.2) := by
  rw [chain_add]
  simp [chain]

theorem chain_cbcEncrypt_snd (encrypt : Block → Block) (n : Nat) (iv : Block) (input : List Byte)
    : (chain (cbcEncrypt encrypt) (n + 1) iv input).2
        = Block.ofList ((chain (cbcEncrypt encrypt) (n + 1) iv input).1.drop (16 * n)) := by
  rw [chain_snoc]
  dsimp only
  rw [List.drop_left' (length_chain (cbcEncrypt encrypt) n iv input)]
  rw [Block.ofList_block]
  rfl

theorem chain_cbcDecrypt_snd (decrypt : Block → Block) (n : Nat) (iv : Block) (input : List Byte)
    : (chain (cbcDecrypt decrypt) (n + 1) iv input).2
        = Block.ofList ((input.drop (16 * n)).take 16) := by
  rw [chain_snoc]
  rfl

theorem take_chain (step : ChainStep) {n : Nat} (hn : 0 < n) (iv : Block) (input : List Byte)
    : (chain step n iv input).1.take 16 = (step iv (Block.ofList (input.take 16))).1.1 := by
  obtain ⟨n, rfl⟩ := Nat.exists_eq_succ_of_ne_zero (Nat.pos_iff_ne_zero.mp hn)
  rw [chain_succ]
  exact List.take_left' (step iv (Block.ofList (input.take 16))).1.2

/-
Byte `i` of the keystream of counter mode, counted from the block at which it starts.
-/
def ctrByte (encrypt : Block → Block) (counter : Block) (i : Nat) : Byte :=
  (encrypt (counter.add (i / 16))).1.getD (i % 16) 0

def xorBytes (key : Nat → Byte) (i : Nat) (input : List Byte) : List Byte :=
  match input with
  | [] => []
  | b :: input => (b ^^^ key i) :: xorBytes key (i + 1) input

@[simp]
theorem length_xorBytes (key : Nat → Byte) (i : Nat) (input : List Byte)
    : (xorBytes key i input).length = input.length := by
  induction input generalizing i with
  | nil => rfl
  | cons b input ih => simp [xorBytes, ih]

theorem xorBytes_append (key : Nat → Byte) (i : Nat) (input rest : List Byte)
    : xorBytes key i (input ++ rest)
        = xorBytes key i input ++ xorBytes key (i + input.length) rest := by
  induction input generalizing i with
  | nil => rfl
  | cons b input ih =>
    simp only [List.cons_append, xorBytes, List.length_cons]
    rw [ih]
    rw [Nat.add_assoc, Nat.add_comm 1]

theorem xorBytes_succ (key : Nat → Byte) (i : Nat) (input : List Byte)
    : xorBytes key (i + 1) input = xorBytes (fun j => key (j + 1)) i input := by
  induction input generalizing i with
  | nil => rfl
  | cons b input ih =>
    unfold xorBytes
    rw [ih]

theorem xorBytes_add (key : Nat → Byte) (i : Nat) (input : List Byte)
    : xorBytes key i input = xorBytes (fun j => key (i + j)) 0 input := by
  induction i generalizing key with
  | zero => simp
  | succ i ih =>
    rw [xorBytes_succ]
    rw [ih]
    simp [Nat.add_assoc, Nat.add_comm 1]

theorem xorBytes_xorBytes (key : Nat → Byte) (i : Nat) (input : List Byte)
    : xorBytes key i (xorBytes key i input) = input := by
  induction input generalizing i with
  | nil => rfl
  | cons b input ih =>
    simp only [xorBytes]
    rw [ih]
    rw [BitVec.xor_assoc]
    simp

end Lib
