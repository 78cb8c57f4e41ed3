import RtsmartLib.Hal.GzipStrip
import RtsmartLib.Lib.Align
import Mathlib.Data.List.Basic

/-!
This module contains that the buffers of the gzip driver are there and as large as it believes, over all
runs, and what the engine finds in them whenever it is started.
-/

namespace Gzip

open Lib Posix

/-
The next multiple of the node size.
-/
def roundUp (n : Nat) : Nat :=
  (n + 131071) / 131072 * 131072

theorem le_roundUp (n : Nat) : n ≤ roundUp n := by
  unfold roundUp
  omega

theorem roundUp_mono {m n : Nat} (h : m ≤ n) : roundUp m ≤ roundUp n := by
  unfold roundUp
  omega

theorem node_sub_one : drvGzipDecompNodeSize - 1 = BitVec.ofNat 32 (2 ^ 17 - 1) := by
  decide

theorem toNat_alignNode (size : BitVec 32)
    : (drvGzipDecompAlignNode size).toNat = roundUp size.toNat % 2 ^ 32 := by
  unfold drvGzipDecompAlignNode
  rw [BitVec.sub_eq_add_neg, BitVec.add_assoc, ← BitVec.sub_eq_add_neg, node_sub_one]
  rw [toNat_and_not_low, BitVec.toNat_add, BitVec.toNat_ofNat]
  unfold roundUp
  omega

theorem alignNode_lt_iff (size : BitVec 32)
    : drvGzipDecompAlignNode size < size ↔ 2 ^ 32 ≤ roundUp size.toNat := by
  rw [BitVec.lt_def, toNat_alignNode]
  have hlt := size.isLt
  unfold roundUp
  omega

theorem alignNode_eq {size : BitVec 32} (h : ¬drvGzipDecompAlignNode size < size)
    : (drvGzipDecompAlignNode size).toNat = roundUp size.toNat := by
  rw [alignNode_lt_iff] at h
  rw [toNat_alignNode]
  exact Nat.mod_eq_of_lt (by omega)

/-
The mapping is there, and of the size that is recorded.
-/
def BufferSound (buffer : GzipBuffer) : Prop :=
  ∃ m, buffer.mapping = some m ∧ buffer.allocSize.toNat = m.size

theorem BufferSound.size {buffer : GzipBuffer} (h : BufferSound buffer) {m : Mapping}
    (hm : buffer.mapping = some m)
    : buffer.allocSize.toNat = m.size := by
  obtain ⟨m', hm', hsize⟩ := h
  rw [hm] at hm'
  rw [Option.some.inj hm']
  exact hsize

structure InstSound (inst : GzipInst) : Prop where
  fd : 0 ≤ inst.fd
  src : BufferSound inst.src
  dst : BufferSound inst.dst

theorem resizeBuffer_fail {buffer : GzipBuffer} {size : BitVec 32} {answer : MmzAnswer}
    (h : (drvGzipDecompResizeBuffer buffer size answer).1 ≠ 0)
    : (drvGzipDecompResizeBuffer buffer size answer).2 = buffer := by
  unfold drvGzipDecompResizeBuffer at h ⊢
  split
  . rfl
  . split
    . rfl
    . cases answer with
      | error ret => rfl
      | ok mapping =>
        rename_i hzero hsame
        rw [if_neg hzero, if_neg hsame] at h
        exact absurd rfl h

theorem resizeBuffer_done {buffer : GzipBuffer} {size : BitVec 32} {answer : MmzAnswer}
    (hsize : ∀ m, buffer.mapping = some m → buffer.allocSize.toNat = m.size)
    (h : (drvGzipDecompResizeBuffer buffer size answer).1 = 0)
    : BufferSound (drvGzipDecompResizeBuffer buffer size answer).2
        ∧ (drvGzipDecompResizeBuffer buffer size answer).2.allocSize = size := by
  unfold drvGzipDecompResizeBuffer at h ⊢
  split
  . next hzero =>
    rw [if_pos hzero] at h
    exact absurd h (Int.ne_of_lt einval.neg_lt)
  . next hzero =>
    rw [if_neg hzero] at h
    split
    . next hsame =>
      obtain ⟨m, hm⟩ := Option.isSome_iff_exists.mp hsame.1
      exact ⟨⟨m, hm, hsize m hm⟩, hsame.2⟩
    . next hsame =>
      rw [if_neg hsame] at h
      cases answer with
      | error ret => exact absurd h ret.property
      | ok mapping => exact ⟨⟨_, rfl, rfl⟩, rfl⟩

theorem resizeBuffer_sound {buffer : GzipBuffer} (h : BufferSound buffer) (size : BitVec 32)
    (answer : MmzAnswer)
    : BufferSound (drvGzipDecompResizeBuffer buffer size answer).2 := by
  by_cases hret : (drvGzipDecompResizeBuffer buffer size answer).1 = 0
  . exact (resizeBuffer_done (fun m hm => h.size hm) hret).1
  . rw [resizeBuffer_fail hret]
    exact h

theorem setSrcAllocSize_eq {inst : GzipInst} (h : 0 ≤ inst.fd) (size : BitVec 32) (answer : MmzAnswer)
    : drvGzipDecompSetSrcAllocSize inst size answer
        = ((drvGzipDecompResizeBuffer inst.src size answer).1,
          { inst with src := (drvGzipDecompResizeBuffer inst.src size answer).2 }) := by
  unfold drvGzipDecompSetSrcAllocSize
  rw [if_neg (by omega)]

theorem setDstAllocSize_eq {inst : GzipInst} (h : 0 ≤ inst.fd) (size : BitVec 32) (answer : MmzAnswer)
    : drvGzipDecompSetDstAllocSize inst size answer
        = ((drvGzipDecompResizeBuffer inst.dst size answer).1,
          { inst with dst := (drvGzipDecompResizeBuffer inst.dst size answer).2 }) := by
  unfold drvGzipDecompSetDstAllocSize
  rw [if_neg (by omega)]

theorem open_sound {answers : OpenAnswers} {inst : GzipInst}
    (h : drvGzipDecompOpen true answers = (0, some inst))
    : InstSound inst := by
  unfold drvGzipDecompOpen at h
  rw [if_neg (by decide)] at h
  split at h
  . exact nomatch (Prod.mk.inj h).2
  . split at h
    . exact nomatch (Prod.mk.inj h).2
    . next fd hfd =>
      dsimp only at h
      split at h
      . exact nomatch (Prod.mk.inj h).2
      . next hsrc =>
        split at h
        . exact nomatch (Prod.mk.inj h).2
        . next hdst =>
          rw [not_not] at hsrc hdst
          have hinst := Option.some.inj (Prod.mk.inj h).2
          rw [← hinst]
          constructor
          . exact Int.natCast_nonneg fd
          . exact (resizeBuffer_done (fun m hm => absurd hm.symm (Option.some_ne_none m)) hsrc).1
          . exact (resizeBuffer_done (fun m hm => absurd hm.symm (Option.some_ne_none m)) hdst).1

theorem store_ok {m : Mapping} {off : Nat} {bytes : List Byte} (h : off + bytes.length ≤ m.size)
    : m.store off bytes = .ok { m with virt := writeBytes off bytes m.virt } := by
  unfold Mapping.store
  rw [if_pos h]

/-
The header that the engine takes: the method as the engine knows it, and no flags.
-/
def engineHeader (src : Input) : List Byte :=
  ((src.bytes.take 10).set 2 0x08).set 3 0

/-
A stream as the engine takes it, with zeros behind it up to the end of what it reads.
-/
def engineInput (src : Input) (rest : List Byte) (padded : Nat) : List Byte :=
  engineHeader src ++ rest ++ List.replicate (padded - (10 + rest.length)) 0

/-
The memory after the stream and the method have been written to it.
-/
theorem marked_reads (src : Input) (h10 : 10 ≤ src.bytes.length) (mem : Memory)
    : writeBytes 2 [0x08] (writeBytes 0 src.bytes mem) 3 = src.bytes.getD 3 0
        ∧ bytesFrom (writeBytes 2 [0x08] (writeBytes 0 src.bytes mem)) src.bytes.length 10 = src.bytes.drop 10
        ∧ readBytes (writeBytes 2 [0x08] (writeBytes 0 src.bytes mem)) 0 10
            = (src.bytes.take 10).set 2 0x08 := by
  have hself := readBytes_writeBytes_self 0 src.bytes mem
  refine ⟨?_, ?_, ?_⟩
  . rw [writeBytes_of_not_mem (by simp)]
    have hmem := writeBytes_of_mem 0 (show 3 < src.bytes.length by omega) mem
    rw [Nat.zero_add] at hmem
    exact hmem
  . unfold bytesFrom
    rw [readBytes_writeBytes_apart (.inr (by simp))]
    have hdrop := drop_readBytes (writeBytes 0 src.bytes mem) 0 10 src.bytes.length
    rw [hself, Nat.zero_add] at hdrop
    exact hdrop.symm
  . have htake := take_readBytes (writeBytes 0 src.bytes mem) 0 h10
    rw [hself] at htake
    rw [htake]
    rfl

theorem readBytes_padded {virt : Memory} {n padded : Nat} (h : n ≤ padded)
    : readBytes (writeBytes n (List.replicate (padded - n) 0) virt) 0 padded
        = readBytes virt 0 n ++ List.replicate (padded - n) 0 := by
  have hself := readBytes_writeBytes_self n (List.replicate (padded - n) (0 : Byte)) virt
  rw [List.length_replicate] at hself
  have hsum : padded = n + (padded - n) := by
    omega
  conv =>
    lhs
    arg 3
    rw [hsum]
  rw [readBytes_add, Nat.zero_add, hself]
  rw [readBytes_writeBytes_apart (.inl (by omega))]

theorem loadStream_spec {m : Mapping} {src : Input} {srcDmaSize : Nat} (h18 : 18 ≤ src.bytes.length)
    (hlen : src.bytes.length ≤ srcDmaSize) (hsize : srcDmaSize ≤ m.size) (hlt : srcDmaSize < 2 ^ 32)
    : ∃ srcLen virt,
        loadStream m src srcDmaSize = .ok (srcLen, { m with virt })
          ∧
        (srcLen ≠ 0 → ∃ fields rest,
          FieldsFit (src.bytes.getD 3 0) (src.bytes.drop 10) fields rest
            ∧ srcLen = 10 + rest.length
            ∧ srcLen ≤ src.bytes.length
            ∧ readBytes virt 0 srcDmaSize = engineInput src rest srcDmaSize) := by
  unfold loadStream
  rw [store_ok (by rw [List.length_replicate]; omega), ok_bind]
  rw [store_ok (by dsimp only; omega), ok_bind]
  rw [store_ok (by simp only [List.length_singleton]; omega), ok_bind]
  dsimp only
  generalize writeBytes 0 (List.replicate srcDmaSize 0) m.virt = mem
  obtain ⟨hflg, hdrop, htake⟩ := marked_reads src (by omega) mem
  obtain ⟨fields, rest, buf', hfit, hstrip, hread⟩ | ⟨_, hstrip⟩ :=
    stripHeaderExtras_cases (writeBytes 2 [0x08] (writeBytes 0 src.bytes mem)) h18 (by omega)
  . rw [hflg, hdrop] at hfit
    rw [htake] at hread
    have hle : 10 + rest.length ≤ src.bytes.length := by
      have heq := congrArg List.length hfit.1
      rw [List.length_drop, List.length_append] at heq
      omega
    rw [hstrip, ok_bind]
    dsimp only
    rw [if_neg (by omega), sub32_of_le (by omega) hlt]
    rw [store_ok (by rw [List.length_replicate]; dsimp only; omega), ok_bind]
    refine ⟨_, _, rfl, ?_⟩
    intro _
    refine ⟨fields, rest, hfit, rfl, hle, ?_⟩
    rw [readBytes_padded (by omega), hread]
    rfl
  . rw [hstrip, ok_bind]
    dsimp only
    rw [if_pos rfl]
    refine ⟨_, _, rfl, ?_⟩
    intro hne
    exact absurd rfl hne

/-
The stream that has been loaded, with `n` bytes of it in the source mapping.
-/
structure Loaded (src : Input) (m : Mapping) (n : Nat) (srcLen : BitVec 32) (fields rest : List Byte)
    : Prop where
  header : 10 ≤ src.bytes.length
  size : n ≤ m.size
  nodes : roundUp srcLen.toNat ≤ n
  fit : FieldsFit (src.bytes.getD 3 0) (src.bytes.drop 10) fields rest
  len : srcLen.toNat = 10 + rest.length
  read : readBytes m.virt 0 n = engineInput src rest n

theorem loadStream_loaded {m : Mapping} {src : Input} {srcDmaSize : BitVec 32}
    (h18 : 18 ≤ src.bytes.length) (hround : srcDmaSize.toNat = roundUp src.bytes.length)
    (hsize : srcDmaSize.toNat ≤ m.size)
    : ∃ srcLen virt,
        loadStream m src srcDmaSize.toNat = .ok (srcLen, { m with virt })
          ∧
        (srcLen ≠ 0 → ∃ fields rest,
          Loaded src { m with virt } srcDmaSize.toNat (BitVec.ofNat 32 srcLen) fields rest) := by
  have hle := le_roundUp src.bytes.length
  obtain ⟨srcLen, virt, hload, hspec⟩ := loadStream_spec h18 (hround ▸ hle) hsize srcDmaSize.isLt
  refine ⟨srcLen, virt, hload, ?_⟩
  intro hne
  obtain ⟨fields, rest, hfit, hlen, hshort, hread⟩ := hspec hne
  have hlt := src.length_lt
  have hword : (BitVec.ofNat 32 srcLen).toNat = srcLen := by
    rw [BitVec.toNat_ofNat]
    exact Nat.mod_eq_of_lt (by omega)
  refine ⟨fields, rest, ?_⟩
  constructor
  . omega
  . exact hsize
  . rw [hword, hround]
    exact roundUp_mono hshort
  . exact hfit
  . rw [hword]
    exact hlen
  . exact hread

/-
What the engine is given: buffers that hold the whole nodes it transfers, and the stream in the form that
it takes.
-/
def StartSound (src : Input) (start : EngineStart) : Prop :=
  ∃ srcMapping dstMapping fields rest,
    start.inst.src.mapping = some srcMapping
      ∧ start.inst.dst.mapping = some dstMapping
      ∧ start.args.srcPhys = srcMapping.phy
      ∧ start.args.dstPhys = dstMapping.phy
      ∧ roundUp start.args.srcLen.toNat ≤ srcMapping.size
      ∧ roundUp start.args.dstLen.toNat ≤ dstMapping.size
      ∧ FieldsFit (src.bytes.getD 3 0) (src.bytes.drop 10) fields rest
      ∧ start.args.srcLen.toNat = 10 + rest.length
      ∧ readBytes srcMapping.ram 0 (roundUp start.args.srcLen.toNat)
          = engineInput src rest (roundUp start.args.srcLen.toNat)

theorem take_engineInput (src : Input) (h10 : 10 ≤ src.bytes.length) (rest : List Byte) {m n : Nat}
    (hm : 10 + rest.length ≤ m) (hmn : m ≤ n)
    : (engineInput src rest n).take m = engineInput src rest m := by
  have hlen : (engineHeader src ++ rest).length = 10 + rest.length := by
    simp only [engineHeader, List.length_append, List.length_set, List.length_take]
    omega
  unfold engineInput
  rw [List.take_append, List.take_of_length_le (by omega), hlen, List.take_replicate]
  rw [Nat.min_eq_left (by omega)]

/-
A buffer that is replaced by a larger one only where it is too small.
-/
def grow (buffer : GzipBuffer) (size : BitVec 32) (answer : MmzAnswer) : Int × GzipBuffer :=
  if size > buffer.allocSize then drvGzipDecompResizeBuffer buffer size answer else (0, buffer)

theorem grow_sound {buffer : GzipBuffer} (h : BufferSound buffer) (size : BitVec 32) (answer : MmzAnswer)
    : BufferSound (grow buffer size answer).2 := by
  unfold grow
  split
  . exact resizeBuffer_sound h size answer
  . exact h

theorem grow_size {buffer : GzipBuffer} (h : BufferSound buffer) (size : BitVec 32) (answer : MmzAnswer)
    (hret : (grow buffer size answer).1 = 0)
    : ∃ m, (grow buffer size answer).2.mapping = some m ∧ size.toNat ≤ m.size := by
  obtain ⟨m, hm, hsize⟩ := grow_sound h size answer
  refine ⟨m, hm, ?_⟩
  rw [← hsize]
  unfold grow at hret ⊢
  split
  . next hgt =>
    rw [if_pos hgt] at hret
    rw [(resizeBuffer_done (fun m hm => h.size hm) hret).2]
  . next hle =>
    exact BitVec.not_lt.mp hle

theorem growSrc_eq {inst : GzipInst} (h : 0 ≤ inst.fd) (size : BitVec 32) (answer : MmzAnswer)
    : (if size > inst.src.allocSize then drvGzipDecompSetSrcAllocSize inst size answer else (0, inst))
        = ((grow inst.src size answer).1, { inst with src := (grow inst.src size answer).2 }) := by
  unfold grow
  split
  . exact setSrcAllocSize_eq h size answer
  . rfl

theorem growDst_eq {inst : GzipInst} (h : 0 ≤ inst.fd) (size : BitVec 32) (answer : MmzAnswer)
    : (if size > inst.dst.allocSize then drvGzipDecompSetDstAllocSize inst size answer else (0, inst))
        = ((grow inst.dst size answer).1, { inst with dst := (grow inst.dst size answer).2 }) := by
  unfold grow
  split
  . exact setDstAllocSize_eq h size answer
  . rfl

/-
No fault, and an instance and starts of the engine that are sound.
-/
def CallSound (call : GunzipCall) (res : Except Fault GunzipResult) : Prop :=
  ∃ out,
    res = .ok out
      ∧ InstSound out.inst
      ∧ ∀ start, out.start = some start → ∃ src, call.src = some src ∧ StartSound src start

theorem callSound_fail (call : GunzipCall) {inst : GzipInst} (h : InstSound inst) (ret : Int)
    : CallSound call (.ok (GunzipResult.fail inst ret)) :=
  ⟨_, rfl, h, fun _ hstart => nomatch hstart⟩

theorem gunzipPhys_eq {inst : GzipInst} (h : 0 ≤ inst.fd) (args : GzipDecompArgs) (ioctl : Int)
    : drvGzipDecompGunzipPhys inst args ioctl = (ioctl, some ⟨args, inst⟩) := by
  unfold drvGzipDecompGunzipPhys
  rw [if_neg (by omega)]

theorem get_eq {buffer : GzipBuffer} {m : Mapping} (h : buffer.mapping = some m) : buffer.get = .ok m := by
  unfold GzipBuffer.get
  rw [h]

theorem flush_ok {m : Mapping} {n : Nat} (h : n ≤ m.size)
    : m.flush n = .ok { m with ram := writeBytes 0 (readBytes m.virt 0 n) m.ram } := by
  unfold Mapping.flush
  rw [if_pos h]

theorem invalidate_ok {m : Mapping} {n : Nat} (h : n ≤ m.size)
    : m.invalidate n = .ok { m with virt := writeBytes 0 (readBytes m.ram 0 n) m.virt } := by
  unfold Mapping.invalidate
  rw [if_pos h]

theorem receive_sound {inst : GzipInst} {call : GunzipCall} {ret : Int} {start : Option EngineStart}
    {dst : Mapping} (hinst : InstSound inst) (hsize : inst.dst.allocSize.toNat = dst.size)
    (hle : call.dstLen.toNat ≤ dst.size)
    (hstart : ∀ s, start = some s → ∃ src, call.src = some src ∧ StartSound src s)
    : CallSound call (receive inst call ret start dst) := by
  unfold receive
  split
  . rw [invalidate_ok hle, ok_bind]
    exact ⟨_, rfl, ⟨hinst.fd, hinst.src, ⟨_, rfl, hsize⟩⟩, hstart⟩
  . exact ⟨_, rfl, ⟨hinst.fd, hinst.src, ⟨_, rfl, hsize⟩⟩, hstart⟩

theorem transfer_sound {inst : GzipInst} {call : GunzipCall} {src : Input} {m d : Mapping}
    {srcDmaSize srcLen : BitVec 32} {fields rest : List Byte} (hinst : InstSound inst)
    (hcall : call.src = some src) (hm : inst.src.mapping = some m) (hd : inst.dst.mapping = some d)
    (hloaded : Loaded src m srcDmaSize.toNat srcLen fields rest) (hdst : roundUp call.dstLen.toNat ≤ d.size)
    : CallSound call (transfer inst call srcDmaSize srcLen) := by
  have hmsize := hinst.src.size hm
  have hdsize := hinst.dst.size hd
  have hle := le_roundUp call.dstLen.toNat
  have hsize := hloaded.size
  have hsrcsound : BufferSound (inst.src.set
      { m with ram := writeBytes 0 (readBytes m.virt 0 srcDmaSize.toNat) m.ram }) :=
    ⟨_, rfl, hmsize⟩
  unfold transfer
  rw [get_eq hm, ok_bind, flush_ok hsize, ok_bind]
  extract_lets inst'
  rw [show inst'.dst.get = .ok d from get_eq hd, ok_bind]
  extract_lets args
  rw [gunzipPhys_eq (show 0 ≤ inst'.fd from hinst.fd)]
  apply receive_sound
  . exact ⟨hinst.fd, hsrcsound, ⟨d, hd, hdsize⟩⟩
  . exact hdsize
  . dsimp only
    omega
  . intro start hstart
    obtain rfl := Option.some.inj hstart
    refine ⟨src, hcall, _, d, fields, rest, rfl, hd, rfl, rfl, ?_, hdst, hloaded.fit, hloaded.len, ?_⟩
    . have hnodes := hloaded.nodes
      exact Nat.le_trans hnodes hsize
    . have hself := readBytes_writeBytes_self 0 (readBytes m.virt 0 srcDmaSize.toNat) m.ram
      rw [length_readBytes] at hself
      have hround := le_roundUp srcLen.toNat
      have hlen := hloaded.len
      dsimp only
      rw [← take_readBytes _ 0 hloaded.nodes, hself, hloaded.read]
      exact take_engineInput src hloaded.header rest (by omega) hloaded.nodes

theorem runEngine_sound {inst : GzipInst} {call : GunzipCall} {src : Input} {m : Mapping}
    {srcDmaSize srcLen : BitVec 32} {fields rest : List Byte} (hinst : InstSound inst)
    (hcall : call.src = some src) (hm : inst.src.mapping = some m)
    (hloaded : Loaded src m srcDmaSize.toNat srcLen fields rest)
    : CallSound call (runEngine inst call srcDmaSize srcLen) := by
  unfold runEngine
  extract_lets dstDmaSize
  split
  . exact callSound_fail call hinst _
  . next hover =>
    have hneed := alignNode_eq hover
    have hgrown := grow_sound hinst.dst dstDmaSize call.dstMmz
    have hlarge := grow_size hinst.dst dstDmaSize call.dstMmz
    rw [growDst_eq hinst.fd]
    generalize grow inst.dst dstDmaSize call.dstMmz = grown at hgrown hlarge
    obtain ⟨ret, dst⟩ := grown
    dsimp only at hgrown hlarge ⊢
    split
    . apply callSound_fail
      exact ⟨hinst.fd, hinst.src, hgrown⟩
    . next hret =>
      obtain ⟨d, hd, hdsize⟩ := hlarge (not_not.mp hret)
      have hinst' : InstSound { inst with dst := dst } := ⟨hinst.fd, hinst.src, hgrown⟩
      apply transfer_sound hinst' hcall hm hd hloaded
      rw [← hneed]
      exact hdsize

theorem checkCall_ok {call : GunzipCall} {src : Input} (h : checkCall call = .ok src)
    : call.src = some src ∧ 18 ≤ src.bytes.length := by
  unfold checkCall at h
  extract_lets ret at h
  split at h
  . exact nomatch h
  . next src' hsrc =>
    split at h
    . exact nomatch h
    . next hvalid =>
      split at h
      . exact nomatch h
      . split at h
        . exact nomatch h
        . obtain rfl := Except.ok.inj h
          refine ⟨hsrc, length_of_validateHeader ?_⟩
          rw [← hsrc]
          exact not_not.mp hvalid

theorem Input.toNat_len (src : Input) : src.len.toNat = src.bytes.length := by
  unfold Input.len
  rw [BitVec.toNat_ofNat]
  exact Nat.mod_eq_of_lt src.length_lt

theorem drvGzipDecompGunzip_sound {inst : GzipInst} (hinst : InstSound inst) (call : GunzipCall)
    : CallSound call (drvGzipDecompGunzip inst call) := by
  unfold drvGzipDecompGunzip
  split
  . exact callSound_fail call hinst _
  . split
    . exact callSound_fail call hinst _
    . next src hcheck =>
      obtain ⟨hcall, h18⟩ := checkCall_ok hcheck
      extract_lets srcDmaSize
      split
      . exact callSound_fail call hinst _
      . next hover =>
        have hneed := alignNode_eq hover
        rw [src.toNat_len] at hneed
        have hgrown := grow_sound hinst.src srcDmaSize call.srcMmz
        have hlarge := grow_size hinst.src srcDmaSize call.srcMmz
        rw [growSrc_eq hinst.fd]
        generalize grow inst.src srcDmaSize call.srcMmz = grown at hgrown hlarge
        obtain ⟨ret, buffer⟩ := grown
        dsimp only at hgrown hlarge ⊢
        split
        . apply callSound_fail
          exact ⟨hinst.fd, hgrown, hinst.dst⟩
        . next hret =>
          obtain ⟨m, hm, hmsize⟩ := hlarge (not_not.mp hret)
          obtain ⟨srcLen, virt, hload, hloaded⟩ := loadStream_loaded h18 hneed hmsize
          have hmalloc := hgrown.size hm
          have hset : BufferSound (buffer.set { m with virt }) := ⟨_, rfl, hmalloc⟩
          rw [get_eq hm, ok_bind, hload, ok_bind]
          dsimp only
          split
          . apply callSound_fail
            exact ⟨hinst.fd, hset, hinst.dst⟩
          . next hne =>
            split
            . apply callSound_fail
              exact ⟨hinst.fd, hset, hinst.dst⟩
            . obtain ⟨fields, rest, hloaded⟩ := hloaded hne
              have hinst' : InstSound { inst with src := buffer.set { m with virt } } :=
                ⟨hinst.fd, hset, hinst.dst⟩
              exact runEngine_sound hinst' hcall rfl hloaded

/-
What holds of every operation: sound buffers before and after it, no fault, sound starts of the engine,
and a setting that fails has changed nothing.
-/
structure OpSound (v : Machine.Visit GzipInst GzipOp (Except Fault GunzipResult)) : Prop where
  pre : InstSound v.pre
  post : InstSound v.post
  out : ∃ out,
    v.obs = .ok out
      ∧ (∀ start, out.start = some start →
        ∃ call src, v.event = .gunzip call ∧ call.src = some src ∧ StartSound src start)
      ∧ (∀ size answer, v.event = .setSrcAllocSize size answer ∨ v.event = .setDstAllocSize size answer →
        out.ret ≠ 0 → v.post = v.pre)

theorem opSound_of_resize {inst inst' : GzipInst} {op : GzipOp} {ret : Int} (hinst : InstSound inst)
    (hstep : gzipMachine.step inst op = (inst', .ok (GunzipResult.fail inst' ret)))
    (hpost : InstSound inst') (hfail : ret ≠ 0 → inst' = inst)
    : OpSound (gzipMachine.visit inst op) := by
  refine ⟨hinst, ?_, GunzipResult.fail inst' ret, congrArg Prod.snd hstep, ?_, ?_⟩
  . rw [Machine.visit_post, hstep]
    exact hpost
  . intro start hstart
    exact nomatch hstart
  . intro _ _ _ hret
    rw [Machine.visit_post, hstep]
    exact hfail hret

theorem gzipMachine_opSound {inst : GzipInst} (hinst : InstSound inst) (op : GzipOp)
    : OpSound (gzipMachine.visit inst op) := by
  cases op with
  | setSrcAllocSize size answer =>
    apply opSound_of_resize hinst
    . unfold gzipMachine
      dsimp only
      rw [setSrcAllocSize_eq hinst.fd]
      rfl
    . exact ⟨hinst.fd, resizeBuffer_sound hinst.src size answer, hinst.dst⟩
    . intro hret
      rw [resizeBuffer_fail hret]
  | setDstAllocSize size answer =>
    apply opSound_of_resize hinst
    . unfold gzipMachine
      dsimp only
      rw [setDstAllocSize_eq hinst.fd]
      rfl
    . exact ⟨hinst.fd, hinst.src, resizeBuffer_sound hinst.dst size answer⟩
    . intro hret
      rw [resizeBuffer_fail hret]
  | gunzip call =>
    obtain ⟨out, hout, hpost, hstart⟩ := drvGzipDecompGunzip_sound hinst call
    have hstep : gzipMachine.step inst (.gunzip call) = (out.inst, .ok out) := by
      unfold gzipMachine
      dsimp only
      rw [hout]
    refine ⟨hinst, ?_, out, congrArg Prod.snd hstep, ?_, ?_⟩
    . rw [Machine.visit_post, hstep]
      exact hpost
    . intro start h
      obtain ⟨src, hsrc, hsound⟩ := hstart start h
      exact ⟨call, src, rfl, hsrc, hsound⟩
    . intro size answer hop
      obtain hop | hop := hop
      . exact nomatch hop
      . exact nomatch hop

theorem gzipDecomp_runs {answers : OpenAnswers} {inst : GzipInst}
    (hopen : drvGzipDecompOpen true answers = (0, some inst)) (ops : List GzipOp)
    : (∀ v ∈ gzipMachine.visits inst ops, OpSound v)
        ∧ (∀ buffer size answer, (drvGzipDecompResizeBuffer buffer size answer).1 ≠ 0 →
          (drvGzipDecompResizeBuffer buffer size answer).2 = buffer)
        ∧ (∀ size, drvGzipDecompAlignNode size < size ↔ 2 ^ 32 ≤ roundUp size.toNat) := by
  refine ⟨?_, fun _ _ _ => resizeBuffer_fail, alignNode_lt_iff⟩
  refine Machine.forall_visits_of_inv InstSound (fun _ => True) ?_ ?_ (open_sound hopen) (fun _ _ => trivial)
  . intro inst op _ hinst
    exact (gzipMachine_opSound hinst op).post
  . intro inst op _ hinst
    exact gzipMachine_opSound hinst op

def garbage : Memory := fun _ => 0xee

/-
The buffers are had, and a larger one is not.
-/
theorem gzipDecomp_runs_noMemory
    : List.Forall OpSound (gzipMachine.visits
        ⟨3, ⟨some ⟨0x1000000, drvGzipDecompDefaultSrcSize.toNat, garbage, garbage⟩, drvGzipDecompDefaultSrcSize⟩,
          ⟨some ⟨0x2000000, drvGzipDecompDefaultDstSize.toNat, garbage, garbage⟩, drvGzipDecompDefaultDstSize⟩⟩
        [.setSrcAllocSize 0x100000 (.error ⟨-1, by decide⟩),
          .gunzip ⟨some streamWithFields, true, 5, 1000, .error ⟨-1, by decide⟩, .error ⟨-1, by decide⟩,
            (0, garbage)⟩]) := by
  apply fun hopen => List.forall_iff_forall_mem.mpr (@gzipDecomp_runs ⟨true, .ok 3,
    .ok (0x1000000, garbage, garbage), .ok (0x2000000, garbage, garbage)⟩ _ hopen _).1
  rfl

end Gzip
