import UdsIsoTp.Boot.Sha256Ctx
import UdsIsoTp.Lib.Sha2
import Mathlib.Data.List.GetD
import Mathlib.Tactic.IntervalCases

/-!
# The digest

What `sha256.c` makes of a message is its digest by FIPS 180-4, however the message is cut into
pieces. The words of the standard are those of the code, its schedule is what the loop fills in,
and its padding is what `sha256_final` writes behind the bytes not yet taken: into their block,
or into that one and one more.
-/

namespace UdsIsoTp.Boot

open Sha256 (Words transform wordBytes lengthBytes)

namespace Sha256

/-! ## Words -/

/-- The words as the standard has them. -/
def toVariables (w : Words) : Sha2.Variables :=
  ⟨w.a.toBitVec, w.b.toBitVec, w.c.toBitVec, w.d.toBitVec, w.e.toBitVec, w.f.toBitVec,
    w.g.toBitVec, w.h.toBitVec⟩

/-- A round is one of the standard's. -/
theorem toVariables_round (v : Words) (k w : UInt32) :
    toVariables (round v (k, w)) = Sha2.round k.toBitVec w.toBitVec (toVariables v) := rfl

/-- The first hash is the standard's. -/
theorem toVariables_init : toVariables init.state = Sha2.initialHash := by
  decide +kernel

/-- The table holds the constants of the standard. -/
theorem roundConstants_eq : Sha2.roundConstants = k.map UInt32.toBitVec := by
  rw [Sha2.roundConstants, Sha2.primes_eq]
  decide +kernel

theorem roundConstant (t : Nat) : Sha2.roundConstants.getD t 0 = (k.getD t 0).toBitVec := by
  rw [roundConstants_eq, List.getD_eq_getElem?_getD, List.getD_eq_getElem?_getD, List.getElem?_map]
  cases k[t]? <;> rfl

/-! ## The schedule -/

/-- A word of the schedule, in the loop that fills it in. -/
def scheduleStep (m : List UInt32) (i : Nat) : List UInt32 :=
  m ++ [sig1 (m.getD (i - 2) 0) + m.getD (i - 7) 0 + sig0 (m.getD (i - 15) 0) + m.getD (i - 16) 0]

/-- The words that the loop has filled in are those of the standard. -/
structure Scheduled (block : Nat → Sha2.Word) (n : Nat) (m : List UInt32) : Prop where
  length : m.length = n
  words : ∀ t < n, (m.getD t 0).toBitVec = Sha2.schedule block t

theorem Scheduled.step {block : Nat → Sha2.Word} {n : Nat} {m : List UInt32} (hn : 16 ≤ n)
    (h : Scheduled block n m) : Scheduled block (n + 1) (scheduleStep m n) := by
  refine ⟨by rw [scheduleStep, List.length_append, h.length]; rfl, fun t ht => ?_⟩
  by_cases hlast : t = n
  · -- the word goes back to four earlier ones
    subst hlast
    rw [scheduleStep, List.getD_append_right _ _ _ _ (Nat.le_of_eq h.length), h.length,
      Nat.sub_self, List.getD_cons_zero, Sha2.schedule, if_neg (by omega),
      ← h.words (t - 2) (by omega), ← h.words (t - 7) (by omega), ← h.words (t - 15) (by omega),
      ← h.words (t - 16) (by omega)]
    rfl
  · have hearlier : t < n := by omega
    rw [scheduleStep, List.getD_append _ _ _ _ (h.length ▸ hearlier)]
    exact h.words t hearlier

/-- The message schedule is the standard's. -/
theorem schedule_scheduled (data : List UInt8) :
    Scheduled (fun t => (blockWord data t).toBitVec) 64 (schedule data) := by
  -- by induction on the turns, from the sixteen words of the block
  have hloop : ∀ n, Scheduled (fun t => (blockWord data t).toBitVec) (16 + n)
      ((List.range' 16 n).foldl scheduleStep ((List.range 16).map (blockWord data))) := by
    intro n
    induction n with
    | zero =>
      refine ⟨by rw [List.range'_zero, List.foldl_nil, List.length_map, List.length_range],
        fun t ht => ?_⟩
      have hword : ((List.range 16).map (blockWord data)).getD t 0 = blockWord data t := by
        rw [List.getD_eq_getElem _ _ (by simpa using ht), List.getElem_map, List.getElem_range]
      rw [List.range'_zero, List.foldl_nil, hword, Sha2.schedule, if_pos ht]
    | succ n ih =>
      rw [List.range'_1_concat, List.foldl_append]
      exact ih.step (Nat.le_add_right 16 n)
  exact hloop 48

/-! ## Blocks -/

theorem toNat_or_low {x y : UInt32} {n k : Nat} (hx : x.toNat = n * 2 ^ k) (hy : y.toNat < 2 ^ k) :
    (x ||| y).toNat = n * 2 ^ k + y.toNat := by
  rw [UInt32.toNat_or, hx, ← Nat.shiftLeft_eq, ← Nat.shiftLeft_add_eq_or_of_lt hy]

theorem toNat_byte_shift (b : UInt8) :
    (b.toUInt32 <<< 24).toNat = b.toNat * 2 ^ 24 ∧ (b.toUInt32 <<< 16).toNat = b.toNat * 2 ^ 16 ∧
      (b.toUInt32 <<< 8).toNat = b.toNat * 2 ^ 8 := by
  have hb : b.toNat < 256 := b.toNat_lt
  refine ⟨?_, ?_, ?_⟩ <;> rw [UInt32.toNat_shiftLeft, UInt8.toNat_toUInt32, Nat.shiftLeft_eq]
  · exact Nat.mod_eq_of_lt (show b.toNat * 2 ^ 24 < 2 ^ 32 by omega)
  · exact Nat.mod_eq_of_lt (show b.toNat * 2 ^ 16 < 2 ^ 32 by omega)
  · exact Nat.mod_eq_of_lt (show b.toNat * 2 ^ 8 < 2 ^ 32 by omega)

/-- Four bytes of the message make a word. -/
theorem toNat_word (a b c d : UInt8) :
    ((a.toUInt32 <<< 24) ||| (b.toUInt32 <<< 16) ||| (c.toUInt32 <<< 8) ||| d.toUInt32).toNat
      = ofBytesBe [a, b, c, d] := by
  have hb : b.toNat < 256 := b.toNat_lt
  have hc : c.toNat < 256 := c.toNat_lt
  have hd : d.toNat < 256 := d.toNat_lt
  have hsecond : (b.toUInt32 <<< 16).toNat < 2 ^ 24 := by
    rw [(toNat_byte_shift b).2.1]
    omega
  -- from the left, each byte lies below those before it
  have htwo := toNat_or_low (toNat_byte_shift a).1 hsecond
  have htwo' : ((a.toUInt32 <<< 24) ||| (b.toUInt32 <<< 16)).toNat
      = (a.toNat * 256 + b.toNat) * 2 ^ 16 := by
    rw [htwo, (toNat_byte_shift b).2.1]
    omega
  have hthird : (c.toUInt32 <<< 8).toNat < 2 ^ 16 := by
    rw [(toNat_byte_shift c).2.2]
    omega
  have hthree := toNat_or_low htwo' hthird
  have hthree' : ((a.toUInt32 <<< 24) ||| (b.toUInt32 <<< 16) ||| (c.toUInt32 <<< 8)).toNat
      = ((a.toNat * 256 + b.toNat) * 256 + c.toNat) * 2 ^ 8 := by
    rw [hthree, (toNat_byte_shift c).2.2]
    omega
  have hfourth : d.toUInt32.toNat < 2 ^ 8 := by
    rw [UInt8.toNat_toUInt32]
    exact hd
  rw [toNat_or_low hthree' hfourth, UInt8.toNat_toUInt32]
  show _ = 256 * (256 * (256 * (256 * 0 + a.toNat) + b.toNat) + c.toNat) + d.toNat
  omega

/-- The words of a block of bytes are those of its bits. -/
theorem blockWord_bits {data : List UInt8} (hdata : data.length = 64) (t : Nat) :
    (blockWord data t).toBitVec = Sha2.blockWord (data.flatMap byteBits) t := by
  have hbytes : ((data.flatMap byteBits).drop (t * 32)).take 32
      = ((data.drop (t * 4)).take 4).flatMap byteBits := by
    have hdrop := drop_flatMap_mul length_byteBits data (t * 4)
    have htake := take_flatMap_mul length_byteBits (data.drop (t * 4)) 4
    rw [Nat.mul_assoc] at hdrop
    rw [hdrop]
    exact htake
  unfold Sha2.blockWord
  rw [hbytes, ofBitsBe_byteBits]
  by_cases ht : t < 16
  · -- the four bytes are in the block
    have hfour : (data.drop (t * 4)).take 4 = [data.getD (t * 4) 0, data.getD (t * 4 + 1) 0,
        data.getD (t * 4 + 2) 0, data.getD (t * 4 + 3) 0] := by
      refine List.ext_getElem ?_ fun i hi hi' => ?_
      · rw [List.length_take, List.length_drop, hdata]
        show min 4 (64 - t * 4) = 4
        omega
      · rw [List.getElem_take, List.getElem_drop]
        have hcases : i = 0 ∨ i = 1 ∨ i = 2 ∨ i = 3 := by
          have hi'' : i < 4 := hi'
          omega
        rcases hcases with rfl | rfl | rfl | rfl <;> exact (List.getD_eq_getElem _ _ _).symm
    rw [hfour, ← toNat_word]
    refine BitVec.eq_of_toNat_eq ?_
    rw [BitVec.toNat_ofNat]
    exact (Nat.mod_eq_of_lt (UInt32.toNat_lt _)).symm
  · -- behind the block there are no bytes, and the word is zero
    have hnone : data.drop (t * 4) = [] := List.drop_eq_nil_of_le (by omega)
    have hzero (i : Nat) : data.getD (t * 4 + i) 0 = 0 :=
      List.getD_eq_default _ _ (by omega)
    unfold blockWord
    rw [hnone, hzero 1, hzero 2, hzero 3, show data.getD (t * 4) 0 = 0 from hzero 0]
    rfl

/-! ## Compression -/

/-- A block is compressed as the standard says. -/
theorem toVariables_transform (state : Words) (data : List UInt8) :
    toVariables (transform state data)
      = Sha2.compress (toVariables state) fun t => (blockWord data t).toBitVec := by
  have hscheduled := schedule_scheduled data
  -- the loop goes over constants and words together, the standard over the rounds
  have hzip : k.zip (schedule data)
      = (List.range 64).map fun t => (k.getD t 0, (schedule data).getD t 0) := by
    refine List.ext_getElem ?_ fun t ht ht' => ?_
    · rw [List.length_zip, hscheduled.length, List.length_map, List.length_range]
      rfl
    · rw [List.getElem_zip, List.getElem_map, List.getElem_range]
      rw [List.length_zip] at ht
      rw [List.getD_eq_getElem _ _ (by omega), List.getD_eq_getElem _ _ (by omega)]
  have hrounds : ∀ n ≤ 64,
      toVariables ((List.range n).foldl
          (fun v t => round v (k.getD t 0, (schedule data).getD t 0)) state)
        = (List.range n).foldl (fun v t => Sha2.round (Sha2.roundConstants.getD t 0)
            (Sha2.schedule (fun t => (blockWord data t).toBitVec) t) v) (toVariables state) := by
    intro n hn
    induction n with
    | zero => rfl
    | succ n ih =>
      rw [List.range_succ, List.foldl_append, List.foldl_append, ← ih (by omega)]
      show toVariables (round _ _) = Sha2.round _ _ _
      rw [toVariables_round, roundConstant, hscheduled.words n (by omega)]
  unfold transform Sha2.compress
  rw [← hrounds 64 (Nat.le_refl 64), hzip, List.foldl_map]
  rfl

/-! ## Padding -/

/-- The bytes that a message is padded to. -/
def padBytes (message : List UInt8) : List UInt8 :=
  message ++ 0x80 :: (List.replicate ((119 - message.length % 64) % 64) 0
    ++ toBytesBe 8 (message.length * 8))

theorem lengthBytes_eq (n : Nat) : lengthBytes (UInt64.ofNat n) = toBytesBe 8 (n * 8) := by
  have hbits : (UInt64.ofNat n * 8).toNat = n * 8 % 2 ^ 64 := by
    rw [UInt64.toNat_mul, UInt64.toNat_ofNat']
    show n % 2 ^ 64 * 8 % 2 ^ 64 = n * 8 % 2 ^ 64
    omega
  rw [toBytesBe_eq_map]
  refine List.map_congr_left fun i hi => ?_
  have hi : i < 8 := List.mem_range.mp hi
  -- the shift brings the byte to the end of the word
  have hshift : (56 - UInt64.ofNat i * 8).toNat % 64 = 8 * (7 - i) := by
    interval_cases i <;> rfl
  refine UInt8.toNat_inj.mp ?_
  rw [UInt64.toNat_toUInt8, UInt64.toNat_shiftRight, hshift, hbits, Nat.shiftRight_eq_div_pow,
    UInt8.toNat_ofNat', Nat.pow_mul]
  show n * 8 % 2 ^ 64 / 256 ^ (7 - i) % 256 = n * 8 / 256 ^ (7 - i) % 256
  interval_cases i <;> omega

theorem replicate_zero_bits (n : Nat) :
    (List.replicate n (0 : UInt8)).flatMap byteBits = List.replicate (n * 8) false := by
  induction n with
  | zero => rfl
  | succ n ih =>
    rw [List.replicate_succ, List.flatMap_cons, ih, Nat.succ_mul, Nat.add_comm (n * 8),
      List.replicate_add]
    rfl

/-- The zeros of the standard are seven behind the one in its byte, and whole bytes. -/
theorem zeros_eq (length : Nat) :
    Sha2.zeros (length * 8) = 7 + (119 - length % 64) % 64 * 8 := by
  refine (Nat.find_eq_iff (Sha2.exists_zeros (length * 8))).mpr ⟨by omega, fun n hn => ?_⟩
  omega

/-- The message is padded as the standard says. -/
theorem padBytes_bits (message : List UInt8) :
    (padBytes message).flatMap byteBits = Sha2.pad (message.flatMap byteBits) := by
  have hlength := length_flatMap_mul length_byteBits message
  have hmark : byteBits 0x80 = true :: List.replicate 7 false := rfl
  unfold padBytes Sha2.pad
  rw [List.flatMap_append, List.flatMap_cons, List.flatMap_append, replicate_zero_bits,
    toBytesBe_byteBits, hlength, zeros_eq, List.replicate_add, hmark, List.cons_append,
    List.append_assoc]

/-! ## The digest -/

theorem wordBytes_bits (word : UInt32) :
    (wordBytes word).flatMap byteBits = toBitsBe 32 word.toNat := by
  have hshift (s : UInt32) :
      (word >>> s).toUInt8 = UInt8.ofNat (word.toNat / 2 ^ (s.toNat % 32)) := by
    refine UInt8.toNat_inj.mp ?_
    rw [UInt32.toNat_toUInt8, UInt32.toNat_shiftRight, Nat.shiftRight_eq_div_pow,
      UInt8.toNat_ofNat']
  have hlast : word.toUInt8 = UInt8.ofNat (word.toNat / 1) := by
    refine UInt8.toNat_inj.mp ?_
    rw [UInt32.toNat_toUInt8, UInt8.toNat_ofNat', Nat.div_one]
  have hbytes : wordBytes word = toBytesBe 4 word.toNat := by
    unfold wordBytes
    rw [toBytesBe_eq_map, hshift, hshift, hshift, hlast]
    rfl
  rw [hbytes]
  exact toBytesBe_byteBits 4 word.toNat

/-- The digest is the eight words, the first one first. -/
theorem digestOf_bits (w : Words) :
    (Sha256Ctx.digestOf w).flatMap byteBits
      = (toVariables w).words.flatMap fun word => toBitsBe 32 word.toNat := by
  unfold Sha256Ctx.digestOf Sha2.Variables.words
  simp only [List.flatMap_append, wordBytes_bits, List.flatMap_cons, List.flatMap_nil,
    List.append_nil, List.append_assoc]
  rfl

/-- A message taken byte by byte. -/
theorem update_eq (ctx : Ctx) (data : List UInt8) :
    update ctx data =
      let out := data.foldl (pushBlock transform 64) (ctx.state, ctx.buffer)
      ⟨out.1, ctx.count + UInt64.ofNat data.length, out.2⟩ := by
  induction data generalizing ctx with
  | nil =>
    show ctx = ⟨ctx.state, ctx.count + 0, ctx.buffer⟩
    rw [UInt64.add_zero]
  | cons byte data ih =>
    have hbyte : updateByte ctx byte =
        let next := pushBlock transform 64 (ctx.state, ctx.buffer) byte
        ⟨next.1, ctx.count + 1, next.2⟩ := by
      unfold updateByte pushBlock
      dsimp only
      split
      next => rfl
      next => rfl
    have hcount : ctx.count + 1 + UInt64.ofNat data.length
        = ctx.count + UInt64.ofNat (byte :: data).length := by
      rw [List.length_cons, Nat.add_comm, UInt64.ofNat_add, UInt64.add_assoc]
      rfl
    show update (updateByte ctx byte) data = _
    rw [ih, hbyte, ← hcount]
    rfl

/-! ## The end of a message -/

/-- What `sha256_final` writes behind the bytes not yet taken: the mark, the zeros, the length. -/
def lastBytes (ctx : Ctx) : List UInt8 :=
  0x80 :: (List.replicate ((119 - ctx.buffer.length) % 64) 0 ++ lengthBytes ctx.count)

theorem length_lengthBytes (count : UInt64) : (lengthBytes count).length = 8 := by
  rw [lengthBytes, List.length_map, List.length_range]

/-- With room for the length they fill the block. -/
theorem final_room (ctx : Ctx) (h : ctx.buffer.length < 56) :
    final ctx = Sha256Ctx.digestOf
      ((lastBytes ctx).foldl (pushBlock transform 64) (ctx.state, ctx.buffer)).1 := by
  have hmarked : (ctx.buffer ++ [(0x80 : UInt8)]).length = ctx.buffer.length + 1 :=
    List.length_append
  have hzeros : (119 - ctx.buffer.length) % 64 = 56 - (ctx.buffer.length + 1) := by omega
  have hfill : ctx.buffer.length + (lastBytes ctx).length = 64 := by
    rw [lastBytes, hzeros, List.length_cons, List.length_append, List.length_replicate,
      length_lengthBytes]
    omega
  have hblock : (ctx.buffer ++ [(0x80 : UInt8)])
        ++ List.replicate (56 - (ctx.buffer.length + 1)) 0 ++ lengthBytes ctx.count
      = ctx.buffer ++ lastBytes ctx := by
    rw [lastBytes, hzeros, List.append_assoc, List.append_assoc]
    rfl
  have hne : lastBytes ctx ≠ [] := List.cons_ne_nil _ _
  rw [foldl_pushBlock_fill hne hfill]
  unfold final
  dsimp only
  rw [hmarked, if_neg (by omega)]
  dsimp only
  rw [hmarked, hblock]
  unfold Sha256Ctx.digestOf
  rfl

/-- Without it the mark and zeros fill the block, and zeros and the length one more. -/
theorem final_full (ctx : Ctx) (h : ctx.buffer.length < 64) (hfull : 56 ≤ ctx.buffer.length) :
    final ctx = Sha256Ctx.digestOf
      ((lastBytes ctx).foldl (pushBlock transform 64) (ctx.state, ctx.buffer)).1 := by
  have hmarked : (ctx.buffer ++ [(0x80 : UInt8)]).length = ctx.buffer.length + 1 :=
    List.length_append
  have hzeros : (119 - ctx.buffer.length) % 64 = 64 - (ctx.buffer.length + 1) + 56 := by omega
  have hlast : lastBytes ctx = ((0x80 : UInt8) :: List.replicate (64 - (ctx.buffer.length + 1)) 0)
      ++ (List.replicate 56 0 ++ lengthBytes ctx.count) := by
    rw [lastBytes, hzeros, List.replicate_add, List.cons_append, List.append_assoc]
  have hfirst : ctx.buffer.length
      + ((0x80 : UInt8) :: List.replicate (64 - (ctx.buffer.length + 1)) 0).length = 64 := by
    rw [List.length_cons, List.length_replicate]
    omega
  have hsecond : (List.replicate 56 (0 : UInt8) ++ lengthBytes ctx.count).length = 64 := by
    rw [List.length_append, List.length_replicate, length_lengthBytes]
  have hsecond' : ([] : List UInt8).length
      + (List.replicate 56 (0 : UInt8) ++ lengthBytes ctx.count).length = 64 :=
    (Nat.zero_add _).trans hsecond
  have hne : List.replicate 56 (0 : UInt8) ++ lengthBytes ctx.count ≠ [] :=
    List.ne_nil_of_length_pos (by omega)
  have hblock : (ctx.buffer ++ [(0x80 : UInt8)])
        ++ List.replicate (64 - (ctx.buffer.length + 1)) 0
      = ctx.buffer ++ (0x80 : UInt8) :: List.replicate (64 - (ctx.buffer.length + 1)) 0 :=
    List.append_assoc ..
  rw [hlast, List.foldl_append, foldl_pushBlock_fill (List.cons_ne_nil _ _) hfirst,
    foldl_pushBlock_fill hne hsecond']
  unfold final
  dsimp only
  rw [hmarked, if_pos (by omega)]
  dsimp only
  rw [hblock, List.length_nil, Nat.sub_zero, List.nil_append, List.nil_append]
  unfold Sha256Ctx.digestOf
  rfl

theorem final_eq (ctx : Ctx) (h : ctx.buffer.length < 64) :
    final ctx = Sha256Ctx.digestOf
      ((lastBytes ctx).foldl (pushBlock transform 64) (ctx.state, ctx.buffer)).1 := by
  rcases Nat.lt_or_ge ctx.buffer.length 56 with hroom | hfull
  · exact final_room ctx hroom
  · exact final_full ctx h hfull

/-- The blocks of the padded message, one after the other. -/
theorem sha256Hash_eq (message : List UInt8) :
    sha256Hash message = Sha256Ctx.digestOf
      ((blocks 64 ((padBytes message).length / 64) (padBytes message)).foldl transform
        init.state) := by
  have htaken := foldl_pushBlock (f := transform) (by decide : 0 < 64) init.state message
  have hpadded := foldl_pushBlock (f := transform) (by decide : 0 < 64) init.state
    (padBytes message)
  have hrest : (message.drop (message.length / 64 * 64)).length = message.length % 64 := by
    rw [List.length_drop]
    omega
  have hupdated : update init message
      = ⟨(blocks 64 (message.length / 64) message).foldl transform init.state,
        UInt64.ofNat message.length, message.drop (message.length / 64 * 64)⟩ := by
    have hcount : init.count + UInt64.ofNat message.length = UInt64.ofNat message.length :=
      UInt64.zero_add _
    have hempty : init.buffer = [] := rfl
    rw [update_eq]
    dsimp only
    rw [hcount, hempty, htaken]
  have hsmall : (message.drop (message.length / 64 * 64)).length < 64 := by
    rw [hrest]
    exact Nat.mod_lt _ (by decide)
  show final (update init message) = _
  rw [hupdated, final_eq _ hsmall, lastBytes]
  dsimp only
  -- what is written behind the message is the end of the padded one
  rw [hrest, lengthBytes_eq, ← htaken, ← List.foldl_append]
  show Sha256Ctx.digestOf ((padBytes message).foldl (pushBlock transform 64) (init.state, [])).1 = _
  rw [hpadded]

/-- A block of the bytes is a block of the bits. -/
theorem foldl_compress (count : Nat) (state : Words) {bytes : List UInt8}
    (h : count * 64 ≤ bytes.length) :
    (blocks 512 count (bytes.flatMap byteBits)).foldl
        (fun hash block => Sha2.compress hash (Sha2.blockWord block)) (toVariables state)
      = toVariables ((blocks 64 count bytes).foldl transform state) := by
  rw [show (512 : Nat) = 64 * 8 from rfl, blocks_flatMap length_byteBits, List.foldl_map]
  have hblocks : ∀ block ∈ blocks 64 count bytes, block.length = 64 := fun _ => mem_blocks h
  generalize blocks 64 count bytes = l at hblocks ⊢
  induction l generalizing state with
  | nil => rfl
  | cons block rest ih =>
    have hwords : Sha2.blockWord (block.flatMap byteBits)
        = fun t => (blockWord block t).toBitVec :=
      funext fun t => (blockWord_bits (hblocks block List.mem_cons_self) t).symm
    rw [List.foldl_cons, List.foldl_cons, hwords, ← toVariables_transform]
    exact ih _ fun b hb => hblocks b (List.mem_cons_of_mem _ hb)

/-- The bits of the digest, from the bits of the message. -/
theorem sha256Hash_bits (message : List UInt8) :
    (sha256Hash message).flatMap byteBits = Sha2.sha256 (message.flatMap byteBits) := by
  have hwhole : (padBytes message).length / 64 * 64 ≤ (padBytes message).length :=
    Nat.div_mul_le_self ..
  have hcount : ((padBytes message).flatMap byteBits).length / 512
      = (padBytes message).length / 64 := by
    rw [length_flatMap_mul length_byteBits]
    omega
  rw [sha256Hash_eq, digestOf_bits, ← foldl_compress _ _ hwhole, toVariables_init, ← hcount,
    padBytes_bits]
  rfl

end Sha256

/-- However a message is cut into pieces, and whatever memory the context is made of. -/
theorem sha256_correct (memory : Sha256Ctx) (pieces : List (List UInt8)) :
    (pieces.foldl Sha256Ctx.update memory.init).final.flatMap byteBits
        = Sha2.sha256 (pieces.flatten.flatMap byteBits)
      ∧ ∀ memory' : Sha256Ctx,
        (pieces.foldl Sha256Ctx.update memory.init).final = memory'.hash pieces.flatten := by
  have hdigest := Sha256Ctx.final_pieces memory pieces
  refine ⟨?_, fun memory' => ?_⟩
  · rw [hdigest]
    exact Sha256.sha256Hash_bits pieces.flatten
  · rw [hdigest]
    exact (Sha256Ctx.hash_eq memory' pieces.flatten).symm

end UdsIsoTp.Boot
