import UdsIsoTp.Crypto.AesFips
import UdsIsoTp.Crypto.Cmac
import UdsIsoTp.Lib.Cmac

/-!
# The tag is that of RFC 4493

A block is a number of 128 bits (`wordOf`). What `aes_cmac.c` does with sixteen bytes is what the
standard does with that number: to shift a block with its carry is to double it
(`wordOf_leftShiftBlock`), and the tag of a message of any length is the one of the standard
(`aesCmac128_eq`).
-/

namespace UdsIsoTp.Crypto

/-- The number that a block spells. -/
def wordOf (block : Block) : BitVec 128 := Cmac.word block.toList

/-- The sixteen bytes of a word of 128 bits, the high one first. -/
def ofWord (v : BitVec 128) : Block := ⟨toBytesBe 16 v.toNat, length_toBytesBe ..⟩

/-- AES-128 on numbers. -/
noncomputable def aesWord (key : Block) (v : BitVec 128) : BitVec 128 :=
  wordOf (Rijndael.aes128 key (ofWord v))

theorem ofWord_wordOf (block : Block) : ofWord (wordOf block) = block :=
  List.Vector.eq _ _ (Cmac.toBytesBe_word block.toList_length)

theorem wordOf_encrypt (key block : Block) :
    wordOf (aes128EncryptBlock (aes128Init key) block) = aesWord key (wordOf block) := by
  rw [aes128_eq, aesWord, ofWord_wordOf]

theorem wordOf_zeroBlock : wordOf zeroBlock = 0 := by decide

theorem wordOf_xorBlock (destination source : Block) :
    wordOf (xorBlock destination source) = wordOf destination ^^^ wordOf source := by
  have hlist : (xorBlock destination source).toList
      = List.zipWith (· ^^^ ·) destination.toList source.toList := List.Vector.zipWith_toList ..
  rw [wordOf, hlist, Cmac.word_xor (destination.toList_length.trans source.toList_length.symm)]
  rfl

/-! ## Shifting -/

/-- A byte and the carry into it, doubled. -/
theorem shift_byte : ∀ value : UInt8, ((value >>> 7) &&& 1).toNat * 256
      + ((value <<< 1) ||| 0).toNat = 2 * value.toNat
    ∧ ((value >>> 7) &&& 1).toNat * 256 + ((value <<< 1) ||| 1).toNat = 2 * value.toNat + 1 :=
  forall_byte (by decide +kernel)

theorem leftShift_carry (bytes : List UInt8) :
    (leftShift bytes).1 = 0 ∨ (leftShift bytes).1 = 1 := by
  have hbit : ∀ value : UInt8, (value >>> 7) &&& 1 = 0 ∨ (value >>> 7) &&& 1 = 1 :=
    forall_byte (by decide +kernel)
  cases bytes with
  | nil => exact Or.inl rfl
  | cons value rest => exact hbit value

/-- The carry and the bytes shifted spell the double. -/
theorem ofBytesBe_leftShift (bytes : List UInt8) :
    (leftShift bytes).1.toNat * 256 ^ bytes.length + ofBytesBe (leftShift bytes).2
      = 2 * ofBytesBe bytes := by
  induction bytes with
  | nil => rfl
  | cons value rest ih =>
    have hbyte : ((value >>> 7) &&& 1).toNat * 256
        + ((value <<< 1) ||| (leftShift rest).1).toNat
          = 2 * value.toNat + (leftShift rest).1.toNat := by
      rcases leftShift_carry rest with hzero | hone
      · rw [hzero]
        exact (shift_byte value).1
      · rw [hone]
        exact (shift_byte value).2
    show ((value >>> 7) &&& 1).toNat * 256 ^ (rest.length + 1)
      + ofBytesBe (((value <<< 1) ||| (leftShift rest).1) :: (leftShift rest).2) = _
    rw [ofBytesBe_cons, ofBytesBe_cons, length_leftShift, Nat.pow_succ']
    linear_combination 256 ^ rest.length * hbyte + ih

theorem length_shifted (input : Block) : (leftShift input.toList).2.length = 16 :=
  (length_leftShift _).trans input.toList_length

/-- The bytes shifted, without what the carry adds. -/
def shiftedBlock (input : Block) : Block := ⟨(leftShift input.toList).2, length_shifted input⟩

/-- The block with `0x87` in its last byte. -/
def rbBlock : Block := zeroBlock.set (Fin.last 15) 0x87

theorem wordOf_rbBlock : wordOf rbBlock = 0x87#128 := by decide

theorem xorBlock_rbBlock (block : Block) : xorBlock block rbBlock
    = block.set (Fin.last 15) (block.get (Fin.last 15) ^^^ 0x87) := by
  refine List.Vector.ext fun i => ?_
  rw [xorBlock, addRoundKey, List.Vector.zipWith_get, rbBlock]
  by_cases hlast : Fin.last 15 = i
  · subst hlast
    rw [List.Vector.get_set_same, List.Vector.get_set_same]
  · have hzero : zeroBlock.get i = 0 := List.Vector.get_replicate 0 i
    rw [List.Vector.get_set_of_ne hlast, List.Vector.get_set_of_ne hlast, hzero, UInt8.xor_zero]

theorem leftShiftBlock_eq (input : Block) : leftShiftBlock input
    = if (leftShift input.toList).1 ≠ 0 then xorBlock (shiftedBlock input) rbBlock
      else shiftedBlock input := by
  rw [xorBlock_rbBlock]
  rfl

/-- To shift a block is to double it. -/
theorem wordOf_leftShiftBlock (input : Block) :
    wordOf (leftShiftBlock input) = Cmac.double (wordOf input) := by
  have hdouble := ofBytesBe_leftShift input.toList
  have hlt := ofBytesBe_lt (shiftedBlock input).toList
  have hin : (wordOf input).toNat = ofBytesBe input.toList := Cmac.toNat_word input.toList_length
  have hout : (wordOf (shiftedBlock input)).toNat = ofBytesBe (shiftedBlock input).toList :=
    Cmac.toNat_word (shiftedBlock input).toList_length
  rw [List.Vector.toList_length] at hdouble hlt
  change _ + ofBytesBe (shiftedBlock input).toList = _ at hdouble
  generalize ofBytesBe (shiftedBlock input).toList = shifted at hdouble hlt hout
  have hshift : wordOf (shiftedBlock input) = wordOf input <<< 1 := by
    refine BitVec.eq_of_toNat_eq ?_
    rw [BitVec.toNat_shiftLeft, hin, hout, Nat.shiftLeft_eq]
    omega
  have hmsb : (wordOf input).msb = true ↔ (leftShift input.toList).1 ≠ 0 := by
    have hbound := ofBytesBe_lt input.toList
    rw [List.Vector.toList_length] at hbound
    rw [BitVec.msb_eq_decide, decide_eq_true_iff, hin, Ne, ← UInt8.toNat_inj]
    show _ ↔ ¬(leftShift input.toList).1.toNat = 0
    omega
  rw [leftShiftBlock_eq, Cmac.double, if_congr hmsb rfl rfl, ← hshift]
  split
  · rw [wordOf_xorBlock, wordOf_rbBlock]
  · rfl

theorem wordOf_generateSubkey (key : Block) :
    wordOf (generateSubkey (aes128Init key) false) = Cmac.subkey1 (aesWord key)
      ∧ wordOf (generateSubkey (aes128Init key) true) = Cmac.subkey2 (aesWord key) := by
  have hfirst : wordOf (leftShiftBlock (aes128EncryptBlock (aes128Init key) zeroBlock))
      = Cmac.subkey1 (aesWord key) := by
    rw [wordOf_leftShiftBlock, wordOf_encrypt, wordOf_zeroBlock]
    rfl
  unfold generateSubkey
  dsimp only
  rw [if_neg Bool.false_ne_true, if_pos rfl]
  refine ⟨hfirst, ?_⟩
  rw [wordOf_leftShiftBlock, hfirst]
  rfl

/-! ## Blocks of the message -/

theorem toList_blockAt {message : List UInt8} {offset : Nat} (h : offset + 16 ≤ message.length) :
    (blockAt message offset).toList = (message.drop offset).take 16 := by
  rw [blockAt, List.Vector.toList_ofFn]
  refine List.ext_getElem (by simp; omega) fun i hi _ => ?_
  rw [List.length_ofFn] at hi
  rw [List.getElem_ofFn, List.getElem_take, List.getElem_drop]
  exact List.getD_eq_getElem _ _ (by omega)

theorem toList_paddedBlock {message : List UInt8} {offset : Nat}
    (hshort : message.length - offset < 16) :
    (paddedBlock message offset (message.length - offset)).toList
      = Cmac.padding (message.drop offset) := by
  have hdrop : (message.drop offset).length = message.length - offset := List.length_drop
  rw [paddedBlock, List.Vector.toList_ofFn]
  refine List.ext_getElem ?_ fun i hi _ => ?_
  · rw [List.length_ofFn, Cmac.length_padding (hdrop ▸ hshort)]
  have hbyte := Cmac.getD_padding (message.drop offset) i
  rw [List.getD_eq_getElem _ _ ‹_›, hdrop] at hbyte
  rw [List.getElem_ofFn, hbyte]
  refine if_congr Iff.rfl ?_ rfl
  rw [List.getD_eq_getElem?_getD, List.getD_eq_getElem?_getD, List.getElem?_drop]

/-! ## The tag -/

/-- The blocks before the last one, chained. -/
theorem wordOf_chain (key : Block) {message : List UInt8} {count : Nat}
    (h : count * 16 ≤ message.length) :
    wordOf ((List.range count).foldl (fun state index => aes128EncryptBlock (aes128Init key)
        (xorBlock (blockAt message (index * 16)) state)) zeroBlock)
      = (blocks 16 count message).foldl (fun x block => aesWord key (x ^^^ Cmac.word block)) 0 := by
  induction count with
  | zero => exact wordOf_zeroBlock
  | succ count ih =>
    have hblock : wordOf (blockAt message (count * 16))
        = Cmac.word ((message.drop (count * 16)).take 16) :=
      congrArg Cmac.word (toList_blockAt (by omega))
    rw [List.range_succ, blocks_succ, List.foldl_append, List.foldl_append, List.foldl_cons,
      List.foldl_nil, List.foldl_cons, List.foldl_nil, wordOf_encrypt, wordOf_xorBlock, hblock,
      ih (by omega), BitVec.xor_comm]

/-- For every key and message the tag is that of the standard. -/
theorem aesCmac128_eq (key : Block) (message : List UInt8) :
    wordOf (aesCmac128 key message) = Cmac.tag (aesWord key) message := by
  have hceil : message.length ⌈/⌉ 16 = (message.length + 15) / 16 :=
    Nat.ceilDiv_eq_add_pred_div ..
  unfold aesCmac128 Cmac.tag
  dsimp only
  rw [hceil]
  generalize hcount : (if message.length = 0 then 1 else (message.length + 15) / 16) - 1 = count
  have hstart : count * 16 ≤ message.length := by
    split at hcount <;> omega
  rw [wordOf_encrypt, wordOf_xorBlock, wordOf_chain key hstart]
  congr 2
  by_cases hfull : message.length ≠ 0 ∧ message.length - count * 16 = 16
  · have hmod : message.length ≠ 0 ∧ message.length % 16 = 0 := by
      split at hcount <;> omega
    rw [if_pos hfull, if_pos hmod, wordOf_xorBlock, (wordOf_generateSubkey key).1]
    exact congrArg (Cmac.word · ^^^ _) (toList_blockAt (by omega))
  · have hmod : ¬(message.length ≠ 0 ∧ message.length % 16 = 0) := by
      split at hcount <;> omega
    have hshort : message.length - count * 16 < 16 := by
      split at hcount <;> omega
    have hlast : (message.drop (count * 16)).take 16 = message.drop (count * 16) :=
      List.take_of_length_le (by rw [List.length_drop]; omega)
    rw [if_neg hfull, if_neg hmod, wordOf_xorBlock, (wordOf_generateSubkey key).2, hlast]
    exact congrArg (Cmac.word · ^^^ _) (toList_paddedBlock hshort)

/-- The empty message of `test_aes_cmac.c`. -/
example : (aesCmac128 ⟨[0x2B, 0x7E, 0x15, 0x16, 0x28, 0xAE, 0xD2, 0xA6, 0xAB, 0xF7, 0x15, 0x88,
    0x09, 0xCF, 0x4F, 0x3C], rfl⟩ []).toList = [0xBB, 0x1D, 0x69, 0x29, 0xE9, 0x59, 0x37, 0x28,
    0x7F, 0xA3, 0x7D, 0x12, 0x9B, 0x75, 0x67, 0x46] := by
  decide +kernel

end UdsIsoTp.Crypto
