import UdsIsoTp.Lib.BigEndian
import UdsIsoTp.Lib.Blocks
import Mathlib.Algebra.Order.Floor.Div
import Mathlib.Data.List.GetD

/-!
# Message authentication codes from a cipher

CMAC as RFC 4493 defines it, for a cipher on blocks of 128 bits, which are numbers here: a message
is cut into blocks of sixteen bytes, the last one is filled up if it has to be and masked with one
of two subkeys, and the blocks are chained through the cipher.
-/

namespace UdsIsoTp.Cmac

/-- The block that sixteen bytes spell. -/
def word (bytes : List UInt8) : BitVec 128 := .ofNat 128 (ofBytesBe bytes)

/-- Shifted by one bit, and `const_Rb` added for the bit that goes out. -/
def double (v : BitVec 128) : BitVec 128 := if v.msb then (v <<< 1) ^^^ 0x87#128 else v <<< 1

/-- One bit 1 and as few bits 0 as fill the block. -/
def padding (bytes : List UInt8) : List UInt8 :=
  bytes ++ 0x80 :: List.replicate (15 - bytes.length) 0

section

variable (cipher : BitVec 128 → BitVec 128)

/-- `K1` -/
def subkey1 : BitVec 128 := double (cipher 0)

/-- `K2` -/
def subkey2 : BitVec 128 := double (subkey1 cipher)

/-- The tag: `n` blocks, of which `last` is the last one. -/
def tag (message : List UInt8) : BitVec 128 :=
  let n := if message.length = 0 then 1 else message.length ⌈/⌉ 16
  let last := (message.drop ((n - 1) * 16)).take 16
  let masked :=
    if message.length ≠ 0 ∧ message.length % 16 = 0 then word last ^^^ subkey1 cipher
    else word (padding last) ^^^ subkey2 cipher
  let chained := (blocks 16 (n - 1) message).foldl (fun x block => cipher (x ^^^ word block)) 0
  cipher (masked ^^^ chained)

end

/-! ## Words -/

theorem toNat_word {bytes : List UInt8} (h : bytes.length = 16) :
    (word bytes).toNat = ofBytesBe bytes := by
  have hlt := ofBytesBe_lt bytes
  rw [h] at hlt
  rw [word, BitVec.toNat_ofNat]
  exact Nat.mod_eq_of_lt hlt

theorem toBytesBe_word {bytes : List UInt8} (h : bytes.length = 16) :
    toBytesBe 16 (word bytes).toNat = bytes := by
  rw [toNat_word h, ← h, toBytesBe_ofBytesBe]

theorem word_xor {bytes bytes' : List UInt8} (h : bytes.length = bytes'.length) :
    word (List.zipWith (· ^^^ ·) bytes bytes') = word bytes ^^^ word bytes' := by
  rw [word, word, word, ofBytesBe_xor h, BitVec.ofNat_xor]

theorem getD_padding (bytes : List UInt8) (i : Nat) : (padding bytes).getD i 0
    = if i < bytes.length then bytes.getD i 0 else if i = bytes.length then 0x80 else 0 := by
  unfold padding
  by_cases hbyte : i < bytes.length
  · rw [if_pos hbyte, List.getD_append _ _ _ _ hbyte]
  · rw [if_neg hbyte, List.getD_append_right _ _ _ _ (by omega)]
    by_cases hmark : i = bytes.length
    · rw [if_pos hmark, hmark, Nat.sub_self, List.getD_cons_zero]
    · obtain ⟨k, hk⟩ : ∃ k, i - bytes.length = k + 1 := ⟨i - bytes.length - 1, by omega⟩
      rw [if_neg hmark, hk, List.getD_cons_succ, List.getD_eq_getElem?_getD]
      exact List.getElem?_getD_replicate_default_eq ..

theorem length_padding {bytes : List UInt8} (h : bytes.length < 16) :
    (padding bytes).length = 16 := by
  rw [padding, List.length_append, List.length_cons, List.length_replicate]
  omega

end UdsIsoTp.Cmac
