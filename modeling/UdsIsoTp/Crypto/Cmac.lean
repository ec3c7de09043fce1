import UdsIsoTp.Crypto.Aes

/-!
# AES-CMAC

`aes_cmac.c` and `uds_security_cmac.c`: the tag of a message, the key derived from a seed, and the
comparison of two tags. Two seeds of one block with the same key derived from them are the same seed
(`udsSecurityCmacDeriveKey_injective`): the last block is masked with the first subkey and encrypted.
-/

namespace UdsIsoTp.Crypto

/-- Sixteen bytes of a message, zero where it has ended. -/
def blockAt (message : List UInt8) (offset : Nat) : Block :=
  .ofFn fun i => message.getD (offset + i) 0

/-- `xor_block` -/
def xorBlock (destination source : Block) : Block := addRoundKey destination source

/-- The loop of `left_shift_block` from the last byte up: the carry and the bytes shifted. -/
def leftShift : List UInt8 → UInt8 × List UInt8
  | [] => (0, [])
  | value :: rest =>
    let (carry, shifted) := leftShift rest
    ((value >>> 7) &&& 1, ((value <<< 1) ||| carry) :: shifted)

theorem length_leftShift : ∀ bytes, (leftShift bytes).2.length = bytes.length
  | [] => rfl
  | _ :: rest => by simp [leftShift, length_leftShift rest]

/-- `left_shift_block`: times x in the field of 128 bits. -/
def leftShiftBlock (input : Block) : Block :=
  let output : Block := ⟨(leftShift input.toList).2, by simp [length_leftShift]⟩
  if (leftShift input.toList).1 ≠ 0 then
    output.set (Fin.last 15) (output.get (Fin.last 15) ^^^ 0x87)
  else output

/-- `generate_subkey`: one doubling of the encrypted zero block, or two. -/
def generateSubkey (aes : Aes128Context) (second : Bool) : Block :=
  let output := leftShiftBlock (aes128EncryptBlock aes zeroBlock)
  if second then leftShiftBlock output else output

/-- The last block of a message that does not fill it. -/
def paddedBlock (message : List UInt8) (offset remaining : Nat) : Block :=
  .ofFn fun i =>
    if i < remaining then message.getD (offset + i) 0 else if i.val = remaining then 0x80 else 0

/-- `aes_cmac_128` -/
def aesCmac128 (key : Block) (message : List UInt8) : Block :=
  let aes := aes128Init key
  let k1 := generateSubkey aes false
  let k2 := generateSubkey aes true
  let blockCount := if message.length = 0 then 1 else (message.length + 15) / 16
  let completeCount := blockCount - 1
  let state := (List.range completeCount).foldl
    (fun state index => aes128EncryptBlock aes (xorBlock (blockAt message (index * 16)) state))
    zeroBlock
  let lastOffset := completeCount * 16
  let remaining := message.length - lastOffset
  let last :=
    if message.length ≠ 0 ∧ remaining = 16 then xorBlock (blockAt message lastOffset) k1
    else xorBlock (paddedBlock message lastOffset remaining) k2
  aes128EncryptBlock aes (xorBlock last state)

/-! ## Keys from seeds -/

/-- `UDS_SECURITY_CMAC_MAX_SEED_LENGTH` -/
def maxSeedLength : Nat := 4095

/-- The CMAC of a seed that is not too long. -/
def udsSecurityCmacDeriveKeyForSeed (masterKey : Block) (seed : List UInt8) : Option Block :=
  if maxSeedLength < seed.length then none else some (aesCmac128 masterKey seed)

/-- The CMAC of a seed of sixteen bytes. -/
def udsSecurityCmacDeriveKey (masterKey seed : Block) : Option Block :=
  udsSecurityCmacDeriveKeyForSeed masterKey seed.toList

/-- Looks at every byte before it decides. -/
def udsSecurityCmacConstantTimeEqual (left right : Block) : Bool :=
  (List.finRange 16).foldl
    (fun difference index => difference ||| (left.get index ^^^ right.get index)) 0 == 0

theorem or_eq_zero {a b : UInt8} : a ||| b = 0 ↔ a = 0 ∧ b = 0 := by
  rw [← UInt8.toNat_inj, ← UInt8.toNat_inj, ← UInt8.toNat_inj]
  simp

theorem foldl_or_eq_zero {α : Type*} (f : α → UInt8) (l : List α) (b : UInt8) :
    l.foldl (fun difference a => difference ||| f a) b = 0 ↔ b = 0 ∧ ∀ a ∈ l, f a = 0 := by
  induction l generalizing b with
  | nil => simp
  | cons a l ih => rw [List.foldl_cons, ih, or_eq_zero, List.forall_mem_cons, and_assoc]

/-- Every byte is compared, and every difference shows. -/
theorem difference_eq_zero_iff {n : Nat} {left right : List.Vector UInt8 n} :
    (List.finRange n).foldl
        (fun difference index => difference ||| (left.get index ^^^ right.get index)) 0 = 0
      ↔ left = right := by
  rw [foldl_or_eq_zero]
  constructor
  · intro h
    exact List.Vector.ext fun i => UInt8.xor_eq_zero_iff.mp (h.2 i (List.mem_finRange i))
  · rintro rfl
    simp

theorem udsSecurityCmacConstantTimeEqual_iff {left right : Block} :
    udsSecurityCmacConstantTimeEqual left right = true ↔ left = right :=
  beq_iff_eq.trans difference_eq_zero_iff

/-! ## A message of one block -/

theorem blockAt_toList (block : Block) : blockAt block.toList 0 = block := by
  refine List.Vector.ext fun i => ?_
  have hi : i.val < block.toList.length := by simp
  rw [blockAt, List.Vector.get_ofFn, Nat.zero_add, List.getD_eq_getElem _ _ hi]
  rfl

/-- A block behind a header. -/
theorem blockAt_append (header : List UInt8) (block : Block) {offset : Nat}
    (hoffset : header.length = offset) : blockAt (header ++ block.toList) offset = block := by
  subst hoffset
  refine (congrArg List.Vector.ofFn (funext fun i => ?_)).trans (blockAt_toList block)
  rw [List.getD_append_right _ _ _ _ (Nat.le_add_right ..), Nat.add_sub_cancel_left, Nat.zero_add]

theorem aesCmac128_block (key block : Block) :
    aesCmac128 key block.toList = aes128EncryptBlock (aes128Init key)
      (xorBlock (xorBlock block (generateSubkey (aes128Init key) false)) zeroBlock) := by
  simp [aesCmac128, blockAt_toList]

theorem udsSecurityCmacDeriveKey_eq (masterKey seed : Block) :
    udsSecurityCmacDeriveKey masterKey seed = some (aesCmac128 masterKey seed.toList) := by
  simp [udsSecurityCmacDeriveKey, udsSecurityCmacDeriveKeyForSeed, maxSeedLength]

/-- Two blocks with one tag are one block. -/
theorem aesCmac128_injective (key : Block) :
    Function.Injective fun block : Block => aesCmac128 key block.toList := by
  intro block block' h
  dsimp only at h
  rw [aesCmac128_block, aesCmac128_block] at h
  exact addRoundKey_injective _
    (addRoundKey_injective _ (aes128EncryptBlock_injective (aes128Init key) h))

end UdsIsoTp.Crypto
