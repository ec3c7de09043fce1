import UdsIsoTp.Lib.Bytes
import Mathlib.Data.Vector.Zip
import Mathlib.Logic.Function.Iterate

/-!
# AES-128

`aes.c`: the key schedule and the encryption of one block. Under any key the cipher is injective
(`aes128EncryptBlock_injective`), since each of its steps can be undone: the table has no value
twice, the rows are permuted, and to mix the columns four times is to leave them alone
(`mixColumn_four`).
-/

namespace UdsIsoTp.Crypto

/-- Sixteen bytes. -/
abbrev Block := List.Vector UInt8 16

/-- Sixteen zeros. -/
def zeroBlock : Block := List.Vector.replicate 16 0

/-- `sbox` -/
def sbox : List UInt8 :=
  [0x63, 0x7c, 0x77, 0x7b, 0xf2, 0x6b, 0x6f, 0xc5, 0x30, 0x01, 0x67, 0x2b, 0xfe,
    0xd7, 0xab, 0x76, 0xca, 0x82, 0xc9, 0x7d, 0xfa, 0x59, 0x47, 0xf0, 0xad, 0xd4,
    0xa2, 0xaf, 0x9c, 0xa4, 0x72, 0xc0, 0xb7, 0xfd, 0x93, 0x26, 0x36, 0x3f, 0xf7,
    0xcc, 0x34, 0xa5, 0xe5, 0xf1, 0x71, 0xd8, 0x31, 0x15, 0x04, 0xc7, 0x23, 0xc3,
    0x18, 0x96, 0x05, 0x9a, 0x07, 0x12, 0x80, 0xe2, 0xeb, 0x27, 0xb2, 0x75, 0x09,
    0x83, 0x2c, 0x1a, 0x1b, 0x6e, 0x5a, 0xa0, 0x52, 0x3b, 0xd6, 0xb3, 0x29, 0xe3,
    0x2f, 0x84, 0x53, 0xd1, 0x00, 0xed, 0x20, 0xfc, 0xb1, 0x5b, 0x6a, 0xcb, 0xbe,
    0x39, 0x4a, 0x4c, 0x58, 0xcf, 0xd0, 0xef, 0xaa, 0xfb, 0x43, 0x4d, 0x33, 0x85,
    0x45, 0xf9, 0x02, 0x7f, 0x50, 0x3c, 0x9f, 0xa8, 0x51, 0xa3, 0x40, 0x8f, 0x92,
    0x9d, 0x38, 0xf5, 0xbc, 0xb6, 0xda, 0x21, 0x10, 0xff, 0xf3, 0xd2, 0xcd, 0x0c,
    0x13, 0xec, 0x5f, 0x97, 0x44, 0x17, 0xc4, 0xa7, 0x7e, 0x3d, 0x64, 0x5d, 0x19,
    0x73, 0x60, 0x81, 0x4f, 0xdc, 0x22, 0x2a, 0x90, 0x88, 0x46, 0xee, 0xb8, 0x14,
    0xde, 0x5e, 0x0b, 0xdb, 0xe0, 0x32, 0x3a, 0x0a, 0x49, 0x06, 0x24, 0x5c, 0xc2,
    0xd3, 0xac, 0x62, 0x91, 0x95, 0xe4, 0x79, 0xe7, 0xc8, 0x37, 0x6d, 0x8d, 0xd5,
    0x4e, 0xa9, 0x6c, 0x56, 0xf4, 0xea, 0x65, 0x7a, 0xae, 0x08, 0xba, 0x78, 0x25,
    0x2e, 0x1c, 0xa6, 0xb4, 0xc6, 0xe8, 0xdd, 0x74, 0x1f, 0x4b, 0xbd, 0x8b, 0x8a,
    0x70, 0x3e, 0xb5, 0x66, 0x48, 0x03, 0xf6, 0x0e, 0x61, 0x35, 0x57, 0xb9, 0x86,
    0xc1, 0x1d, 0x9e, 0xe1, 0xf8, 0x98, 0x11, 0x69, 0xd9, 0x8e, 0x94, 0x9b, 0x1e,
    0x87, 0xe9, 0xce, 0x55, 0x28, 0xdf, 0x8c, 0xa1, 0x89, 0x0d, 0xbf, 0xe6, 0x42,
    0x68, 0x41, 0x99, 0x2d, 0x0f, 0xb0, 0x54, 0xbb, 0x16]

/-- A byte of the table. -/
def subByte (b : UInt8) : UInt8 := sbox.getD b.toNat 0

/-- Taken in 32 bits by the source and cut to a byte at the end, which comes to the same. -/
def xtime (value : UInt8) : UInt8 := (value <<< 1) ^^^ (((value >>> 7) &&& 1) * 0x1B)

/-- `add_round_key`, and `xor_block` of `aes_cmac.c`. -/
def addRoundKey (state roundKey : Block) : Block := List.Vector.zipWith (· ^^^ ·) state roundKey

/-- `sub_bytes` -/
def subBytes (state : Block) : Block := state.map subByte

/-- Where `shift_rows` takes its bytes from. -/
def shiftSource : List.Vector (Fin 16) 16 :=
  ⟨[0, 5, 10, 15, 4, 9, 14, 3, 8, 13, 2, 7, 12, 1, 6, 11], rfl⟩

/-- `shift_rows` -/
def shiftRows (copy : Block) : Block := shiftSource.map copy.get

/-- A column of the state. -/
abbrev Column := List.Vector UInt8 4

/-- One column of `mix_columns`. -/
def mixColumn (value : Column) : Column :=
  let sum := value.get 0 ^^^ value.get 1 ^^^ value.get 2 ^^^ value.get 3
  .ofFn fun i => value.get i ^^^ (sum ^^^ xtime (value.get i ^^^ value.get (i + 1)))

/-- The four bytes of a column. -/
def columnOf (state : Block) (column : Fin 4) : Column :=
  .ofFn fun i => state.get ⟨4 * column + i, by omega⟩

/-- `mix_columns`, column by column. -/
def mixColumns (state : Block) : Block :=
  .ofFn fun i => (mixColumn (columnOf state ⟨i / 4, by omega⟩)).get ⟨i % 4, by omega⟩

/-- `rcon` -/
def rcon (round : Nat) : UInt8 := xtime^[round - 1] 1

/-! ## The key schedule -/

/-- `Aes128Context` -/
structure Aes128Context where
  /-- `round_keys`, sixteen bytes a round. -/
  roundKeys : List Block

/-- The round key after `previous`, a column at a time: the first column is that of `previous`
and the word, each other one that of `previous` and the column before it. -/
def nextRoundKey (previous : Block) (round : Nat) : Block :=
  let word : Column := ⟨[subByte (previous.get 13) ^^^ rcon round, subByte (previous.get 14),
    subByte (previous.get 15), subByte (previous.get 12)], rfl⟩
  let first : Column := List.Vector.zipWith (· ^^^ ·) (columnOf previous 0) word
  let second : Column := List.Vector.zipWith (· ^^^ ·) (columnOf previous 1) first
  let third : Column := List.Vector.zipWith (· ^^^ ·) (columnOf previous 2) second
  let fourth : Column := List.Vector.zipWith (· ^^^ ·) (columnOf previous 3) third
  (first ++ second ++ third ++ fourth : List.Vector UInt8 (4 + 4 + 4 + 4))

/-- `aes128_init`: the key schedule. -/
def aes128Init (key : Block) : Aes128Context where
  roundKeys := (List.range' 1 10).scanl nextRoundKey key

/-- `aes128_encrypt_block`: nine rounds, and one without the mixing of columns. -/
def aes128EncryptBlock (context : Aes128Context) (input : Block) : Block :=
  let roundKey (round : Nat) : Block := context.roundKeys.getD round zeroBlock
  let state := (List.range' 1 9).foldl
    (fun state round => addRoundKey (mixColumns (shiftRows (subBytes state))) (roundKey round))
    (addRoundKey input (roundKey 0))
  addRoundKey (shiftRows (subBytes state)) (roundKey 10)

/-! ## Every step can be undone -/

theorem xor_left_comm (a b c : UInt8) : a ^^^ (b ^^^ c) = b ^^^ (a ^^^ c) := by
  rw [← UInt8.xor_assoc, UInt8.xor_comm a b, UInt8.xor_assoc]

theorem xor_cancel_left (a b : UInt8) : a ^^^ (a ^^^ b) = b := by
  rw [← UInt8.xor_assoc, UInt8.xor_self, UInt8.zero_xor]

theorem addRoundKey_injective (roundKey : Block) :
    Function.Injective (addRoundKey · roundKey) := by
  intro s t h
  refine List.Vector.ext fun i => ?_
  have hi := congrArg (List.Vector.get · i) h
  simpa [addRoundKey] using hi

/-- No byte is in the table twice. -/
theorem sbox_nodup : (sbox.map UInt8.toNat).Nodup := nodup_of_allNew (by decide +kernel)

theorem length_sbox : sbox.length = 256 := by decide +kernel

theorem subByte_injective : Function.Injective subByte := by
  intro a b h
  have ha : a.toNat < sbox.length := length_sbox ▸ a.toNat_lt
  have hb : b.toNat < sbox.length := length_sbox ▸ b.toNat_lt
  unfold subByte at h
  rw [List.getD_eq_getElem _ _ ha, List.getD_eq_getElem _ _ hb,
    sbox_nodup.of_map.getElem_inj_iff] at h
  exact UInt8.toNat_inj.mp h

theorem subBytes_injective : Function.Injective subBytes := by
  intro s t h
  refine List.Vector.ext fun i => subByte_injective ?_
  have hi := congrArg (List.Vector.get · i) h
  simpa [subBytes] using hi

theorem shiftRows_injective : Function.Injective shiftRows := by
  intro s t h
  refine List.Vector.ext fun i => ?_
  -- every byte is taken from somewhere
  have hsource : ∀ i, ∃ j, shiftSource.get j = i := by decide
  obtain ⟨j, rfl⟩ := hsource i
  have hj := congrArg (List.Vector.get · j) h
  simpa [shiftRows] using hj

theorem xtime_xor (a b : UInt8) : xtime (a ^^^ b) = xtime a ^^^ xtime b := by
  have hbit : ∀ v : UInt8, v >>> 7 = 0 ∨ v >>> 7 = 1 := forall_byte (by decide +kernel)
  unfold xtime
  rw [UInt8.shiftLeft_xor, UInt8.shiftRight_xor]
  rcases hbit a with ha | ha <;> rcases hbit b with hb | hb <;> rw [ha, hb]
  · simp
  · simp [UInt8.xor_assoc]
  · simp [UInt8.xor_assoc, UInt8.xor_comm, xor_left_comm]
  · simp [UInt8.xor_comm, xor_left_comm]

/-- What is added to every byte of a column. -/
def columnSum (value : Column) : UInt8 :=
  value.get 0 ^^^ value.get 1 ^^^ value.get 2 ^^^ value.get 3

theorem mixColumn_get (value : Column) (i : Fin 4) : (mixColumn value).get i
    = value.get i ^^^ (columnSum value ^^^ xtime (value.get i ^^^ value.get (i + 1))) := by
  simp [mixColumn, columnSum]

/-- Mixing leaves the sum: what it adds to the column comes up an even number of times. -/
theorem columnSum_mixColumn (value : Column) : columnSum (mixColumn value) = columnSum value := by
  unfold columnSum
  simp only [mixColumn_get, xtime_xor, Fin.reduceAdd]
  generalize columnSum value = sum
  simp only [UInt8.xor_assoc, UInt8.xor_comm, xor_left_comm, xor_cancel_left, UInt8.xor_self,
    UInt8.zero_xor]

/-- To mix a column twice. -/
theorem mixColumn_two (value : Column) (i : Fin 4) :
    (mixColumn (mixColumn value)).get i
      = value.get i ^^^ xtime (xtime (value.get i ^^^ value.get (i + 2))) := by
  have hnext : ∀ i : Fin 4, i + 1 + 1 = i + 2 := by decide
  rw [mixColumn_get, columnSum_mixColumn, mixColumn_get, mixColumn_get, hnext]
  generalize columnSum value = sum
  simp only [xtime_xor, UInt8.xor_assoc, xor_left_comm, xor_cancel_left]

theorem mixColumn_four (value : Column) :
    mixColumn (mixColumn (mixColumn (mixColumn value))) = value := by
  refine List.Vector.ext fun i => ?_
  have hback : ∀ i : Fin 4, i + 2 + 2 = i := by decide
  rw [mixColumn_two, mixColumn_two, mixColumn_two, hback]
  simp [xtime_xor, UInt8.xor_comm, xor_left_comm]

theorem mixColumn_injective : Function.Injective mixColumn := by
  intro v w h
  rw [← mixColumn_four v, ← mixColumn_four w, h]

theorem mixColumns_injective : Function.Injective mixColumns := by
  intro s t h
  have hcolumn (column : Fin 4) : columnOf s column = columnOf t column := by
    refine mixColumn_injective (List.Vector.ext fun i => ?_)
    have hi := congrArg (List.Vector.get · ⟨4 * column + i, by omega⟩) h
    have hdiv : (4 * column.val + i.val) / 4 = column := by omega
    have hmod : (4 * column.val + i.val) % 4 = i := by omega
    simpa [mixColumns, hdiv, hmod] using hi
  refine List.Vector.ext fun i => ?_
  have hi := congrArg (List.Vector.get · ⟨i % 4, by omega⟩) (hcolumn ⟨i / 4, by omega⟩)
  simpa [columnOf, Nat.div_add_mod] using hi

theorem foldl_injective {α β : Type*} {f : β → α → β}
    (hf : ∀ a, Function.Injective (f · a)) (l : List α) :
    Function.Injective fun b => l.foldl f b := by
  induction l with
  | nil => exact fun _ _ h => h
  | cons a l ih => exact fun b c h => hf a (ih h)

/-- Under any key two blocks encrypted to the same are the same. -/
theorem aes128EncryptBlock_injective (context : Aes128Context) :
    Function.Injective (aes128EncryptBlock context) := by
  have hround (roundKey : Block) : Function.Injective fun state =>
      addRoundKey (mixColumns (shiftRows (subBytes state))) roundKey :=
    (addRoundKey_injective roundKey).comp
      (mixColumns_injective.comp (shiftRows_injective.comp subBytes_injective))
  have hlast (roundKey : Block) : Function.Injective fun state =>
      addRoundKey (shiftRows (subBytes state)) roundKey :=
    (addRoundKey_injective roundKey).comp (shiftRows_injective.comp subBytes_injective)
  have hrounds := foldl_injective (fun round => hround (context.roundKeys.getD round zeroBlock))
    (List.range' 1 9)
  intro input input' h
  exact addRoundKey_injective _ (hrounds (hlast _ h))

end UdsIsoTp.Crypto
