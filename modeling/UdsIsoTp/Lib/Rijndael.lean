import UdsIsoTp.Lib.BinaryRing
import Mathlib.Algebra.GroupWithZero.Units.Basic
import Mathlib.Data.Matrix.Mul
import Mathlib.LinearAlgebra.Matrix.Notation

/-!
# AES with keys of 128 bits

The cipher as FIPS 197 defines it: bytes are the elements of the field with 256 elements, the
state is a matrix of four rows and four columns, and its columns are mixed by a product with a
fixed matrix. The byte that takes the place of another is made from its inverse in the field; no
table is in here.
-/

namespace UdsIsoTp.Rijndael

/-- Polynomials modulo `x ^ 8 + x ^ 4 + x ^ 3 + x + 1`. -/
abbrev Gf256 := BinaryRing 0x1B#8

/-- Four bytes. -/
abbrev Word := Fin 4 → Gf256

/-- Sixteen bytes, in rows and columns. -/
abbrev State := Matrix (Fin 4) (Fin 4) Gf256

/-! ## The steps of a round -/

/-- Bit `i` is the sum of the bits `i`, `i + 4`, `i + 5`, `i + 6`, `i + 7` and of bit `i` of
`0x63`, the indices taken modulo 8. -/
def affine (b : BitVec 8) : BitVec 8 :=
  b ^^^ b.rotateRight 4 ^^^ b.rotateRight 5 ^^^ b.rotateRight 6 ^^^ b.rotateRight 7 ^^^ 0x63#8

/-- The inverse of the byte, zero for zero, through the affine map. -/
noncomputable def subByte (b : Gf256) : Gf256 := ⟨affine (Ring.inverse b).bits⟩

/-- `SubBytes`: every byte by itself. -/
noncomputable def subBytes (s : State) : State := s.map subByte

/-- Row `r` is rotated by `r` places. -/
def shiftRows (s : State) : State := .of fun r c => s r (c + r)

/-- The matrix of `MixColumns`. -/
def mixMatrix : State :=
  !![⟨0x02#8⟩, ⟨0x03#8⟩, ⟨0x01#8⟩, ⟨0x01#8⟩;
    ⟨0x01#8⟩, ⟨0x02#8⟩, ⟨0x03#8⟩, ⟨0x01#8⟩;
    ⟨0x01#8⟩, ⟨0x01#8⟩, ⟨0x02#8⟩, ⟨0x03#8⟩;
    ⟨0x03#8⟩, ⟨0x01#8⟩, ⟨0x01#8⟩, ⟨0x02#8⟩]

/-- `MixColumns`: each column times the matrix. -/
def mixColumns (s : State) : State := mixMatrix * s

/-! ## The key schedule -/

theorem next_lt (i : Fin 4) : (i + 1 : Nat) % 4 < 4 := Nat.mod_lt _ (by decide)

/-- `RotWord` -/
def rotWord (w : Word) : Word := fun i => w ⟨(i + 1 : Nat) % 4, next_lt i⟩

/-- `SubWord` -/
noncomputable def subWord (w : Word) : Word := fun i => subByte (w i)

/-- The powers of `x`. -/
def rcon (j : Nat) : Word := ![⟨0x02#8⟩ ^ (j - 1), 0, 0, 0]

/-- Word `i` of the expanded key. -/
noncomputable def keyExpansion (key : Fin 4 → Word) (i : Nat) : Word :=
  if h : i < 4 then key ⟨i, h⟩
  else if i % 4 = 0 then
    keyExpansion key (i - 4) + (subWord (rotWord (keyExpansion key (i - 1))) + rcon (i / 4))
  else keyExpansion key (i - 4) + keyExpansion key (i - 1)
termination_by i

/-- The words of a round, each of them a column. -/
def addRoundKey (w : Nat → Word) (round : Nat) (s : State) : State :=
  .of fun r c => s r c + w (4 * round + c) r

/-! ## The cipher -/

/-- A full round, with the round's part of the key schedule. -/
noncomputable def cipherRound (w : Nat → Word) (s : State) (round : Nat) : State :=
  addRoundKey w round (mixColumns (shiftRows (subBytes s)))

/-- Nine rounds, and one without the mixing. -/
noncomputable def cipher (w : Nat → Word) (input : State) : State :=
  let state := (List.range' 1 9).foldl (cipherRound w) (addRoundKey w 0 input)
  addRoundKey w 10 (shiftRows (subBytes state))

/-- A byte as an element of the field. -/
def toGf (b : UInt8) : Gf256 := ⟨b.toBitVec⟩

/-- Sixteen bytes fill the state column by column. -/
def stateOf (block : List.Vector UInt8 16) : State :=
  .of fun r c => toGf (block.get ⟨r + 4 * c, by omega⟩)

theorem row_lt (i : Fin 16) : (i : Nat) % 4 < 4 := Nat.mod_lt _ (by decide)

theorem column_lt (i : Fin 16) : (i : Nat) / 4 < 4 := Nat.div_lt_of_lt_mul i.isLt

/-- The bytes of a state, column after column. -/
def bytesOf (s : State) : List.Vector UInt8 16 :=
  .ofFn fun i => ⟨(s ⟨i % 4, row_lt i⟩ ⟨i / 4, column_lt i⟩).bits⟩

/-- The words of the key are the columns that it fills. -/
def keyWords (key : List.Vector UInt8 16) : Fin 4 → Word := fun c r => stateOf key r c

/-- AES-128. -/
noncomputable def aes128 (key input : List.Vector UInt8 16) : List.Vector UInt8 16 :=
  bytesOf (cipher (keyExpansion (keyWords key)) (stateOf input))

/-! ## Bytes and states -/

theorem toGf_xor (a b : UInt8) : toGf (a ^^^ b) = toGf a + toGf b := rfl

theorem bytesOf_stateOf (block : List.Vector UInt8 16) : bytesOf (stateOf block) = block := by
  refine List.Vector.ext fun i => ?_
  rw [bytesOf, List.Vector.get_ofFn]
  show block.get ⟨i % 4 + 4 * (i / 4), _⟩ = block.get i
  exact congrArg block.get (Fin.ext (Nat.mod_add_div i 4))

end UdsIsoTp.Rijndael
