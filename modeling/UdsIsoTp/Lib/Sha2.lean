import UdsIsoTp.Lib.BitString
import Mathlib.Data.Nat.Find
import Mathlib.Data.Nat.NthRoot.Defs
import Mathlib.Data.Nat.Prime.Basic
import Mathlib.Data.Nat.Sqrt

/-!
# SHA-256 of a bit string

The hash algorithm as FIPS 180-4 defines it, on messages of any number of bits: words of 32 bits
with addition modulo 2^32 and rotation, constants from the roots of the first primes, padding to
a multiple of 512 bits, and the compression of one block after the other.
-/

namespace UdsIsoTp.Sha2

/-- A word of 32 bits. -/
abbrev Word := BitVec 32

/-! ## Functions and constants -/

/-- `Ch`: `x` chooses between the bits of `y` and of `z`. -/
def ch (x y z : Word) : Word := (x &&& y) ^^^ (~~~x &&& z)

/-- `Maj`: what most of the three bits are. -/
def maj (x y z : Word) : Word := (x &&& y) ^^^ (x &&& z) ^^^ (y &&& z)

/-- `Σ₀` -/
def bigSigma0 (x : Word) : Word := x.rotateRight 2 ^^^ x.rotateRight 13 ^^^ x.rotateRight 22

/-- `Σ₁` -/
def bigSigma1 (x : Word) : Word := x.rotateRight 6 ^^^ x.rotateRight 11 ^^^ x.rotateRight 25

/-- `σ₀` -/
def smallSigma0 (x : Word) : Word := x.rotateRight 7 ^^^ x.rotateRight 18 ^^^ x >>> 3

/-- `σ₁` -/
def smallSigma1 (x : Word) : Word := x.rotateRight 17 ^^^ x.rotateRight 19 ^^^ x >>> 10

/-- The first 64 primes. -/
def primes : List Nat := (List.range 312).filter fun p => Nat.Prime p

/-- Below `18 * 18`, a number without a divisor below 18 is a prime. -/
theorem prime_iff {p : Nat} (hp : p < 324) :
    Nat.Prime p ↔ 2 ≤ p ∧ ∀ m < 18, 2 ≤ m → m < p → ¬m ∣ p := by
  constructor
  · intro hprime
    refine ⟨hprime.two_le, fun m _ htwo hless hdvd => ?_⟩
    rcases hprime.eq_one_or_self_of_dvd m hdvd with hone | hself
    · omega
    · omega
  · intro hnone
    refine Nat.prime_def_le_sqrt.mpr ⟨hnone.1, fun m htwo hroot => ?_⟩
    have hsquare : m * m ≤ p := Nat.le_sqrt.mp hroot
    have hm : m < 18 := by
      by_contra hge
      have hlarge := Nat.mul_le_mul (Nat.le_of_not_lt hge) (Nat.le_of_not_lt hge)
      omega
    have hless : m < p := by
      have hdouble := Nat.mul_le_mul_right m htwo
      omega
    exact hnone.2 m hm htwo hless

theorem primes_eq : primes
    = (List.range 312).filter fun p => 2 ≤ p ∧ ∀ m < 18, 2 ≤ m → m < p → ¬m ∣ p := by
  refine List.filter_congr fun p hp => ?_
  have hsmall : p < 312 := List.mem_range.mp hp
  exact decide_eq_decide.mpr (prime_iff (by omega))

/-- The first 32 bits of the fractional part of the cube root: the root of `p` with 32 more
bits, without those of its whole part. -/
def cubeRootFraction (p : Nat) : Word := BitVec.ofNat 32 (Nat.nthRoot 3 (p * 2 ^ 96))

/-- The first 32 bits of the fractional part of the square root. -/
def squareRootFraction (p : Nat) : Word := BitVec.ofNat 32 (Nat.sqrt (p * 2 ^ 64))

/-- The first bits of the cube roots of the first 64 primes. -/
def roundConstants : List Word := primes.map cubeRootFraction

/-! ## Compression -/

/-- The hash value, and the working variables. -/
structure Variables where
  a : Word
  b : Word
  c : Word
  d : Word
  e : Word
  f : Word
  g : Word
  h : Word
  deriving DecidableEq

/-- The eight words, the first one first. -/
def Variables.words (v : Variables) : List Word := [v.a, v.b, v.c, v.d, v.e, v.f, v.g, v.h]

/-- The sum of each of the eight. -/
def Variables.add (v v' : Variables) : Variables :=
  ⟨v.a + v'.a, v.b + v'.b, v.c + v'.c, v.d + v'.d, v.e + v'.e, v.f + v'.f, v.g + v'.g, v.h + v'.h⟩

/-- The message schedule of a block. -/
def schedule (block : Nat → Word) (t : Nat) : Word :=
  if t < 16 then block t
  else smallSigma1 (schedule block (t - 2)) + schedule block (t - 7)
    + smallSigma0 (schedule block (t - 15)) + schedule block (t - 16)

/-- One round of the compression. -/
def round (k w : Word) (v : Variables) : Variables :=
  let t1 := v.h + bigSigma1 v.e + ch v.e v.f v.g + k + w
  let t2 := bigSigma0 v.a + maj v.a v.b v.c
  { h := v.g, g := v.f, f := v.e, e := v.d + t1, d := v.c, c := v.b, b := v.a, a := t1 + t2 }

/-- The next hash value. -/
def compress (hash : Variables) (block : Nat → Word) : Variables :=
  hash.add ((List.range 64).foldl
    (fun v t => round (roundConstants.getD t 0) (schedule block t) v) hash)

/-! ## Messages -/

theorem exists_zeros (length : Nat) : ∃ zeros, (length + 1 + zeros) % 512 = 448 :=
  ⟨959 - length % 512, by omega⟩

/-- The smallest number of zeros that leave 64 bits of a block. -/
def zeros (length : Nat) : Nat := Nat.find (exists_zeros length)

/-- The message, a one, zeros up to 64 below a multiple of 512, and the length. -/
def pad (message : List Bool) : List Bool :=
  message ++ true :: (List.replicate (zeros message.length) false ++ toBitsBe 64 message.length)

/-- The words of a block. -/
def blockWord (block : List Bool) (t : Nat) : Word :=
  BitVec.ofNat 32 (ofBitsBe ((block.drop (t * 32)).take 32))

/-- The first bits of the square roots of the first eight primes. -/
def initialHash : Variables :=
  ⟨squareRootFraction 2, squareRootFraction 3, squareRootFraction 5, squareRootFraction 7,
    squareRootFraction 11, squareRootFraction 13, squareRootFraction 17, squareRootFraction 19⟩

/-- The digest, of 256 bits. -/
def sha256 (message : List Bool) : List Bool :=
  let padded := pad message
  let hash := (blocks 512 (padded.length / 512) padded).foldl
    (fun hash block => compress hash (blockWord block)) initialHash
  hash.words.flatMap fun w => toBitsBe 32 w.toNat

end UdsIsoTp.Sha2
