import UdsIsoTp.Crypto.Aes
import UdsIsoTp.Lib.Rijndael

/-!
# AES-128 is that of FIPS 197

Step by step, what `aes.c` does with sixteen bytes is what the standard does with the matrix they
fill (`stateOf`): the table has the affine image of the inverse of each byte (`toGf_subByte`),
the sum and the doublings of `mix_columns` are a product with the matrix (`stateOf_mixColumns`),
and the round keys are the words of the expanded key (`keyExpansion_eq`).
-/

namespace UdsIsoTp.Crypto

open Rijndael (Gf256 State Word toGf toGf_xor stateOf keyWords keyExpansion)

/-! ## Bytes -/

/-- What undoes the affine map. -/
def unaffine (y : BitVec 8) : BitVec 8 :=
  y.rotateRight 2 ^^^ y.rotateRight 5 ^^^ y.rotateRight 7 ^^^ 0x05#8

/-- Entry `y` of the table belongs at index `b`: without the affine map it is the inverse. -/
def entryAt (y : UInt8) (b : Nat) : Bool :=
  Rijndael.affine (unaffine y.toBitVec) = y.toBitVec ∧
    if b = 0 then unaffine y.toBitVec = 0#8 else toGf (UInt8.ofNat b) * ⟨unaffine y.toBitVec⟩ = 1

theorem sbox_entries : sbox.zipIdx.all fun entry => entryAt entry.1 entry.2 := by decide +kernel

theorem entryAt_subByte (b : UInt8) : entryAt (subByte b) b.toNat = true := by
  have hb : b.toNat < sbox.length := length_sbox ▸ b.toNat_lt
  have hentry : (sbox[b.toNat], b.toNat) ∈ sbox.zipIdx := by
    rw [List.mem_zipIdx_iff_getElem?]
    exact List.getElem?_eq_getElem hb
  have hat := List.all_eq_true.mp sbox_entries _ hentry
  unfold subByte
  rwa [List.getD_eq_getElem _ _ hb]

/-- The table is the substitution of the standard. -/
theorem toGf_subByte (b : UInt8) : toGf (subByte b) = Rijndael.subByte (toGf b) := by
  obtain ⟨haffine, hinverse⟩ := of_decide_eq_true (entryAt_subByte b)
  have hbits : (Ring.inverse (toGf b)).bits = unaffine (subByte b).toBitVec := by
    split at hinverse
    next hzero =>
      obtain rfl : b = 0 := UInt8.toNat_inj.mp hzero
      rw [hinverse]
      exact congrArg BinaryRing.bits (Ring.inverse_zero Gf256)
    next =>
      rw [UInt8.ofNat_toNat] at hinverse
      have hunit := Ring.inverse_unit (⟨toGf b, ⟨unaffine (subByte b).toBitVec⟩, hinverse,
        (mul_comm _ _).trans hinverse⟩ : Gf256ˣ)
      exact congrArg BinaryRing.bits hunit
  unfold Rijndael.subByte
  rw [hbits, haffine]
  rfl

theorem toGf_xtime : ∀ b, toGf (xtime b) = ⟨0x02#8⟩ * toGf b :=
  forall_byte (by decide +kernel)

/-! ## The steps of a round -/

theorem stateOf_subBytes (s : Block) :
    stateOf (subBytes s) = Rijndael.subBytes (stateOf s) := by
  refine Matrix.ext fun r c => ?_
  show toGf ((s.map subByte).get _) = Rijndael.subByte (toGf (s.get _))
  rw [List.Vector.get_map, toGf_subByte]

theorem stateOf_shiftRows (s : Block) :
    stateOf (shiftRows s) = Rijndael.shiftRows (stateOf s) := by
  have hsource : ∀ r c : Fin 4, shiftSource.get ⟨r + 4 * c, by omega⟩
      = ⟨r + 4 * (c + r : Fin 4), by omega⟩ := by decide
  refine Matrix.ext fun r c => ?_
  show toGf ((shiftSource.map s.get).get _) = toGf (s.get _)
  rw [List.Vector.get_map, hsource]

theorem stateOf_addRoundKey (s k : Block) :
    stateOf (addRoundKey s k) = stateOf s + stateOf k := by
  refine Matrix.ext fun r c => ?_
  show toGf ((List.Vector.zipWith (· ^^^ ·) s k).get _) = toGf (s.get _) + toGf (k.get _)
  rw [List.Vector.zipWith_get, toGf_xor]

/-- The mixing of a column is the product with the matrix. -/
theorem toGf_mixColumn (value : Column) (i : Fin 4) :
    toGf ((mixColumn value).get i) = ∑ k, Rijndael.mixMatrix i k * toGf (value.get k) := by
  have hthree : (⟨0x03#8⟩ : Gf256) = ⟨0x02#8⟩ + 1 := rfl
  have hone : (⟨0x01#8⟩ : Gf256) = 1 := rfl
  have hsum : toGf ((mixColumn value).get i) = toGf (value.get i)
      + ((toGf (value.get 0) + toGf (value.get 1) + toGf (value.get 2) + toGf (value.get 3))
        + ⟨0x02#8⟩ * (toGf (value.get i) + toGf (value.get (i + 1)))) := by
    rw [mixColumn_get, toGf_xor, toGf_xor, toGf_xtime, toGf_xor]
    rfl
  -- in each row one byte comes up twice and goes out
  have hself := BinaryRing.add_self (toGf (value.get i))
  rw [hsum, Fin.sum_univ_four]
  fin_cases i <;>
    simp [Rijndael.mixMatrix, hthree, hone] at hself ⊢ <;>
    linear_combination hself

/-- A byte of a column of the state. -/
theorem columnOf_get (s : Block) (c k : Fin 4) :
    toGf ((columnOf s c).get k) = stateOf s k c := by
  rw [columnOf, List.Vector.get_ofFn]
  exact congrArg (fun i => toGf (s.get i)) (Fin.ext (Nat.add_comm ..))

theorem stateOf_mixColumns (s : Block) :
    stateOf (mixColumns s) = Rijndael.mixColumns (stateOf s) := by
  refine Matrix.ext fun r c => ?_
  have hcolumn : (⟨(r + 4 * c : Nat) / 4, by omega⟩ : Fin 4) = c := Fin.ext (by dsimp only; omega)
  have hrow : (⟨(r + 4 * c : Nat) % 4, by omega⟩ : Fin 4) = r := Fin.ext (by dsimp only; omega)
  have hbyte : stateOf (mixColumns s) r c = toGf ((mixColumn (columnOf s c)).get r) := by
    show toGf ((mixColumns s).get _) = _
    rw [mixColumns, List.Vector.get_ofFn]
    dsimp only
    rw [hcolumn, hrow]
  rw [hbyte, toGf_mixColumn, Rijndael.mixColumns, Matrix.mul_apply]
  exact Finset.sum_congr rfl fun k _ => by rw [columnOf_get]

/-! ## The key schedule -/

/-- The key of a round. -/
def roundKeyAt (key : Block) : Nat → Block
  | 0 => key
  | round + 1 => nextRoundKey (roundKeyAt key round) (round + 1)

theorem aes128Init_roundKeys (key : Block) {round : Nat} (hround : round ≤ 10) :
    (aes128Init key).roundKeys.getD round zeroBlock = roundKeyAt key round := by
  have hfold : ∀ n ≤ 10, ((List.range' 1 10).take n).foldl nextRoundKey key = roundKeyAt key n := by
    intro n hn
    induction n with
    | zero => rfl
    | succ n ih =>
      have hnext : (List.range' 1 10)[n]? = some (n + 1) := by
        rw [List.getElem?_range' (by omega)]
        exact congrArg some (by omega)
      rw [List.take_add_one, hnext, List.foldl_append, ih (by omega)]
      rfl
  unfold aes128Init
  rw [List.getD_eq_getElem?_getD, List.getElem?_scanl]
  rw [if_pos (by simpa using hround), hfold round hround]
  rfl

theorem toGf_rcon (round : Nat) : toGf (rcon round) = ⟨0x02#8⟩ ^ (round - 1) := by
  unfold rcon
  generalize round - 1 = n
  induction n with
  | zero => rfl
  | succ n ih => rw [Function.iterate_succ_apply', toGf_xtime, ih, pow_succ']

/-- The first column of the next key: that of the key before, and its last one rotated and
substituted. -/
theorem nextRoundKey_first (previous : Block) (round : Nat) (r : Fin 4) :
    stateOf (nextRoundKey previous round) r 0 = stateOf previous r 0
      + (Rijndael.subWord (Rijndael.rotWord fun i => stateOf previous i 3)
        + Rijndael.rcon round) r := by
  have hword : ∀ i : Fin 4, Rijndael.subByte (stateOf previous (i + 1) 3)
      = toGf (subByte (previous.get ⟨(i + 1 : Fin 4) + 12, by omega⟩)) :=
    fun i => (toGf_subByte _).symm
  show _ = _ + (Rijndael.subByte (stateOf previous (r + 1) 3) + Rijndael.rcon round r)
  rw [hword]
  fin_cases r
  · show toGf (previous.get 0 ^^^ (subByte (previous.get 13) ^^^ rcon round)) = _
    rw [toGf_xor, toGf_xor, toGf_rcon]
    rfl
  all_goals
    show _ = _ + (_ + (0 : Gf256))
    rw [add_zero]
    rfl

/-- Every other column: that of the key before, and the one to its left. -/
theorem nextRoundKey_next (previous : Block) (round : Nat) (r : Fin 4) {c : Nat} (hc : c < 3) :
    stateOf (nextRoundKey previous round) r ⟨c + 1, by omega⟩
      = stateOf previous r ⟨c + 1, by omega⟩
        + stateOf (nextRoundKey previous round) r ⟨c, by omega⟩ := by
  obtain rfl | rfl | rfl : c = 0 ∨ c = 1 ∨ c = 2 := by omega
  all_goals fin_cases r <;> rfl

/-- Word `n` of the expanded key is a column of the key of its round. -/
theorem keyExpansion_eq (key : Block) (n : Nat) (r : Fin 4) :
    keyExpansion (keyWords key) n r
      = stateOf (roundKeyAt key (n / 4)) r ⟨n % 4, Nat.mod_lt n (by decide)⟩ := by
  induction n using Nat.strong_induction_on generalizing r with
  | _ n ih =>
  rw [keyExpansion]
  split
  next hfirst =>
    have hround : n / 4 = 0 := Nat.div_eq_of_lt hfirst
    have hcolumn : n % 4 = n := Nat.mod_eq_of_lt hfirst
    simp only [hround, hcolumn]
    rfl
  next hlater =>
    obtain ⟨round, hround⟩ : ∃ round, n / 4 = round + 1 := ⟨n / 4 - 1, by omega⟩
    have hbefore := ih (n - 4) (by omega)
    have hleft := ih (n - 1) (by omega)
    simp only [show (n - 4) / 4 = round by omega, show (n - 4) % 4 = n % 4 by omega] at hbefore
    simp only [hround]
    split
    next hzero =>
      simp only [show (n - 1) / 4 = round by omega, show (n - 1) % 4 = 3 by omega] at hleft
      simp only [hzero] at hbefore ⊢
      have hword : keyExpansion (keyWords key) (n - 1)
          = fun i => stateOf (roundKeyAt key round) i 3 := funext hleft
      show keyExpansion (keyWords key) (n - 4) r + _ = _
      rw [hbefore, hword]
      exact (nextRoundKey_first (roundKeyAt key round) (round + 1) r).symm
    next hnonzero =>
      obtain ⟨c, hc⟩ : ∃ c, n % 4 = c + 1 := ⟨n % 4 - 1, by omega⟩
      have hlt := Nat.mod_lt n (show 4 > 0 by decide)
      simp only [show (n - 1) / 4 = round + 1 by omega, show (n - 1) % 4 = c by omega] at hleft
      simp only [hc] at hbefore ⊢
      show keyExpansion (keyWords key) (n - 4) r + keyExpansion (keyWords key) (n - 1) r = _
      rw [hbefore, hleft]
      exact (nextRoundKey_next (roundKeyAt key round) (round + 1) r (by omega)).symm

/-! ## The cipher -/

theorem stateOf_roundKey (key : Block) {round : Nat} (hround : round ≤ 10) (s : Block) :
    stateOf (addRoundKey s ((aes128Init key).roundKeys.getD round zeroBlock))
      = Rijndael.addRoundKey (keyExpansion (keyWords key)) round (stateOf s) := by
  rw [stateOf_addRoundKey, aes128Init_roundKeys key hround]
  refine Matrix.ext fun r c => ?_
  show _ = stateOf s r c + keyExpansion (keyWords key) (4 * round + c) r
  rw [keyExpansion_eq]
  have hdiv : (4 * round + c.val) / 4 = round := by omega
  have hmod : (⟨(4 * round + c.val) % 4, Nat.mod_lt _ (by decide)⟩ : Fin 4) = c :=
    Fin.ext (by dsimp only; omega)
  rw [hmod, hdiv]
  rfl

theorem aes128_eq (key input : Block) :
    aes128EncryptBlock (aes128Init key) input = Rijndael.aes128 key input := by
  have hrounds : ∀ (rounds : List Nat) (s : Block), (∀ round ∈ rounds, round ≤ 10) →
      stateOf (rounds.foldl (fun state round =>
          addRoundKey (mixColumns (shiftRows (subBytes state)))
            ((aes128Init key).roundKeys.getD round zeroBlock)) s)
        = rounds.foldl (Rijndael.cipherRound (keyExpansion (keyWords key))) (stateOf s) := by
    intro rounds
    induction rounds with
    | nil => exact fun _ _ => rfl
    | cons round rounds ih =>
      intro s h
      obtain ⟨hround, hrest⟩ := List.forall_mem_cons.mp h
      rw [List.foldl_cons, List.foldl_cons, ih _ hrest, stateOf_roundKey key hround,
        stateOf_mixColumns, stateOf_shiftRows, stateOf_subBytes]
      rfl
  have hstate : stateOf (aes128EncryptBlock (aes128Init key) input)
      = Rijndael.cipher (keyExpansion (keyWords key)) (stateOf input) := by
    unfold aes128EncryptBlock
    dsimp only
    rw [stateOf_roundKey key (Nat.le_refl 10), stateOf_shiftRows, stateOf_subBytes,
      hrounds _ _ (by decide), stateOf_roundKey key (Nat.zero_le 10)]
    rfl
  unfold Rijndael.aes128
  rw [← hstate, Rijndael.bytesOf_stateOf]

end UdsIsoTp.Crypto
