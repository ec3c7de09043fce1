import UdsIsoTp.Crypto.AesFips
import UdsIsoTp.Lib.Buffer

/-!
# AES-128 in memory

`aes.c` on arrays: the 176 bytes of the key schedule lie one after the other, and the steps of a
round change the state in place, byte by byte. What the arrays hold at the end is what the
functions of the block make (`blockOf_encrypt`), whatever was in them and on the stack before, and
that is the cipher of FIPS 197 (`aes128_fips197`).
-/

namespace UdsIsoTp.Crypto.Memory

/-- `Aes128Context` -/
structure Aes128Context where
  roundKeys : Buf

/-- `&b[off]` -/
def addressOf (b : Buf) (off : Nat) : Buf := fun i => b (off + i)

/-- `xtime`, in 32 bits and cut to a byte at the end. -/
def xtime (value : UInt8) : UInt8 :=
  let wideValue := value.toUInt32
  ((wideValue <<< 1) ^^^ (((wideValue >>> 7) &&& 1) * 0x1B)).toUInt8

/-- `add_round_key`, in place. -/
def addRoundKey (state roundKey : Buf) : Buf := state.each 16 fun i value => value ^^^ roundKey i

/-- `sub_bytes`, in place. -/
def subBytes (state : Buf) : Buf := state.each 16 fun _ value => subByte value

/-- `shift_rows`; `stack` is what its array `copy` begins with. -/
def shiftRows (stack state : Buf) : Buf :=
  let copy := stack.each 16 fun i _ => state i
  let state := state.write 0 (copy 0)
  let state := state.write 1 (copy 5)
  let state := state.write 2 (copy 10)
  let state := state.write 3 (copy 15)
  let state := state.write 4 (copy 4)
  let state := state.write 5 (copy 9)
  let state := state.write 6 (copy 14)
  let state := state.write 7 (copy 3)
  let state := state.write 8 (copy 8)
  let state := state.write 9 (copy 13)
  let state := state.write 10 (copy 2)
  let state := state.write 11 (copy 7)
  let state := state.write 12 (copy 12)
  let state := state.write 13 (copy 1)
  let state := state.write 14 (copy 6)
  state.write 15 (copy 11)

/-- The body of the loop of `mix_columns`, with `value` the index of its pointer. -/
def mixColumnAt (state : Buf) (column : Nat) : Buf :=
  let value := column * 4
  let sum := state value ^^^ state (value + 1) ^^^ state (value + 2) ^^^ state (value + 3)
  let first := state value
  let state := state.write value
    (state value ^^^ (sum ^^^ xtime (state value ^^^ state (value + 1))))
  let state := state.write (value + 1)
    (state (value + 1) ^^^ (sum ^^^ xtime (state (value + 1) ^^^ state (value + 2))))
  let state := state.write (value + 2)
    (state (value + 2) ^^^ (sum ^^^ xtime (state (value + 2) ^^^ state (value + 3))))
  state.write (value + 3)
    (state (value + 3) ^^^ (sum ^^^ xtime (state (value + 3) ^^^ first)))

/-- `mix_columns`, in place, column after column. -/
def mixColumns (state : Buf) : Buf := (List.range 4).foldl mixColumnAt state

/-- The array `word` of `aes128_init`. -/
def roundWord (roundKeys : Buf) (previous round : Nat) : Buf :=
  let word := Buf.ofList [roundKeys (previous + 13), roundKeys (previous + 14),
    roundKeys (previous + 15), roundKeys (previous + 12)]
  let word := word.write 0 (subByte (word 0))
  let word := word.write 1 (subByte (word 1))
  let word := word.write 2 (subByte (word 2))
  let word := word.write 3 (subByte (word 3))
  word.write 0 (word 0 ^^^ rcon round)

/-- The body of the loop of `aes128_init`. -/
def expandRound (roundKeys : Buf) (round : Nat) : Buf :=
  let offset := round * 16
  let previous := (round - 1) * 16
  let word := roundWord roundKeys previous round
  let roundKeys := roundKeys.writeUp offset 0 4 fun index roundKeys =>
    roundKeys (previous + index) ^^^ word index
  roundKeys.writeUp offset 4 12 fun index roundKeys =>
    roundKeys (previous + index) ^^^ roundKeys (offset + index - 4)

/-- What `context` points at after the call; a pointer is `none` where it is `NULL`. -/
def aes128Init (context : Option Aes128Context) (key : Option Buf) : Option Aes128Context :=
  match context, key with
  | some context, some key =>
    let roundKeys := context.roundKeys.each 16 fun i _ => key i
    some ⟨(List.range' 1 10).foldl expandRound roundKeys⟩
  | context, _ => context

/-- The body of the loop of `aes128_encrypt_block`. -/
def encryptRound (stack : Buf) (context : Aes128Context) (state : Buf) (round : Nat) : Buf :=
  let state := subBytes state
  let state := shiftRows stack state
  let state := mixColumns state
  addRoundKey state (addressOf context.roundKeys (round * 16))

/-- What `output` points at after the call. -/
def aes128EncryptBlock (stack : Buf) (context : Option Aes128Context)
    (input output : Option Buf) : Option Buf :=
  match context, input, output with
  | some context, some input, some output =>
    let state := stack.each 16 fun i _ => input i
    let state := addRoundKey state context.roundKeys
    let state := (List.range' 1 9).foldl (encryptRound stack context) state
    let state := subBytes state
    let state := shiftRows stack state
    let state := addRoundKey state (addressOf context.roundKeys 160)
    some (output.each 16 fun i _ => state i)
  | _, _, output => output

/-! ## The block in an array -/

/-- The first sixteen bytes. -/
def blockOf (b : Buf) : Block := .ofFn fun i => b i

theorem addressOf_zero (b : Buf) : addressOf b 0 = b := funext fun i => congrArg b (Nat.zero_add i)

theorem blockOf_get (b : Buf) (i : Fin 16) : (blockOf b).get i = b i := List.Vector.get_ofFn ..

theorem blockOf_each (f : Nat → UInt8 → UInt8) (b : Buf) :
    blockOf (b.each 16 f) = .ofFn fun i => f i (b i) := by
  refine congrArg List.Vector.ofFn (funext fun i => ?_)
  rw [Buf.each_apply, if_pos i.isLt]

theorem blockOf_addRoundKey (state roundKey : Buf) : blockOf (addRoundKey state roundKey)
    = Crypto.addRoundKey (blockOf state) (blockOf roundKey) := by
  refine List.Vector.ext fun i => ?_
  rw [addRoundKey, blockOf_each, List.Vector.get_ofFn, Crypto.addRoundKey,
    List.Vector.zipWith_get, blockOf_get, blockOf_get]

theorem blockOf_subBytes (state : Buf) :
    blockOf (subBytes state) = Crypto.subBytes (blockOf state) := by
  refine List.Vector.ext fun i => ?_
  rw [subBytes, blockOf_each, List.Vector.get_ofFn, Crypto.subBytes, List.Vector.get_map,
    blockOf_get]

theorem blockOf_shiftRows (stack state : Buf) :
    blockOf (shiftRows stack state) = Crypto.shiftRows (blockOf state) := by
  refine List.Vector.ext fun i => ?_
  have hcopy : ∀ j : Fin 16, stack.each 16 (fun i _ => state i) j = state j := by
    intro j
    rw [Buf.each_apply, if_pos j.isLt]
  rw [blockOf_get, Crypto.shiftRows, List.Vector.get_map, blockOf_get, ← hcopy]
  fin_cases i <;> rfl

theorem xtime_eq : ∀ value, xtime value = Crypto.xtime value := forall_byte (by decide +kernel)

/-- A column of the state. -/
def columnIn (b : Buf) (column : Nat) : Column := .ofFn fun i => b (column * 4 + i)

theorem mixColumnAt_inside (state : Buf) (column : Nat) (i : Fin 4) :
    mixColumnAt state column (column * 4 + i) = (mixColumn (columnIn state column)).get i := by
  have hget : ∀ j : Fin 4, (columnIn state column).get j = state (column * 4 + j) :=
    fun j => List.Vector.get_ofFn ..
  rw [mixColumn_get, columnSum]
  simp only [hget, mixColumnAt, Buf.write_apply, xtime_eq]
  fin_cases i <;> simp

theorem mixColumnAt_outside {state : Buf} {column j : Nat}
    (h : j < column * 4 ∨ column * 4 + 4 ≤ j) : mixColumnAt state column j = state j := by
  unfold mixColumnAt
  rw [Buf.write_of_ne (by omega), Buf.write_of_ne (by omega), Buf.write_of_ne (by omega),
    Buf.write_of_ne (by omega)]

/-- After `n` turns the first `n` columns are mixed, and the others are as they were. -/
theorem mixColumns_loop (state : Buf) (n column : Nat) (i : Fin 4) :
    (List.range n).foldl mixColumnAt state (column * 4 + i)
      = if column < n then (mixColumn (columnIn state column)).get i
        else state (column * 4 + i) := by
  induction n generalizing column i with
  | zero => rfl
  | succ n ih =>
    rw [List.range_succ, List.foldl_append]
    show mixColumnAt _ n _ = _
    by_cases hcolumn : column = n
    · subst hcolumn
      have hkept : columnIn ((List.range column).foldl mixColumnAt state) column
          = columnIn state column := by
        refine congrArg List.Vector.ofFn (funext fun j => ?_)
        rw [ih, if_neg (Nat.lt_irrefl column)]
      rw [mixColumnAt_inside, hkept, if_pos (Nat.lt_succ_self column)]
    · rw [mixColumnAt_outside (by omega), ih]
      exact if_congr (by omega) rfl rfl

theorem blockOf_mixColumns (state : Buf) :
    blockOf (mixColumns state) = Crypto.mixColumns (blockOf state) := by
  refine List.Vector.ext fun i => ?_
  have hindex : (i : Nat) / 4 * 4 + i % 4 = i := Nat.div_add_mod' ..
  have hloop := mixColumns_loop state 4 (i / 4) ⟨i % 4, Nat.mod_lt _ (by decide)⟩
  have hcolumn : columnIn state (i / 4) = columnOf (blockOf state) ⟨i / 4, by omega⟩ := by
    refine List.Vector.ext fun j => ?_
    rw [columnIn, columnOf, List.Vector.get_ofFn, List.Vector.get_ofFn, blockOf_get, Nat.mul_comm]
  rw [if_pos (by omega), hcolumn] at hloop
  dsimp only at hloop
  rw [hindex] at hloop
  rw [blockOf_get, mixColumns, hloop, Crypto.mixColumns, List.Vector.get_ofFn]

/-! ## The key schedule in an array -/

/-- The next key byte by byte. -/
theorem nextRoundKey_get (roundKeys : Buf) (previous round : Nat) (i : Fin 16) :
    (nextRoundKey (blockOf (addressOf roundKeys previous)) round).get i
      = roundKeys (previous + i) ^^^ if i.val < 4 then roundWord roundKeys previous round i
        else (nextRoundKey (blockOf (addressOf roundKeys previous)) round).get
          ⟨i - 4, by omega⟩ := by
  fin_cases i <;> rfl

/-- A round writes only its own key. -/
theorem expandRound_outside (roundKeys : Buf) {n j : Nat}
    (h : j < (n + 1) * 16 ∨ (n + 2) * 16 ≤ j) : expandRound roundKeys (n + 1) j = roundKeys j := by
  unfold expandRound
  rw [Buf.writeUp_outside _ _ _ _ _ (by omega), Buf.writeUp_outside _ _ _ _ _ (by omega)]

theorem expandRound_inside (roundKeys : Buf) (n : Nat) (i : Fin 16) :
    expandRound roundKeys (n + 1) ((n + 1) * 16 + i) = roundKeys (n * 16 + i)
      ^^^ if i.val < 4 then roundWord roundKeys (n * 16) (n + 1) i
        else expandRound roundKeys (n + 1) ((n + 1) * 16 + (i - 4)) := by
  unfold expandRound
  rw [Nat.add_sub_cancel]
  split
  next hi =>
    rw [Buf.writeUp_outside _ _ _ _ _ (by omega),
      Buf.writeUp_inside _ (fun i c c' _ hsame => by rw [hsame _ (by omega)]) (by omega) (by omega),
      Buf.writeUp_outside _ _ _ _ _ (by omega)]
  next hi =>
    rw [Buf.writeUp_inside _ (fun i c c' _ hsame => by rw [hsame _ (by omega), hsame _ (by omega)])
      (by omega) (by omega), Buf.writeUp_outside _ _ _ _ _ (by omega),
      Buf.writeUp_outside _ _ _ _ _ (by omega), Nat.add_sub_assoc (by omega)]

/-- A round writes the next key. -/
theorem expandRound_next (roundKeys : Buf) (n : Nat) :
    blockOf (addressOf (expandRound roundKeys (n + 1)) ((n + 1) * 16))
      = nextRoundKey (blockOf (addressOf roundKeys (n * 16))) (n + 1) := by
  have hbyte : ∀ m (hm : m < 16), expandRound roundKeys (n + 1) ((n + 1) * 16 + m)
      = (nextRoundKey (blockOf (addressOf roundKeys (n * 16))) (n + 1)).get ⟨m, hm⟩ := by
    intro m hm
    induction m using Nat.strong_induction_on with
    | _ m ih =>
    have hinside := expandRound_inside roundKeys n ⟨m, hm⟩
    dsimp only at hinside
    rw [hinside, nextRoundKey_get]
    refine congrArg (roundKeys (n * 16 + m) ^^^ ·) ?_
    by_cases hfirst : m < 4
    · rw [if_pos hfirst, if_pos hfirst]
    · rw [if_neg hfirst, if_neg hfirst]
      exact ih (m - 4) (by omega) (by omega)
  exact List.Vector.ext fun i => by rw [blockOf_get]; exact hbyte i i.isLt

/-- After `n` rounds the first `n + 1` keys are there. -/
theorem expandRound_loop (roundKeys : Buf) (n : Nat) {round : Nat} (hround : round ≤ n) :
    blockOf (addressOf ((List.range' 1 n).foldl expandRound roundKeys) (round * 16))
      = roundKeyAt (blockOf roundKeys) round := by
  induction n generalizing round with
  | zero =>
    obtain rfl := Nat.le_zero.mp hround
    rw [Nat.zero_mul, addressOf_zero]
    rfl
  | succ n ih =>
    rw [List.range'_concat, List.foldl_append, List.foldl_cons, List.foldl_nil, Nat.one_mul,
      Nat.add_comm 1 n]
    by_cases hlast : round = n + 1
    · subst hlast
      rw [expandRound_next, ih (Nat.le_refl n)]
      rfl
    · rw [← ih (by omega)]
      refine congrArg List.Vector.ofFn (funext fun i => ?_)
      exact expandRound_outside _ (by omega)

/-! ## The cipher in memory -/

theorem aes128Init_roundKeys {context context' : Aes128Context} {key : Buf}
    (hinit : aes128Init (some context) (some key) = some context') {round : Nat}
    (hround : round ≤ 10) :
    blockOf (addressOf context'.roundKeys (round * 16)) = roundKeyAt (blockOf key) round := by
  obtain rfl := Option.some.inj hinit
  rw [expandRound_loop _ 10 hround, blockOf_each]
  rfl

theorem blockOf_encryptRound {context context' : Aes128Context} {key : Buf}
    (hinit : aes128Init (some context) (some key) = some context') (stack state : Buf) {round : Nat}
    (hround : round ≤ 10) : blockOf (encryptRound stack context' state round)
      = Crypto.addRoundKey (Crypto.mixColumns (Crypto.shiftRows (Crypto.subBytes (blockOf state))))
        ((Crypto.aes128Init (blockOf key)).roundKeys.getD round zeroBlock) := by
  unfold encryptRound
  rw [blockOf_addRoundKey, blockOf_mixColumns, blockOf_shiftRows, blockOf_subBytes,
    aes128Init_roundKeys hinit hround, Crypto.aes128Init_roundKeys _ hround]

/-- The array of `aes128_encrypt_block` ends up with the block that the cipher makes. -/
theorem blockOf_encrypt {context context' : Aes128Context} {key : Buf}
    (hinit : aes128Init (some context) (some key) = some context') (stack input output : Buf) :
    ∃ output', aes128EncryptBlock stack (some context') (some input) (some output) = some output'
      ∧ blockOf output'
        = Crypto.aes128EncryptBlock (Crypto.aes128Init (blockOf key)) (blockOf input) := by
  have hrounds : ∀ (rounds : List Nat) (state : Buf), (∀ round ∈ rounds, round ≤ 10) →
      blockOf (rounds.foldl (encryptRound stack context') state)
        = rounds.foldl (fun state round => Crypto.addRoundKey
            (Crypto.mixColumns (Crypto.shiftRows (Crypto.subBytes state)))
            ((Crypto.aes128Init (blockOf key)).roundKeys.getD round zeroBlock))
          (blockOf state) := by
    intro rounds
    induction rounds with
    | nil => exact fun _ _ => rfl
    | cons round rounds ih =>
      intro state h
      obtain ⟨hround, hrest⟩ := List.forall_mem_cons.mp h
      rw [List.foldl_cons, List.foldl_cons, ih _ hrest, blockOf_encryptRound hinit _ _ hround]
  refine ⟨_, rfl, ?_⟩
  rw [blockOf_each]
  show blockOf (addRoundKey (shiftRows stack (subBytes _)) _) = _
  have hfirst := aes128Init_roundKeys hinit (Nat.zero_le 10)
  rw [Nat.zero_mul, addressOf_zero, ← Crypto.aes128Init_roundKeys _ (Nat.zero_le 10)] at hfirst
  have hlast := aes128Init_roundKeys hinit (Nat.le_refl 10)
  rw [← Crypto.aes128Init_roundKeys _ (Nat.le_refl 10)] at hlast
  rw [blockOf_addRoundKey, blockOf_shiftRows, blockOf_subBytes, hrounds _ _ (by decide),
    blockOf_addRoundKey, blockOf_each, hfirst, hlast]
  rfl

/-- AES-128 is that of FIPS 197: the block, every word of the key schedule, and the columns. -/
theorem aes128_fips197 (stack : Buf) (context : Aes128Context) (key input output : Buf) :
    ∃ context' output', aes128Init (some context) (some key) = some context'
      ∧ aes128EncryptBlock stack (some context') (some input) (some output) = some output'
      ∧ blockOf output' = Rijndael.aes128 (blockOf key) (blockOf input)
      ∧ (∀ n < 44, ∀ r : Fin 4, Rijndael.toGf (context'.roundKeys (4 * n + r))
        = Rijndael.keyExpansion (Rijndael.keyWords (blockOf key)) n r)
      ∧ ∀ state, Rijndael.stateOf (blockOf (mixColumns state))
        = Rijndael.mixMatrix * Rijndael.stateOf (blockOf state) := by
  obtain ⟨context', hinit⟩ : ∃ context', aes128Init (some context) (some key) = some context' :=
    ⟨_, rfl⟩
  obtain ⟨output', hencrypt, hblock⟩ := blockOf_encrypt hinit stack input output
  refine ⟨context', output', hinit, hencrypt, hblock.trans (aes128_eq _ _), ?_, ?_⟩
  · intro n hn r
    rw [keyExpansion_eq, ← aes128Init_roundKeys hinit (by omega : n / 4 ≤ 10)]
    show _ = Rijndael.toGf ((blockOf _).get _)
    rw [blockOf_get]
    exact congrArg (fun i => Rijndael.toGf (context'.roundKeys i)) (by dsimp only; omega)
  · intro state
    rw [blockOf_mixColumns, stateOf_mixColumns]
    rfl

end UdsIsoTp.Crypto.Memory
