import UdsIsoTp.Crypto.AesMemory
import UdsIsoTp.Crypto.CmacRfc

/-!
# AES-CMAC in memory

`aes_cmac.c` on arrays, with `size_t` of 32 bits. A call that would read beyond the message, or
write beyond one of its arrays of sixteen bytes, has no value; for every message of up to
`2 ^ 32 - 16` bytes there is one, and it is the tag of RFC 4493 (`aes_cmac_rfc4493`). The arrays
are cleared before the function returns and are gone then, so that this is left out.
-/

namespace UdsIsoTp.Crypto.Memory

/-- `xor_block`, in place. -/
def xorBlock (destination source : Buf) : Buf :=
  destination.each 16 fun index value => value ^^^ source index

/-- One turn of the loop of `left_shift_block`. -/
def leftShiftAt (input : Buf → Buf) (s : Buf × UInt8) (index : Nat) : Buf × UInt8 :=
  let (output, carry) := s
  let value := input output index
  (output.write index ((value <<< 1) ||| carry), (value >>> 7) &&& 1)

/-- `left_shift_block`; `input` is what it points at while `output` holds what it does: an array of
its own, or `output` itself. -/
def leftShiftBlock (input : Buf → Buf) (output : Buf) : Buf :=
  let (output, carry) := (List.range 16).reverse.foldl (leftShiftAt input) (output, 0)
  if carry ≠ 0 then output.write 15 (output 15 ^^^ 0x87) else output

/-- `uint8_t b[16] = {0U};` -/
def zeroArray (stack : Buf) : Buf := stack.each 16 fun _ _ => 0

/-- `generate_subkey`, on what the stack holds. -/
def generateSubkey (stack : Buf) (aes : Aes128Context) (output : Buf) (second : Bool) :
    Option Buf := do
  let zero := zeroArray stack
  let intermediate ← aes128EncryptBlock stack (some aes) (some zero) (some stack)
  let output := leftShiftBlock (fun _ => intermediate) output
  return if second then leftShiftBlock id output else output

/-- `memcpy(destination, &message[offset], n);` -/
def copyFrom (message : Option (List UInt8)) (offset n : UInt32) (destination : Buf) :
    Option Buf := do
  let message ← message
  if offset.toNat + n.toNat ≤ message.length ∧ n ≤ 16 then
    some (destination.copy 0 (Buf.ofList message) offset.toNat n.toNat)
  else none

/-- The body of the loop of `aes_cmac_128`, on its arrays `block` and `state`. -/
def chainBlock (stack : Buf) (aes : Aes128Context) (message : Option (List UInt8))
    (arrays : Buf × Buf) (index : Nat) : Option (Buf × Buf) := do
  let (block, state) := arrays
  let block ← copyFrom message (UInt32.ofNat index * 16) 16 block
  let block := xorBlock block state
  let state ← aes128EncryptBlock stack (some aes) (some block) (some state)
  return (block, state)

/-- The array `last`, masked with its subkey. -/
def maskedLast (stack : Buf) (message : Option (List UInt8)) (messageLength lastOffset : UInt32)
    (k1 k2 : Buf) : Option Buf := do
  let last := zeroArray stack
  let remaining := if lastOffset < messageLength then messageLength - lastOffset else 0
  if messageLength ≠ 0 ∧ remaining = 16 then
    let last ← copyFrom message lastOffset 16 last
    return xorBlock last k1
  else
    let last ← (if remaining ≠ 0 then copyFrom message lastOffset remaining last else some last)
    if remaining < 16 then some (xorBlock (last.write remaining.toNat 0x80) k2) else none

/-- What `aes_cmac_128` returns, and what `mac` points at then. The message is what lies behind its
pointer; `stack` is what every array that is not set begins with. -/
def aesCmac128 (stack : Buf) (key : Option Buf) (message : Option (List UInt8))
    (messageLength : UInt32) (mac : Option Buf) : Option (Bool × Option Buf) :=
  if key.isNone ∨ mac.isNone ∨ (message.isNone ∧ messageLength ≠ 0) then some (false, mac)
  else do
    let aes ← aes128Init (some ⟨stack⟩) key
    let k1 ← generateSubkey stack aes stack false
    let k2 ← generateSubkey stack aes stack true
    let blockCount := if messageLength = 0 then 1 else (messageLength + 15) / 16
    let completeCount := blockCount - 1
    let (_, state) ← (List.range completeCount.toNat).foldlM (chainBlock stack aes message)
      (zeroArray stack, zeroArray stack)
    let last ← maskedLast stack message messageLength (completeCount * 16) k1 k2
    let last := xorBlock last state
    let mac ← aes128EncryptBlock stack (some aes) (some last) mac
    return (true, some mac)

/-! ## The block in an array -/

theorem blockOf_xorBlock (destination source : Buf) : blockOf (xorBlock destination source)
    = Crypto.xorBlock (blockOf destination) (blockOf source) :=
  blockOf_addRoundKey destination source

theorem blockOf_zeroArray (stack : Buf) : blockOf (zeroArray stack) = zeroBlock := by
  rw [zeroArray, blockOf_each]
  decide

theorem toList_blockOf (b : Buf) : (blockOf b).toList = b.slice 0 16 := by
  rw [blockOf, List.Vector.toList_ofFn]
  refine List.ext_getElem (by simp) fun i _ _ => ?_
  rw [List.getElem_ofFn, Buf.getElem_slice, Nat.zero_add]

/-- The loop of `left_shift_block`: it makes of the bytes it has come down to what `leftShift`
makes of them, if each byte is read before anything is written there. -/
theorem leftShift_loop {input : Buf → Buf} {bytes output : Buf}
    (hreads : ∀ c index, (∀ j ≤ index, c j = output j) → input c index = bytes index)
    (start n : Nat) {s : Buf × UInt8}
    (hs : s = (List.range' start n).reverse.foldl (leftShiftAt input) (output, 0)) :
    s.1.slice start n = (leftShift (bytes.slice start n)).2
      ∧ s.2 = (leftShift (bytes.slice start n)).1 ∧ ∀ j < start, s.1 j = output j := by
  induction n generalizing start s with
  | zero =>
    subst hs
    exact ⟨rfl, rfl, fun _ _ => rfl⟩
  | succ n ih =>
    rw [List.range'_succ, List.reverse_cons, List.foldl_append, List.foldl_cons,
      List.foldl_nil] at hs
    obtain ⟨hslice, hcarry, hkept⟩ := ih (start + 1) rfl
    generalize (List.range' (start + 1) n).reverse.foldl (leftShiftAt input) (output, 0) = t
      at hs hslice hcarry hkept
    have hvalue : input t.1 start = bytes start :=
      hreads _ _ fun j hj => hkept j (Nat.lt_succ_of_le hj)
    have hnext : s = (t.1.write start ((bytes start <<< 1) ||| t.2), (bytes start >>> 7) &&& 1) := by
      rw [hs, leftShiftAt, hvalue]
    have hrest : (t.1.write start ((bytes start <<< 1) ||| t.2)).slice (start + 1) n
        = t.1.slice (start + 1) n := Buf.slice_congr fun i _ => Buf.write_of_ne (by omega)
    subst hnext
    rw [Buf.slice_succ, Buf.slice_succ]
    dsimp only
    rw [Buf.write_same, hrest, hslice, hcarry]
    refine ⟨rfl, rfl, fun j hj => ?_⟩
    rw [Buf.write_of_ne (by omega)]
    exact hkept j (by omega)

theorem blockOf_write_last (b : Buf) (v : UInt8) :
    blockOf (b.write 15 v) = (blockOf b).set (Fin.last 15) v := by
  refine List.Vector.ext fun i => ?_
  rw [blockOf_get]
  by_cases hlast : Fin.last 15 = i
  · subst hlast
    rw [List.Vector.get_set_same]
    exact Buf.write_same b 15 v
  · have hne : (i : Nat) ≠ 15 := fun h => hlast (Fin.ext h.symm)
    rw [List.Vector.get_set_of_ne hlast, blockOf_get, Buf.write_of_ne hne]

theorem blockOf_leftShiftBlock {input : Buf → Buf} {bytes output : Buf}
    (hreads : ∀ c index, (∀ j ≤ index, c j = output j) → input c index = bytes index) :
    blockOf (leftShiftBlock input output) = Crypto.leftShiftBlock (blockOf bytes) := by
  obtain ⟨hslice, hcarry, -⟩ := leftShift_loop hreads 0 16 rfl
  rw [← toList_blockOf] at hslice hcarry
  unfold leftShiftBlock
  rw [List.range_eq_range']
  generalize (List.range' 0 16).reverse.foldl (leftShiftAt input) (output, 0) = s
    at hslice hcarry
  have hshifted : blockOf s.1 = shiftedBlock (blockOf bytes) :=
    List.Vector.eq _ _ ((toList_blockOf s.1).trans hslice)
  rw [leftShiftBlock_eq, ← hcarry, ← hshifted]
  dsimp only
  split
  · rw [blockOf_write_last, xorBlock_rbBlock, blockOf_get]
    rfl
  · rfl

/-- The subkey is in `output`, also when it is shifted there a second time. -/
theorem generateSubkey_spec {context aes : Aes128Context} {key : Buf}
    (hinit : aes128Init (some context) (some key) = some aes) (stack output : Buf)
    (second : Bool) : ∃ output', generateSubkey stack aes output second = some output'
      ∧ blockOf output' = Crypto.generateSubkey (Crypto.aes128Init (blockOf key)) second := by
  obtain ⟨intermediate, hencrypt, hblock⟩ := blockOf_encrypt hinit stack (zeroArray stack) stack
  rw [blockOf_zeroArray] at hblock
  have hfirst : blockOf (leftShiftBlock (fun _ => intermediate) output)
      = Crypto.leftShiftBlock (blockOf intermediate) := blockOf_leftShiftBlock fun _ _ _ => rfl
  rw [hblock] at hfirst
  have hsecond (b : Buf) : blockOf (leftShiftBlock id b) = Crypto.leftShiftBlock (blockOf b) :=
    blockOf_leftShiftBlock fun _ index h => h index (Nat.le_refl index)
  unfold generateSubkey Crypto.generateSubkey
  dsimp only
  rw [hencrypt]
  refine ⟨_, rfl, ?_⟩
  split
  · rw [hsecond, hfirst]
  · exact hfirst

/-! ## The message -/

/-- What is copied of the message, if it is all there. -/
theorem copyFrom_spec {message : List UInt8} {offset n : UInt32} {o k : Nat}
    (hoffset : offset.toNat = o) (hn : n.toNat = k) (h : o + k ≤ message.length) (hk : k ≤ 16)
    (behind : List UInt8) (destination : Buf) :
    ∃ destination', copyFrom (some (message ++ behind)) offset n destination = some destination'
      ∧ ∀ i, destination' i = if i < k then message.getD (o + i) 0 else destination i := by
  subst hoffset hn
  have hall : offset.toNat + n.toNat ≤ (message ++ behind).length ∧ n ≤ 16 := by
    rw [List.length_append]
    exact ⟨by omega, hk⟩
  refine ⟨_, if_pos hall, fun i => ?_⟩
  split
  next hi =>
    have hinside : destination.copy 0 (Buf.ofList (message ++ behind)) offset.toNat n.toNat (0 + i)
        = (message ++ behind).getD (offset.toNat + i) 0 := Buf.copy_inside hi
    rw [Nat.zero_add] at hinside
    rw [hinside]
    exact List.getD_append _ _ _ _ (by omega)
  next hi => exact Buf.copy_outside (Or.inr (by omega))

theorem copyFrom_block {message : List UInt8} {offset : UInt32} {o : Nat}
    (hoffset : offset.toNat = o) (h : o + 16 ≤ message.length) (behind : List UInt8)
    (destination : Buf) :
    ∃ destination', copyFrom (some (message ++ behind)) offset 16 destination = some destination'
      ∧ blockOf destination' = blockAt message o := by
  have hsixteen : (16 : UInt32).toNat = 16 := rfl
  obtain ⟨copied, hcopy, hbytes⟩ :=
    copyFrom_spec hoffset hsixteen h (Nat.le_refl 16) behind destination
  refine ⟨copied, hcopy, congrArg List.Vector.ofFn (funext fun i => ?_)⟩
  rw [hbytes, if_pos i.isLt]

section Message

variable {context aes : Aes128Context} {key : Buf}
  (hinit : aes128Init (some context) (some key) = some aes)

include hinit

/-- After `count` turns the chain has come as far as that of the blocks. -/
theorem chainBlock_loop (stack : Buf) {message : List UInt8} (behind : List UInt8) {count : Nat}
    (hcount : count * 16 ≤ message.length) (hlength : message.length < 2 ^ 32) :
    ∃ block state, (List.range count).foldlM (chainBlock stack aes (some (message ++ behind)))
        (zeroArray stack, zeroArray stack) = some (block, state)
      ∧ blockOf state = (List.range count).foldl (fun state index =>
        Crypto.aes128EncryptBlock (Crypto.aes128Init (blockOf key))
          (Crypto.xorBlock (blockAt message (index * 16)) state)) zeroBlock := by
  induction count with
  | zero => exact ⟨_, _, rfl, blockOf_zeroArray stack⟩
  | succ count ih =>
    obtain ⟨block, state, hloop, hstate⟩ := ih (by omega)
    have hoffset : (UInt32.ofNat count * 16).toNat = count * 16 := by
      rw [UInt32.toNat_mul, UInt32.toNat_ofNat']
      show count % 2 ^ 32 * 16 % 2 ^ 32 = count * 16
      omega
    have hinside : count * 16 + 16 ≤ message.length := by omega
    obtain ⟨copied, hcopy, hblock⟩ := copyFrom_block hoffset hinside behind block
    obtain ⟨output, hencrypt, hout⟩ := blockOf_encrypt hinit stack (xorBlock copied state) state
    have hturn : chainBlock stack aes (some (message ++ behind)) (block, state) count
        = some (xorBlock copied state, output) := by
      refine Option.bind_eq_some_iff.mpr ⟨copied, hcopy, ?_⟩
      exact Option.bind_eq_some_iff.mpr ⟨output, hencrypt, rfl⟩
    refine ⟨xorBlock copied state, output, ?_, ?_⟩
    · rw [List.range_succ, List.foldlM_append]
      refine Option.bind_eq_some_iff.mpr ⟨(block, state), hloop, ?_⟩
      exact Option.bind_eq_some_iff.mpr ⟨_, hturn, rfl⟩
    · rw [List.range_succ, List.foldl_append, List.foldl_cons, List.foldl_nil, ← hstate, hout,
        blockOf_xorBlock, hblock]

end Message

theorem remaining_toNat (messageLength lastOffset : UInt32) :
    (if lastOffset < messageLength then messageLength - lastOffset else 0).toNat
      = messageLength.toNat - lastOffset.toNat := by
  split
  next hlt => exact UInt32.toNat_sub_of_le _ _ (UInt32.le_of_lt hlt)
  next hge => exact (Nat.sub_eq_zero_of_le (UInt32.not_lt.mp hge)).symm

/-- The rest of a message that does not fill a block, with the byte that marks its end. -/
theorem copyRest_spec (stack : Buf) {message : List UInt8} (behind : List UInt8)
    {lastOffset remaining : UInt32} {o : Nat} (hoffset : lastOffset.toNat = o)
    (hremaining : remaining.toNat = message.length - o) (hstart : o ≤ message.length)
    (hshort : message.length - o < 16) :
    ∃ copied, (if remaining ≠ 0 then
          copyFrom (some (message ++ behind)) lastOffset remaining (zeroArray stack)
        else some (zeroArray stack)) = some copied
      ∧ blockOf (copied.write remaining.toNat 0x80)
        = paddedBlock message o (message.length - o) := by
  obtain ⟨copied, hcopy, hbytes⟩ : ∃ copied,
      (if remaining ≠ 0 then
          copyFrom (some (message ++ behind)) lastOffset remaining (zeroArray stack)
        else some (zeroArray stack)) = some copied
      ∧ ∀ i, copied i
        = if i < message.length - o then message.getD (o + i) 0 else zeroArray stack i := by
    by_cases hzero : remaining = 0
    · have hnone : message.length - o = 0 := by
        rw [← hremaining, hzero]
        rfl
      refine ⟨zeroArray stack, if_neg (not_not.mpr hzero), fun i => ?_⟩
      rw [hnone, if_neg (Nat.not_lt_zero i)]
    · rw [if_pos hzero]
      exact copyFrom_spec hoffset hremaining (by omega) (by omega) behind (zeroArray stack)
  refine ⟨copied, hcopy, congrArg List.Vector.ofFn (funext fun i => ?_)⟩
  have hzero : zeroArray stack i = 0 := by rw [zeroArray, Buf.each_apply, if_pos i.isLt]
  rw [Buf.write_apply, hbytes, hremaining, hzero]
  by_cases hmark : (i : Nat) = message.length - o
  · rw [if_pos hmark, if_neg (by omega), if_pos hmark]
  · rw [if_neg hmark, if_neg hmark]

/-- The last block, with what fills it up and the subkey that belongs to it. -/
theorem maskedLast_spec (stack k1 k2 : Buf) {message : List UInt8} (behind : List UInt8)
    {messageLength lastOffset : UInt32} {o : Nat} (hlength : messageLength.toNat = message.length)
    (hoffset : lastOffset.toNat = o) (hstart : o ≤ message.length)
    (hrest : message.length - o ≤ 16) :
    ∃ last, maskedLast stack (some (message ++ behind)) messageLength lastOffset k1 k2 = some last
      ∧ blockOf last
        = if message.length ≠ 0 ∧ message.length - o = 16
          then Crypto.xorBlock (blockAt message o) (blockOf k1)
          else Crypto.xorBlock (paddedBlock message o (message.length - o)) (blockOf k2) := by
  have hremaining := remaining_toNat messageLength lastOffset
  unfold maskedLast
  dsimp only
  generalize (if lastOffset < messageLength then messageLength - lastOffset else 0) = remaining
    at hremaining ⊢
  rw [hlength, hoffset] at hremaining
  have hfull : messageLength ≠ 0 ∧ remaining = 16
      ↔ message.length ≠ 0 ∧ message.length - o = 16 := by
    rw [← hremaining, ← hlength, Ne, ← UInt32.toNat_inj, ← UInt32.toNat_inj]
    rfl
  by_cases hwhole : message.length ≠ 0 ∧ message.length - o = 16
  · obtain ⟨copied, hcopy, hblock⟩ :=
      copyFrom_block hoffset (by omega : o + 16 ≤ message.length) behind (zeroArray stack)
    refine ⟨xorBlock copied k1, ?_, ?_⟩
    · rw [if_pos (hfull.mpr hwhole), hcopy]
      rfl
    · rw [if_pos hwhole, blockOf_xorBlock, hblock]
  · have hshort : message.length - o < 16 := by omega
    obtain ⟨copied, hcopy, hpadded⟩ := copyRest_spec stack behind hoffset hremaining hstart hshort
    have hroom : remaining < 16 := by
      show remaining.toNat < 16
      omega
    refine ⟨xorBlock (copied.write remaining.toNat 0x80) k2, ?_, ?_⟩
    · rw [if_neg (mt hfull.mp hwhole), hcopy]
      exact if_pos hroom
    · rw [if_neg hwhole, blockOf_xorBlock, hpadded]

/-! ## The tag -/

/-- The number of blocks before the last one, in 32 bits. -/
theorem completeCount_toNat {message : List UInt8} {messageLength : UInt32}
    (hlength : messageLength.toNat = message.length) (hbound : message.length ≤ 2 ^ 32 - 16) :
    ((if messageLength = 0 then 1 else (messageLength + 15) / 16) - 1).toNat
      = (if message.length = 0 then 1 else (message.length + 15) / 16) - 1 := by
  have hzero : messageLength = 0 ↔ message.length = 0 := by
    rw [← UInt32.toNat_inj, hlength]
    rfl
  have hdiv : ((messageLength + 15) / 16).toNat = (message.length + 15) / 16 := by
    rw [UInt32.toNat_div, UInt32.toNat_add, hlength]
    show (message.length + 15) % 2 ^ 32 / 16 = _
    omega
  rw [if_congr hzero rfl rfl]
  split
  next => rfl
  next hpos =>
    have hone : (1 : UInt32) ≤ (messageLength + 15) / 16 := by
      show 1 ≤ ((messageLength + 15) / 16).toNat
      omega
    rw [UInt32.toNat_sub_of_le _ _ hone, hdiv]
    rfl

/-- What `aes_cmac_128` leaves in `mac` is the tag, whatever lies behind the message. -/
theorem aesCmac128_spec (stack key mac : Buf) {message : List UInt8} (behind : List UInt8)
    (hbound : message.length ≤ 2 ^ 32 - 16) :
    ∃ mac', aesCmac128 stack (some key) (some (message ++ behind))
        (UInt32.ofNat message.length) (some mac) = some (true, some mac')
      ∧ blockOf mac' = Crypto.aesCmac128 (blockOf key) message := by
  have hlength : (UInt32.ofNat message.length).toNat = message.length := by
    rw [UInt32.toNat_ofNat']
    omega
  have hcomplete := completeCount_toNat hlength hbound
  obtain ⟨aes, hinit⟩ : ∃ aes, aes128Init (some ⟨stack⟩) (some key) = some aes := ⟨_, rfl⟩
  obtain ⟨k1, hk1, hfirst⟩ := generateSubkey_spec hinit stack stack false
  obtain ⟨k2, hk2, hsecond⟩ := generateSubkey_spec hinit stack stack true
  obtain ⟨count, hcount⟩ : ∃ count, count
      = (if message.length = 0 then 1 else (message.length + 15) / 16) - 1 := ⟨_, rfl⟩
  have hstart : count * 16 ≤ message.length ∧ message.length - count * 16 ≤ 16 := by
    split at hcount <;> omega
  obtain ⟨block, state, hloop, hstate⟩ :=
    chainBlock_loop hinit stack behind hstart.1 (by omega)
  rw [← hcount] at hcomplete
  have hoffset : (((if UInt32.ofNat message.length = 0 then 1
      else (UInt32.ofNat message.length + 15) / 16) - 1) * 16).toNat = count * 16 := by
    rw [UInt32.toNat_mul, hcomplete]
    show count * 16 % 2 ^ 32 = count * 16
    omega
  obtain ⟨last, hmasked, hlast⟩ :=
    maskedLast_spec stack k1 k2 behind hlength hoffset hstart.1 hstart.2
  obtain ⟨mac', hencrypt, hmac⟩ := blockOf_encrypt hinit stack (xorBlock last state) mac
  refine ⟨mac', ?_, ?_⟩
  · unfold aesCmac128
    rw [if_neg (by simp)]
    refine Option.bind_eq_some_iff.mpr ⟨aes, hinit, ?_⟩
    refine Option.bind_eq_some_iff.mpr ⟨k1, hk1, ?_⟩
    refine Option.bind_eq_some_iff.mpr ⟨k2, hk2, ?_⟩
    refine Option.bind_eq_some_iff.mpr ⟨(block, state), ?_, ?_⟩
    · rw [hcomplete]
      exact hloop
    refine Option.bind_eq_some_iff.mpr ⟨last, hmasked, ?_⟩
    exact Option.bind_eq_some_iff.mpr ⟨mac', hencrypt, rfl⟩
  · rw [hmac, blockOf_xorBlock, hlast, hstate, hfirst, hsecond]
    unfold Crypto.aesCmac128
    dsimp only
    rw [← hcount]

/-- No message is the empty one. -/
theorem aesCmac128_null (stack key mac : Buf) :
    aesCmac128 stack (some key) none 0 (some mac)
      = aesCmac128 stack (some key) (some []) 0 (some mac) := by
  unfold aesCmac128
  simp [maskedLast]

/-- For every key and every message of up to `2 ^ 32 - 16` bytes, `aes_cmac_128` returns true and
leaves the tag of RFC 4493 in `mac`. What lies behind the message is not read: the message may
end where its memory does, and the pointer may be `NULL` where it is empty. -/
theorem aes_cmac_rfc4493 (stack key mac : Buf) {message behind : List UInt8}
    {pointer : Option (List UInt8)} (hbound : message.length ≤ 2 ^ 32 - 16)
    (hpointer : pointer = some (message ++ behind) ∨ pointer = none ∧ message = []) :
    ∃ mac', aesCmac128 stack (some key) pointer (UInt32.ofNat message.length) (some mac)
        = some (true, some mac')
      ∧ blockOf mac' = ofWord (Cmac.tag (aesWord (blockOf key)) message) := by
  have htag : ofWord (Cmac.tag (aesWord (blockOf key)) message)
      = Crypto.aesCmac128 (blockOf key) message := by
    rw [← aesCmac128_eq, ofWord_wordOf]
  rw [htag]
  rcases hpointer with rfl | ⟨rfl, rfl⟩
  · exact aesCmac128_spec stack key mac behind hbound
  · obtain ⟨mac', hcall, hmac⟩ := aesCmac128_spec stack key mac [] hbound
    exact ⟨mac', (aesCmac128_null stack key mac).trans hcall, hmac⟩

theorem aes_cmac_rfc4493_forty : ∃ mac',
    aesCmac128 (fun _ => 0xFF) (some fun i => UInt8.ofNat i) (some (List.replicate 40 0x6B)) 40
        (some fun _ => 0) = some (true, some mac')
      ∧ blockOf mac' = ofWord (Cmac.tag (aesWord (blockOf fun i => UInt8.ofNat i))
        (List.replicate 40 0x6B)) := by
  have hbound : (List.replicate 40 (0x6B : UInt8)).length ≤ 2 ^ 32 - 16 := by decide
  exact aes_cmac_rfc4493 _ _ _ hbound (Or.inl (congrArg some (List.append_nil _).symm))

end UdsIsoTp.Crypto.Memory
