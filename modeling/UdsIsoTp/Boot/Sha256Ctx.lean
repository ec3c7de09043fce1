import UdsIsoTp.Boot.Sha256
import UdsIsoTp.Lib.Buffer

/-!
# The context of SHA-256

`Sha256Ctx` as `sha256.c` has it: the buffer is an array of 64 bytes that is written through an
index, and the index is not kept but found again in the low bits of the count. The bytes below
the index are the ones of the block not yet full (`Sha256Ctx.taken`), and each function does to
them what the functions of the last module do, whatever the rest of the array holds.
-/

namespace UdsIsoTp.Boot

/-- `Sha256Ctx`, with its buffer as it lies in memory. -/
structure Sha256Ctx where
  state : Sha256.Words
  count : UInt64
  buffer : Buf

namespace Sha256Ctx

open Sha256 (Words transform wordBytes)

/-- `sha256_init`, which leaves the buffer as it finds it. -/
def init (ctx : Sha256Ctx) : Sha256Ctx := { ctx with state := Sha256.init.state, count := 0 }

/-- The body of the loop of `sha256_update`. -/
def takeByte (s : Words × Buf × Nat) (byte : UInt8) : Words × Buf × Nat :=
  let buffer := s.2.1.write s.2.2 byte
  if s.2.2 + 1 = 64 then (transform s.1 (buffer.slice 0 64), buffer, 0)
  else (s.1, buffer, s.2.2 + 1)

/-- `buffer_idx` -/
def bufferIdx (ctx : Sha256Ctx) : Nat := (ctx.count &&& 0x3F).toNat

/-- `sha256_update` -/
def update (ctx : Sha256Ctx) (data : List UInt8) : Sha256Ctx :=
  if data.length = 0 then ctx
  else
    let out := data.foldl takeByte (ctx.state, ctx.buffer, ctx.bufferIdx)
    ⟨out.1, ctx.count + UInt64.ofNat data.length, out.2.1⟩

/-- `memset(&buffer[start], 0, n)` -/
def zeroFill (buffer : Buf) (start n : Nat) : Buf := buffer.copy start (fun _ => 0) 0 n

/-- The loop that writes the number of bits to the end of the block. -/
def putLength (totalBits : UInt64) (buffer : Buf) : Buf :=
  (List.range 8).foldl
    (fun buffer i => buffer.write (56 + i) (totalBits >>> (56 - UInt64.ofNat i * 8)).toUInt8)
    buffer

/-- The loop that writes the digest. -/
def digestOf (state : Words) : List UInt8 :=
  wordBytes state.a ++ wordBytes state.b ++ wordBytes state.c ++ wordBytes state.d
    ++ wordBytes state.e ++ wordBytes state.f ++ wordBytes state.g ++ wordBytes state.h

/-- `sha256_final` -/
def final (ctx : Sha256Ctx) : List UInt8 :=
  let totalBits := ctx.count * 8
  let buffer := ctx.buffer.write ctx.bufferIdx 0x80
  let idx := ctx.bufferIdx + 1
  let (state, buffer, idx) :=
    if 56 < idx then
      let buffer := zeroFill buffer idx (64 - idx)
      (transform ctx.state (buffer.slice 0 64), buffer, 0)
    else (ctx.state, buffer, idx)
  let buffer := putLength totalBits (zeroFill buffer idx (56 - idx))
  digestOf (transform state (buffer.slice 0 64))

/-- `sha256_hash`, on a context of uninitialised memory. -/
def hash (memory : Sha256Ctx) (data : List UInt8) : List UInt8 :=
  ((init memory).update data).final

/-! ## The bytes below the index -/

/-- What the context has taken, as far as it still matters. -/
def taken (ctx : Sha256Ctx) : Sha256.Ctx :=
  ⟨ctx.state, ctx.count, ctx.buffer.slice 0 ctx.bufferIdx⟩

theorem taken_init (ctx : Sha256Ctx) : ctx.init.taken = Sha256.init := by
  have hstart : ctx.init.bufferIdx = 0 := by
    show ((0 : UInt64) &&& 0x3F).toNat = 0
    decide
  unfold taken
  rw [hstart]
  rfl

theorem bufferIdx_eq (ctx : Sha256Ctx) : ctx.bufferIdx = ctx.count.toNat % 64 := by
  unfold bufferIdx
  rw [UInt64.toNat_and]
  exact Nat.and_two_pow_sub_one_eq_mod _ 6

theorem slice_write (b : Buf) (n : Nat) (v : UInt8) :
    (b.write n v).slice 0 (n + 1) = b.slice 0 n ++ [v] := by
  rw [Buf.slice_append]
  have hbefore : (b.write n v).slice 0 n = b.slice 0 n :=
    Buf.slice_congr fun i hi => Buf.write_of_ne (by omega)
  have hlast : (b.write n v).slice (0 + n) 1 = [v] := by
    show [b.write n v (0 + n + 0)] = [v]
    rw [Nat.zero_add, Nat.add_zero, Buf.write_same]
  rw [hbefore, hlast]

/-- The loop, on the bytes below the index. -/
theorem takeByte_taken (state : Words) (count : UInt64) (buffer : Buf) {idx : Nat}
    (hidx : idx < 64) (byte : UInt8) :
    let out := takeByte (state, buffer, idx) byte
    out.2.2 = (idx + 1) % 64 ∧
      Sha256.updateByte ⟨state, count, buffer.slice 0 idx⟩ byte
        = ⟨out.1, count + 1, out.2.1.slice 0 out.2.2⟩ := by
  have hwritten := slice_write buffer idx byte
  unfold takeByte Sha256.updateByte
  dsimp only
  rw [List.length_append, Buf.length_slice, List.length_singleton, ← hwritten]
  by_cases hfull : idx + 1 = 64
  · rw [if_pos hfull, if_pos hfull, hfull]
    exact ⟨rfl, rfl⟩
  · rw [if_neg hfull, if_neg hfull]
    have hnext : idx + 1 < 64 := by omega
    exact ⟨(Nat.mod_eq_of_lt hnext).symm, rfl⟩

theorem foldl_takeByte_taken (data : List UInt8) (state : Words) (count : UInt64) (buffer : Buf)
    {idx : Nat} (hidx : idx < 64) :
    let out := data.foldl takeByte (state, buffer, idx)
    out.2.2 = (idx + data.length) % 64 ∧
      Sha256.update ⟨state, count, buffer.slice 0 idx⟩ data
        = ⟨out.1, count + UInt64.ofNat data.length, out.2.1.slice 0 out.2.2⟩ := by
  induction data generalizing state count buffer idx with
  | nil =>
    refine ⟨(Nat.mod_eq_of_lt hidx).symm, ?_⟩
    show (⟨state, count, _⟩ : Sha256.Ctx) = ⟨state, count + 0, _⟩
    rw [UInt64.add_zero]
    rfl
  | cons byte data ih =>
    obtain ⟨hnext, htaken⟩ := takeByte_taken state count buffer hidx byte
    have hsmall : (takeByte (state, buffer, idx) byte).2.2 < 64 := by
      rw [hnext]
      exact Nat.mod_lt _ (by decide)
    obtain ⟨hlast, hrest⟩ := ih (takeByte (state, buffer, idx) byte).1 (count + 1)
      (takeByte (state, buffer, idx) byte).2.1 hsmall
    have hcount : count + 1 + UInt64.ofNat data.length
        = count + UInt64.ofNat (byte :: data).length := by
      rw [List.length_cons, Nat.add_comm, UInt64.ofNat_add, UInt64.add_assoc]
      rfl
    refine ⟨?_, ?_⟩
    · refine hlast.trans ?_
      rw [hnext, List.length_cons]
      omega
    · rw [← hcount]
      refine Eq.trans ?_ hrest
      show data.foldl Sha256.updateByte _ = data.foldl Sha256.updateByte _
      rw [htaken]

theorem taken_update (ctx : Sha256Ctx) (data : List UInt8) :
    (ctx.update data).taken = Sha256.update ctx.taken data := by
  unfold update
  by_cases hempty : data.length = 0
  · rw [if_pos hempty, List.length_eq_zero_iff.mp hempty]
    rfl
  · rw [if_neg hempty]
    have hidx : ctx.bufferIdx < 64 := by
      rw [bufferIdx_eq]
      exact Nat.mod_lt _ (by decide)
    obtain ⟨hlast, htaken⟩ := foldl_takeByte_taken data ctx.state ctx.count ctx.buffer hidx
    -- the index is found again in the count
    have hfound (state : Words) (buffer : Buf) :
        bufferIdx ⟨state, ctx.count + UInt64.ofNat data.length, buffer⟩
          = (data.foldl takeByte (ctx.state, ctx.buffer, ctx.bufferIdx)).2.2 := by
      rw [hlast, bufferIdx_eq, bufferIdx_eq, UInt64.toNat_add, UInt64.toNat_ofNat']
      omega
    refine Eq.trans ?_ htaken.symm
    show (⟨_, _, Buf.slice _ 0 (bufferIdx _)⟩ : Sha256.Ctx) = _
    rw [hfound]

/-! ## The padding -/

theorem slice_zeroFill (buffer : Buf) (start n : Nat) :
    (zeroFill buffer start n).slice 0 (start + n) = buffer.slice 0 start ++ List.replicate n 0 := by
  unfold zeroFill
  rw [Buf.slice_copy_append]
  refine congrArg (buffer.slice 0 start ++ ·) ?_
  exact (List.map_const' ..).trans (congrArg (List.replicate · 0) List.length_range)

theorem slice_putLength (count : UInt64) (buffer : Buf) :
    (putLength (count * 8) buffer).slice 0 64 = buffer.slice 0 56 ++ Sha256.lengthBytes count := by
  have hloop : ∀ m, ((List.range m).foldl (fun buffer i => Buf.write buffer (56 + i)
      ((count * 8) >>> (56 - UInt64.ofNat i * 8)).toUInt8) buffer).slice 0 (56 + m)
        = buffer.slice 0 56 ++ (List.range m).map fun i =>
          ((count * 8) >>> (56 - UInt64.ofNat i * 8)).toUInt8 := by
    intro m
    induction m with
    | zero => exact (List.append_nil _).symm
    | succ m ih =>
      rw [List.range_succ, List.foldl_append, List.map_append, ← List.append_assoc, ← ih]
      exact slice_write ..
  exact hloop 8

theorem final_taken (ctx : Sha256Ctx) : ctx.final = Sha256.final ctx.taken := by
  have hidx : ctx.bufferIdx < 64 := by
    rw [bufferIdx_eq]
    exact Nat.mod_lt _ (by decide)
  have hmarked := slice_write ctx.buffer ctx.bufferIdx 0x80
  have hlength : (ctx.buffer.slice 0 ctx.bufferIdx ++ [(0x80 : UInt8)]).length
      = ctx.bufferIdx + 1 := by
    rw [List.length_append, Buf.length_slice, List.length_singleton]
  unfold final Sha256.final taken
  dsimp only
  rw [hlength]
  by_cases hfull : 56 < ctx.bufferIdx + 1
  · -- the length goes into a block of its own
    have hfirst := slice_zeroFill (ctx.buffer.write ctx.bufferIdx 0x80) (ctx.bufferIdx + 1)
      (64 - (ctx.bufferIdx + 1))
    rw [Nat.add_sub_cancel' (by omega), hmarked] at hfirst
    have hsecond (buffer : Buf) := slice_zeroFill buffer 0 56
    rw [if_pos hfull, if_pos hfull]
    dsimp only
    rw [hfirst, slice_putLength, hsecond]
    rfl
  · have hfilled := slice_zeroFill (ctx.buffer.write ctx.bufferIdx 0x80) (ctx.bufferIdx + 1)
      (56 - (ctx.bufferIdx + 1))
    rw [Nat.add_sub_cancel' (by omega), hmarked] at hfilled
    rw [if_neg hfull, if_neg hfull]
    dsimp only
    rw [slice_putLength, hfilled, hlength]
    rfl

/-- Pieces taken one after the other are the whole. -/
theorem taken_pieces (memory : Sha256Ctx) (pieces : List (List UInt8)) :
    (pieces.foldl update memory.init).taken = Sha256.update Sha256.init pieces.flatten := by
  have hall : ∀ ctx : Sha256Ctx,
      (pieces.foldl update ctx).taken = Sha256.update ctx.taken pieces.flatten := by
    induction pieces with
    | nil =>
      intro ctx
      rfl
    | cons piece rest ih =>
      intro ctx
      rw [List.foldl_cons, ih, taken_update, List.flatten_cons]
      exact List.foldl_append.symm
  rw [hall, taken_init]

/-- The digest depends on the message, not on its pieces nor on what the memory held. -/
theorem final_pieces (memory : Sha256Ctx) (pieces : List (List UInt8)) :
    (pieces.foldl update memory.init).final = sha256Hash pieces.flatten := by
  rw [final_taken, taken_pieces]
  rfl

theorem hash_eq (memory : Sha256Ctx) (data : List UInt8) : hash memory data = sha256Hash data := by
  have hwhole := final_pieces memory [data]
  rw [List.flatten_singleton] at hwhole
  exact hwhole

end Sha256Ctx

end UdsIsoTp.Boot
