import Mathlib.Logic.Function.Basic
import Mathlib.Data.List.Basic
import Mathlib.Tactic.Ring

/-!
# Byte buffers

A C byte array is read and written through an index; nothing here depends on
how long it is. `Buf` is therefore the total function from index to byte, a
write is `Function.update`, and `memcpy` (and every `dst[off + k] = src[from + k]`
loop) is `Buf.copy`. What a reader of the array is *told* about it — a pointer
and a length — is `Buf.slice`, and the lemmas below say how slices and copies
compose, so that no later proof looks at an index again.

Bounds are not a matter of the type: a function that must stay inside its array
says so in a theorem about the indices it touches.
-/

namespace UdsIsoTp

/-- The bytes behind a pointer. -/
abbrev Buf := Nat → UInt8

namespace Buf

/-- `b[i] = v;` -/
def write (b : Buf) (i : Nat) (v : UInt8) : Buf := Function.update b i v

/-- `for (k = 0; k < n; ++k) dst[off + k] = src[start + k];` -/
def copy (dst : Buf) (off : Nat) (src : Buf) (start n : Nat) : Buf :=
  fun i => if off ≤ i ∧ i < off + n then src (start + (i - off)) else dst i

/-- The bytes `b[start], …, b[start + n - 1]`. -/
def slice (b : Buf) (start n : Nat) : List UInt8 :=
  (List.range n).map fun k => b (start + k)

/-- The array that begins with the bytes of `l`. -/
def ofList (l : List UInt8) : Buf := fun i => l.getD i 0

/-! ## Writes -/

@[simp] theorem write_same (b : Buf) (i : Nat) (v : UInt8) : b.write i v i = v := by
  simp [write]

theorem write_of_ne {b : Buf} {i j : Nat} {v : UInt8} (h : j ≠ i) :
    b.write i v j = b j := by
  simp [write, h]

theorem write_apply (b : Buf) (i j : Nat) (v : UInt8) :
    b.write i v j = if j = i then v else b j := by
  simp [write, Function.update_apply]

/-! ## Copies -/

theorem copy_inside {dst src : Buf} {off start n i : Nat} (h : i < n) :
    dst.copy off src start n (off + i) = src (start + i) := by
  have hin : off ≤ off + i ∧ off + i < off + n := by omega
  simp [copy, hin]

theorem copy_outside {dst src : Buf} {off start n i : Nat} (h : i < off ∨ off + n ≤ i) :
    dst.copy off src start n i = dst i := by
  have hout : ¬(off ≤ i ∧ i < off + n) := by omega
  simp only [copy, if_neg hout]

@[simp] theorem copy_zero (dst src : Buf) (off start : Nat) :
    dst.copy off src start 0 = dst := by
  funext i
  exact copy_outside (by omega)

/-- Two copies in a row are one. -/
theorem copy_copy (dst src : Buf) (off start n m : Nat) :
    (dst.copy off src start n).copy (off + n) src (start + n) m
      = dst.copy off src start (n + m) := by
  funext i
  by_cases hsecond : off + n ≤ i ∧ i < off + n + m
  · obtain ⟨j, rfl⟩ := Nat.exists_eq_add_of_le hsecond.1
    rw [copy_inside (by omega), Nat.add_assoc, Nat.add_assoc, copy_inside (by omega)]
  · rw [copy_outside (by omega)]
    by_cases hfirst : off ≤ i ∧ i < off + n
    · obtain ⟨j, rfl⟩ := Nat.exists_eq_add_of_le hfirst.1
      rw [copy_inside (by omega), copy_inside (by omega)]
    · rw [copy_outside (by omega), copy_outside (by omega)]

/-- Only the copied bytes of the source matter. -/
theorem copy_congr {dst src src' : Buf} {off start start' n : Nat}
    (h : ∀ i < n, src (start + i) = src' (start' + i)) :
    dst.copy off src start n = dst.copy off src' start' n := by
  funext i
  by_cases hin : off ≤ i ∧ i < off + n
  · obtain ⟨j, rfl⟩ := Nat.exists_eq_add_of_le hin.1
    rw [copy_inside (by omega), copy_inside (by omega), h j (by omega)]
  · rw [copy_outside (by omega), copy_outside (by omega)]

/-- A buffer is copied within itself piece by piece, if no piece overwrites what comes next. -/
theorem copy_within (b : Buf) {off start n m : Nat} (h : start + (n + m) ≤ off ∨ off ≤ start) :
    (b.copy off b start n).copy (off + n) (b.copy off b start n) (start + n) m
      = b.copy off b start (n + m) := by
  rw [← copy_copy b b off start n m]
  exact copy_congr fun i hi => copy_outside (by omega)

/-! ## Loops -/

/-- `for (i = 0; i < n; ++i) b[i] = f(i, b[i]);` -/
def each (n : Nat) (f : Nat → UInt8 → UInt8) (b : Buf) : Buf :=
  (List.range n).foldl (fun b i => b.write i (f i (b i))) b

theorem each_apply (n : Nat) (f : Nat → UInt8 → UInt8) (b : Buf) (i : Nat) :
    b.each n f i = if i < n then f i (b i) else b i := by
  unfold each
  induction n generalizing i with
  | zero => rw [if_neg (Nat.not_lt_zero i)]; rfl
  | succ n ih =>
    rw [List.range_succ, List.foldl_append]
    show write _ n _ i = _
    rw [write_apply, ih, ih, if_neg (Nat.lt_irrefl n)]
    by_cases hi : i = n
    · subst hi
      rw [if_pos rfl, if_pos (Nat.lt_succ_self i)]
    · rw [if_neg hi]
      by_cases hlt : i < n
      · rw [if_pos hlt, if_pos (Nat.lt_succ_of_lt hlt)]
      · rw [if_neg hlt, if_neg (by omega)]

/-- `for (i = start; i < start + n; ++i) b[off + i] = f(i, b);` -/
def writeUp (off start n : Nat) (f : Nat → Buf → UInt8) (b : Buf) : Buf :=
  (List.range' start n).foldl (fun b i => b.write (off + i) (f i b)) b

theorem writeUp_succ (off start n : Nat) (f : Nat → Buf → UInt8) (b : Buf) :
    b.writeUp off start (n + 1) f = (b.writeUp off start n f).write (off + (start + n))
      (f (start + n) (b.writeUp off start n f)) := by
  unfold writeUp
  rw [List.range'_concat, List.foldl_append, Nat.one_mul]
  rfl

theorem writeUp_outside (off start n : Nat) (f : Nat → Buf → UInt8) (b : Buf) {j : Nat}
    (h : j < off + start ∨ off + (start + n) ≤ j) : b.writeUp off start n f j = b j := by
  induction n with
  | zero => rfl
  | succ n ih =>
    rw [writeUp_succ, write_of_ne (by omega)]
    exact ih (by omega)

/-- If no turn reads what it or a later one writes, then at the end every byte written is what
its turn would make of the array as it is. -/
theorem writeUp_inside {off start n : Nat} {f : Nat → Buf → UInt8} (b : Buf)
    (hreads : ∀ i c c', start ≤ i → (∀ j < off + i, c j = c' j) → f i c = f i c') {i : Nat}
    (hlow : start ≤ i) (hhigh : i < start + n) :
    b.writeUp off start n f (off + i) = f i (b.writeUp off start n f) := by
  induction n with
  | zero => omega
  | succ n ih =>
    have hkept : ∀ j < off + (start + n),
        b.writeUp off start (n + 1) f j = b.writeUp off start n f j := by
      intro j hj
      rw [writeUp_succ, write_of_ne (by omega)]
    by_cases hlast : i = start + n
    · subst hlast
      rw [hreads _ _ _ hlow hkept]
      rw [writeUp_succ, write_same]
    · rw [hreads i _ _ hlow fun j hj => hkept j (by omega), hkept _ (by omega)]
      exact ih (by omega)

/-! ## Slices -/

@[simp] theorem length_slice (b : Buf) (start n : Nat) : (b.slice start n).length = n := by
  simp [slice]

@[simp] theorem slice_zero (b : Buf) (start : Nat) : b.slice start 0 = [] := rfl

theorem getElem_slice {b : Buf} {start n i : Nat} (h : i < (b.slice start n).length) :
    (b.slice start n)[i] = b (start + i) := by
  simp [slice]

theorem getElem?_slice {b : Buf} {start n i : Nat} (h : i < n) :
    (b.slice start n)[i]? = some (b (start + i)) := by
  simp [slice, h]

/-- Two buffers that agree on the window have the same slice. -/
theorem slice_congr {b c : Buf} {s t n : Nat} (h : ∀ i < n, b (s + i) = c (t + i)) :
    b.slice s n = c.slice t n := by
  apply List.map_congr_left
  intro i hi
  exact h i (List.mem_range.mp hi)

/-- Equal slices agree byte by byte. -/
theorem eq_of_slice_eq {b c : Buf} {s t n i : Nat} (h : b.slice s n = c.slice t n)
    (hi : i < n) : b (s + i) = c (t + i) := by
  have hb : (b.slice s n)[i]? = some (b (s + i)) := getElem?_slice hi
  rw [h, getElem?_slice hi] at hb
  exact (Option.some.inj hb).symm

/-- A window is its first part followed by the rest. -/
theorem slice_append (b : Buf) (start n m : Nat) :
    b.slice start (n + m) = b.slice start n ++ b.slice (start + n) m := by
  simp only [slice, List.range_add, List.map_append, List.map_map, Nat.add_assoc]
  rfl

theorem slice_succ (b : Buf) (start n : Nat) :
    b.slice start (n + 1) = b start :: b.slice (start + 1) n := by
  rw [Nat.add_comm n 1, slice_append]
  rfl

/-- The first `m` bytes of a window. -/
theorem take_slice (b : Buf) (start n m : Nat) :
    (b.slice start n).take m = b.slice start (min m n) := by
  rw [slice, ← List.map_take, List.take_range]
  rfl

theorem drop_slice (b : Buf) (start n m : Nat) :
    (b.slice start n).drop m = b.slice (start + m) (n - m) := by
  rcases Nat.lt_or_ge n m with h | h
  · rw [List.drop_eq_nil_of_le (by simp; omega), Nat.sub_eq_zero_of_le (by omega)]
    rfl
  · have hsplit := slice_append b start m (n - m)
    rw [Nat.add_sub_cancel' h] at hsplit
    rw [hsplit, List.drop_append_of_le_length (by simp), List.drop_eq_nil_of_le (by simp)]
    rfl

/-- A slice of a copy, inside the copied window. -/
theorem slice_copy_self (dst src : Buf) (off start n : Nat) :
    (dst.copy off src start n).slice off n = src.slice start n :=
  slice_congr fun _ hi => copy_inside hi

/-- A slice that the copy does not reach. -/
theorem slice_copy_disjoint {dst src : Buf} {off start n s m : Nat}
    (h : s + m ≤ off ∨ off + n ≤ s) :
    (dst.copy off src start n).slice s m = dst.slice s m :=
  slice_congr fun _ hi => copy_outside (by omega)

/-- Appending a copy behind the first `off` bytes extends what the buffer holds. -/
theorem slice_copy_append (dst src : Buf) (off start n : Nat) :
    (dst.copy off src start n).slice 0 (off + n) = dst.slice 0 off ++ src.slice start n := by
  rw [slice_append, slice_copy_disjoint (by omega), Nat.zero_add, slice_copy_self]

/-! ## Lists as buffers -/

theorem ofList_of_lt {l : List UInt8} {i : Nat} (h : i < l.length) : ofList l i = l[i] := by
  simp [ofList, h]

theorem slice_ofList (l : List UInt8) : (ofList l).slice 0 l.length = l := by
  apply List.ext_getElem (by simp)
  intro i h₁ h₂
  rw [getElem_slice, Nat.zero_add, ofList_of_lt h₂]

/-- Copying a slice, or the first bytes of it, is copying from where it was taken. -/
theorem copy_ofList_slice (dst src : Buf) {off start n m : Nat} (h : m ≤ n) :
    dst.copy off (ofList (src.slice start n)) 0 m = dst.copy off src start m := by
  funext i
  by_cases hin : off ≤ i ∧ i < off + m
  · obtain ⟨j, rfl⟩ := Nat.exists_eq_add_of_le hin.1
    rw [copy_inside (by omega), copy_inside (by omega), Nat.zero_add,
      ofList_of_lt (by rw [length_slice]; omega), getElem_slice]
  · rw [copy_outside (by omega), copy_outside (by omega)]

/-- A window of a list, read through its buffer. -/
theorem slice_ofList_of_le {l : List UInt8} {start n : Nat} (h : start + n ≤ l.length) :
    (ofList l).slice start n = (l.drop start).take n := by
  have hl := congrArg (fun m => (m.drop start).take n) (slice_ofList l)
  simp only [drop_slice, take_slice, Nat.zero_add] at hl
  rw [← hl, Nat.min_eq_left (by omega)]

end Buf

end UdsIsoTp
