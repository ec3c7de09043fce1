import Mathlib.Data.List.Basic

/-!
# Writing into a bounded buffer

A function that appends to a buffer says whether everything fitted; when it did not, what
it had written before stays. A `Writer` is such a function on what has been written so far,
and writers are put together the way C code does it: one after the other as long as nothing
fails (`andAlso`), only under a condition (`onlyIf`), once for each element of a list
(`appendEach`).

`Appends capacity w bytes` is the specification: the writer appends these bytes if they fit,
else it fails, and it never leaves more than the capacity. Each way of putting writers
together has its rule.
-/

namespace UdsIsoTp

variable {α β : Type*}

/-- Whether all has been written, and what has. -/
abbrev Writer (β : Type*) := List β → Bool × List β

namespace Writer

/-- One element, if there is room. -/
def append (capacity : Nat) (val : β) : Writer β := fun written =>
  if capacity ≤ written.length then (false, written) else (true, written ++ [val])

/-- All the elements, if there is room for all of them. -/
def appendAll (capacity : Nat) (src : List β) : Writer β := fun written =>
  if capacity < written.length + src.length then (false, written) else (true, written ++ src)

/-- `first && second` -/
def andAlso (first second : Writer β) : Writer β := fun written =>
  let out := first written
  if out.1 then second out.2 else out

/-- `!c || w` -/
def onlyIf (c : Bool) (w : Writer β) : Writer β := fun written =>
  if c then w written else (true, written)

/-- A loop that stops where a writer fails. -/
def appendEach (w : α → Writer β) : List α → Writer β
  | [], written => (true, written)
  | a :: rest, written => andAlso (w a) (appendEach w rest) written

/-- The writer appends `bytes`, in a buffer of the capacity. -/
structure Appends (capacity : Nat) (w : Writer β) (bytes : List β) : Prop where
  fits : ∀ written, written.length + bytes.length ≤ capacity → w written = (true, written ++ bytes)
  full : ∀ written, written.length ≤ capacity → capacity < written.length + bytes.length →
    (w written).1 = false
  bounded : ∀ written, written.length ≤ capacity → (w written).2.length ≤ capacity

/-! ## The rules -/

variable {capacity : Nat} {w w' : Writer β} {bytes bytes' : List β}

theorem append_appends (capacity : Nat) (val : β) : Appends capacity (append capacity val) [val] where
  fits written h := by
    rw [List.length_singleton] at h
    exact if_neg (by omega)
  full written _ h := by
    rw [List.length_singleton] at h
    unfold append
    rw [if_pos (by omega)]
  bounded written h := by
    unfold append
    split
    next => exact h
    next hroom =>
      rw [List.length_append, List.length_singleton]
      omega

theorem appendAll_appends (capacity : Nat) (src : List β) :
    Appends capacity (appendAll capacity src) src where
  fits written h := if_neg (by omega)
  full written _ h := by
    unfold appendAll
    rw [if_pos h]
  bounded written h := by
    unfold appendAll
    split
    next => exact h
    next hroom =>
      rw [List.length_append]
      omega

theorem Appends.andAlso (h : Appends capacity w bytes) (h' : Appends capacity w' bytes') :
    Appends capacity (andAlso w w') (bytes ++ bytes') where
  fits written hfits := by
    rw [List.length_append] at hfits
    unfold Writer.andAlso
    rw [h.fits written (by omega)]
    dsimp only
    rw [if_pos rfl, h'.fits _ (by rw [List.length_append]; omega), List.append_assoc]
  full written hwritten hfull := by
    rw [List.length_append] at hfull
    unfold Writer.andAlso
    -- either the first does not fit, or it leaves too little room for the second
    by_cases hfirst : capacity < written.length + bytes.length
    · have hfailed := h.full written hwritten hfirst
      dsimp only
      rw [hfailed, if_neg Bool.false_ne_true]
      exact hfailed
    · rw [h.fits written (by omega)]
      dsimp only
      rw [if_pos rfl]
      exact h'.full _ (by rw [List.length_append]; omega) (by rw [List.length_append]; omega)
  bounded written hwritten := by
    have hfirst := h.bounded written hwritten
    unfold Writer.andAlso
    dsimp only
    split
    next => exact h'.bounded _ hfirst
    next => exact hfirst

/-- A writer that has nothing to do. -/
theorem nothing_appends (capacity : Nat) :
    Appends capacity (fun written : List β => (true, written)) [] where
  fits written _ := by rw [List.append_nil]
  full written hwritten hfull := by
    rw [List.length_nil] at hfull
    omega
  bounded _ hwritten := hwritten

theorem Appends.onlyIf (c : Bool) (h : Appends capacity w bytes) :
    Appends capacity (onlyIf c w) (if c then bytes else []) := by
  cases c with
  | true => exact h
  | false => exact nothing_appends capacity

theorem appendEach_appends {w : α → Writer β} {bytes : α → List β}
    (h : ∀ a, Appends capacity (w a) (bytes a)) (l : List α) :
    Appends capacity (appendEach w l) (l.flatMap bytes) := by
  induction l with
  | nil => exact nothing_appends capacity
  | cons a rest ih => exact (h a).andAlso ih

/-- What is written for the elements that meet a condition. -/
theorem flatMap_if (p : α → Bool) (bytes : α → List β) (l : List α) :
    (l.flatMap fun a => if p a then bytes a else []) = (l.filter p).flatMap bytes := by
  induction l with
  | nil => rfl
  | cons a rest ih =>
    rw [List.flatMap_cons, ih]
    cases hp : p a with
    | true => rw [List.filter_cons_of_pos hp, List.flatMap_cons, if_pos rfl]
    | false =>
      rw [List.filter_cons_of_neg (by rw [hp]; exact Bool.false_ne_true),
        if_neg Bool.false_ne_true, List.nil_append]

end Writer

end UdsIsoTp
