import Mathlib.Data.List.Basic
import Mathlib.Logic.Function.Basic

/-!
# Ring buffers

A ring of `cap` slots that holds `n` items from the index `tail` on. A new item goes
into the slot behind the last one, the oldest is taken at `tail`; both move an index by
one, modulo the number of slots. What the ring holds is the list `ringItems`, and
`ringItems_push` and `ringItems_pop` say that the two operations are those of a queue.

A ring that keeps its two indices and no count leaves one slot free, so that equal
indices mean an empty ring (`ring_full_iff`).
-/

namespace UdsIsoTp

variable {α : Type*}

/-- The items of a ring, the oldest first. -/
def ringItems (slots : Nat → α) (cap tail n : Nat) : List α :=
  (List.range n).map fun k => slots ((tail + k) % cap)

@[simp] theorem length_ringItems (slots : Nat → α) (cap tail n : Nat) :
    (ringItems slots cap tail n).length = n := by
  simp [ringItems]

@[simp] theorem ringItems_zero (slots : Nat → α) (cap tail : Nat) :
    ringItems slots cap tail 0 = [] := rfl

/-- Two slots less than a round apart are different. -/
theorem ring_slot_ne {cap tail i n : Nat} (hi : i < n) (hn : n < cap) :
    (tail + i) % cap ≠ (tail + n) % cap := by
  intro h
  have hdvd : cap ∣ (tail + n) - (tail + i) := Nat.dvd_of_mod_eq_zero
    (Nat.sub_mod_eq_zero_of_mod_eq h.symm)
  have hzero := Nat.eq_zero_of_dvd_of_lt hdvd (by omega)
  omega

/-- A new item goes behind the others. -/
theorem ringItems_push (slots : Nat → α) {cap tail n : Nat} (hn : n < cap) (v : α) :
    ringItems (Function.update slots ((tail + n) % cap) v) cap tail (n + 1)
      = ringItems slots cap tail n ++ [v] := by
  unfold ringItems
  rw [List.range_succ, List.map_append]
  congr 1
  · apply List.map_congr_left
    intro i hi
    rw [Function.update_of_ne (ring_slot_ne (List.mem_range.mp hi) hn)]
  · simp

/-- The oldest item is the one at `tail`. -/
theorem ringItems_pop (slots : Nat → α) {cap tail : Nat} (htail : tail < cap) (n : Nat) :
    ringItems slots cap tail (n + 1)
      = slots tail :: ringItems slots cap ((tail + 1) % cap) n := by
  unfold ringItems
  rw [List.range_succ_eq_map, List.map_cons, List.map_map, Nat.add_zero, Nat.mod_eq_of_lt htail]
  congr 1
  apply List.map_congr_left
  intro k _
  show slots ((tail + (k + 1)) % cap) = slots (((tail + 1) % cap + k) % cap)
  rw [Nat.mod_add_mod, Nat.add_assoc, Nat.add_comm 1 k]

/-! ## Two indices and a free slot -/

/-- The index behind the last item comes round to `tail` when one slot is left. -/
theorem ring_full_iff {cap tail n : Nat} (htail : tail < cap) (hn : n < cap) :
    ((tail + n) % cap + 1) % cap = tail ↔ n + 1 = cap := by
  rw [Nat.mod_add_mod, Nat.add_assoc]
  constructor
  · intro h
    by_contra hne
    have hslot : (tail + 0) % cap ≠ (tail + (n + 1)) % cap :=
      ring_slot_ne (Nat.succ_pos n) (by omega)
    exact hslot (by rw [h, Nat.add_zero, Nat.mod_eq_of_lt htail])
  · intro h
    rw [h, Nat.add_mod_right, Nat.mod_eq_of_lt htail]

/-- The indices meet when the ring is empty. -/
theorem ring_empty_iff {cap tail n : Nat} (htail : tail < cap) (hn : n < cap) :
    (tail + n) % cap = tail ↔ n = 0 := by
  constructor
  · intro h
    by_contra hne
    have hslot : (tail + 0) % cap ≠ (tail + n) % cap :=
      ring_slot_ne (Nat.pos_of_ne_zero hne) hn
    exact hslot (by rw [h, Nat.add_zero, Nat.mod_eq_of_lt htail])
  · intro h
    rw [h, Nat.add_zero, Nat.mod_eq_of_lt htail]

end UdsIsoTp
