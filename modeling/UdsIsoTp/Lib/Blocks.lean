import Mathlib.Algebra.Order.Group.Nat
import Mathlib.Data.List.Induction

/-!
# Taking a message block by block

A function that works on blocks of `n` elements is given a message one element at a time: the
elements are kept until there are `n` of them, and then the function is applied
(`pushBlock`). What has come of it after a message depends on the message alone, not on how it
came in: the blocks that are full have been taken, and the rest is kept (`foldl_pushBlock`).
-/

namespace UdsIsoTp

variable {α β σ : Type*}

/-- The first `count` blocks of `n` elements. -/
def blocks (n count : Nat) (l : List α) : List (List α) :=
  (List.range count).map fun i => (l.drop (i * n)).take n

/-- One more element: the kept ones, with the state that the full blocks have led to. -/
def pushBlock (f : σ → List α → σ) (n : Nat) (s : σ × List α) (a : α) : σ × List α :=
  if (s.2 ++ [a]).length = n then (f s.1 (s.2 ++ [a]), []) else (s.1, s.2 ++ [a])

@[simp] theorem blocks_zero (n : Nat) (l : List α) : blocks n 0 l = [] := rfl

theorem blocks_succ (n count : Nat) (l : List α) :
    blocks n (count + 1) l = blocks n count l ++ [(l.drop (count * n)).take n] := by
  unfold blocks
  rw [List.range_succ, List.map_append]
  rfl

/-- What is behind the blocks is not in them. -/
theorem blocks_append {n count : Nat} {l : List α} (h : count * n ≤ l.length) (l' : List α) :
    blocks n count (l ++ l') = blocks n count l := by
  refine List.map_congr_left fun i hi => ?_
  have hlast : (i + 1) * n ≤ count * n := Nat.mul_le_mul_right n (List.mem_range.mp hi)
  rw [Nat.succ_mul] at hlast
  rw [List.drop_append_of_le_length (by omega)]
  exact List.take_append_of_le_length (by rw [List.length_drop]; omega)

theorem mem_blocks {n count : Nat} {l block : List α} (h : count * n ≤ l.length)
    (hblock : block ∈ blocks n count l) : block.length = n := by
  obtain ⟨i, hi, rfl⟩ := List.mem_map.mp hblock
  have hlast : (i + 1) * n ≤ count * n := Nat.mul_le_mul_right n (List.mem_range.mp hi)
  rw [Nat.succ_mul] at hlast
  rw [List.length_take, List.length_drop]
  omega

/-! ## Elements that become `w` elements each -/

section FlatMap

variable {w : Nat} {f : α → List β} (hf : ∀ a, (f a).length = w)

include hf

theorem length_flatMap_mul (l : List α) : (l.flatMap f).length = l.length * w := by
  induction l with
  | nil => rw [List.flatMap_nil, List.length_nil, List.length_nil, Nat.zero_mul]
  | cons a l ih => rw [List.flatMap_cons, List.length_append, hf, ih, List.length_cons,
      Nat.succ_mul, Nat.add_comm]

theorem drop_flatMap_mul (l : List α) (m : Nat) :
    (l.flatMap f).drop (m * w) = (l.drop m).flatMap f := by
  induction m generalizing l with
  | zero => rw [Nat.zero_mul, List.drop_zero, List.drop_zero]
  | succ m ih =>
    cases l with
    | nil => rw [List.flatMap_nil, List.drop_nil, List.drop_nil, List.flatMap_nil]
    | cons a l =>
      have hsplit : (m + 1) * w = (f a).length + m * w := by rw [hf, Nat.succ_mul, Nat.add_comm]
      rw [List.flatMap_cons, hsplit, ← List.drop_drop, List.drop_left, ih, List.drop_succ_cons]

theorem take_flatMap_mul (l : List α) (m : Nat) :
    (l.flatMap f).take (m * w) = (l.take m).flatMap f := by
  induction m generalizing l with
  | zero => rw [Nat.zero_mul, List.take_zero, List.take_zero, List.flatMap_nil]
  | succ m ih =>
    cases l with
    | nil => rw [List.flatMap_nil, List.take_nil, List.take_nil, List.flatMap_nil]
    | cons a l =>
      have hsplit : (m + 1) * w = (f a).length + m * w := by rw [hf, Nat.succ_mul, Nat.add_comm]
      rw [List.flatMap_cons, hsplit, List.take_length_add_append, ih, List.take_succ_cons,
        List.flatMap_cons]

/-- A block of the elements becomes a block of what they become. -/
theorem blocks_flatMap (n count : Nat) (l : List α) :
    blocks (n * w) count (l.flatMap f) = (blocks n count l).map fun block => block.flatMap f := by
  unfold blocks
  rw [List.map_map]
  refine List.map_congr_left fun i _ => ?_
  rw [← Nat.mul_assoc, drop_flatMap_mul hf, take_flatMap_mul hf]
  rfl

end FlatMap

/-! ## Element by element -/

section Push

variable {f : σ → List α → σ} {n : Nat}

/-- The blocks that are full have been taken, and the rest is kept. -/
theorem foldl_pushBlock (hn : 0 < n) (s : σ) (l : List α) :
    l.foldl (pushBlock f n) (s, [])
      = ((blocks n (l.length / n) l).foldl f s, l.drop (l.length / n * n)) := by
  -- on the last element, which is the one that fills a block or is kept
  induction l using List.reverseRecOn with
  | nil => rw [List.length_nil, Nat.zero_div, Nat.zero_mul]; rfl
  | append_singleton l a ih =>
    have hdiv : l.length / n * n ≤ l.length := Nat.div_mul_le_self ..
    have hmod := Nat.mod_lt l.length hn
    have hsum := Nat.div_add_mod' l.length n
    have hkept : l.drop (l.length / n * n) ++ [a] = (l ++ [a]).drop (l.length / n * n) :=
      (List.drop_append_of_le_length hdiv).symm
    have hlength : ((l ++ [a]).drop (l.length / n * n)).length = l.length % n + 1 := by
      rw [List.length_drop, List.length_append, List.length_singleton]
      omega
    rw [List.foldl_append, ih, List.length_append, List.length_singleton, List.foldl_cons,
      List.foldl_nil]
    unfold pushBlock
    dsimp only
    rw [hkept, hlength]
    by_cases hfull : l.length % n + 1 = n
    · -- the block that has become full is the next one
      have hnext : (l.length + 1) / n = l.length / n + 1 := by
        refine Nat.div_eq_of_lt_le ?_ ?_
        · rw [Nat.succ_mul]
          omega
        · rw [Nat.succ_mul, Nat.succ_mul]
          omega
      have hblock : ((l ++ [a]).drop (l.length / n * n)).take n
          = (l ++ [a]).drop (l.length / n * n) :=
        List.take_of_length_le (by rw [hlength]; omega)
      have hrest : (l ++ [a]).drop ((l.length / n + 1) * n) = [] := by
        refine List.drop_eq_nil_of_le ?_
        rw [List.length_append, List.length_singleton, Nat.succ_mul]
        omega
      rw [if_pos hfull, hnext, blocks_succ, blocks_append hdiv, hblock, hrest, List.foldl_append]
      rfl
    · have hsame : (l.length + 1) / n = l.length / n := by
        refine Nat.div_eq_of_lt_le ?_ ?_
        · omega
        · rw [Nat.succ_mul]
          omega
      rw [if_neg hfull, hsame, blocks_append hdiv]

/-- Elements that fill the block. -/
theorem foldl_pushBlock_fill {s : σ} {kept l : List α} (hne : l ≠ [])
    (hfill : kept.length + l.length = n) :
    l.foldl (pushBlock f n) (s, kept) = (f s (kept ++ l), []) := by
  induction l generalizing kept with
  | nil => exact absurd rfl hne
  | cons a l ih =>
    rw [List.length_cons] at hfill
    have hlength : (kept ++ [a]).length = kept.length + 1 := List.length_append
    rw [List.foldl_cons]
    unfold pushBlock
    dsimp only
    rw [hlength]
    cases l with
    | nil =>
      rw [List.length_nil] at hfill
      rw [if_pos hfill]
      rfl
    | cons b l =>
      rw [List.length_cons] at hfill
      rw [if_neg (by omega)]
      refine (ih (List.cons_ne_nil b l) ?_).trans ?_
      · rw [List.length_append, List.length_singleton, List.length_cons]
        omega
      · rw [List.append_assoc, List.singleton_append]

end Push

end UdsIsoTp
