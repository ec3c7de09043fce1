import Mathlib.Data.Nat.Basic
import Mathlib.Order.Basic

/-!
# Progress of infinite runs

An infinite schedule drives a state machine through the states `states`. To show
that it gets somewhere, follow an abstract position `at_ : ℕ → κ` along the run: if
each step leaves the position or raises a bounded rank, and an unfinished position
is always raised by some later step, then the run finishes (`reaches_final`).

"Some later step" is where fairness enters: the caller finds it among the calls that
its schedule repeats for ever.
-/

namespace UdsIsoTp

/-- The states of an infinite run. -/
def states {σ α : Type*} (step : σ → α → σ) (s₀ : σ) (schedule : ℕ → α) : ℕ → σ
  | 0 => s₀
  | n + 1 => step (states step s₀ schedule n) (schedule n)

variable {κ : Type*} {rank : κ → ℕ} {at_ : ℕ → κ}

/-- Between two times the position is unchanged or its rank has grown. -/
theorem eq_or_rank_lt (hstep : ∀ n, at_ (n + 1) = at_ n ∨ rank (at_ n) < rank (at_ (n + 1)))
    (n d : ℕ) : at_ (n + d) = at_ n ∨ rank (at_ n) < rank (at_ (n + d)) := by
  induction d with
  | zero => exact .inl rfl
  | succ d ih =>
    have hnext := hstep (n + d)
    rcases ih with heq | hlt
    · rcases hnext with heq' | hlt'
      · exact .inl (heq'.trans heq)
      · rw [heq] at hlt'
        exact .inr hlt'
    · rcases hnext with heq' | hlt'
      · right
        rw [← Nat.add_assoc, heq']
        exact hlt
      · exact .inr (hlt.trans hlt')

/-- A run whose unfinished positions are always raised later on, below a bound, finishes. -/
theorem reaches_final {Final : κ → Prop} {bound : ℕ} (hbound : ∀ n, rank (at_ n) ≤ bound)
    (hstep : ∀ n, at_ (n + 1) = at_ n ∨ rank (at_ n) < rank (at_ (n + 1)))
    (hprogress : ∀ n, ¬Final (at_ n) →
      ∃ m, n ≤ m ∧ (at_ m = at_ n → rank (at_ n) < rank (at_ (m + 1)))) :
    ∃ n, Final (at_ n) := by
  have hraised : ∀ n, ¬Final (at_ n) → ∃ m, rank (at_ n) < rank (at_ m) := by
    intro n hf
    obtain ⟨m, hnm, hraise⟩ := hprogress n hf
    obtain ⟨d, rfl⟩ := Nat.exists_eq_add_of_le hnm
    rcases eq_or_rank_lt hstep n d with heq | hlt
    · exact ⟨n + d + 1, hraise heq⟩
    · exact ⟨n + d, hlt⟩
  -- induction on how far the rank is below its bound
  have hmain : ∀ room n, bound ≤ rank (at_ n) + room → ∃ m, Final (at_ m) := by
    intro room
    induction room with
    | zero =>
      intro n hroom
      by_contra hnone
      obtain ⟨m, hlt⟩ := hraised n fun hf => hnone ⟨n, hf⟩
      have hm := hbound m
      omega
    | succ room ih =>
      intro n hroom
      by_cases hf : Final (at_ n)
      · exact ⟨n, hf⟩
      · obtain ⟨m, hlt⟩ := hraised n hf
        exact ih m (by omega)
  exact hmain bound 0 (by omega)

/-- A final position that no step leaves is final from then on. -/
theorem final_from {Final : κ → Prop} (hstay : ∀ n, Final (at_ n) → at_ (n + 1) = at_ n)
    {n : ℕ} (h : Final (at_ n)) {m : ℕ} (hle : n ≤ m) : Final (at_ m) := by
  induction hle with
  | refl => exact h
  | step _ ih =>
    rw [hstay _ ih]
    exact ih

end UdsIsoTp
