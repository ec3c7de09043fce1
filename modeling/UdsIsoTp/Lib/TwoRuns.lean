import UdsIsoTp.Lib.Run

/-!
# Two runs side by side

That something makes no difference, whether a stale byte, a hidden value or a call that
was never made, is a statement about two runs. Either the two make the same calls
from two states: then a relation that every call keeps, and under which the calls look
the same, is all there is to find (`run_related`, `observed_related`). Or they begin in
the same state and one of them makes some calls more: `Without` leaves calls out that are
of no account where they are made, and `without_run` and `without_observed` say that they
are of no account in the whole run either.
-/

namespace UdsIsoTp

variable {σ τ α β : Type*}

section Related

variable {step : σ → α → σ} {step' : τ → α → τ} {R : σ → τ → Prop}
  (hstep : ∀ s t a, R s t → R (step s a) (step' t a))

include hstep

/-- A relation that every call keeps holds after every run. -/
theorem run_related {s : σ} {t : τ} (h : R s t) (calls : List α) :
    R (run step s calls) (run step' t calls) := by
  induction calls generalizing s t with
  | nil => exact h
  | cons a calls ih => exact ih (hstep s t a h)

/-- Calls that look the same in related states look the same along the two runs. -/
theorem observed_related {see : σ → α → Option β} {see' : τ → α → Option β}
    (hsee : ∀ s t a, R s t → see s a = see' t a) {s : σ} {t : τ} (h : R s t) (calls : List α) :
    observed step see s calls = observed step' see' t calls := by
  induction calls generalizing s t with
  | nil => rfl
  | cons a calls ih =>
    unfold observed
    rw [hsee s t a h, ih (hstep s t a h)]

end Related

/-! ## Calls that were never made -/

/-- The second run is the first without some calls, each of which met `skip` in the state
it was made in. -/
inductive Without (step : σ → α → σ) (skip : σ → α → Prop) : σ → List α → List α → Prop
  | nil {s} : Without step skip s [] []
  | kept {s a calls rest} (h : Without step skip (step s a) calls rest) :
      Without step skip s (a :: calls) (a :: rest)
  | skipped {s a calls rest} (hskip : skip s a) (h : Without step skip (step s a) calls rest) :
      Without step skip s (a :: calls) rest

section Skipped

variable {step : σ → α → σ} {skip : σ → α → Prop} {I : σ → Prop}
  (hinv : ∀ s a, I s → I (step s a)) (hskip : ∀ s a, I s → skip s a → step s a = s)

include hinv hskip

/-- Calls that leave the state alone may be left out of a run. -/
theorem without_run {s : σ} {calls rest : List α} (hs : I s)
    (h : Without step skip s calls rest) : run step s calls = run step s rest := by
  induction h with
  | nil => rfl
  | kept _ ih => exact ih (hinv _ _ hs)
  | @skipped s a calls rest ha _ ih =>
    -- after the call the state is still `s`, from which the second run goes on
    rw [run_cons, ih (hinv s a hs), hskip s a hs ha]

/-- And if nothing is seen of them, the runs look the same. -/
theorem without_observed {see : σ → α → Option β}
    (hsee : ∀ s a, I s → skip s a → see s a = none) {s : σ} {calls rest : List α} (hs : I s)
    (h : Without step skip s calls rest) :
    observed step see s calls = observed step see s rest := by
  induction h with
  | nil => rfl
  | kept _ ih =>
    unfold observed
    rw [ih (hinv _ _ hs)]
  | @skipped s a calls rest ha _ ih =>
    rw [observed, ih (hinv s a hs), hskip s a hs ha, hsee s a hs ha]
    rfl

end Skipped

end UdsIsoTp
