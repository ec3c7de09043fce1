import Mathlib.Data.List.Induction

/-!
# Runs of a state machine

A component is a state type, a type of calls and a function that says what a
call does to the state; the answers of everything outside the component are
part of the call. A run is then a list of calls, and the state it reaches is a
fold.

`Along` says that every call of a run meets a condition *in the state it is made
in*. An invariant kept by every such call holds wherever such a run goes
(`Along.inv`); a relation between the state and the run behind it needs the
history form (`Along.history`). What a run shows to an observer of its calls is a list
(`observed`).
-/

namespace UdsIsoTp

variable {σ α : Type*}

/-- The state after the calls of a run, in order. -/
def run (step : σ → α → σ) (s : σ) (calls : List α) : σ := calls.foldl step s

/-- Every call of the run meets `ok` in the state it is made in. -/
def Along (step : σ → α → σ) (ok : σ → α → Prop) : σ → List α → Prop
  | _, [] => True
  | s, a :: rest => ok s a ∧ Along step ok (step s a) rest

variable {step : σ → α → σ} {ok : σ → α → Prop}

@[simp] theorem run_nil (s : σ) : run step s [] = s := rfl

@[simp] theorem run_cons (s : σ) (a : α) (calls : List α) :
    run step s (a :: calls) = run step (step s a) calls := rfl

theorem run_append (s : σ) (xs ys : List α) :
    run step s (xs ++ ys) = run step (run step s xs) ys :=
  List.foldl_append ..

@[simp] theorem run_concat (s : σ) (calls : List α) (a : α) :
    run step s (calls ++ [a]) = step (run step s calls) a := by
  rw [run_append]; rfl

theorem along_append {s : σ} {xs ys : List α} :
    Along step ok s (xs ++ ys) ↔ Along step ok s xs ∧ Along step ok (run step s xs) ys := by
  induction xs generalizing s with
  | nil => simp [Along]
  | cons a xs ih => simp only [List.cons_append, Along, ih, run_cons, and_assoc]

theorem along_concat {s : σ} {calls : List α} {a : α} :
    Along step ok s (calls ++ [a]) ↔ Along step ok s calls ∧ ok (run step s calls) a := by
  rw [along_append]
  simp [Along]

theorem Along.mono {ok' : σ → α → Prop} (himp : ∀ s a, ok s a → ok' s a) :
    ∀ {calls : List α} {s : σ}, Along step ok s calls → Along step ok' s calls
  | [], _, _ => trivial
  | _ :: _, _, h => ⟨himp _ _ h.1, h.2.mono himp⟩

/-- A run that meets no condition in particular. -/
theorem along_true : ∀ (calls : List α) (s : σ), Along step (fun _ _ => True) s calls
  | [], _ => trivial
  | _ :: rest, _ => ⟨trivial, along_true rest _⟩

/-- A condition on the calls alone. -/
theorem along_of_forall {ok : α → Prop} : ∀ {calls : List α}, (∀ a ∈ calls, ok a) → ∀ s : σ,
    Along step (fun _ a => ok a) s calls
  | [], _, _ => trivial
  | a :: _, h, _ =>
    ⟨h a List.mem_cons_self, along_of_forall (fun b hb => h b (List.mem_cons_of_mem a hb)) _⟩

/-- An invariant kept by every call that meets the condition holds along the run. -/
theorem Along.inv {I : σ → Prop} (hstep : ∀ s a, I s → ok s a → I (step s a))
    {calls : List α} {s : σ} (h0 : I s) (h : Along step ok s calls) : I (run step s calls) := by
  induction calls generalizing s with
  | nil => exact h0
  | cons a rest ih => exact ih (hstep s a h0 h.1) h.2

/-- A relation between the state and the calls that led to it, kept by every call
that meets the condition, holds along the run. -/
theorem Along.history {I : List α → σ → Prop} {s₀ : σ} (h0 : I [] s₀)
    (hstep : ∀ calls a, I calls (run step s₀ calls) → ok (run step s₀ calls) a →
      I (calls ++ [a]) (step (run step s₀ calls) a))
    {calls : List α} (h : Along step ok s₀ calls) : I calls (run step s₀ calls) := by
  induction calls using List.reverseRecOn with
  | nil => exact h0
  | append_singleton calls a ih =>
    obtain ⟨hcalls, ha⟩ := along_concat.mp h
    rw [run_concat]
    exact hstep calls a (ih hcalls) ha

/-- Every invariant holds along an unconditional run. -/
theorem run_inv {I : σ → Prop} (hstep : ∀ s a, I s → I (step s a)) {s : σ} (h0 : I s)
    (calls : List α) : I (run step s calls) :=
  Along.inv (fun s a h _ => hstep s a h) h0 (along_true calls s)

/-- Two conditions that are the same wherever an invariant holds. -/
theorem along_congr {I : σ → Prop} (hstep : ∀ s a, I s → I (step s a)) {ok' : σ → α → Prop}
    (hok : ∀ s a, I s → (ok s a ↔ ok' s a)) {s : σ} (h0 : I s) (calls : List α) :
    Along step ok s calls ↔ Along step ok' s calls := by
  induction calls generalizing s with
  | nil => exact Iff.rfl
  | cons a rest ih => exact and_congr (hok s a h0) (ih (hstep s a h0))

/-- What an observer of the calls sees, each in the state it is made in. -/
def observed {β : Type*} (step : σ → α → σ) (see : σ → α → Option β) : σ → List α → List β
  | _, [] => []
  | s, a :: rest => (see s a).toList ++ observed step see (step s a) rest

theorem observed_concat {β : Type*} (see : σ → α → Option β) (s : σ) (calls : List α) (a : α) :
    observed step see s (calls ++ [a])
      = observed step see s calls ++ (see (run step s calls) a).toList := by
  induction calls generalizing s with
  | nil => simp [observed]
  | cons b calls ih => simp [observed, ih, List.append_assoc]

end UdsIsoTp
