import UdsIsoTp.Lib.Run

/-!
# Writes laid over one another

A write says what it puts at which addresses, and at the others nothing (`Patch`). In a system whose
every call lays one write over what was there, an address holds after a run what the last write that
reached it put there, or else what it held at the start (`look_run`).
-/

namespace UdsIsoTp

variable {α β σ ι : Type*}

/-- What a write puts where. -/
abbrev Patch (α β : Type*) := α → Option β

/-- What the last of the writes that reach the address puts there. -/
def lastPut (patches : List (Patch α β)) (a : α) : Option β := patches.reverse.findSome? (· a)

@[simp] theorem lastPut_nil (a : α) : lastPut ([] : List (Patch α β)) a = none := rfl

theorem lastPut_concat (patches : List (Patch α β)) (patch : Patch α β) (a : α) :
    lastPut (patches ++ [patch]) a = (patch a).or (lastPut patches a) := by
  unfold lastPut
  rw [List.reverse_append, List.reverse_singleton, List.singleton_append, List.findSome?_cons]
  cases patch a <;> rfl

theorem look_run (look : σ → α → β) {step : σ → ι → σ} {puts : ι → Patch α β} {I : σ → Prop}
    (hinv : ∀ s call, I s → I (step s call))
    (hstep : ∀ s call a, I s → look (step s call) a = (puts call a).getD (look s a)) {s : σ}
    (hs : I s) (calls : List ι) (a : α) :
    look (run step s calls) a = (lastPut (calls.map puts) a).getD (look s a) := by
  induction calls using List.reverseRecOn with
  | nil => rfl
  | append_singleton calls call ih =>
    rw [run_concat, hstep _ _ _ (run_inv hinv hs calls), ih, List.map_append, List.map_singleton,
      lastPut_concat]
    cases puts call a <;> rfl

end UdsIsoTp
