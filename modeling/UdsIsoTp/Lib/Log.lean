import Mathlib.Data.List.Induction

/-!
# Event logs

A safety property of a run is often one about the order of its visible events:
each event may only follow certain others. `EachAfter` says it of a log, and
`eachAfter_concat` reduces it to the event a step adds.
-/

namespace UdsIsoTp

variable {ε : Type*}

/-- Every event of the log stands in relation `P` to the events before it. -/
def EachAfter (P : List ε → ε → Prop) (log : List ε) : Prop :=
  ∀ before e after, log = before ++ e :: after → P before e

variable {P : List ε → ε → Prop} {p : ε → Bool}

theorem eachAfter_nil : EachAfter P [] := by
  intro before e after h
  exact absurd h (by simp)

theorem eachAfter_concat {log : List ε} {e : ε} :
    EachAfter P (log ++ [e]) ↔ EachAfter P log ∧ P log e := by
  constructor
  · intro h
    refine ⟨fun before x after heq => h before x (after ++ [e]) ?_, h log e [] rfl⟩
    rw [heq]
    simp
  · rintro ⟨hlog, he⟩ before x after heq
    rcases List.eq_nil_or_concat after with rfl | ⟨after', y, rfl⟩
    · obtain ⟨hpre, hx⟩ := List.append_inj' heq rfl
      obtain rfl : e = x := by simpa using hx
      rw [← hpre]
      exact he
    · rw [List.concat_eq_append, ← List.cons_append, ← List.append_assoc] at heq
      exact hlog before x after' (List.append_inj' heq rfl).1

/-- How many events at the end of the log have the property. -/
def trailing (p : ε → Bool) (log : List ε) : Nat := (log.reverse.takeWhile p).length

@[simp] theorem trailing_nil : trailing p [] = 0 := rfl

theorem trailing_concat_of_pos {log : List ε} {e : ε} (h : p e = true) :
    trailing p (log ++ [e]) = trailing p log + 1 := by
  simp [trailing, h]

theorem trailing_concat_of_neg {log : List ε} {e : ε} (h : p e = false) :
    trailing p (log ++ [e]) = 0 := by
  simp [trailing, h]

end UdsIsoTp
