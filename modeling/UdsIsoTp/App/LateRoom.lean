import UdsIsoTp.Uds.Types

/-!
# Handlers that look for room last

A handler that has checked its request and changed its state, and then finds no room for its
response, refuses a request that it has carried out. `Atomic` is what the tester may expect of a
refusal, and `answerMoved_atomic_iff` says when such a handler meets it: when there is room, or the
request was refused before, or asked for nothing that was not so already.
-/

namespace UdsIsoTp.App

open UdsIsoTp.Uds

variable {ω : Type}

/-- The results that say that a request was not carried out. -/
def refusals : List UdsCallbackResult :=
  [.responseTooLong, .invalidFormat, .outOfRange, .subfunctionNotSupported]

/-- A request that is refused has left the state as it was. -/
def Atomic (state : ω) (reply : Reply ω) : Prop :=
  reply.result ∈ refusals → reply.world = state

/-- The end of a handler whose checks and changes are made: a refusal is passed on, and room for
the response is looked for last. -/
def answerMoved (moved : UdsCallbackResult × ω) (capacity needed : UInt16)
    (data : ω → List UInt8) : Reply ω :=
  if moved.1 ≠ .ok then ⟨moved.1, [], 0, moved.2⟩
  else if capacity < needed then ⟨.responseTooLong, [], 0, moved.2⟩
  else ⟨.ok, data moved.2, needed, moved.2⟩

theorem answerMoved_atomic_iff {state : ω} {moved : UdsCallbackResult × ω}
    (hrefused : moved.1 ≠ .ok → moved.2 = state) (capacity needed : UInt16)
    (data : ω → List UInt8) :
    Atomic state (answerMoved moved capacity needed data)
      ↔ (moved.1 = .ok → needed ≤ capacity ∨ moved.2 = state) := by
  unfold answerMoved
  by_cases hok : moved.1 = .ok
  -- the result of a change is the only one that can turn into a refusal
  · rw [if_neg (not_not.mpr hok)]
    by_cases hroom : capacity < needed
    · rw [if_pos hroom]
      have hshort : ¬needed ≤ capacity := UInt16.not_le.mpr hroom
      constructor
      · intro hatomic _
        exact .inr (hatomic (by decide : UdsCallbackResult.responseTooLong ∈ refusals))
      · intro hsame _
        exact (hsame hok).resolve_left hshort
    · rw [if_neg hroom]
      constructor
      · intro _ _
        exact .inl (UInt16.not_lt.mp hroom)
      · intro _ hresult
        exact absurd hresult (by decide : UdsCallbackResult.ok ∉ refusals)
  · rw [if_pos hok]
    constructor
    · intro _ hmoved
      exact absurd hmoved hok
    · intro _ _
      exact hrefused hok

/-- A request that is refused before anything is changed. -/
theorem atomic_unchanged {state : ω} {reply : Reply ω} (h : reply.world = state) :
    Atomic state reply := fun _ => h

end UdsIsoTp.App
