/-!
# Signatures over digests

A signature over the digest of a message is one over every message with that digest. So all
that a check of a signature can promise is that the message is one that was issued, up to a
collision: two messages at hand, one of them issued, that the hash does not tell apart
(`Unforged.message`).
-/

namespace UdsIsoTp.Digest

variable {α β σ : Type} {hash : α → β} {accepts : β → σ → Bool} {issued : α → Prop} {a b : α}
  {signature : σ}

/-- Two messages that the hash does not tell apart. -/
structure Collides (hash : α → β) (a b : α) : Prop where
  ne : a ≠ b
  same : hash a = hash b

theorem eq_or_collides (h : hash a = hash b) : a = b ∨ Collides hash a b := by
  by_cases heq : a = b
  · exact .inl heq
  · exact .inr ⟨heq, h⟩

/-- A signature is accepted only over the digest of a message that was issued. -/
def Unforged (hash : α → β) (accepts : β → σ → Bool) (issued : α → Prop) : Prop :=
  ∀ digest signature, accepts digest signature = true → ∃ m, issued m ∧ hash m = digest

theorem Unforged.message (h : Unforged hash accepts issued)
    (haccepts : accepts (hash a) signature = true) : ∃ m, issued m ∧ (a = m ∨ Collides hash a m) := by
  obtain ⟨m, hissued, hdigest⟩ := h (hash a) signature haccepts
  exact ⟨m, hissued, eq_or_collides hdigest.symm⟩

end UdsIsoTp.Digest
