import UdsIsoTp.Lib.Run

/-!
# Machines with a deadline

A machine that is busy gives up when it is polled after its deadline. Its calls may put the
deadline off, but each time they do some rank goes down. Then whoever calls it, and whatever
they want, cannot keep it busy for long (`Watchdog.over`): it is the rank at the beginning
that bounds how long, together with the length of the deadline and the time between two polls.
-/

namespace UdsIsoTp

variable {σ α : Type*}

/-- The calls come in the order of their times, each of them within `patience` of the poll
before it. -/
def Punctual (time : α → Nat) (polls : α → Bool) (patience : Nat) : Nat → Nat → List α → Prop
  | _, _, [] => True
  | polled, last, a :: rest =>
    last ≤ time a ∧ time a ≤ polled + patience ∧
      Punctual time polls patience (if polls a then time a else polled) (time a) rest

/-- The time of the last call. -/
def lastTime (time : α → Nat) (last : Nat) : List α → Nat
  | [] => last
  | a :: rest => lastTime time (time a) rest

/-- `armed s d` says that the deadline of `s` is at `d`. -/
structure Watchdog (step : σ → α → σ) (ok : σ → α → Prop) (time : α → Nat) (polls : α → Bool)
    (busy : σ → Prop) (armed : σ → Nat → Prop) (rank : σ → Nat) (timeout patience : Nat) :
    Prop where
  idle : ∀ {s a}, ok s a → ¬busy s → ¬busy (step s a)
  /-- The deadline stays, and has not passed for a poll, or it is put off and the rank falls. -/
  step : ∀ {s a d}, ok s a → busy (step s a) → armed s d → time a ≤ d + patience →
    (armed (step s a) d ∧ rank (step s a) ≤ rank s ∧ (polls a = true → time a < d)) ∨
      ∃ d', armed (step s a) d' ∧ time a ≤ d' ∧ d' ≤ time a + timeout ∧
        rank (step s a) < rank s

variable {step : σ → α → σ} {ok : σ → α → Prop} {time : α → Nat} {polls : α → Bool}
  {busy : σ → Prop} {armed : σ → Nat → Prop} {rank : σ → Nat} {timeout patience : Nat}

/-- What is over stays over. -/
theorem Watchdog.stays (h : Watchdog step ok time polls busy armed rank timeout patience)
    {calls : List α} {s : σ} (hidle : ¬busy s) (hok : Along step ok s calls) :
    ¬busy (run step s calls) :=
  Along.inv (I := fun s => ¬busy s) (fun _ _ hidle hok => h.idle hok hidle) hidle hok

/-- The deadlines to come, if each of them is as late as can be, end at `limit`. -/
theorem Watchdog.within (h : Watchdog step ok time polls busy armed rank timeout patience)
    {calls : List α} {s : σ} {d polled last limit : Nat} (harmed : armed s d)
    (hpolled : polled ≤ d) (hpast : polled ≤ last) (hlast : last ≤ polled + patience)
    (hlimit : d + rank s * (timeout + patience) ≤ limit)
    (hcalls : Punctual time polls patience polled last calls) (hok : Along step ok s calls)
    (hbusy : busy (run step s calls)) : lastTime time last calls ≤ limit + patience := by
  induction calls generalizing s d polled last with
  | nil =>
    show last ≤ limit + patience
    omega
  | cons a rest ih =>
    obtain ⟨horder, hsoon, hrest⟩ := hcalls
    obtain ⟨hnow, hlater⟩ := hok
    have hstill : busy (step s a) := by
      by_contra hover
      exact h.stays hover hlater hbusy
    rcases h.step hnow hstill harmed (by omega) with
      ⟨hkept, hrank, hpoll⟩ | ⟨d', hput, hahead, hnear, hrank⟩
    · have hbound := Nat.mul_le_mul_right (timeout + patience) hrank
      refine ih hkept ?_ ?_ ?_ (by omega) hrest hlater hbusy
      · split
        next hpolls => exact Nat.le_of_lt (hpoll hpolls)
        next => exact hpolled
      · split <;> omega
      · split <;> omega
    · have hbound := Nat.mul_le_mul_right (timeout + patience) (Nat.succ_le_of_lt hrank)
      rw [Nat.succ_mul] at hbound
      refine ih hput ?_ ?_ ?_ (by omega) hrest hlater hbusy
      · split <;> omega
      · split <;> omega
      · split <;> omega

/-- **A machine with a deadline is not busy for long.** -/
theorem Watchdog.over (h : Watchdog step ok time polls busy armed rank timeout patience)
    {calls : List α} {s : σ} {start : Nat} (harmed : armed s (start + timeout))
    (hcalls : Punctual time polls patience start start calls) (hok : Along step ok s calls)
    (hlate : start + (rank s + 1) * (timeout + patience) < lastTime time start calls) :
    ¬busy (run step s calls) := by
  intro hbusy
  have hwithin := h.within harmed (Nat.le_add_right ..) (Nat.le_refl start)
    (Nat.le_add_right ..) (Nat.le_refl _) hcalls hok hbusy
  rw [Nat.succ_mul] at hlate
  omega

end UdsIsoTp
