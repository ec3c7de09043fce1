import UdsIsoTp.Lib.Writer

/-!
# Reads that stay inside

A function written in `Option` can read an array with `l[i]?`, and then it has a value only
if it has read nothing outside. A loop of such reads goes through the first elements of the
array (`foldRead_eq`), or it has no value (`foldRead_none`).

A `CheckedWriter` is a writer of this kind. It `Agrees` with a plain writer if it always has a
value, and the value is that of the plain one.
-/

namespace UdsIsoTp

variable {α β σ : Type*}

/-! ## Loops -/

/-- A loop over what is read at the indices below `n`, one after the other. -/
def foldRead (read : Nat → Option α) (n : Nat) (step : σ → α → Option σ) (s : σ) : Option σ :=
  (List.range n).foldlM (fun s i => (read i).bind (step s)) s

section FoldRead

variable {read : Nat → Option α} {l : List α} {n : Nat} {step : σ → α → Option σ}

theorem foldRead_succ (s : σ) :
    foldRead read (n + 1) step s
      = (foldRead read n step s).bind fun s => (read n).bind (step s) := by
  unfold foldRead
  rw [List.range_succ, List.foldlM_append]
  rw [Option.bind_eq_bind]
  refine congrArg _ (funext fun s => ?_)
  rw [List.foldlM_cons, Option.bind_eq_bind]
  exact Option.bind_fun_some _

/-- All that is read is in the array. -/
theorem foldRead_eq (hn : n ≤ l.length) (hread : ∀ i < n, read i = l[i]?) (s : σ) :
    foldRead read n step s = (l.take n).foldlM step s := by
  induction n with
  | zero => rfl
  | succ n ih =>
    rw [foldRead_succ, ih (Nat.le_of_succ_le hn) fun i hi => hread i (Nat.lt_succ_of_lt hi),
      hread n (Nat.lt_succ_self n), List.take_add_one, List.getElem?_eq_getElem hn,
      List.foldlM_append]
    rw [Option.bind_eq_bind]
    refine congrArg _ (funext fun s => ?_)
    rw [Option.bind_some, Option.toList_some, List.foldlM_cons, Option.bind_eq_bind]
    exact (Option.bind_fun_some _).symm

/-- A read behind the array. -/
theorem foldRead_none {i : Nat} (hi : i < n) (hread : read i = none) (s : σ) :
    foldRead read n step s = none := by
  induction n with
  | zero => exact absurd hi (Nat.not_lt_zero _)
  | succ n ih =>
    rw [foldRead_succ]
    rcases Nat.lt_succ_iff_lt_or_eq.mp hi with hbefore | rfl
    · rw [ih hbefore]
      rfl
    · rw [hread]
      exact Option.bind_fun_none _

end FoldRead

/-- A loop whose steps have a value as long as `I` holds. -/
theorem foldlM_eq_some (I : σ → Prop) {step : σ → α → Option σ} {f : σ → α → σ} {l : List α}
    (hstep : ∀ s, I s → ∀ a ∈ l, step s a = some (f s a) ∧ I (f s a)) {s : σ} (hs : I s) :
    l.foldlM step s = some (l.foldl f s) ∧ I (l.foldl f s) := by
  induction l generalizing s with
  | nil => exact ⟨rfl, hs⟩
  | cons a l ih =>
    obtain ⟨hvalue, hnext⟩ := hstep s hs a List.mem_cons_self
    rw [List.foldlM_cons, hvalue]
    exact ih (fun s hs b hb => hstep s hs b (List.mem_cons_of_mem a hb)) hnext

/-! ## Writers -/

/-- Whether all has been written, and what has; no value for a read outside. -/
abbrev CheckedWriter (β : Type*) := List β → Option (Bool × List β)

namespace CheckedWriter

/-- A writer that reads no array. -/
def plain (w : Writer β) : CheckedWriter β := fun written => some (w written)

/-- What is read first, for the writer that needs it. -/
def reading (a : Option α) (w : α → CheckedWriter β) : CheckedWriter β := fun written =>
  a.bind fun a => w a written

/-- `first && second` -/
def andAlso (first second : CheckedWriter β) : CheckedWriter β := fun written => do
  let out ← first written
  if out.1 then second out.2 else some out

/-- `!c || w` -/
def onlyIf (c : Bool) (w : CheckedWriter β) : CheckedWriter β := fun written =>
  if c then w written else some (true, written)

/-- A loop that stops where a writer fails. -/
def appendEach (w : α → CheckedWriter β) : List α → CheckedWriter β
  | [], written => some (true, written)
  | a :: rest, written => andAlso (w a) (appendEach w rest) written

/-- The writer reads nothing outside, and does what the plain one does. -/
def Agrees (cw : CheckedWriter β) (w : Writer β) : Prop :=
  ∀ written, cw written = some (w written)

/-! ## The rules -/

variable {cw cw' : CheckedWriter β} {w w' : Writer β}

theorem plain_agrees (w : Writer β) : Agrees (plain w) w := fun _ => rfl

theorem Agrees.reading {a : Option α} {x : α} {cw : α → CheckedWriter β} (ha : a = some x)
    (h : Agrees (cw x) w) : Agrees (reading a cw) w := by
  intro written
  unfold CheckedWriter.reading
  rw [ha]
  exact h written

theorem Agrees.andAlso (h : Agrees cw w) (h' : Agrees cw' w') :
    Agrees (andAlso cw cw') (Writer.andAlso w w') := by
  intro written
  unfold CheckedWriter.andAlso Writer.andAlso
  rw [h written]
  show (if (w written).1 = true then cw' (w written).2 else some (w written)) = _
  dsimp only
  rw [h' (w written).2]
  split
  next => rfl
  next => rfl

theorem Agrees.onlyIf (c : Bool) (h : Agrees cw w) :
    Agrees (onlyIf c cw) (Writer.onlyIf c w) := by
  intro written
  cases c with
  | true => exact h written
  | false => rfl

/-- A loop over the indices of a list. -/
theorem Agrees.appendEach {l : List α} {read : Nat → Option α} {n : Nat} (hn : n = l.length)
    (hread : ∀ i < n, read i = l[i]?) {cw : α → CheckedWriter β} {w : α → Writer β}
    (h : ∀ a ∈ l, Agrees (cw a) (w a)) :
    Agrees (appendEach (fun i => CheckedWriter.reading (read i) cw) (List.range n))
      (Writer.appendEach w l) := by
  have hshifted : ∀ (l : List α) (k : Nat), (∀ i < l.length, read (k + i) = l[i]?) →
      (∀ a ∈ l, Agrees (cw a) (w a)) →
      Agrees (CheckedWriter.appendEach (fun i => CheckedWriter.reading (read i) cw)
        (List.range' k l.length)) (Writer.appendEach w l) := by
    intro l
    induction l with
    | nil =>
      intro k _ _ written
      rfl
    | cons a rest ih =>
      intro k hread hagrees
      have hfirst : read k = some a := hread 0 (Nat.succ_pos _)
      have hrest := ih (k + 1)
        (fun i hi => by
          rw [Nat.add_assoc, Nat.add_comm 1 i]
          exact hread (i + 1) (Nat.succ_lt_succ hi))
        fun b hb => hagrees b (List.mem_cons_of_mem a hb)
      exact (Agrees.reading hfirst (hagrees a List.mem_cons_self)).andAlso hrest
  rw [List.range_eq_range', hn]
  exact hshifted l 0 (fun i hi => by
    rw [Nat.zero_add]
    exact hread i (hn ▸ hi)) h

end CheckedWriter

end UdsIsoTp
