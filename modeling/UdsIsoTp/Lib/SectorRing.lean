import UdsIsoTp.Lib.Wrap

/-!
# A log in a ring of sectors

Items are written one after the other into the slots of a ring; the ring is made of
sectors, and on entering a sector its slots are cleared. Each item carries a serial
number, and whoever lost count finds the newest item by scanning the slots in order.

`Logged n f` is what the slots `f` hold after `n` items: the newest item in its place,
behind it in the ring the items of this lap, ahead of it what the last lap has left in the
sectors not yet entered. `commit` and `scrub` keep it, and `latest_logged` says that the
scan finds the newest item whenever serial numbers compare well across the whole ring.
-/

namespace UdsIsoTp

variable {α : Type*} {newer : α → α → Prop} [DecidableRel newer]

/-- The item that a scan of the first slots holds for the newest, and where it is. -/
def latest (newer : α → α → Prop) [DecidableRel newer] (f : Nat → Option α) :
    Nat → Option (α × Nat)
  | 0 => none
  | r + 1 =>
    match f r with
    | none => latest newer f r
    | some q =>
      match latest newer f r with
      | none => some (q, r)
      | some (best, p) => if newer q best then some (q, r) else some (best, p)

variable {f f' : Nat → Option α}

theorem latest_succ (n : Nat) :
    latest newer f (n + 1) = (f n).elim (latest newer f n) fun q =>
      some ((latest newer f n).elim (q, n) fun found =>
        if newer q found.1 then (q, n) else found) := by
  rw [latest]
  cases f n with
  | none => rfl
  | some q =>
    cases latest newer f n with
    | none => rfl
    | some found => exact (apply_ite some ..).symm

/-- Only the slots scanned matter. -/
theorem latest_congr {n : Nat} (h : ∀ r < n, f' r = f r) :
    latest newer f' n = latest newer f n := by
  induction n with
  | zero => rfl
  | succ n ih =>
    unfold latest
    rw [h n (Nat.lt_succ_self n), ih fun r hr => h r (Nat.lt_succ_of_lt hr)]

theorem latest_none {n : Nat} (h : ∀ r < n, f r = none) : latest newer f n = none := by
  induction n with
  | zero => rfl
  | succ n ih =>
    unfold latest
    rw [h n (Nat.lt_succ_self n)]
    exact ih fun r hr => h r (Nat.lt_succ_of_lt hr)

/-- What the scan holds was there. -/
theorem latest_mem {n p : Nat} {best : α} (h : latest newer f n = some (best, p)) :
    p < n ∧ f p = some best := by
  induction n with
  | zero => exact absurd h (by simp [latest])
  | succ n ih =>
    have hkeep : latest newer f n = some (best, p) → p < n + 1 ∧ f p = some best :=
      fun h => ⟨Nat.lt_succ_of_lt (ih h).1, (ih h).2⟩
    have hlast : ∀ q, f n = some q → (q, n) = (best, p) → p < n + 1 ∧ f p = some best := by
      intro q hf heq
      obtain ⟨rfl, rfl⟩ := Prod.mk.inj heq
      exact ⟨Nat.lt_succ_self n, hf⟩
    rw [latest_succ] at h
    cases hf : f n with
    | none =>
      rw [hf] at h
      exact hkeep h
    | some q =>
      rw [hf] at h
      cases hprev : latest newer f n with
      | none =>
        rw [hprev] at h
        exact hlast q hf (Option.some.inj h)
      | some found =>
        rw [hprev] at h
        have h := Option.some.inj h
        dsimp only [Option.elim] at h
        split at h
        · exact hlast q hf h
        · exact hkeep (hprev.trans (congrArg some h))

/-- While every item is newer than the one before it, the scan holds the last one. -/
theorem latest_last {n : Nat}
    (hnewer : ∀ r s a b, r < s → s < n → f r = some a → f s = some b →
      (∀ x, r < x → x < s → f x = none) → newer b a) :
    ∀ best p, latest newer f n = some (best, p) →
      p < n ∧ f p = some best ∧ ∀ x, p < x → x < n → f x = none := by
  induction n with
  | zero =>
    intro best p h
    exact absurd h (by simp [latest])
  | succ n ih =>
    have ih := ih fun r s a b hr hs => hnewer r s a b hr (Nat.lt_succ_of_lt hs)
    intro best p h
    unfold latest at h
    cases hf : f n with
    | none =>
      rw [hf] at h
      obtain ⟨hp, hbest, hempty⟩ := ih best p h
      refine ⟨Nat.lt_succ_of_lt hp, hbest, fun x hx hxn => ?_⟩
      rcases Nat.lt_succ_iff_lt_or_eq.mp hxn with hlt | rfl
      · exact hempty x hx hlt
      · exact hf
    | some q =>
      rw [hf] at h
      -- the element at the end, once it is the best
      have hlast : best = q → p = n →
          p < n + 1 ∧ f p = some best ∧ ∀ x, p < x → x < n + 1 → f x = none := by
        rintro rfl rfl
        exact ⟨Nat.lt_succ_self p, hf, fun x hx hxn => by omega⟩
      -- it is the first one found, or newer than the best before it
      cases hprev : latest newer f n with
      | none =>
        rw [hprev] at h
        obtain ⟨rfl, rfl⟩ := Prod.mk.inj (Option.some.inj h)
        exact hlast rfl rfl
      | some prev =>
        obtain ⟨old, r⟩ := prev
        obtain ⟨hr, hold, hempty⟩ := ih old r hprev
        rw [hprev] at h
        dsimp only at h
        rw [if_pos (hnewer r n old q hr (Nat.lt_succ_self n) hold hf hempty)] at h
        obtain ⟨rfl, rfl⟩ := Prod.mk.inj (Option.some.inj h)
        exact hlast rfl rfl

/-- What comes after the newest item does not displace it. -/
theorem latest_kept {n p : Nat} {best : α} (hp : latest newer f (p + 1) = some (best, p))
    (hlate : ∀ r q, p < r → r < n → f r = some q → ¬newer q best) (hle : p + 1 ≤ n) :
    latest newer f n = some (best, p) := by
  induction n, hle using Nat.le_induction with
  | base => exact hp
  | succ n hle ih =>
    have ih := ih fun r q hr hrn => hlate r q hr (Nat.lt_succ_of_lt hrn)
    unfold latest
    cases hf : f n with
    | none => exact ih
    | some q =>
      rw [ih]
      exact if_neg (hlate n q hle (Nat.lt_succ_self n) hf)

/-- An item that is newer than all the others is what the scan holds. -/
theorem latest_newest {n p : Nat} {best : α} (hp : p < n) (hbest : f p = some best)
    (hothers : ∀ r < n, r ≠ p → ∀ q, f r = some q → newer best q ∧ ¬newer q best) :
    latest newer f n = some (best, p) := by
  refine latest_kept ?_ (fun r q hr hrn hq => (hothers r hrn (Nat.ne_of_gt hr) q hq).2) hp
  rw [latest_succ, hbest]
  cases hprev : latest newer f p with
  | none => rfl
  | some found =>
    obtain ⟨old, r⟩ := found
    obtain ⟨hr, hold⟩ := latest_mem hprev
    exact congrArg some (if_pos (hothers r (Nat.lt_trans hr hp) (Nat.ne_of_lt hr) old hold).1)

/-! ## The ring -/

/-- A ring of slots in sectors of equal size. -/
structure SectorRing where
  sectors : Nat
  perSector : Nat
  sectors_pos : 0 < sectors
  pos : 0 < perSector

namespace SectorRing

variable (R : SectorRing)

/-- How many slots there are. -/
def size : Nat := R.sectors * R.perSector

/-- The slot of item `n`. -/
def home (n : Nat) : Nat := n % R.size

/-- The items of the laps before that of item `n`. -/
def lap (n : Nat) : Nat := n - R.home n

/-- Writing item `n` enters a sector. -/
def Enters (n : Nat) : Prop := R.home n % R.perSector = 0

instance (n : Nat) : Decidable (R.Enters n) :=
  inferInstanceAs (Decidable (R.home n % R.perSector = 0))

/-- The slot is in the sector of item `n`. -/
def Beside (n r : Nat) : Prop := r / R.perSector = R.home n / R.perSector

/-- The slots after `n` items. -/
def Logged (item : Nat → α) (f : Nat → Option α) : Nat → Prop
  | 0 => ∀ r < R.size, f r = none
  | m + 1 => f (R.home m) = some (item m) ∧
    (∀ r < R.home m, f r = some (item (R.lap m + r)) ∨ r < R.perSector ∧ f r = none) ∧
    (∀ r, R.home m < r → r < R.size → f r = none ∨
      ¬R.Beside m r ∧ R.size ≤ R.lap m + r ∧ f r = some (item (R.lap m + r - R.size)))

variable {R} {item : Nat → α} {m n r : Nat}

theorem size_ge (htwo : 2 ≤ R.sectors) : 2 * R.perSector ≤ R.size :=
  Nat.mul_le_mul_right _ htwo

theorem size_pos : 0 < R.size := Nat.mul_pos R.sectors_pos R.pos

theorem home_lt (n : Nat) : R.home n < R.size := Nat.mod_lt n R.size_pos

theorem lap_add_home (n : Nat) : R.lap n + R.home n = n := Nat.sub_add_cancel (Nat.mod_le ..)

/-- The next item goes into the next slot of the lap, or begins a new one. -/
theorem home_succ (m : Nat) :
    R.home m + 1 = R.size ∧ R.home (m + 1) = 0 ∧ R.lap (m + 1) = R.lap m + R.size ∨
      R.home m + 1 < R.size ∧ R.home (m + 1) = R.home m + 1 ∧ R.lap (m + 1) = R.lap m := by
  have hm := R.lap_add_home m
  have hm1 := R.lap_add_home (m + 1)
  rcases mod_succ m R.size_pos with ⟨hend, hhome⟩ | ⟨hlt, hhome⟩
  · left
    change R.home m + 1 = R.size at hend
    change R.home (m + 1) = 0 at hhome
    exact ⟨hend, hhome, by omega⟩
  · right
    change R.home m + 1 < R.size at hlt
    change R.home (m + 1) = R.home m + 1 at hhome
    exact ⟨hlt, hhome, by omega⟩

/-- The sector about to be entered is not that of the newest item, nor one between them. -/
theorem not_beside_of_le (h : R.Enters (m + 1)) (hr : r ≤ R.home m) (hfar : R.perSector ≤ r ∨
    R.home (m + 1) ≠ 0) : ¬R.Beside (m + 1) r := by
  intro hbeside
  unfold Beside at hbeside
  rcases R.home_succ m with ⟨-, hhome, -⟩ | ⟨-, hhome, -⟩
  · rw [hhome, Nat.zero_div] at hbeside
    have hlt := (Nat.div_eq_zero_iff_lt R.pos).mp hbeside
    rcases hfar with hfar | hfar
    · omega
    · exact hfar hhome
  · unfold Enters at h
    rw [hhome] at h
    have hstep := Nat.succ_div_of_dvd (Nat.dvd_of_mod_eq_zero h)
    rw [hhome, hstep] at hbeside
    have := Nat.div_le_div_right (c := R.perSector) hr
    omega

/-- The newest item is not in the sector about to be entered, if there are two. -/
theorem not_beside_home (htwo : 2 ≤ R.sectors) (h : R.Enters (m + 1)) :
    ¬R.Beside (m + 1) (R.home m) := by
  refine not_beside_of_le h (Nat.le_refl _) ?_
  have hsize := R.size_ge htwo
  have hpos := R.pos
  rcases R.home_succ m with ⟨hend, -, -⟩ | ⟨-, hhome, -⟩
  · left
    omega
  · right
    omega

/-- Only the slots of the ring matter. -/
theorem Logged.congr (h : R.Logged item f n) (hslots : ∀ r < R.size, f' r = f r) :
    R.Logged item f' n := by
  cases n with
  | zero => exact fun r hr => (hslots r hr).trans (h r hr)
  | succ m =>
    obtain ⟨hitem, hbelow, habove⟩ := h
    refine ⟨(hslots _ (R.home_lt m)).trans hitem, fun r hr => ?_, fun r hr hsize => ?_⟩
    · rw [hslots r (Nat.lt_trans hr (R.home_lt m))]
      exact hbelow r hr
    · rw [hslots r hsize]
      exact habove r hr hsize

/-- Losing slots of the sector about to be entered harms nothing, if there is another. -/
theorem Logged.scrub (htwo : 2 ≤ R.sectors) (h : R.Logged item f n)
    (hslots : ∀ r < R.size, f' r = f r ∨ R.Enters n ∧ R.Beside n r ∧ f' r = none) :
    R.Logged item f' n := by
  cases n with
  | zero =>
    intro r hr
    rcases hslots r hr with hsame | ⟨-, -, hnone⟩
    · exact hsame.trans (h r hr)
    · exact hnone
  | succ m =>
    obtain ⟨hitem, hbelow, habove⟩ := h
    refine ⟨?_, ?_, ?_⟩
    · rcases hslots (R.home m) (R.home_lt m) with hsame | ⟨henter, hbeside, -⟩
      · exact hsame.trans hitem
      · exact absurd hbeside (not_beside_home htwo henter)
    · intro r hr
      rcases hslots r (Nat.lt_trans hr (R.home_lt m)) with hsame | ⟨henter, hbeside, hnone⟩
      · rw [hsame]
        exact hbelow r hr
      · refine .inr ⟨?_, hnone⟩
        by_contra hfar
        exact not_beside_of_le henter (Nat.le_of_lt hr) (.inl (by omega)) hbeside
    · intro r hr hsize
      rcases hslots r hsize with hsame | ⟨-, -, hnone⟩
      · rw [hsame]
        exact habove r hr hsize
      · exact .inl hnone

/-- Within a sector, the next slot is empty. -/
theorem Logged.next_empty (h : R.Logged item f n) (hstays : ¬R.Enters n) :
    f (R.home n) = none := by
  cases n with
  | zero => exact h _ (R.home_lt 0)
  | succ m =>
    obtain ⟨-, -, habove⟩ := h
    rcases R.home_succ m with ⟨-, hhome, -⟩ | ⟨hlt, hhome, -⟩
    · exact absurd (show R.home (m + 1) % R.perSector = 0 by rw [hhome, Nat.zero_mod]) hstays
    · rw [hhome]
      rcases habove (R.home m + 1) (Nat.lt_succ_self _) hlt with hnone | ⟨hapart, -⟩
      · exact hnone
      · refine absurd (Nat.succ_div_of_not_dvd fun hdvd => hstays ?_) hapart
        show R.home (m + 1) % R.perSector = 0
        rw [hhome]
        exact Nat.mod_eq_zero_of_dvd hdvd

/-- Whatever the next slot holds is not of the log. -/
theorem Logged.mask (htwo : 2 ≤ R.sectors) (h : R.Logged item f n) :
    R.Logged item (fun r => if r = R.home n then none else f r) n := by
  refine h.scrub htwo fun r _ => ?_
  by_cases hr : r = R.home n
  · rw [if_pos hr, hr]
    by_cases henters : R.Enters n
    · exact .inr ⟨henters, rfl, rfl⟩
    · exact .inl (h.next_empty henters).symm
  · exact .inl (if_neg hr)

/-- Item `n` is written, and the rest of its sector cleared if it is the first there. -/
theorem Logged.commit (h : R.Logged item f n) (hitem : f' (R.home n) = some (item n))
    (hclear : ∀ r < R.size, r ≠ R.home n → R.Enters n → R.Beside n r → f' r = none)
    (hkeep : ∀ r < R.size, r ≠ R.home n → ¬(R.Enters n ∧ R.Beside n r) → f' r = f r) :
    R.Logged item f' (n + 1) := by
  cases n with
  | zero =>
    have hhome : R.home 0 = 0 := Nat.zero_mod _
    refine ⟨hitem, fun r hr => absurd hr (by rw [hhome]; exact Nat.not_lt_zero r),
      fun r hr hsize => .inl ?_⟩
    by_cases hbeside : R.Beside 0 r
    · refine hclear r hsize (by omega) ?_ hbeside
      unfold Enters
      rw [hhome, Nat.zero_mod]
    · exact (hkeep r hsize (by omega) fun hboth => hbeside hboth.2).trans (h r hsize)
  | succ m =>
    obtain ⟨hnewest, hbelow, habove⟩ := h
    have hlast := R.lap_add_home m
    refine ⟨hitem, ?_, ?_⟩
    -- below the new item nothing has changed
    · intro r hr
      rcases R.home_succ m with ⟨-, hhome, -⟩ | ⟨hlt, hhome, hlap⟩
      · omega
      · have hle : r ≤ R.home m := by omega
        have hsame : f' r = f r := by
          refine hkeep r (by omega) (by omega) ?_
          rintro ⟨henter, hbeside⟩
          exact not_beside_of_le henter hle (.inr (by omega)) hbeside
        rw [hsame, hlap]
        rcases Nat.lt_or_eq_of_le hle with hlt | rfl
        · exact hbelow r hlt
        · rw [hlast]
          exact .inl hnewest
    -- ahead of it lies what was cleared, or the lap before
    · intro r hr hsize
      by_cases hboth : R.Enters (m + 1) ∧ R.Beside (m + 1) r
      · exact .inl (hclear r hsize (by omega) hboth.1 hboth.2)
      · rw [hkeep r hsize (by omega) hboth]
        rcases R.home_succ m with ⟨hend, hhome, hlap⟩ | ⟨hlt, hhome, hlap⟩
        · -- a new lap: what lies ahead was written in the lap that has ended
          have henter : R.Enters (m + 1) := by
            unfold Enters
            rw [hhome, Nat.zero_mod]
          have hahead : R.lap (m + 1) + r - R.size = R.lap m + r := by omega
          have hbeside : ¬R.Beside (m + 1) r := fun hb => hboth ⟨henter, hb⟩
          rw [hahead]
          rcases Nat.lt_or_eq_of_le (show r ≤ R.home m by omega) with hr' | rfl
          · rcases hbelow r hr' with hsome | ⟨-, hnone⟩
            · exact .inr ⟨hbeside, by omega, hsome⟩
            · exact .inl hnone
          · rw [hlast]
            exact .inr ⟨hbeside, by omega, hnewest⟩
        · rw [hlap]
          rcases habove r (by omega) hsize with hnone | ⟨hbeside, hle, hsome⟩
          · exact .inl hnone
          · refine .inr ⟨fun hb => ?_, hle, hsome⟩
            by_cases henter : R.Enters (m + 1)
            · exact hboth ⟨henter, hb⟩
            · unfold Beside Enters at *
              rw [hhome] at hb henter
              rw [Nat.succ_div_of_not_dvd fun hd => henter (Nat.mod_eq_zero_of_dvd hd)] at hb
              exact hbeside hb

/-- What the slots hold are items of the log, no further back than the ring is long. -/
theorem Logged.behind (h : R.Logged item f n) (hr : r < R.size) {q : α} (hq : f r = some q) :
    ∃ k d, q = item k ∧ k + d = n ∧ 0 < d ∧ d ≤ R.size := by
  cases n with
  | zero => exact absurd (hq.symm.trans (h r hr)) (by simp)
  | succ m =>
    obtain ⟨hitem, hbelow, habove⟩ := h
    have hlast := R.lap_add_home m
    have hhome := R.home_lt m
    rcases Nat.lt_trichotomy r (R.home m) with hlt | rfl | hgt
    · rcases hbelow r hlt with hsome | ⟨-, hnone⟩
      · exact ⟨R.lap m + r, R.home m - r + 1, Option.some.inj (hq.symm.trans hsome), by omega,
          by omega, by omega⟩
      · exact absurd (hq.symm.trans hnone) (by simp)
    · exact ⟨m, 1, Option.some.inj (hq.symm.trans hitem), rfl, Nat.one_pos, by omega⟩
    · rcases habove r hgt hr with hnone | ⟨-, hle, hsome⟩
      · exact absurd (hq.symm.trans hnone) (by simp)
      · exact ⟨R.lap m + r - R.size, R.size + R.home m - r + 1,
          Option.some.inj (hq.symm.trans hsome), by omega, by omega, by omega⟩

/-- **The scan finds the newest item.** -/
theorem latest_logged (h : R.Logged item f (m + 1))
    (hnear : ∀ k d, 0 < d → d ≤ R.perSector → newer (item (k + d)) (item k))
    (hfar : ∀ k d, 0 < d → d < R.size → ¬newer (item k) (item (k + d))) :
    latest newer f R.size = some (item m, R.home m) := by
  obtain ⟨hitem, hbelow, habove⟩ := h
  have hlast := R.lap_add_home m
  have hpos := R.pos
  -- two items with nothing between them are at most a sector apart
  have hstep : ∀ r s a, r < s → s ≤ R.home m → f r = some a →
      (∀ x, r < x → x < s → f x = none) → a = item (R.lap m + r) ∧ s - r ≤ R.perSector := by
    intro r s a hr hs ha hempty
    constructor
    · rcases hbelow r (by omega) with hsome | ⟨-, hnone⟩
      · exact Option.some.inj (ha.symm.trans hsome)
      · exact absurd (ha.symm.trans hnone) (by simp)
    · by_contra hfar
      have hx := hempty (s - 1) (by omega) (by omega)
      rcases hbelow (s - 1) (by omega) with hsome | ⟨hlt, -⟩
      · exact absurd (hx.symm.trans hsome) (by simp)
      · omega
  have hbest : latest newer f (R.home m + 1) = some (item m, R.home m) := by
    unfold latest
    rw [hitem]
    cases hprev : latest newer f (R.home m) with
    | none => rfl
    | some prev =>
      obtain ⟨best, r⟩ := prev
      have hnewer : ∀ r s a b, r < s → s < R.home m → f r = some a → f s = some b →
          (∀ x, r < x → x < s → f x = none) → newer b a := by
        intro r s a b hr hs ha hb hempty
        obtain ⟨rfl, hle⟩ := hstep r s a hr (Nat.le_of_lt hs) ha hempty
        obtain rfl : b = item (R.lap m + r + (s - r)) := by
          rcases hbelow s hs with hsome | ⟨-, hnone⟩
          · rw [show R.lap m + r + (s - r) = R.lap m + s by omega]
            exact Option.some.inj (hb.symm.trans hsome)
          · exact absurd (hb.symm.trans hnone) (by simp)
        exact hnear _ _ (by omega) hle
      obtain ⟨hr, hsome, hempty⟩ := latest_last hnewer best r hprev
      obtain ⟨rfl, hle⟩ := hstep r (R.home m) best hr (Nat.le_refl _) hsome hempty
      have hnew := hnear (R.lap m + r) (R.home m - r) (by omega) hle
      rw [show R.lap m + r + (R.home m - r) = m by omega] at hnew
      exact if_pos hnew
  refine latest_kept hbest ?_ (R.home_lt m)
  intro r q hr hsize hq
  rcases habove r hr hsize with hnone | ⟨-, hle, hsome⟩
  · exact absurd (hq.symm.trans hnone) (by simp)
  · obtain rfl := Option.some.inj (hq.symm.trans hsome)
    have hhome := R.home_lt m
    have hold := hfar (R.lap m + r - R.size) (R.size + R.home m - r) (by omega) (by omega)
    rwa [show R.lap m + r - R.size + (R.size + R.home m - r) = m by omega] at hold

end SectorRing

end UdsIsoTp
