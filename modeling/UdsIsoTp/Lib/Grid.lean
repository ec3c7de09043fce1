import Mathlib.Data.Nat.ModEq

/-!
# Cells in rows

Cells of one width stand side by side in rows, with no room for one more in any row. They are
`Apart` around an address space if no two of them share an address once the addresses have
wrapped, and they are if and only if all rows fit into it one after the other (`apart_iff`).
-/

namespace UdsIsoTp

/-- Pieces of equal width in rows, the rows a stride apart. -/
structure Grid where
  rows : Nat
  columns : Nat
  width : Nat
  stride : Nat
  rows_pos : 0 < rows
  columns_pos : 0 < columns
  width_pos : 0 < width
  fits : columns * width ≤ stride
  /-- No room for another column. -/
  full : stride < (columns + 1) * width

namespace Grid

variable (g : Grid)

/-- Where cell `c` of row `r` begins. -/
def start (r c : Nat) : Nat := r * g.stride + c * g.width

/-- Where the last cell ends. -/
def span : Nat := (g.rows - 1) * g.stride + g.columns * g.width

/-- No two cells meet modulo `size`. -/
def Apart (size : Nat) : Prop :=
  ∀ r < g.rows, ∀ c < g.columns, ∀ r' < g.rows, ∀ c' < g.columns, (r, c) ≠ (r', c') →
    ∀ i < g.width, ∀ j < g.width, (g.start r c + i) % size ≠ (g.start r' c' + j) % size

variable {g}

theorem cell_lt {c i : Nat} (hc : c < g.columns) (hi : i < g.width) :
    c * g.width + i < g.columns * g.width := by
  have hmul := Nat.mul_le_mul_right g.width (Nat.succ_le_of_lt hc)
  rw [Nat.succ_mul] at hmul
  omega

/-- A cell lies in its row. -/
theorem within_row {c i : Nat} (hc : c < g.columns) (hi : i < g.width) :
    c * g.width + i < g.stride := Nat.lt_of_lt_of_le (cell_lt hc hi) g.fits

theorem within_span {r c i : Nat} (hr : r < g.rows) (hc : c < g.columns) (hi : i < g.width) :
    g.start r c + i < g.span := by
  have hcell := cell_lt hc hi
  have hrow := Nat.mul_le_mul_right g.stride (Nat.le_sub_one_of_lt hr)
  unfold start span
  omega

/-- An address tells the cell it is in. -/
theorem start_inj {r c r' c' i j : Nat} (hc : c < g.columns) (hc' : c' < g.columns)
    (hi : i < g.width) (hj : j < g.width) (h : g.start r c + i = g.start r' c' + j) :
    (r, c) = (r', c') := by
  have hrow := within_row hc hi
  have hrow' := within_row hc' hj
  have hstride : 0 < g.stride := Nat.lt_of_le_of_lt (Nat.zero_le _) hrow
  unfold start at h
  rw [Nat.add_assoc, Nat.add_assoc] at h
  -- the quotient by the stride is the row, and what is left of it tells the column
  have hr : r = r' := by
    have hdiv := congrArg (· / g.stride) h
    simpa only [Nat.mul_comm _ g.stride, Nat.mul_add_div hstride, Nat.div_eq_of_lt hrow,
      Nat.div_eq_of_lt hrow', Nat.add_zero] using hdiv
  subst hr
  have hcell : c * g.width + i = c' * g.width + j := Nat.add_left_cancel h
  have hcolumn : c = c' := by
    have hdiv := congrArg (· / g.width) hcell
    simpa only [Nat.mul_comm _ g.width, Nat.mul_add_div g.width_pos, Nat.div_eq_of_lt hi,
      Nat.div_eq_of_lt hj, Nat.add_zero] using hdiv
  rw [hcolumn]

theorem apart_of_fits {size : Nat} (h : g.span ≤ size) : g.Apart size := by
  intro r hr c hc r' hr' c' hc' hne i hi j hj hmeet
  have hlt := within_span hr hc hi
  have hlt' := within_span hr' hc' hj
  rw [Nat.mod_eq_of_lt (by omega), Nat.mod_eq_of_lt (by omega)] at hmeet
  exact hne (start_inj hc hc' hi hj hmeet)

/-- The last cell's beginning. -/
def last (g : Grid) : Nat := g.start (g.rows - 1) (g.columns - 1)

theorem last_add_width : g.last + g.width = g.span := by
  have hcolumns := Nat.sub_add_cancel (Nat.succ_le_of_lt g.columns_pos)
  have hmul : (g.columns - 1) * g.width + g.width = g.columns * g.width := by
    rw [← Nat.succ_mul]
    exact congrArg (· * g.width) hcolumns
  unfold last start span
  omega

/-- From an address before the last cell, a cell is less than a width ahead. -/
theorem covered {x : Nat} (hx : x < g.last) :
    ∃ r < g.rows, ∃ c < g.columns, ∃ i < g.width, ∃ j < g.width, x + i = g.start r c + j := by
  have hrows := g.rows_pos
  have hwidth := g.width_pos
  have hstride : 0 < g.stride := Nat.lt_of_le_of_lt (Nat.zero_le _) (within_row g.columns_pos hwidth)
  have hrow := Nat.div_add_mod' x g.stride
  have hoffset := Nat.mod_lt x hstride
  have hlast := g.last_add_width
  have hspan : g.span ≤ (g.rows - 1 + 1) * g.stride := by
    rw [Nat.succ_mul]
    exact Nat.add_le_add_left g.fits _
  rw [Nat.sub_add_cancel hrows] at hspan
  have hr : x / g.stride < g.rows := Nat.div_lt_of_lt_mul (by rw [Nat.mul_comm]; omega)
  by_cases hc : x % g.stride / g.width < g.columns
  · -- the address is in a cell
    refine ⟨x / g.stride, hr, x % g.stride / g.width, hc, 0, hwidth,
      x % g.stride % g.width, Nat.mod_lt _ hwidth, ?_⟩
    have hcell := Nat.div_add_mod' (x % g.stride) g.width
    unfold start
    omega
  · -- it is behind the last cell of its row, and the next row begins less than a width ahead
    have hbehind : g.columns * g.width ≤ x % g.stride :=
      (Nat.le_div_iff_mul_le hwidth).mp (Nat.not_lt.mp hc)
    have hfull := g.full
    rw [Nat.succ_mul] at hfull
    have hnext : x / g.stride + 1 < g.rows := by
      by_contra hlastRow
      have hmul := Nat.mul_le_mul_right g.stride
        (show g.rows - 1 ≤ x / g.stride by omega)
      unfold span at hlast
      omega
    refine ⟨x / g.stride + 1, hnext, 0, g.columns_pos, g.stride - x % g.stride, by omega, 0, hwidth,
      ?_⟩
    unfold start
    rw [Nat.succ_mul, Nat.zero_mul]
    omega

theorem apart_iff {size : Nat} (hsize : g.width ≤ size) : g.Apart size ↔ g.span ≤ size := by
  refine ⟨fun h => ?_, apart_of_fits⟩
  by_contra hspan
  have hrows := g.rows_pos
  have hcolumns := g.columns_pos
  have hwidth := g.width_pos
  have hlast := g.last_add_width
  have hzero : g.start 0 0 = 0 := by unfold start; omega
  rcases Nat.lt_or_ge g.last size with hlt | hge
  · -- the last cell reaches round to the first
    have hne : (g.rows - 1, g.columns - 1) ≠ (0, 0) := by
      intro heq
      injection heq with hr hc
      have hat : g.last = g.start 0 0 := by unfold last; rw [hr, hc]
      omega
    refine h _ (by omega) _ (by omega) 0 hrows 0 hcolumns hne (size - g.last) (by omega) 0 hwidth ?_
    show (g.last + (size - g.last)) % size = (g.start 0 0 + 0) % size
    rw [Nat.add_sub_cancel' (Nat.le_of_lt hlt), Nat.mod_self, hzero, Nat.zero_mod]
  · -- it begins again over cells that come before it
    obtain ⟨r, hr, c, hc, i, hi, j, hj, hmeet⟩ := covered (g := g) (x := g.last - size) (by omega)
    have hne : (g.rows - 1, g.columns - 1) ≠ (r, c) := by
      intro heq
      injection heq with hr hc
      have hat : g.last = g.start r c := by unfold last; rw [hr, hc]
      omega
    refine h _ (by omega) _ (by omega) r hr c hc hne i hi j hj ?_
    show (g.last + i) % size = _
    rw [← hmeet, show g.last + i = g.last - size + i + size by omega, Nat.add_mod_right]

end Grid

end UdsIsoTp
