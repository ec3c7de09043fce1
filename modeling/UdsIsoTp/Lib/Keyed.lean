import Mathlib.Data.List.Nodup
import Mathlib.Data.List.Basic

/-!
# Tables of entries with keys

A table is a list of entries, each with a key, and is searched from the front. Changing the
entry that a search has found, or adding one behind the last, changes what a search finds
for that key and for no other. So when a table is loaded from a list of items with distinct
keys, every entry is made by the one item of its key (`look_foldl`).
-/

namespace UdsIsoTp.Keyed

variable {α κ : Type} [DecidableEq κ] (key : α → κ)

/-- The first entry with the key. -/
def lookup (l : List α) (k : κ) : Option α := l.find? fun a => key a = k

/-- Where the first entry with the key is. -/
def index (l : List α) (k : κ) : Option Nat := l.findIdx? fun a => key a = k

variable {key} {l : List α} {k : κ} {i : Nat}

@[simp] theorem lookup_nil : lookup key [] k = none := rfl

theorem lookup_cons (a : α) :
    lookup key (a :: l) k = if key a = k then some a else lookup key l k := by
  unfold lookup
  rw [List.find?_cons]
  by_cases h : key a = k <;> simp [h]

/-- What is found is in the list, under its key. -/
theorem lookup_some {a : α} (h : lookup key l k = some a) : a ∈ l ∧ key a = k :=
  ⟨List.mem_of_find?_eq_some h, by simpa using List.find?_some h⟩

/-- What is not found has no key there. -/
theorem lookup_none : lookup key l k = none ↔ k ∉ l.map key := by
  simp [lookup]

/-- With distinct keys an entry is the one that is found. -/
theorem lookup_of_mem (hnodup : (l.map key).Nodup) {a : α} (ha : a ∈ l) :
    lookup key l (key a) = some a := by
  cases hfound : lookup key l (key a) with
  | none => exact absurd (List.mem_map_of_mem ha) (lookup_none.mp hfound)
  | some b =>
    obtain ⟨hb, hkey⟩ := lookup_some hfound
    rw [List.inj_on_of_nodup_map hnodup hb ha hkey]

theorem lookup_append (l' : List α) :
    lookup key (l ++ l') k = (lookup key l k).or (lookup key l' k) := List.find?_append

theorem lookup_map {β : Type} {key' : β → κ} {f : α → β} (hf : ∀ a, key' (f a) = key a) :
    lookup key' (l.map f) k = (lookup key l k).map f := by
  unfold lookup
  rw [List.find?_map]
  congr 2
  funext a
  exact congrArg (fun j => decide (j = k)) (hf a)

/-! ## Searching for the index -/

theorem index_cons (a : α) :
    index key (a :: l) k = if key a = k then some 0 else (index key l k).map (· + 1) := by
  unfold index
  rw [List.findIdx?_cons]
  by_cases h : key a = k <;> simp [h]

theorem index_keys : index key l k = (l.map key).findIdx? fun j => j = k := by
  rw [List.findIdx?_map]
  rfl

theorem index_none : index key l k = none ↔ lookup key l k = none := by
  rw [lookup_none]
  simp [index]

/-- The index is that of the element found. -/
theorem getElem?_index (h : index key l k = some i) : l[i]? = lookup key l k := by
  induction l generalizing i with
  | nil => exact absurd h (by simp [index])
  | cons a l ih =>
    rw [index_cons] at h
    rw [lookup_cons]
    by_cases hkey : key a = k
    · rw [if_pos hkey] at h ⊢
      rw [← Option.some.inj h]
      rfl
    · rw [if_neg hkey] at h ⊢
      obtain ⟨j, hj, rfl⟩ := Option.map_eq_some_iff.mp h
      exact ih hj

theorem index_lookup (h : index key l k = some i) : ∃ a, lookup key l k = some a := by
  cases hfound : lookup key l k with
  | none => exact absurd h (by simp [index_none.mpr hfound])
  | some a => exact ⟨a, rfl⟩

/-- The entry that was found is changed, and no other search sees it. -/
theorem lookup_modify (h : index key l k = some i) {f : α → α} (hf : ∀ a, key (f a) = key a)
    (k' : κ) :
    lookup key (l.modify i f) k' = if k' = k then (lookup key l k).map f else lookup key l k' := by
  induction l generalizing i with
  | nil => exact absurd h (by simp [index])
  | cons a l ih =>
    rw [index_cons] at h
    by_cases hkey : key a = k
    · rw [if_pos hkey] at h
      rw [← Option.some.inj h, List.modify_zero_cons, lookup_cons, lookup_cons, lookup_cons, hf,
        if_pos hkey]
      by_cases hk : k' = k
      · rw [if_pos hk, if_pos (hkey.trans hk.symm)]
        rfl
      · rw [if_neg hk, if_neg fun h => hk (h.symm.trans hkey),
          if_neg fun h => hk (h.symm.trans hkey)]
    · rw [if_neg hkey] at h
      obtain ⟨j, hj, rfl⟩ := Option.map_eq_some_iff.mp h
      rw [List.modify_succ_cons, lookup_cons, lookup_cons, lookup_cons, ih hj, if_neg hkey]
      by_cases hk : k' = k
      · rw [if_pos hk, if_pos hk, if_neg fun h => hkey (h.trans hk)]
      · rw [if_neg hk, if_neg hk]

/-- With distinct keys, the entry that was found is the one with the key. -/
theorem modify_index (hnodup : (l.map key).Nodup) (h : index key l k = some i) (f : α → α) :
    l.modify i f = l.map fun a => if key a = k then f a else a := by
  induction l generalizing i with
  | nil => exact absurd h (by simp [index])
  | cons a l ih =>
    obtain ⟨hnotin, hrest⟩ := List.nodup_cons.mp hnodup
    rw [index_cons] at h
    rw [List.map_cons]
    by_cases hkey : key a = k
    · rw [if_pos hkey] at h
      have hother : ∀ b ∈ l, (if key b = k then f b else b) = b := fun b hb =>
        if_neg fun hb' => hnotin (List.mem_map.mpr ⟨b, hb, hb'.trans hkey.symm⟩)
      rw [← Option.some.inj h, List.modify_zero_cons, if_pos hkey, List.map_congr_left hother,
        List.map_id']
    · rw [if_neg hkey] at h
      obtain ⟨j, hj, rfl⟩ := Option.map_eq_some_iff.mp h
      rw [List.modify_succ_cons, if_neg hkey, ih hrest hj]

omit [DecidableEq κ] in
theorem map_key_modify {f : α → α} (hf : ∀ a, key (f a) = key a) (l : List α) (i : Nat) :
    (l.modify i f).map key = l.map key := by
  induction l generalizing i with
  | nil => cases i <;> rfl
  | cons a l ih =>
    cases i with
    | zero => rw [List.modify_zero_cons, List.map_cons, List.map_cons, hf]
    | succ i => rw [List.modify_succ_cons, List.map_cons, List.map_cons, ih]

omit [DecidableEq κ] in
/-- An element of the changed list is an old one, or the changed one. -/
theorem mem_modify {f : α → α} {l : List α} {i : Nat} {a : α} (h : a ∈ l.modify i f) :
    a ∈ l ∨ ∃ b ∈ l, a = f b := by
  induction l generalizing i with
  | nil => simp at h
  | cons b l ih =>
    cases i with
    | zero =>
      obtain rfl | hmem := List.mem_cons.mp h
      · exact .inr ⟨b, List.mem_cons_self, rfl⟩
      · exact .inl (List.mem_cons_of_mem b hmem)
    | succ i =>
      obtain rfl | hmem := List.mem_cons.mp h
      · exact .inl List.mem_cons_self
      · obtain hmem | ⟨c, hc, rfl⟩ := ih hmem
        · exact .inl (List.mem_cons_of_mem b hmem)
        · exact .inr ⟨c, List.mem_cons_of_mem b hc, rfl⟩

/-- The entries, looked at one index after the other. -/
theorem filterMap_getElem?_range (l : List α) :
    (List.range l.length).filterMap (fun i => l[i]?) = l := by
  induction l with
  | nil => rfl
  | cons a l ih =>
    rw [List.length_cons, List.range_succ_eq_map, List.filterMap_cons, List.filterMap_map]
    exact congrArg (a :: ·) ih

/-! ## Loading a table -/

/-- Every step changes the entry of the item's key and no other, as long as the table is
`Ready` for the items to come; so the entry of a key is made by its item alone. -/
theorem look_foldl {σ ρ : Type} (look : σ → κ → Option α) {step : σ → ρ → σ} (item : ρ → κ)
    (make : ρ → Option α → Option α) (Ready : σ → List ρ → Prop)
    (hstep : ∀ s r rest, Ready s (r :: rest) → Ready (step s r) rest ∧
      ∀ k, look (step s r) k = if k = item r then make r (look s k) else look s k)
    {items : List ρ} (hnodup : (items.map item).Nodup) {s : σ} (hready : Ready s items) (k : κ) :
    look (items.foldl step s) k
      = (lookup item items k).elim (look s k) fun r => make r (look s k) := by
  induction items generalizing s with
  | nil => rfl
  | cons r rest ih =>
    obtain ⟨hnotin, hrest⟩ := List.nodup_cons.mp hnodup
    obtain ⟨hready, hlook⟩ := hstep s r rest hready
    rw [List.foldl_cons, ih hrest hready, lookup_cons, hlook]
    by_cases hk : k = item r
    · have hnone : lookup item rest k = none := lookup_none.mpr (hk ▸ hnotin)
      rw [if_pos hk, if_pos hk.symm, hnone]
      rfl
    · rw [if_neg hk, if_neg fun h => hk h.symm]

end UdsIsoTp.Keyed
