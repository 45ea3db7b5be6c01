import Mathlib.Data.List.Nodup
import Mathlib.Algebra.BigOperators.Group.List.Basic
import Mathlib.Tactic.Ring

/-! # Tables with a primary key

A table is a list of rows in insertion order whose keys are pairwise distinct; the key of a row is
read off the row by the function the table type carries. Everything here is about arbitrary rows
and keys:

* `mapRows`: rewriting every row without touching its key.
* `total`: the sum of an integer column over all rows.
* `find?`: the row of a key (`SELECT .. WHERE key = k`).
* `update`, `updateReturning`: in-place updates of one row
  (`UPDATE .. WHERE key = k AND guard RETURNING row`).
* `insert?`, `deleteReturning`: insertion that fails on a duplicate key, and a guarded delete.
-/

namespace Relational
set_option autoImplicit false

variable {κ ρ : Type}

/-- Rows in insertion order with pairwise distinct keys. -/
structure Table (key : ρ → κ) where
  rows : List ρ
  nodup : (rows.map key).Nodup

namespace Table
variable {key : ρ → κ}

instance : Membership ρ (Table key) := ⟨fun t r => r ∈ t.rows⟩

theorem mem_rows {t : Table key} {r : ρ} : r ∈ t.rows ↔ r ∈ t := Iff.rfl

instance [DecidableEq ρ] (t : Table key) (r : ρ) : Decidable (r ∈ t) :=
  inferInstanceAs (Decidable (r ∈ t.rows))

instance (t : Table key) (p : ρ → Prop) [DecidablePred p] : Decidable (∀ r ∈ t, p r) :=
  inferInstanceAs (Decidable (∀ r ∈ t.rows, p r))

instance (t : Table key) (p : ρ → Prop) [DecidablePred p] : Decidable (∃ r ∈ t, p r) :=
  inferInstanceAs (Decidable (∃ r ∈ t.rows, p r))

@[ext] theorem ext {t u : Table key} (h : t.rows = u.rows) : t = u := by
  cases t
  cases u
  simpa using h

theorem rows_nodup (t : Table key) : t.rows.Nodup := t.nodup.of_map key

/-- Two rows of a table with one key are the same row. -/
theorem eq_of_key_eq {t : Table key} {r s : ρ} (hr : r ∈ t) (hs : s ∈ t) (h : key r = key s) :
    r = s :=
  List.inj_on_of_nodup_map t.nodup hr hs h

def empty : Table key := ⟨[], List.nodup_nil⟩

@[simp] theorem not_mem_empty (r : ρ) : r ∉ (empty : Table key) := List.not_mem_nil

/-! ## Rewriting every row -/

/-- Rewrite every row by a function that keeps the key. -/
def mapRows (t : Table key) (f : ρ → ρ) (hf : ∀ r, key (f r) = key r) : Table key where
  rows := t.rows.map f
  nodup := by
    rw [List.map_map]
    have h : key ∘ f = key := funext hf
    rw [h]
    exact t.nodup

theorem mapRows_rows (t : Table key) (f : ρ → ρ) (hf : ∀ r, key (f r) = key r) :
    (t.mapRows f hf).rows = t.rows.map f := rfl

theorem mem_mapRows {t : Table key} {f : ρ → ρ} {hf : ∀ r, key (f r) = key r} {s : ρ} :
    s ∈ t.mapRows f hf ↔ ∃ r ∈ t, f r = s := List.mem_map

theorem mapRows_mapRows (t : Table key) (f g : ρ → ρ) (hf : ∀ r, key (f r) = key r)
    (hg : ∀ r, key (g r) = key r) :
    (t.mapRows f hf).mapRows g hg = t.mapRows (g ∘ f) (fun r => (hg (f r)).trans (hf r)) := by
  apply ext
  simp only [mapRows_rows, List.map_map]

theorem mapRows_congr {t : Table key} {f g : ρ → ρ} (hf : ∀ r, key (f r) = key r)
    (hg : ∀ r, key (g r) = key r) (h : ∀ r ∈ t, f r = g r) : t.mapRows f hf = t.mapRows g hg := by
  apply ext
  exact List.map_congr_left h

theorem mapRows_eq_self {t : Table key} {f : ρ → ρ} (hf : ∀ r, key (f r) = key r)
    (h : ∀ r ∈ t, f r = r) : t.mapRows f hf = t := by
  apply ext
  rw [mapRows_rows, List.map_congr_left h, List.map_id']

/-! ## Sums over all rows -/

/-- The sum of an integer column. -/
def total (t : Table key) (g : ρ → ℤ) : ℤ := (t.rows.map g).sum

theorem total_congr {t : Table key} {g g' : ρ → ℤ} (h : ∀ r ∈ t, g r = g' r) :
    t.total g = t.total g' := by
  unfold total
  rw [List.map_congr_left h]

theorem total_mapRows (t : Table key) (f : ρ → ρ) (hf : ∀ r, key (f r) = key r) (g : ρ → ℤ) :
    (t.mapRows f hf).total g = t.total (g ∘ f) := by
  simp only [total, mapRows_rows, List.map_map]

theorem total_sub (t : Table key) (g h : ρ → ℤ) :
    t.total (fun r => g r - h r) = t.total g - t.total h := by
  unfold total
  induction t.rows with
  | nil => simp
  | cons r rs ih =>
    simp only [List.map_cons, List.sum_cons, ih]
    ring

/-- A sum over the rows a join keeps is a sum over all rows. -/
theorem total_filterMap {β : Type} (t : Table key) (f : ρ → Option β) (g : β → ℤ) :
    ((t.rows.filterMap f).map g).sum = t.total (fun r => ((f r).map g).getD 0) := by
  unfold total
  induction t.rows with
  | nil => rfl
  | cons r rs ih =>
    cases hf : f r with
    | none =>
      rw [List.filterMap_cons_none hf, List.map_cons, List.sum_cons, hf, ih]
      simp
    | some b =>
      rw [List.filterMap_cons_some hf, List.map_cons, List.sum_cons, List.map_cons, List.sum_cons, hf, ih]
      rfl

variable [DecidableEq κ]

/-! ## Lookup -/

/-- The row whose key is `k`. -/
def find? (t : Table key) (k : κ) : Option ρ := t.rows.find? (fun r => decide (key r = k))

theorem find?_eq_none_iff {t : Table key} {k : κ} : t.find? k = none ↔ ∀ r ∈ t, key r ≠ k := by
  simp [find?, mem_rows]

theorem find?_eq_some_iff {t : Table key} {k : κ} {r : ρ} :
    t.find? k = some r ↔ r ∈ t ∧ key r = k := by
  constructor
  · intro h
    exact ⟨List.mem_of_find?_eq_some h, by simpa using List.find?_some h⟩
  · rintro ⟨hr, hk⟩
    cases hf : t.find? k with
    | none => exact absurd hk (find?_eq_none_iff.mp hf r hr)
    | some s =>
      have hs : s ∈ t := List.mem_of_find?_eq_some hf
      have hsk : key s = k := by simpa using List.find?_some hf
      rw [eq_of_key_eq hr hs (hk.trans hsk.symm)]

theorem mem_of_find? {t : Table key} {k : κ} {r : ρ} (h : t.find? k = some r) : r ∈ t :=
  (find?_eq_some_iff.mp h).1

theorem key_of_find? {t : Table key} {k : κ} {r : ρ} (h : t.find? k = some r) : key r = k :=
  (find?_eq_some_iff.mp h).2

theorem find?_of_mem {t : Table key} {r : ρ} (h : r ∈ t) : t.find? (key r) = some r :=
  find?_eq_some_iff.mpr ⟨h, rfl⟩

@[simp] theorem find?_empty (k : κ) : (empty : Table key).find? k = none := rfl

/-! ## In-place updates -/

theorem find?_mapRows (t : Table key) (f : ρ → ρ) (hf : ∀ r, key (f r) = key r) (k : κ) :
    (t.mapRows f hf).find? k = (t.find? k).map f := by
  simp only [find?, mapRows_rows, List.find?_map, Function.comp_def, hf]

/-- Rewrite the row of key `k`, if there is one. -/
def update (t : Table key) (k : κ) (f : ρ → ρ)
    (hf : ∀ r, key (f r) = key r := by intro _; rfl) : Table key :=
  t.mapRows (fun r => if key r = k then f r else r) (fun r => by
    by_cases h : key r = k
    · rw [if_pos h, hf]
    · rw [if_neg h])

theorem find?_update (t : Table key) (k : κ) (f : ρ → ρ) (hf : ∀ r, key (f r) = key r) (k' : κ) :
    (t.update k f hf).find? k' = if k' = k then (t.find? k').map f else t.find? k' := by
  rw [update, find?_mapRows]
  cases h : t.find? k' with
  | none => simp
  | some r =>
    have hk := key_of_find? h
    by_cases hkk : k' = k <;> simp [hk, hkk]

theorem find?_update_self (t : Table key) (k : κ) (f : ρ → ρ) (hf : ∀ r, key (f r) = key r) :
    (t.update k f hf).find? k = (t.find? k).map f := by
  rw [find?_update, if_pos rfl]

theorem mem_update {t : Table key} {k : κ} {f : ρ → ρ} {hf : ∀ r, key (f r) = key r} {s : ρ} :
    s ∈ t.update k f hf ↔ (s ∈ t ∧ key s ≠ k) ∨ ∃ r ∈ t, key r = k ∧ f r = s := by
  rw [update, mem_mapRows]
  constructor
  · rintro ⟨r, hr, rfl⟩
    by_cases h : key r = k
    · rw [if_pos h]
      exact Or.inr ⟨r, hr, h, rfl⟩
    · rw [if_neg h]
      exact Or.inl ⟨hr, h⟩
  · rintro (⟨hs, hk⟩ | ⟨r, hr, hk, rfl⟩)
    · exact ⟨s, hs, if_neg hk⟩
    · exact ⟨r, hr, if_pos hk⟩

theorem update_eq_self {t : Table key} {k : κ} {f : ρ → ρ} {hf : ∀ r, key (f r) = key r}
    (h : ∀ r ∈ t, key r = k → f r = r) : t.update k f hf = t := by
  apply mapRows_eq_self
  intro r hr
  by_cases hk : key r = k
  · rw [if_pos hk, h r hr hk]
  · rw [if_neg hk]

/-- Overwrite the row with the key of `r`, if there is one. -/
def replace (t : Table key) (r : ρ) : Table key :=
  t.mapRows (fun s => if key s = key r then r else s) (fun s => by
    by_cases h : key s = key r
    · rw [if_pos h, h]
    · rw [if_neg h])

theorem find?_replace (t : Table key) (r : ρ) (k : κ) :
    (t.replace r).find? k = if k = key r then (t.find? k).map (fun _ => r) else t.find? k := by
  rw [replace, find?_mapRows]
  cases h : t.find? k with
  | none => simp
  | some s =>
    have hk := key_of_find? h
    by_cases hkk : k = key r <;> simp [hk, hkk]

/-- A guarded update of the row of key `k`: `f` answers `none` where the guard refuses. The new
row and the new table come back when a row was updated. -/
def updateReturning (t : Table key) (k : κ) (f : ρ → Option ρ)
    (hf : ∀ r s, f r = some s → key s = key r) : Option (ρ × Table key) :=
  ((t.find? k).bind f).map fun s =>
    (s, t.update k (fun r => (f r).getD r) (fun r => by
      cases h : f r with
      | none => rfl
      | some s => exact hf r s h))

theorem updateReturning_eq_some_iff {t : Table key} {k : κ} {f : ρ → Option ρ}
    {hf : ∀ r s, f r = some s → key s = key r} {s : ρ} {u : Table key} :
    t.updateReturning k f hf = some (s, u) ↔
      ∃ r, t.find? k = some r ∧ f r = some s ∧ u.rows = t.rows.map (fun x => if key x = k then s else x) := by
  unfold updateReturning
  constructor
  · intro h
    obtain ⟨s', hs', heq⟩ := Option.map_eq_some_iff.mp h
    obtain ⟨r, hr, hfr⟩ := Option.bind_eq_some_iff.mp hs'
    obtain ⟨rfl, rfl⟩ := Prod.mk.inj heq
    refine ⟨r, hr, hfr, ?_⟩
    apply List.map_congr_left
    intro x hx
    by_cases hk : key x = k
    · have hxr : x = r := eq_of_key_eq hx (mem_of_find? hr) (hk.trans (key_of_find? hr).symm)
      simp only [hk, if_true]
      rw [hxr, hfr, Option.getD_some]
    · rw [if_neg hk, if_neg hk]
  · rintro ⟨r, hr, hfr, hu⟩
    rw [hr, Option.bind_some, hfr, Option.map_some]
    congr 2
    apply ext
    rw [hu]
    apply List.map_congr_left
    intro x hx
    by_cases hk : key x = k
    · have hxr : x = r := eq_of_key_eq hx (mem_of_find? hr) (hk.trans (key_of_find? hr).symm)
      simp only [if_pos hk]
      rw [hxr, hfr, Option.getD_some]
    · simp only [if_neg hk]

theorem updateReturning_eq_none_iff {t : Table key} {k : κ} {f : ρ → Option ρ}
    {hf : ∀ r s, f r = some s → key s = key r} :
    t.updateReturning k f hf = none ↔ ∀ r, t.find? k = some r → f r = none := by
  unfold updateReturning
  rw [Option.map_eq_none_iff, Option.bind_eq_none_iff]

theorem find?_updateReturning {t : Table key} {k : κ} {f : ρ → Option ρ}
    {hf : ∀ r s, f r = some s → key s = key r} {s : ρ} {u : Table key}
    (h : t.updateReturning k f hf = some (s, u)) (k' : κ) :
    u.find? k' = if k' = k then some s else t.find? k' := by
  obtain ⟨r, hr, hfr, hu⟩ := updateReturning_eq_some_iff.mp h
  have hks : key s = k := (hf r s hfr).trans (key_of_find? hr)
  by_cases hk : k' = k
  · rw [if_pos hk, hk, find?_eq_some_iff]
    refine ⟨?_, hks⟩
    rw [← mem_rows, hu, List.mem_map]
    exact ⟨r, mem_of_find? hr, if_pos (key_of_find? hr)⟩
  · rw [if_neg hk]
    ext x
    simp only [find?_eq_some_iff, ← mem_rows, hu, List.mem_map]
    constructor
    · rintro ⟨⟨y, hy, rfl⟩, hx⟩
      by_cases hyk : key y = k
      · rw [if_pos hyk] at hx
        exact absurd (hx.symm.trans hks) hk
      · rw [if_neg hyk] at hx ⊢
        exact ⟨hy, hx⟩
    · rintro ⟨hx, hkx⟩
      exact ⟨⟨x, hx, if_neg (fun e => hk (hkx.symm.trans e))⟩, hkx⟩

/-! ## Insertion and deletion -/

/-- Append a row; `none` when its key is taken. -/
def insert? (t : Table key) (r : ρ) : Option (Table key) :=
  if h : ∀ s ∈ t.rows, key s ≠ key r then
    some ⟨t.rows ++ [r], by
      rw [List.map_append, List.map_singleton, List.nodup_append]
      refine ⟨t.nodup, List.nodup_singleton _, ?_⟩
      intro a ha b hb
      obtain ⟨s, hs, rfl⟩ := List.mem_map.mp ha
      rw [List.mem_singleton.mp hb]
      exact h s hs⟩
  else none

theorem insert?_eq_some_iff {t u : Table key} {r : ρ} :
    t.insert? r = some u ↔ t.find? (key r) = none ∧ u.rows = t.rows ++ [r] := by
  rw [find?_eq_none_iff]
  unfold insert?
  split
  · next h =>
    constructor
    · intro hu
      rw [← Option.some.inj hu]
      exact ⟨h, rfl⟩
    · rintro ⟨-, hu⟩
      congr 1
      exact ext hu.symm
  · next h =>
    constructor
    · intro hu
      cases hu
    · rintro ⟨hn, -⟩
      exact absurd hn h

theorem exists_insert? {t : Table key} {r : ρ} (h : t.find? (key r) = none) : ∃ u, t.insert? r = some u := by
  unfold insert?
  exact ⟨_, dif_pos (find?_eq_none_iff.mp h)⟩

theorem insert?_eq_none {t : Table key} {r s : ρ} (h : t.find? (key r) = some s) : t.insert? r = none := by
  rw [Option.eq_none_iff_forall_not_mem]
  intro u hu
  have hfree := (insert?_eq_some_iff.mp hu).1
  rw [h] at hfree
  cases hfree

theorem mem_insert? {t u : Table key} {r : ρ} (h : t.insert? r = some u) (s : ρ) :
    s ∈ u ↔ s ∈ t ∨ s = r := by
  rw [← mem_rows, (insert?_eq_some_iff.mp h).2, List.mem_append, List.mem_singleton, mem_rows]

theorem find?_insert? {t u : Table key} {r : ρ} (h : t.insert? r = some u) (k : κ) :
    u.find? k = if k = key r then some r else t.find? k := by
  obtain ⟨hn, -⟩ := insert?_eq_some_iff.mp h
  by_cases hk : k = key r
  · rw [if_pos hk, find?_eq_some_iff]
    exact ⟨(mem_insert? h r).mpr (Or.inr rfl), hk.symm⟩
  · rw [if_neg hk]
    ext x
    rw [find?_eq_some_iff, find?_eq_some_iff, mem_insert? h]
    constructor
    · rintro ⟨hx | rfl, hkx⟩
      · exact ⟨hx, hkx⟩
      · exact absurd hkx.symm hk
    · rintro ⟨hx, hkx⟩
      exact ⟨Or.inl hx, hkx⟩

theorem total_insert? {t u : Table key} {r : ρ} (h : t.insert? r = some u) (g : ρ → ℤ) :
    u.total g = t.total g + g r := by
  simp only [total, (insert?_eq_some_iff.mp h).2, List.map_append, List.map_singleton,
    List.sum_append, List.sum_singleton]

/-! ## Appending -/

omit [DecidableEq κ] in
/-- What a query makes of rows keeps their keys apart, when each result has the key of its row. -/
theorem nodup_filterMap {β κ' : Type} {f : ρ → Option β} {g : β → κ'} {k : ρ → κ'}
    (h : ∀ r b, f r = some b → g b = k r) {l : List ρ} (hl : (l.map k).Nodup) :
    ((l.filterMap f).map g).Nodup := by
  refine List.Nodup.sublist ?_ hl
  clear hl
  induction l with
  | nil => exact List.Sublist.refl []
  | cons r l ih =>
    cases hr : f r with
    | none =>
      rw [List.filterMap_cons_none hr, List.map_cons]
      exact ih.cons _
    | some b =>
      rw [List.filterMap_cons_some hr, List.map_cons, List.map_cons, h r b hr]
      exact ih.cons_cons _

omit [DecidableEq κ] in
theorem mem_of_append {t u : Table key} {l : List ρ} (h : u.rows = t.rows ++ l) (r : ρ) :
    r ∈ u ↔ r ∈ t ∨ r ∈ l := by
  rw [← mem_rows, h, List.mem_append, mem_rows]

theorem find?_of_append {t u : Table key} {l : List ρ} (h : u.rows = t.rows ++ l) {k : κ} {r : ρ}
    (hr : t.find? k = some r) : u.find? k = some r :=
  find?_eq_some_iff.mpr ⟨(mem_of_append h r).mpr (Or.inl (mem_of_find? hr)), key_of_find? hr⟩

/-- The keys of appended rows were free. -/
theorem find?_eq_none_of_append {t u : Table key} {l : List ρ} (h : u.rows = t.rows ++ l) {r : ρ}
    (hr : r ∈ l) : t.find? (key r) = none := by
  rw [find?_eq_none_iff]
  intro s hs he
  have hnodup := u.nodup
  rw [h, List.map_append, List.nodup_append] at hnodup
  exact hnodup.2.2 (key s) (List.mem_map_of_mem hs) (key r) (List.mem_map_of_mem hr) he

/-- Delete the row of key `k` when it satisfies the guard; the deleted row comes back. -/
def deleteReturning (t : Table key) (k : κ) (guard : ρ → Bool) : Option (ρ × Table key) :=
  match t.find? k with
  | none => none
  | some r =>
    if guard r then
      some (r, ⟨t.rows.filter (fun s => decide (key s ≠ k)), t.nodup.sublist (List.filter_sublist.map key)⟩)
    else none

theorem deleteReturning_eq_some_iff {t u : Table key} {k : κ} {guard : ρ → Bool} {r : ρ} :
    t.deleteReturning k guard = some (r, u) ↔
      t.find? k = some r ∧ guard r = true ∧ u.rows = t.rows.filter (fun s => decide (key s ≠ k)) := by
  unfold deleteReturning
  cases hf : t.find? k with
  | none => simp
  | some s =>
    by_cases hg : guard s = true
    · simp only [hg, if_true, Option.some.injEq, Prod.mk.injEq]
      constructor
      · rintro ⟨rfl, rfl⟩
        exact ⟨rfl, hg, rfl⟩
      · rintro ⟨rfl, -, hu⟩
        exact ⟨rfl, ext hu.symm⟩
    · simp only [hg]
      constructor
      · intro h
        cases h
      · rintro ⟨h, hgr, -⟩
        rw [Option.some.inj h] at hg
        exact absurd hgr hg

theorem find?_deleteReturning {t u : Table key} {k : κ} {guard : ρ → Bool} {r : ρ}
    (h : t.deleteReturning k guard = some (r, u)) (k' : κ) :
    u.find? k' = if k' = k then none else t.find? k' := by
  obtain ⟨-, -, hu⟩ := deleteReturning_eq_some_iff.mp h
  by_cases hk : k' = k
  · rw [if_pos hk, find?_eq_none_iff]
    intro x hx
    rw [← mem_rows, hu, List.mem_filter] at hx
    rw [hk]
    exact of_decide_eq_true hx.2
  · rw [if_neg hk]
    ext x
    rw [find?_eq_some_iff, find?_eq_some_iff, ← mem_rows, hu, List.mem_filter, mem_rows]
    constructor
    · rintro ⟨⟨hx, -⟩, hkx⟩
      exact ⟨hx, hkx⟩
    · rintro ⟨hx, hkx⟩
      exact ⟨⟨hx, decide_eq_true (fun e => hk (hkx.symm.trans e))⟩, hkx⟩

end Table
end Relational
