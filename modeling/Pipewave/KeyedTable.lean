/-
Tables of rows with a unique key, and the two ways an insert can answer a key
that is taken: leave the table as it is, or replace the row.  Both keep the
keys distinct, and both are plain insertion as long as no key comes twice.
-/
import Mathlib.Data.List.Basic
import Mathlib.Data.List.Perm.Subperm
import Mathlib.Data.List.Sort

namespace Pipewave

namespace KeyedTable

universe u v

variable {ρ : Type u} {κ : Type v}

/-- An insert that keeps keys distinct, knows every key it was given, and adds
a row with a new key in front. -/
structure Insert (key : ρ → κ) (insert : List ρ → ρ → List ρ) :
    Prop where
  nodup : ∀ {table row}, (table.map key).Nodup →
    ((insert table row).map key).Nodup
  keys : ∀ {table row k}, k ∈ (insert table row).map key →
    k = key row ∨ k ∈ table.map key
  fresh : ∀ {table row}, key row ∉ table.map key →
    insert table row = row :: table

section Fold

variable {key : ρ → κ} {insert : List ρ → ρ → List ρ}

theorem Insert.foldl_nodup (hinsert : Insert key insert) (rows : List ρ)
    {table : List ρ} (hnodup : (table.map key).Nodup) :
    ((rows.foldl insert table).map key).Nodup := by
  induction rows generalizing table with
  | nil => exact hnodup
  | cons row rest ih => exact ih (hinsert.nodup hnodup)

theorem Insert.foldl_keys (hinsert : Insert key insert) (rows : List ρ)
    {table : List ρ} {k : κ} (hk : k ∈ (rows.foldl insert table).map key) :
    k ∈ rows.map key ∨ k ∈ table.map key := by
  induction rows generalizing table with
  | nil => exact .inr hk
  | cons row rest ih =>
    rcases ih hk with hrest | hinserted
    · exact .inl (List.mem_cons_of_mem _ hrest)
    · rcases hinsert.keys hinserted with rfl | hold
      · exact .inl List.mem_cons_self
      · exact .inr hold

/-- Rows with distinct new keys are all kept, the last one first. -/
theorem Insert.foldl_fresh (hinsert : Insert key insert) {rows table : List ρ}
    (hdistinct : (rows.map key).Nodup)
    (hnew : ∀ row ∈ rows, key row ∉ table.map key) :
    rows.foldl insert table = rows.reverse ++ table := by
  induction rows generalizing table with
  | nil => rfl
  | cons row rest ih =>
    rw [List.map_cons, List.nodup_cons] at hdistinct
    rw [List.foldl_cons, hinsert.fresh (hnew row List.mem_cons_self),
      ih hdistinct.2, List.reverse_cons, List.append_assoc]
    · rfl
    · intro other hother hmem
      rcases List.mem_cons.mp hmem with hsame | hold
      · exact hdistinct.1 (hsame ▸ List.mem_map_of_mem hother)
      · exact hnew other (List.mem_cons_of_mem _ hother) hold

/-- If as many rows are kept as were given, their keys were distinct. -/
theorem Insert.nodup_of_length (hinsert : Insert key insert) {rows : List ρ}
    (hlength : (rows.foldl insert []).length = rows.length) :
    (rows.map key).Nodup := by
  have hkept : ((rows.foldl insert []).map key).Nodup :=
    hinsert.foldl_nodup rows List.nodup_nil
  have hsubset : (rows.foldl insert []).map key ⊆ rows.map key := by
    intro k hk
    rcases hinsert.foldl_keys rows hk with hk | hk
    · exact hk
    · cases hk
  have hperm := (hkept.subperm hsubset).perm_of_length_le (by
    rw [List.length_map, List.length_map, hlength])
  exact hperm.nodup_iff.mp hkept

end Fold

variable [DecidableEq κ] (key : ρ → κ)

/-- Insert unless the key is taken. -/
def insertNew (table : List ρ) (row : ρ) : List ρ :=
  if table.any fun old => key old = key row then table else row :: table

/-- Insert in place of the row that has the key. -/
def put (table : List ρ) (row : ρ) : List ρ :=
  row :: table.filter fun old => key old ≠ key row

theorem any_key_iff (table : List ρ) (row : ρ) :
    (table.any fun old => key old = key row) = true ↔
      key row ∈ table.map key := by
  simp

theorem insert_insertNew : Insert key (insertNew key) where
  nodup := by
    intro table row hnodup
    unfold insertNew
    split
    · exact hnodup
    · next hnew =>
      rw [any_key_iff] at hnew
      exact List.nodup_cons.mpr ⟨hnew, hnodup⟩
  keys := by
    intro table row k hk
    unfold insertNew at hk
    split at hk
    · exact .inr hk
    · exact List.mem_cons.mp hk
  fresh := by
    intro table row hfresh
    rw [insertNew, if_neg]
    rw [any_key_iff]
    exact hfresh

theorem insert_put : Insert key (put key) where
  nodup := by
    intro table row hnodup
    refine List.nodup_cons.mpr ⟨?_, hnodup.sublist ?_⟩
    · intro hmem
      obtain ⟨old, hold, hkey⟩ := List.mem_map.mp hmem
      exact of_decide_eq_true (List.mem_filter.mp hold).2 hkey
    · exact List.filter_sublist.map key
  keys := by
    intro table row k hk
    rcases List.mem_cons.mp hk with rfl | hk
    · exact .inl rfl
    · exact .inr ((List.filter_sublist.map key).subset hk)
  fresh := by
    intro table row hfresh
    rw [put, List.filter_eq_self.mpr]
    intro old hold
    refine decide_eq_true ?_
    rintro heq
    exact hfresh (heq ▸ List.mem_map_of_mem hold)

end KeyedTable

end Pipewave
