/-
Pools: lists whose items are known by their index.  Items are appended, set or
changed in place and never removed, so an index keeps its meaning along a run.
-/
import Mathlib.Algebra.BigOperators.Group.List.Basic
import Mathlib.Algebra.GroupWithZero.Nat
import Mathlib.Algebra.Ring.Int.Defs
import Mathlib.Data.List.Basic

namespace Pipewave

universe u v

variable {α : Type u}

theorem getElem?_concat_cases {l : List α} {a b : α} {s : Nat}
    (hget : (l ++ [a])[s]? = some b) :
    l[s]? = some b ∨ s = l.length ∧ a = b := by
  rcases Nat.lt_or_ge s l.length with hlt | hge
  · exact .inl (List.getElem?_append_left hlt ▸ hget)
  · rw [List.getElem?_append_right hge, List.getElem?_singleton] at hget
    split at hget
    · next hzero =>
      cases hget
      exact .inr ⟨by omega, rfl⟩
    · cases hget

theorem getElem?_set_cases {l : List α} {a b : α} {s t : Nat}
    (hget : (l.set t a)[s]? = some b) :
    l[s]? = some b ∨ s = t ∧ a = b := by
  by_cases hsame : s = t
  · subst hsame
    obtain ⟨hlt, -⟩ := List.getElem?_eq_some_iff.mp hget
    rw [List.length_set] at hlt
    rw [List.getElem?_set_self hlt] at hget
    cases hget
    exact .inr ⟨rfl, rfl⟩
  · rw [List.getElem?_set_ne (Ne.symm hsame)] at hget
    exact .inl hget

/-- Changing one item of a pool. -/
theorem getElem?_modify_if (l : List α) (i j : Nat) (f : α → α) :
    (l.modify i f)[j]? = if j = i then (l[i]?).map f else l[j]? := by
  rw [List.getElem?_modify]
  by_cases hsame : i = j
  · subst hsame
    simp
  · have hother : ¬ j = i := fun h => hsame h.symm
    simp [hsame, hother]

/-- An item of a changed pool is an old one, changed if it is the one at
hand. -/
theorem getElem?_modify_cases {l : List α} {i j : Nat} {f : α → α} {b : α}
    (hget : (l.modify i f)[j]? = some b) :
    (j ≠ i ∧ l[j]? = some b) ∨
      (j = i ∧ ∃ a, l[i]? = some a ∧ f a = b) := by
  rw [getElem?_modify_if] at hget
  split at hget
  · next hsame =>
    obtain ⟨a, ha, hfa⟩ := Option.map_eq_some_iff.mp hget
    exact .inr ⟨hsame, a, ha, hfa⟩
  · next hsame => exact .inl ⟨hsame, hget⟩

/-- What a change keeps of every item it keeps of the pool. -/
theorem map_modify_eq {β : Type v} {g : α → β} {f : α → α}
    (hkeeps : ∀ a, g (f a) = g a) (l : List α) (i : Nat) :
    (l.modify i f).map g = l.map g := by
  apply List.ext_getElem?
  intro j
  rw [List.getElem?_map, List.getElem?_map, getElem?_modify_if]
  split
  · next hsame =>
    rw [hsame, Option.map_map]
    exact congrArg (Option.map · _) (funext hkeeps)
  · rfl

/-- A sum over the pool changes by what one item changes. -/
theorem sum_map_set (weight : α → Int) {l : List α} {i : Nat} {a : α}
    (hget : l[i]? = some a) (b : α) :
    ((l.set i b).map weight).sum =
      (l.map weight).sum + (weight b - weight a) := by
  obtain ⟨hlt, hitem⟩ := List.getElem?_eq_some_iff.mp hget
  have hmap : i < (l.map weight).length := by rwa [List.length_map]
  rw [List.map_set, List.sum_set', dif_pos hmap, List.getElem_map, hitem]
  omega

/-- The same without subtraction. -/
theorem sum_map_set_add (weight : α → Nat) {l : List α} {i : Nat} {a : α}
    (hget : l[i]? = some a) (b : α) :
    ((l.set i b).map weight).sum + weight a =
      (l.map weight).sum + weight b := by
  induction l generalizing i with
  | nil => cases hget
  | cons x rest ih =>
    cases i with
    | zero =>
      cases hget
      rw [List.set_cons_zero, List.map_cons, List.map_cons, List.sum_cons,
        List.sum_cons]
      omega
    | succ i =>
      have hrest := ih hget
      rw [List.set_cons_succ, List.map_cons, List.map_cons, List.sum_cons,
        List.sum_cons]
      omega

/-- How many items meet a condition changes by one item. -/
theorem countP_set_add (p : α → Bool) {l : List α} {i : Nat} {a : α}
    (hget : l[i]? = some a) (b : α) :
    (l.set i b).countP p + (if p a then 1 else 0) =
      l.countP p + if p b then 1 else 0 := by
  obtain ⟨hlt, hitem⟩ := List.getElem?_eq_some_iff.mp hget
  rw [List.countP_set hlt, hitem]
  split
  · next hp =>
    have hpos : 0 < l.countP p :=
      List.countP_pos_iff.mpr ⟨a, List.mem_of_getElem? hget, hp⟩
    omega
  · omega

/-- Two conditions that exclude each other are counted apart. -/
theorem countP_eq_add {p q r : α → Bool} (l : List α)
    (hsplit : ∀ a ∈ l, (if p a then 1 else 0) =
      (if q a then 1 else 0) + if r a then 1 else 0) :
    l.countP p = l.countP q + l.countP r := by
  induction l with
  | nil => rfl
  | cons x rest ih =>
    have hfirst := hsplit x List.mem_cons_self
    have hrest := ih fun a ha => hsplit a (List.mem_cons_of_mem x ha)
    rw [List.countP_cons, List.countP_cons, List.countP_cons]
    omega

theorem sum_map_ite (p : α → Bool) (l : List α) :
    (l.map fun a => if p a then (1 : Int) else 0).sum = l.countP p := by
  induction l with
  | nil => rfl
  | cons x rest ih =>
    rw [List.map_cons, List.sum_cons, ih, List.countP_cons]
    split <;> omega

theorem sum_map_sub (f g : α → Int) (l : List α) :
    (l.map fun a => f a - g a).sum = (l.map f).sum - (l.map g).sum := by
  induction l with
  | nil => rfl
  | cons x rest ih =>
    simp only [List.map_cons, List.sum_cons, ih]
    omega

end Pipewave
