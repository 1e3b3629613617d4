/-
Two fields joined by a separator.  Nothing escapes the separator inside the
fields, so a joined value can be split at any of its separators and several
pairs may join to one value.
-/
import Mathlib.Data.List.Basic

namespace Pipewave

universe u

variable {α : Type u}

def joined (sep : α) (left right : List α) : List α :=
  left ++ sep :: right

/-- The first pair splits at a later separator of the same joined value. -/
def SplitsBefore (sep : α) (left right left' right' : List α) : Prop :=
  ∃ middle, left' = joined sep left middle ∧ right = joined sep middle right'

theorem joined_assoc (sep : α) (left middle right : List α) :
    joined sep left (joined sep middle right) =
      joined sep (joined sep left middle) right := by
  simp [joined]

/-- Two pairs join to the same value exactly when they are equal or one of
them splits it further left than the other. -/
theorem joined_eq_iff {sep : α} {left right left' right' : List α} :
    joined sep left right = joined sep left' right' ↔
      (left = left' ∧ right = right') ∨
        SplitsBefore sep left right left' right' ∨
        SplitsBefore sep left' right' left right := by
  constructor
  · intro heq
    rcases List.append_eq_append_iff.mp heq with
      ⟨extra, hleft, hright⟩ | ⟨extra, hleft, hright⟩
    · cases extra with
      | nil =>
        simp only [List.append_nil, List.nil_append, List.cons.injEq,
          true_and] at hleft hright
        exact .inl ⟨hleft.symm, hright⟩
      | cons head middle =>
        obtain ⟨rfl, htail⟩ := List.cons.inj hright
        exact .inr (.inl ⟨middle, hleft, htail⟩)
    · cases extra with
      | nil =>
        simp only [List.append_nil, List.nil_append, List.cons.injEq,
          true_and] at hleft hright
        exact .inl ⟨hleft, hright.symm⟩
      | cons head middle =>
        obtain ⟨rfl, htail⟩ := List.cons.inj hright
        exact .inr (.inr ⟨middle, hleft, htail⟩)
  · rintro (⟨rfl, rfl⟩ | ⟨middle, rfl, rfl⟩ | ⟨middle, rfl, rfl⟩)
    · rfl
    · exact joined_assoc sep left middle right'
    · exact (joined_assoc sep left' middle right).symm

/-- A separator-free field is the left half of a joined value exactly when the
value's own left half is that field or starts with it and a separator. -/
theorem exists_joined_eq_iff {sep : α} {field left right : List α}
    (hfree : sep ∉ field) :
    (∃ other, joined sep field other = joined sep left right) ↔
      left = field ∨ ∃ rest, left = joined sep field rest := by
  constructor
  · rintro ⟨other, heq⟩
    rcases joined_eq_iff.mp heq with
      ⟨rfl, _⟩ | ⟨middle, hleft, _⟩ | ⟨middle, hfield, _⟩
    · exact .inl rfl
    · exact .inr ⟨middle, hleft⟩
    · exact absurd (hfield ▸ List.mem_append_right _ List.mem_cons_self) hfree
  · rintro (rfl | ⟨rest, rfl⟩)
    · exact ⟨right, rfl⟩
    · exact ⟨joined sep rest right, joined_assoc sep field rest right⟩

/-- The parts before and behind the first separator. -/
def cut [DecidableEq α] (sep : α) : List α → Option (List α × List α)
  | [] => none
  | head :: rest =>
    if head = sep then some ([], rest)
    else (cut sep rest).map fun parts => (head :: parts.1, parts.2)

theorem cut_joined [DecidableEq α] {sep : α} {left : List α}
    (hfree : sep ∉ left) (right : List α) :
    cut sep (joined sep left right) = some (left, right) := by
  induction left with
  | nil => simp [joined, cut]
  | cons head left ih =>
    rw [List.mem_cons, not_or] at hfree
    obtain ⟨hhead, hleft⟩ := hfree
    have hcut := ih hleft
    rw [joined] at hcut ⊢
    rw [List.cons_append, cut, if_neg (Ne.symm hhead), hcut]
    rfl

theorem cut_eq_some_iff [DecidableEq α] {sep : α} {s left right : List α} :
    cut sep s = some (left, right) ↔
      sep ∉ left ∧ s = joined sep left right := by
  constructor
  · intro hcut
    induction s generalizing left with
    | nil => cases hcut
    | cons head rest ih =>
      rw [cut] at hcut
      split at hcut
      next hsep =>
        cases hcut
        exact ⟨List.not_mem_nil, by rw [hsep]; rfl⟩
      next hsep =>
        obtain ⟨⟨before, behind⟩, hrest, heq⟩ :=
          Option.map_eq_some_iff.mp hcut
        cases heq
        obtain ⟨hfree, rfl⟩ := ih hrest
        exact ⟨List.not_mem_cons_of_ne_of_not_mem (Ne.symm hsep) hfree, rfl⟩
  · rintro ⟨hfree, rfl⟩
    exact cut_joined hfree right

end Pipewave
