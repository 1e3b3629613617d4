/-
Histories: lists with the newest entry first.  A property of every entry
against the entries before it is kept by looking at the newest one only.
-/
import Mathlib.Data.List.Basic

namespace Pipewave

namespace History

universe u

variable {α : Type u}

/-- Every entry meets `p` against those before it. -/
def Always (p : α → List α → Prop) : List α → Prop
  | [] => True
  | entry :: earlier => p entry earlier ∧ Always p earlier

instance decidableAlways (p : α → List α → Prop)
    [∀ entry earlier, Decidable (p entry earlier)] :
    ∀ history, Decidable (Always p history)
  | [] => .isTrue trivial
  | _ :: earlier =>
    have := decidableAlways p earlier
    inferInstanceAs (Decidable (_ ∧ _))

theorem Always.at {p : α → List α → Prop} {later earlier : List α} {entry : α}
    (halways : Always p (later ++ entry :: earlier)) : p entry earlier := by
  induction later with
  | nil => exact halways.1
  | cons newest later ih => exact ih halways.2

/-- An entry of an extended history is the newest one or an old one. -/
theorem cons_split {newest entry : α} {history later earlier : List α}
    (hsplit : newest :: history = later ++ entry :: earlier) :
    (later = [] ∧ newest = entry ∧ history = earlier) ∨
      ∃ rest, later = newest :: rest ∧ history = rest ++ entry :: earlier := by
  cases later with
  | nil =>
    cases hsplit
    exact .inl ⟨rfl, rfl, rfl⟩
  | cons head rest =>
    cases hsplit
    exact .inr ⟨rest, rfl, rfl⟩

end History

end Pipewave
