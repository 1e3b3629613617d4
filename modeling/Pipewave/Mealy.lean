/-
Machines that answer every input, and two of their runs side by side.  A
relation that every input keeps carries a comparison of single answers to whole
runs, of two machines on the same inputs or of one machine with and without
some of its inputs.
-/
import Mathlib.Data.List.Forall2

namespace Pipewave

namespace Mealy

universe u

variable {S T I O P : Type u}

/-- The state behind an input and the answer to it. -/
abbrev Machine (S I O : Type u) := S → I → S × O

/-- The answers to a list of inputs, in order. -/
def outputs (machine : Machine S I O) : S → List I → List O
  | _, [] => []
  | state, input :: rest =>
    (machine state input).2 :: outputs machine (machine state input).1 rest

/-- The state behind a list of inputs. -/
def after (machine : Machine S I O) : S → List I → S
  | state, [] => state
  | state, input :: rest => after machine (machine state input).1 rest

theorem after_append (machine : Machine S I O) (state : S)
    (first rest : List I) : after machine state (first ++ rest) =
      after machine (after machine state first) rest := by
  induction first generalizing state with
  | nil => rfl
  | cons input first ih => exact ih _

theorem outputs_append (machine : Machine S I O) (state : S)
    (first rest : List I) : outputs machine state (first ++ rest) =
      outputs machine state first ++
        outputs machine (after machine state first) rest := by
  induction first generalizing state with
  | nil => rfl
  | cons input first ih =>
    rw [List.cons_append, outputs, outputs, ih]
    rfl

theorem length_outputs (machine : Machine S I O) (state : S)
    (inputs : List I) : (outputs machine state inputs).length =
      inputs.length := by
  induction inputs generalizing state with
  | nil => rfl
  | cons input rest ih => rw [outputs, List.length_cons, ih, List.length_cons]

/-- Every input meets `allowed` in the state it is given to. -/
def Meets (machine : Machine S I O) (allowed : S → I → Prop) :
    S → List I → Prop
  | _, [] => True
  | state, input :: rest => allowed state input ∧
      Meets machine allowed (machine state input).1 rest

/-- If a condition on the first machine says when two related states answer an
input alike, all answers are alike exactly when every input meets it. -/
theorem forall₂_outputs_iff {left : Machine S I O} {right : Machine T I P}
    (related : S → T → Prop) {same : O → P → Prop} {allowed : S → I → Prop}
    (hkeep : ∀ s t input, related s t →
      related (left s input).1 (right t input).1)
    (hsame : ∀ s t input, related s t →
      (same (left s input).2 (right t input).2 ↔ allowed s input))
    {s : S} {t : T} (hrelated : related s t) (inputs : List I) :
    List.Forall₂ same (outputs left s inputs) (outputs right t inputs) ↔
      Meets left allowed s inputs := by
  induction inputs generalizing s t with
  | nil => simp [outputs, Meets]
  | cons input rest ih =>
    simp only [outputs, Meets, List.forall₂_cons]
    rw [hsame s t input hrelated, ih (hkeep s t input hrelated)]

/-- Related states that answer every input alike answer all of them alike. -/
theorem outputs_eq {left : Machine S I O} {right : Machine T I O}
    (related : S → T → Prop)
    (hkeep : ∀ s t input, related s t →
      related (left s input).1 (right t input).1)
    (hsame : ∀ s t input, related s t →
      (left s input).2 = (right t input).2)
    {s : S} {t : T} (hrelated : related s t) (inputs : List I) :
    outputs left s inputs = outputs right t inputs := by
  induction inputs generalizing s t with
  | nil => rfl
  | cons input rest ih =>
    rw [outputs, outputs, hsame s t input hrelated,
      ih (hkeep s t input hrelated)]

/-- The answers to the inputs an observer makes. -/
def seen (machine : Machine S I O) (mine : I → Bool) : S → List I → List O
  | _, [] => []
  | state, input :: rest =>
    let after := seen machine mine (machine state input).1 rest
    if mine input then (machine state input).2 :: after else after

/-- If hidden inputs leave the observer's view alone, and all others depend on
no more than the view, the observer sees the same answers without them. -/
theorem seen_filter {machine : Machine S I O} (view : S → S → Prop)
    (valid : I → Prop) {mine hidden : I → Bool}
    (hanswer : ∀ s t input, view s t → valid input → mine input = true →
      (machine s input).2 = (machine t input).2)
    (hkeep : ∀ s t input, view s t → valid input → hidden input = false →
      view (machine s input).1 (machine t input).1)
    (hhide : ∀ s t input, view s t → valid input → hidden input = true →
      view (machine s input).1 t)
    (hmine : ∀ input, mine input = true → hidden input = false)
    {s t : S} (hview : view s t) {inputs : List I}
    (hvalid : ∀ input ∈ inputs, valid input) :
    seen machine mine s inputs =
      seen machine mine t (inputs.filter fun input => !hidden input) := by
  induction inputs generalizing s t with
  | nil => rfl
  | cons input rest ih =>
    have hinput := hvalid input List.mem_cons_self
    have hrest : ∀ other ∈ rest, valid other := fun other hother =>
      hvalid other (List.mem_cons_of_mem _ hother)
    cases hhidden : hidden input with
    | true =>
      have hnot : mine input = false := by
        by_contra hmineInput
        rw [hmine input (eq_true_of_ne_false hmineInput)] at hhidden
        cases hhidden
      simp only [seen, hnot, Bool.false_eq_true, if_false,
        List.filter_cons, hhidden, Bool.not_true]
      exact ih (hhide s t input hview hinput hhidden) hrest
    | false =>
      have hnext := ih (hkeep s t input hview hinput hhidden) hrest
      simp only [seen, List.filter_cons, hhidden, Bool.not_false, if_true,
        hnext]
      split
      next hmineInput =>
        rw [hanswer s t input hview hinput hmineInput]
      · rfl

end Mealy

end Pipewave
