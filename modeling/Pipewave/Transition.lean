/-
Labelled transition systems given by a partial step function.  A run resolves
every choice by its labels; a guard on state and label cuts the runs down to
those that meet a condition at each step.
-/
import Mathlib.Algebra.GroupWithZero.Nat
import Mathlib.Logic.Basic

namespace Pipewave

namespace Transition

universe u v w x

variable {State : Type u} {Label : Type v}

/-- The state behind a whole list of labels, if every step is enabled. -/
def run (step : State → Label → Option State) :
    State → List Label → Option State
  | state, [] => some state
  | state, label :: rest =>
    match step state label with
    | none => none
    | some next => run step next rest

/-- The last state of a run that is known to be enabled. -/
def final (step : State → Label → Option State) (state : State)
    (labels : List Label) : State :=
  (run step state labels).getD state

/-- The states behind the runs whose every step meets `allowed`. -/
inductive Reach (step : State → Label → Option State)
    (allowed : State → Label → Prop) (start : State) : State → Prop where
  | refl : Reach step allowed start start
  | tail {state next : State} {label : Label}
      (reach : Reach step allowed start state) (meets : allowed state label)
      (enabled : step state label = some next) :
      Reach step allowed start next

/-- No condition at all. -/
def Unguarded (_ : State) (_ : Label) : Prop := True

instance (state : State) (label : Label) :
    Decidable (Unguarded state label) := .isTrue trivial

/-- Every step of a list of labels meets `allowed` where it is taken. -/
def Meets (step : State → Label → Option State)
    (allowed : State → Label → Prop) : State → List Label → Prop
  | _, [] => True
  | state, label :: rest => allowed state label ∧
      match step state label with
      | none => True
      | some next => Meets step allowed next rest

instance decidableMeets (step : State → Label → Option State)
    (allowed : State → Label → Prop)
    [∀ state label, Decidable (allowed state label)] :
    ∀ state labels, Decidable (Meets step allowed state labels)
  | _, [] => .isTrue trivial
  | state, label :: rest =>
    have : Decidable (match step state label with
        | none => True
        | some next => Meets step allowed next rest) :=
      match step state label with
      | none => .isTrue trivial
      | some next => decidableMeets step allowed next rest
    inferInstanceAs (Decidable (_ ∧ _))

/-- Every step of a run that `sets` is followed by one that `clears`. -/
def Followed (step : State → Label → Option State)
    (sets : State → Label → Prop) (clears : Label → Prop) (start : State)
    (labels : List Label) : Prop :=
  ∀ before label after state, labels = before ++ label :: after →
    run step start before = some state → sets state label →
      ∃ later ∈ after, clears later

section Rules

variable {step : State → Label → Option State}
  {allowed : State → Label → Prop} {start : State}

variable {state : State} {label : Label} {rest labels : List Label}

/-- What the first state satisfies and every allowed step keeps holds in every
state reached. -/
theorem Reach.invariant (inv : State → Prop) (hstart : inv start)
    (hstep : ∀ state label next, inv state → allowed state label →
      step state label = some next → inv next)
    (hreach : Reach step allowed start state) : inv state := by
  induction hreach with
  | refl => exact hstart
  | tail _ meets enabled ih => exact hstep _ _ _ ih meets enabled

theorem Reach.mono {allowed' : State → Label → Prop}
    (hweaker : ∀ state label, allowed state label → allowed' state label)
    (hreach : Reach step allowed start state) :
    Reach step allowed' start state := by
  induction hreach with
  | refl => exact .refl
  | tail _ meets enabled ih => exact .tail ih (hweaker _ _ meets) enabled

theorem Reach.head {next : State} (meets : allowed start label)
    (enabled : step start label = some next)
    (hreach : Reach step allowed next state) :
    Reach step allowed start state := by
  induction hreach with
  | refl => exact .tail .refl meets enabled
  | tail _ meets enabled ih => exact .tail ih meets enabled

theorem Reach.trans {middle : State} (hfirst : Reach step allowed start middle)
    (hreach : Reach step allowed middle state) :
    Reach step allowed start state := by
  induction hreach with
  | refl => exact hfirst
  | tail _ meets enabled ih => exact .tail ih meets enabled

/-- If from related states every step is matched by steps of another system,
every state reached is related to one that the other system reaches. -/
theorem Reach.simulate {Other : Type w} {Move : Type x}
    {move : Other → Move → Option Other} {permitted : Other → Move → Prop}
    (related : State → Other → Prop)
    (hstep : ∀ state label next other, related state other →
      allowed state label → step state label = some next →
        ∃ other', Reach move permitted other other' ∧ related next other')
    {first : Other} (hstart : related start first)
    (hreach : Reach step allowed start state) :
    ∃ other, Reach move permitted first other ∧ related state other := by
  induction hreach with
  | refl => exact ⟨first, .refl, hstart⟩
  | tail _ meets enabled ih =>
    obtain ⟨other, hother, hrelated⟩ := ih
    obtain ⟨other', hmoves, hnext⟩ :=
      hstep _ _ _ other hrelated meets enabled
    exact ⟨other', hother.trans hmoves, hnext⟩

theorem run_cons (hrun : run step start (label :: rest) = some state) :
    ∃ next, step start label = some next ∧
      run step next rest = some state := by
  cases henabled : step start label with
  | none => simp [run, henabled] at hrun
  | some next => exact ⟨next, rfl, by rwa [run, henabled] at hrun⟩

theorem reach_of_run (labels : List Label)
    (hrun : run step start labels = some state)
    (hmeets : Meets step allowed start labels) :
    Reach step allowed start state := by
  induction labels generalizing start with
  | nil =>
    cases hrun
    exact .refl
  | cons label rest ih =>
    obtain ⟨next, henabled, hrun⟩ := run_cons hrun
    simp only [Meets, henabled] at hmeets
    exact (ih hrun hmeets.2).head hmeets.1 henabled

/-- If a condition on steps is exactly what keeps a property, a run meets the
condition at every step exactly when the property holds all along it. -/
theorem along_iff_meets (aux inv : State → Prop)
    (haux : ∀ state label next, aux state → step state label = some next →
      aux next) (hexact : ∀ state label next, aux state → inv state →
      step state label = some next → (inv next ↔ allowed state label))
    (hstart : aux start) (hinv : inv start)
    (hrun : run step start labels = some state) :
    (∀ k passed, run step start (labels.take k) = some passed → inv passed) ↔
      Meets step allowed start labels := by
  induction labels generalizing start with
  | nil =>
    refine iff_of_true ?_ trivial
    intro k passed hpassed
    rw [List.take_nil] at hpassed
    cases hpassed
    exact hinv
  | cons label rest ih =>
    obtain ⟨next, henabled, hrun⟩ := run_cons hrun
    have hnext := haux start label next hstart henabled
    have hiff := hexact start label next hstart hinv henabled
    simp only [Meets, henabled]
    constructor
    · intro halong
      have hinvnext : inv next :=
        halong 1 next (by simp [run, henabled])
      refine ⟨hiff.mp hinvnext, (ih hnext hinvnext hrun).mp ?_⟩
      intro k passed hpassed
      exact halong (k + 1) passed (by simp [run, henabled, hpassed])
    · rintro ⟨hallowed, hmeets⟩ k passed hpassed
      have hinvnext := hiff.mpr hallowed
      cases k with
      | zero =>
        cases hpassed
        exact hinv
      | succ k =>
        simp only [List.take_succ_cons, run, henabled] at hpassed
        exact (ih hnext hinvnext hrun).mpr hmeets k passed hpassed

/-- A property that no step brings back holds all along a run exactly when it
holds at its end. -/
theorem along_iff_final (inv : State → Prop)
    (hback : ∀ state label next, step state label = some next → inv next →
      inv state) (hrun : run step start labels = some state) :
    (∀ k passed, run step start (labels.take k) = some passed → inv passed) ↔
      inv state := by
  constructor
  · intro halong
    refine halong labels.length state ?_
    rw [List.take_length]
    exact hrun
  · intro hinv
    induction labels generalizing start with
    | nil =>
      intro k passed hpassed
      rw [List.take_nil] at hpassed
      cases hpassed
      cases hrun
      exact hinv
    | cons label rest ih =>
      obtain ⟨next, henabled, hrun⟩ := run_cons hrun
      intro k passed hpassed
      cases k with
      | zero =>
        cases hpassed
        exact hback start label next henabled (ih hrun 0 next rfl)
      | succ k =>
        simp only [List.take_succ_cons, run, henabled] at hpassed
        exact ih hrun k passed hpassed

/-- If every counted step costs one and is paid for by a rank or by the credit
of a label, a run has no more of them than rank and credits allow. -/
theorem countP_add_rank_le (inv : State → Prop) (counted : Label → Bool)
    (credit : Label → Nat) (rank : State → Nat)
    (hstep : ∀ state label next, inv state → step state label = some next →
      inv next ∧ (if counted label then 1 else 0) + rank next ≤
        rank state + credit label) (hinv : inv start)
    (hrun : run step start labels = some state) :
    labels.countP counted + rank state ≤
      rank start + (labels.map credit).sum := by
  induction labels generalizing start with
  | nil =>
    cases hrun
    exact Nat.le_of_eq (Nat.add_comm _ _)
  | cons label rest ih =>
    obtain ⟨next, henabled, hrun⟩ := run_cons hrun
    obtain ⟨hnext, hpaid⟩ := hstep start label next hinv henabled
    have hrest := ih hnext hrun
    rw [List.countP_cons, List.map_cons, List.sum_cons]
    omega

theorem followed_cons {sets : State → Label → Prop} {clears : Label → Prop}
    {next : State} (henabled : step start label = some next) :
    Followed step sets clears start (label :: rest) ↔
      (sets start label → ∃ later ∈ rest, clears later) ∧
        Followed step sets clears next rest := by
  constructor
  · intro hfollowed
    refine ⟨hfollowed [] label rest start rfl rfl, ?_⟩
    intro before middle after state hlabels hrun
    apply hfollowed (label :: before) middle after state
    · rw [hlabels, List.cons_append]
    · rwa [run, henabled]
  · rintro ⟨hfirst, hrest⟩ before middle after state hlabels hrun hsets
    cases before with
    | nil =>
      cases hlabels
      cases hrun
      exact hfirst hsets
    | cons head before =>
      obtain ⟨rfl, htail⟩ := List.cons.inj hlabels
      rw [run, henabled] at hrun
      exact hrest before middle after state htail hrun hsets

/-- A property that some steps set and others clear is gone at the end of a
run exactly when every step that set it was followed by one that cleared
it. -/
theorem not_iff_followed (holds : State → Prop) (sets : State → Label → Prop)
    (clears considered : Label → Prop)
    (hstep : ∀ state label next, considered label →
      step state label = some next →
        (holds next ↔ sets state label ∨ holds state ∧ ¬ clears label))
    (hallowed : ∀ label ∈ labels, considered label)
    (hrun : run step start labels = some state) :
    ¬ holds state ↔ (holds start → ∃ later ∈ labels, clears later) ∧
      Followed step sets clears start labels := by
  induction labels generalizing start with
  | nil =>
    cases hrun
    constructor
    · intro hnot
      refine ⟨fun h => absurd h hnot, ?_⟩
      intro before label after state hlabels
      cases before <;> cases hlabels
    · rintro ⟨hcleared, -⟩ hholds
      obtain ⟨later, hlater, -⟩ := hcleared hholds
      cases hlater
  | cons label rest ih =>
    obtain ⟨next, henabled, hrun⟩ := run_cons hrun
    have hnext := hstep start label next
      (hallowed label List.mem_cons_self) henabled
    rw [ih (fun l hl => hallowed l (List.mem_cons_of_mem label hl)) hrun,
      followed_cons henabled, hnext]
    by_cases hclears : clears label
    · simp [hclears]
    · simp only [List.mem_cons, exists_eq_or_imp, hclears,
        not_false_eq_true, and_true, false_or]
      constructor
      · rintro ⟨hcleared, hrest⟩
        exact ⟨fun h => hcleared (.inr h), fun h => hcleared (.inl h),
          hrest⟩
      · rintro ⟨hstart, hset, hrest⟩
        exact ⟨fun h => h.elim hset hstart, hrest⟩

theorem run_invariant (inv : State → Prop)
    (hstep : ∀ state label next, inv state → step state label = some next →
      inv next) (hstart : inv start)
    (hrun : run step start labels = some state) : inv state := by
  induction labels generalizing start with
  | nil =>
    cases hrun
    exact hstart
  | cons label rest ih =>
    obtain ⟨next, henabled, hrun⟩ := run_cons hrun
    exact ih (hstep start label next hstart henabled) hrun

/-- A run passes through the state in front of each of its labels. -/
theorem run_middle {before after : List Label}
    (hrun : run step start (before ++ label :: after) = some state) :
    ∃ passed next, run step start before = some passed ∧
      step passed label = some next ∧ run step next after = some state := by
  induction before generalizing start with
  | nil =>
    obtain ⟨next, henabled, hrun⟩ := run_cons hrun
    exact ⟨start, next, rfl, henabled, hrun⟩
  | cons head before ih =>
    obtain ⟨next, henabled, hrun⟩ := run_cons hrun
    simp only [run, henabled]
    exact ih hrun

theorem run_eq_final (henabled : (run step start labels).isSome = true) :
    run step start labels = some (final step start labels) := by
  obtain ⟨state, hrun⟩ := Option.isSome_iff_exists.mp henabled
  rw [final, hrun, Option.getD_some]

theorem step_eq_final (henabled : (step start label).isSome = true) :
    step start label = some (final step start [label]) := by
  obtain ⟨next, hstep⟩ := Option.isSome_iff_exists.mp henabled
  simp [final, run, hstep]

theorem reach_final (henabled : (run step start labels).isSome = true)
    (hmeets : Meets step allowed start labels) :
    Reach step allowed start (final step start labels) :=
  reach_of_run labels (run_eq_final henabled) hmeets

end Rules

/-- The states a total step goes through under a sequence of inputs. -/
def drive (advance : State → Label → State) (start : State)
    (inputs : Nat → Label) : Nat → State
  | 0 => start
  | n + 1 => advance (drive advance start inputs n) (inputs n)

variable {inputs : Nat → Label}

/-- A state depends on the inputs before it only. -/
theorem drive_congr {advance : State → Label → State} {start : State}
    {inputs' : Nat → Label} {n : Nat} (hsame : ∀ m < n, inputs m = inputs' m) :
    drive advance start inputs n = drive advance start inputs' n := by
  induction n with
  | zero => rfl
  | succ n ih =>
    rw [drive, drive, ih fun m hm => hsame m (Nat.lt_succ_of_lt hm),
      hsame n (Nat.lt_succ_self n)]

/-- A rank that every state but the resting ones loses at each step leads to a
resting one. -/
theorem exists_drive_rests {Rank : Type} {below : Rank → Rank → Prop}
    (hwf : WellFounded below) (rank : State → Rank) (rests : State → Prop)
    {advance : State → Label → State}
    (hdrop : ∀ state input, ¬ rests state →
      below (rank (advance state input)) (rank state))
    (start : State) (inputs : Nat → Label) :
    ∃ n, rests (drive advance start inputs n) := by
  have hfrom : ∀ value n, rank (drive advance start inputs n) = value →
      ∃ m, rests (drive advance start inputs m) := by
    intro value
    induction value using hwf.induction with
    | h value ih =>
      intro n hrank
      by_cases hrests : rests (drive advance start inputs n)
      · exact ⟨n, hrests⟩
      · apply ih _ _ (n + 1) rfl
        rw [← hrank]
        exact hdrop _ _ hrests
  exact hfrom _ 0 rfl

/-- A state that no step changes is the last one. -/
theorem drive_eq_of_le {advance : State → Label → State} {start : State}
    {n m : Nat} (hle : n ≤ m)
    (hfixed : ∀ input, advance (drive advance start inputs n) input =
      drive advance start inputs n) :
    drive advance start inputs m = drive advance start inputs n := by
  induction hle with
  | refl => rfl
  | step _ ih => rw [drive, ih, hfixed]

end Transition

end Pipewave
