/-
Programs that call a service.  A program is the tree of its calls: what it
asks for, and how it goes on with each answer.  The tree is finite along every
path, so a program run against a service always returns; which answers the
service gives may depend on everything it has been asked before.
-/
import Mathlib.Logic.Basic

namespace Pipewave

inductive Calls (Request : Type) (Answer : Request → Type)
    (Result : Type) where
  | done (result : Result)
  | call (request : Request)
      (next : Answer request → Calls Request Answer Result)

namespace Calls

variable {Request : Type} {Answer : Request → Type} {Result Result' : Type}

/-- A request and the answer to it. -/
abbrev Exchange (Answer : Request → Type) :=
  Sigma fun request : Request => Answer request

abbrev Service (Answer : Request → Type) :=
  List (Exchange Answer) → (request : Request) → Answer request

def bind (program : Calls Request Answer Result)
    (rest : Result → Calls Request Answer Result') :
    Calls Request Answer Result' :=
  match program with
  | .done result => rest result
  | .call request next => .call request fun answer => (next answer).bind rest

/-- All exchanges, those in `log` first, and the result. -/
def run (service : Service Answer) :
    Calls Request Answer Result → List (Exchange Answer) →
      List (Exchange Answer) × Result
  | .done result, log => (log, result)
  | .call request next, log =>
    run service (next (service log request))
      (log ++ [⟨request, service log request⟩])

/-- Whatever the answers are, the exchanges and the result satisfy `post`. -/
def All : (List (Exchange Answer) → Result → Prop) →
    Calls Request Answer Result → Prop
  | post, .done result => post [] result
  | post, .call request next => ∀ answer,
      All (fun log result => post (⟨request, answer⟩ :: log) result)
        (next answer)

/-- Whatever the answers are, every request satisfies `allowed`. -/
def Always (allowed : Request → Prop) : Calls Request Answer Result → Prop
  | .done _ => True
  | .call request next =>
    allowed request ∧ ∀ answer, Always allowed (next answer)

section Rules

variable {post post' : List (Exchange Answer) → Result → Prop}
  {program : Calls Request Answer Result}

theorem All.mono (hpost : ∀ log result, post log result → post' log result)
    (hall : All post program) : All post' program := by
  induction program generalizing post post' with
  | done result => exact hpost [] result hall
  | call request next ih =>
    intro answer
    apply ih answer _ (hall answer)
    exact fun log result => hpost (⟨request, answer⟩ :: log) result

theorem All.bind {after : List (Exchange Answer) → Result' → Prop}
    {rest : Result → Calls Request Answer Result'}
    (hall : All post program)
    (hrest : ∀ log result, post log result →
      All (fun more => after (log ++ more)) (rest result)) :
    All after (program.bind rest) := by
  induction program generalizing post after with
  | done result => exact hrest [] result hall
  | call request next ih =>
    intro answer
    apply ih answer (hall answer)
    exact fun log result => hrest (⟨request, answer⟩ :: log) result

/-- Against a service the exchanges and the result are one of the cases. -/
theorem All.run (hall : All post program) (service : Service Answer)
    (log : List (Exchange Answer)) :
    ∃ new, (program.run service log).1 = log ++ new ∧
      post new (program.run service log).2 := by
  induction program generalizing post log with
  | done result => exact ⟨[], (List.append_nil log).symm, hall⟩
  | call request next ih =>
    obtain ⟨new, hlog, hpost⟩ := ih (service log request)
      (hall (service log request))
      (log ++ [⟨request, service log request⟩])
    refine ⟨⟨request, service log request⟩ :: new, ?_, hpost⟩
    rw [Calls.run, hlog, List.append_assoc]
    rfl

theorem All.exists [∀ request, Nonempty (Answer request)]
    (hall : All post program) : ∃ log result, post log result := by
  induction program generalizing post with
  | done result => exact ⟨[], result, hall⟩
  | call request next ih =>
    obtain ⟨answer⟩ := (inferInstance : Nonempty (Answer request))
    obtain ⟨log, result, hpost⟩ := ih answer (hall answer)
    exact ⟨⟨request, answer⟩ :: log, result, hpost⟩

theorem All.always [∀ request, Nonempty (Answer request)]
    {allowed : Request → Prop} {program : Calls Request Answer Result}
    (hall : All (fun log _ => ∀ exchange ∈ log, allowed exchange.1) program) :
    Always allowed program := by
  induction program with
  | done result => trivial
  | call request next ih =>
    have hnext := fun answer => hall answer
    constructor
    · obtain ⟨answer⟩ := (inferInstance : Nonempty (Answer request))
      obtain ⟨log, result, hallowed⟩ := (hnext answer).exists
      exact hallowed _ List.mem_cons_self
    · intro answer
      apply ih answer
      apply (hnext answer).mono
      exact fun log _ hallowed exchange hmem =>
        hallowed exchange (List.mem_cons_of_mem _ hmem)

theorem Always.mono {allowed allowed' : Request → Prop}
    (hweaker : ∀ request, allowed request → allowed' request)
    {program : Calls Request Answer Result}
    (halways : Always allowed program) : Always allowed' program := by
  induction program with
  | done result => trivial
  | call request next ih =>
    exact ⟨hweaker request halways.1,
      fun answer => ih answer (halways.2 answer)⟩

end Rules

end Calls

end Pipewave
