/-
The order of the cleanup tasks.  The tasks are sorted by priority when a
shutdown asks for them, and the sort is not stable: nothing but the priorities
says which of two tasks runs first.
-/
import Mathlib.Data.List.Sort
import Mathlib.Data.Prod.Lex

namespace Pipewave

namespace CleanupOrder

structure FnItem (α : Type) where
  priority : Int
  fn : α
deriving DecidableEq

section Collector

variable {α : Type}

def regTask (items : List (FnItem α)) (doStuff : α) (priority : Int) :
    List (FnItem α) :=
  items ++ [⟨priority, doStuff⟩]

/-- The outcomes of `Get`: `sort.Slice` leaves items of equal priority in any
order. -/
structure IsGet (items order : List (FnItem α)) : Prop where
  perm : order.Perm items
  sorted : order.Pairwise fun a b => a.priority ≤ b.priority

/-- Two members of a list stand in one of two orders. -/
theorem pair_sublist_or {items : List α} {a b : α} (hne : a ≠ b)
    (ha : a ∈ items) (hb : b ∈ items) :
    [a, b].Sublist items ∨ [b, a].Sublist items := by
  induction items with
  | nil => cases ha
  | cons first rest ih =>
    rcases List.mem_cons.mp ha with rfl | hlater
    · rcases List.mem_cons.mp hb with rfl | hbehind
      · exact absurd rfl hne
      · exact Or.inl (List.cons_sublist_cons.mpr
          (List.singleton_sublist.mpr hbehind))
    · rcases List.mem_cons.mp hb with rfl | hbehind
      · exact Or.inr (List.cons_sublist_cons.mpr
          (List.singleton_sublist.mpr hlater))
      · rcases ih hlater hbehind with hab | hba
        · exact Or.inl (hab.cons first)
        · exact Or.inr (hba.cons first)

theorem IsGet.precedes {items order : List (FnItem α)}
    (hget : IsGet items order) {a b : FnItem α} (ha : a ∈ items)
    (hb : b ∈ items) (hlt : a.priority < b.priority) :
    [a, b].Sublist order := by
  have hne : a ≠ b := by
    rintro rfl
    exact lt_irrefl _ hlt
  rcases pair_sublist_or hne (hget.perm.mem_iff.mpr ha)
      (hget.perm.mem_iff.mpr hb) with hab | hba
  · exact hab
  · have hpair := hget.sorted.sublist hba
    rw [List.pairwise_pair] at hpair
    omega

/-- The item `b` can come as early as its priority allows. -/
theorem exists_isGet_not_precedes [DecidableEq α] {items : List (FnItem α)}
    (hnodup : items.Nodup) {a b : FnItem α}
    (hle : b.priority ≤ a.priority) :
    ∃ order, IsGet items order ∧ ¬ [a, b].Sublist order := by
  let key : FnItem α → Lex (Int × Nat) := fun item =>
    toLex (item.priority, if item = b then 0 else 1)
  have htotal : Std.Total fun x y => key x ≤ key y :=
    ⟨fun x y => le_total (key x) (key y)⟩
  have htrans : IsTrans (FnItem α) fun x y => key x ≤ key y :=
    ⟨fun x y z => le_trans⟩
  have hsorted := List.pairwise_insertionSort
    (fun x y => key x ≤ key y) items
  have hperm := List.perm_insertionSort (fun x y => key x ≤ key y) items
  refine ⟨_, ⟨hperm, hsorted.imp ?_⟩, ?_⟩
  · intro x y hxy
    rcases Prod.Lex.toLex_le_toLex.mp hxy with hlt | ⟨heq, -⟩
    · exact hlt.le
    · exact heq.le
  · intro hab
    have hne : a ≠ b := List.pairwise_pair.mp
      ((hperm.nodup_iff.mpr hnodup).sublist hab)
    have hkey := hsorted.sublist hab
    rw [List.pairwise_pair] at hkey
    rcases Prod.Lex.toLex_le_toLex.mp hkey with hlt | ⟨-, hrank⟩
    · exact absurd hlt (not_lt.mpr hle)
    · simp [hne] at hrank

end Collector

/-! ### The tasks of a container -/

/-- What is registered with the cleanup collector, named after the function or
the client behind it. -/
inductive Task where
  | stopIntervalTasks
  | stopPingLoop
  | unsubscribe
  | mediatorShutdown
  | msgHubShutdown
  | closePubsub
  | closeQueue
  | flushCache
  | shutdownOtel
  | shutdownMetrics
  | closeWorkerPool
  | checkTransferingConns
deriving DecidableEq

def fnPriorityEarlyest : Int := -9999
def fnPriorityNormal : Int := 0
def fnPriorityLate : Int := 100
def fnPriorityLatest : Int := 9999

def Task.priority : Task → Int
  | .stopIntervalTasks => fnPriorityEarlyest
  | .stopPingLoop => fnPriorityEarlyest
  | .unsubscribe => fnPriorityEarlyest
  | .closeWorkerPool => fnPriorityLate
  | .checkTransferingConns => fnPriorityLatest
  | _ => fnPriorityNormal

/-- The two tasks that close a channel. -/
def Task.Closes (task : Task) : Prop :=
  task = .stopIntervalTasks ∨ task = .stopPingLoop

instance (task : Task) : Decidable task.Closes :=
  inferInstanceAs (Decidable (_ ∨ _))

/-- The constructors register their tasks one after another. -/
def register (tasks : List Task) : List (FnItem Task) :=
  tasks.foldl (fun items task => regTask items task task.priority) []

/-- The loop of `Shutdown` after `ran`: the tasks it runs, and whether it
panics because a channel is closed a second time. -/
def shutdown (ran : List Task) : List (FnItem Task) → List Task × Bool
  | [] => ([], false)
  | item :: rest =>
    if item.fn.Closes ∧ item.fn ∈ ran then ([], true)
    else
      let after := shutdown (item.fn :: ran) rest
      (item.fn :: after.1, after.2)

section Tasks

theorem register_eq (tasks : List Task) :
    register tasks = tasks.map fun task => ⟨task.priority, task⟩ := by
  have hfold : ∀ items : List (FnItem Task),
      tasks.foldl (fun items task => regTask items task task.priority)
        items = items ++ tasks.map fun task => ⟨task.priority, task⟩ := by
    induction tasks with
    | nil => simp
    | cons task rest ih =>
      intro items
      rw [List.foldl_cons, ih, regTask, List.map_cons,
        List.append_assoc]
      rfl
  exact (hfold []).trans (List.nil_append _)

variable {tasks ran : List Task}

theorem mem_register {item : FnItem Task} :
    item ∈ register tasks ↔
      item.fn ∈ tasks ∧ item.priority = item.fn.priority := by
  rw [register_eq, List.mem_map]
  constructor
  · rintro ⟨task, hmem, rfl⟩
    exact ⟨hmem, rfl⟩
  · rintro ⟨hmem, hpriority⟩
    refine ⟨item.fn, hmem, ?_⟩
    rw [← hpriority]

/-- A first shutdown runs everything. -/
theorem shutdown_all {order : List (FnItem Task)}
    (hnodup : (order.map FnItem.fn).Nodup)
    (hran : ∀ item ∈ order, item.fn ∉ ran) :
    shutdown ran order = (order.map FnItem.fn, false) := by
  induction order generalizing ran with
  | nil => rfl
  | cons item rest ih =>
    obtain ⟨hitem, hrest⟩ := List.nodup_cons.mp hnodup
    have hnot : ¬ (item.fn.Closes ∧ item.fn ∈ ran) := fun hboth =>
      hran item List.mem_cons_self hboth.2
    have hlater : ∀ other ∈ rest, other.fn ∉ item.fn :: ran := by
      intro other hother hmem
      rcases List.mem_cons.mp hmem with heq | hmem
      · exact hitem (heq ▸ List.mem_map_of_mem hother)
      · exact hran other (List.mem_cons_of_mem _ hother) hmem
    rw [shutdown, if_neg hnot, ih hrest hlater]
    rfl

/-- Once a channel is closed, a sorted order gets no further than the priority
of the task that closes it. -/
theorem shutdown_again {order : List (FnItem Task)}
    (hsorted : order.Pairwise fun a b => a.priority ≤ b.priority)
    {closer : FnItem Task} (hcloser : closer ∈ order)
    (hcloses : closer.fn.Closes) (hran : closer.fn ∈ ran) :
    (shutdown ran order).2 = true ∧
    ∀ task ∈ (shutdown ran order).1, ¬ (task.Closes ∧ task ∈ ran) ∧
      ∃ item ∈ order, item.fn = task ∧ item.priority ≤ closer.priority := by
  induction order generalizing ran with
  | nil => cases hcloser
  | cons item rest ih =>
    obtain ⟨hfirst, hrest⟩ := List.pairwise_cons.mp hsorted
    rw [shutdown]
    split
    · simp
    next hnot =>
      rcases List.mem_cons.mp hcloser with rfl | hcloser
      · exact absurd ⟨hcloses, hran⟩ hnot
      · obtain ⟨hpanic, hbefore⟩ :=
          ih hrest hcloser (List.mem_cons_of_mem _ hran)
        refine ⟨hpanic, ?_⟩
        intro task htask
        rcases List.mem_cons.mp htask with rfl | htask
        · exact ⟨hnot, item, List.mem_cons_self, rfl,
            hfirst closer hcloser⟩
        · obtain ⟨hclosed, other, hother, heq, hle⟩ := hbefore task htask
          refine ⟨?_, other, List.mem_cons_of_mem _ hother, heq, hle⟩
          exact fun hboth =>
            hclosed ⟨hboth.1, List.mem_cons_of_mem _ hboth.2⟩

theorem eq_unsubscribe {task : Task}
    (hearly : task.priority ≤ fnPriorityEarlyest) (hopen : ¬ task.Closes) :
    task = .unsubscribe := by
  cases task with
  | unsubscribe => rfl
  | stopIntervalTasks => exact absurd (Or.inl rfl) hopen
  | stopPingLoop => exact absurd (Or.inr rfl) hopen
  | _ => exact absurd hearly (by decide)

/-- Two tasks in the order of a shutdown are two items in that order. -/
theorem sublist_of_map {order : List (FnItem Task)}
    (hget : IsGet (register tasks) order) {a b : Task}
    (hab : [a, b].Sublist (order.map FnItem.fn)) :
    [(⟨a.priority, a⟩ : FnItem Task), ⟨b.priority, b⟩].Sublist order := by
  obtain ⟨items, hitems, heq⟩ := List.sublist_map_iff.mp hab
  have hpriority : ∀ item ∈ items, item = ⟨item.fn.priority, item.fn⟩ := by
    intro item hitem
    have hmem := hget.perm.mem_iff.mp (hitems.subset hitem)
    rw [← (mem_register.mp hmem).2]
  have hmap : items = [a, b].map fun task => ⟨task.priority, task⟩ := by
    rw [heq, List.map_map]
    exact (List.map_id' items).symm.trans
      (List.map_congr_left hpriority)
  rw [hmap] at hitems
  exact hitems

end Tasks

/-- In whatever order the tasks were registered: a shutdown runs each of them
once; two of them run in a certain order exactly if their priorities differ;
and a second shutdown panics before it has repeated anything but the
unsubscribing. -/
theorem cleanup_order {tasks : List Task}
    (hall : ∀ task, tasks.count task = 1) :
    (∀ order, IsGet (register tasks) order →
      (shutdown [] order).2 = false ∧ (shutdown [] order).1.Perm tasks ∧
      ∀ again, IsGet order again →
        (shutdown (shutdown [] order).1 again).2 = true ∧
        ∀ task ∈ (shutdown (shutdown [] order).1 again).1,
          task = .unsubscribe) ∧
    ∀ a b : Task, (∀ order, IsGet (register tasks) order →
      [a, b].Sublist (shutdown [] order).1) ↔ a.priority < b.priority := by
  have hmem : ∀ task, task ∈ tasks := fun task =>
    List.count_pos_iff.mp (by rw [hall task]; exact Nat.one_pos)
  have hnodup : tasks.Nodup :=
    List.nodup_iff_count_le_one.mpr fun task => (hall task).le
  have hfns : (register tasks).map FnItem.fn = tasks := by
    rw [register_eq, List.map_map]
    exact List.map_id tasks
  have hfirst : ∀ order, IsGet (register tasks) order →
      shutdown [] order = (order.map FnItem.fn, false) ∧
      (order.map FnItem.fn).Perm tasks := by
    intro order hget
    have hperm : (order.map FnItem.fn).Perm tasks :=
      hfns ▸ hget.perm.map FnItem.fn
    exact ⟨shutdown_all (hperm.nodup_iff.mpr hnodup) (by simp), hperm⟩
  constructor
  · intro order hget
    obtain ⟨hrun, hperm⟩ := hfirst order hget
    rw [hrun]
    refine ⟨rfl, hperm, ?_⟩
    intro again hagain
    have hran : ∀ task, task ∈ order.map FnItem.fn := fun task =>
      hperm.mem_iff.mpr (hmem task)
    have hitems : ∀ item, item ∈ again ↔ item ∈ register tasks := fun item =>
      (hagain.perm.trans hget.perm).mem_iff
    have hstop : (⟨fnPriorityEarlyest, .stopIntervalTasks⟩ : FnItem Task) ∈
        again := (hitems _).mpr (mem_register.mpr ⟨hmem _, rfl⟩)
    obtain ⟨hpanic, hbefore⟩ := shutdown_again hagain.sorted hstop
      (Or.inl rfl) (hran .stopIntervalTasks)
    refine ⟨hpanic, ?_⟩
    intro task htask
    obtain ⟨hclosed, item, hitem, rfl, hle⟩ := hbefore task htask
    have hpriority := (mem_register.mp ((hitems item).mp hitem)).2
    have hopen : ¬ item.fn.Closes := fun hcloses =>
      hclosed ⟨hcloses, hran item.fn⟩
    exact eq_unsubscribe (hpriority ▸ hle) hopen
  · intro a b
    constructor
    · intro hprecedes
      by_contra hnot
      have hitems : (register tasks).Nodup :=
        List.Nodup.of_map FnItem.fn (hfns.symm ▸ hnodup)
      obtain ⟨order, hget, hother⟩ := exists_isGet_not_precedes hitems
        (a := ⟨a.priority, a⟩) (b := ⟨b.priority, b⟩) (not_lt.mp hnot)
      have hab := hprecedes order hget
      rw [(hfirst order hget).1] at hab
      exact hother (sublist_of_map hget hab)
    · intro hlt order hget
      rw [(hfirst order hget).1]
      have hab := hget.precedes (a := ⟨a.priority, a⟩)
        (b := ⟨b.priority, b⟩) (mem_register.mpr ⟨hmem a, rfl⟩)
        (mem_register.mpr ⟨hmem b, rfl⟩) hlt
      exact hab.map FnItem.fn

def allTasks : List Task :=
  [.shutdownMetrics, .shutdownOtel, .flushCache, .closeQueue, .closePubsub,
    .closeWorkerPool, .msgHubShutdown, .unsubscribe, .stopPingLoop,
    .mediatorShutdown, .checkTransferingConns, .stopIntervalTasks]

/-- The queue's client may be closed before the connections that use it. -/
theorem cleanup_order_allTasks :
    (∀ task, allTasks.count task = 1) ∧
    ∃ order, IsGet (register allTasks) order ∧
      ¬ [.mediatorShutdown, .closeQueue].Sublist (shutdown [] order).1 := by
  have hall : ∀ task, allTasks.count task = 1 := by
    intro task
    cases task <;> rfl
  have hiff := (cleanup_order hall).2 .mediatorShutdown .closeQueue
  refine ⟨hall, ?_⟩
  by_contra hnone
  have hlt := hiff.mp fun order hget => by
    by_contra hnot
    exact hnone ⟨order, hget, hnot⟩
  exact absurd hlt (by decide)

end CleanupOrder

end Pipewave
