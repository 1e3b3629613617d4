/-
No buffered message is lost between the reads and the deletes of the drains.
A drain reads page by page up to some stamp and deletes up to it, also page by
page; what commits in between has to carry a larger stamp.
-/
import Pipewave.PendingDrain

namespace Pipewave

namespace PendingDrain

open Transition
open PendingBackends (rowKey)

/-- The session and the stamp up to which `DeleteUpTo` deletes. -/
def Filter.bound : Filter → Option (Bytes × Int)
  | .upTo key maxSendAt => some (key, maxSendAt)
  | _ => none

/-- The session and the stamp up to which a `Consume` has read, while it may
still read or delete. -/
def Thread.bound : Thread → Option (Bytes × Int)
  | .reading key cursor _ => cursor.map (Prod.mk key)
  | .selecting filter _ => filter.bound
  | .deleting filter _ (.call _ _) => filter.bound
  | _ => none

/-- A message commits above what the drains of its session have read, and a
drain reads from a replica that has every stored row. -/
def InOrder (s : State) : Label → Prop
  | .create auth call => ∀ thread ∈ s.threads, ∀ bound ∈ thread.bound,
      bound.1 = sessionKey auth → bound.2 < call.sendAt
  | .readPage _ view _ => s.table ⊆ view
  | _ => True

instance (s : State) : ∀ label, Decidable (InOrder s label)
  | .create auth call => inferInstanceAs (Decidable (∀ thread ∈ s.threads,
      ∀ bound ∈ thread.bound,
        bound.1 = sessionKey auth → bound.2 < call.sendAt))
  | .readPage _ view _ => inferInstanceAs (Decidable (s.table ⊆ view))
  | .advance _ | .consume _ | .deleteAll _ | .cleanUp | .readFails _
  | .selectPage .. | .selectFails .. | .batchWriteItem ..
  | .batchWriteItemFails .. => .isTrue trivial

/-- New keys, commits above the drains, and reads that miss nothing. -/
def Careful (s : State) (label : Label) : Prop :=
  NewKey s label ∧ InOrder s label

instance (s : State) (label : Label) : Decidable (Careful s label) :=
  inferInstanceAs (Decidable (_ ∧ _))

/-- Every committed message is stored or was handed out, unless it expired or
its session was cleared. -/
def Kept (s : State) : Prop :=
  ∀ row ∈ s.committed, row ∈ s.table ∨ row ∈ s.returned ∨
    row.expiresAt < s.now ∨ row.sessionKey ∈ s.cleared

/-- The rows that must contain what a `Consume` has read. -/
def Thread.held (s : State) : Thread → List PendingMessage
  | .reading _ _ rows => rows
  | _ => s.returned

/-- A drain has read every stored row up to its bound. -/
def Thread.Covered (s : State) (thread : Thread) : Prop :=
  ∀ bound ∈ thread.bound, ∀ row ∈ s.table,
    row.sessionKey = bound.1 → row.sendAt ≤ bound.2 → row ∈ thread.held s

section Drains

variable {lo : BatchWrite.Chunking Key} {s next : State} {label : Label}

theorem mem_bound_of_deleting {filter : Filter} {keys : List Key}
    {rest : Deletion} {bound : Bytes × Int}
    (hbound : bound ∈ (Thread.deleting filter keys rest).bound) :
    bound ∈ filter.bound := by
  cases rest with
  | done result => cases hbound
  | call request next => exact hbound

theorem Thread.held_frame (hframe : Frame s label next) (thread : Thread) :
    thread.held s ⊆ thread.held next := by
  cases thread with
  | reading key cursor rows => exact List.Subset.refl _
  | selecting filter keys => exact hframe.returned
  | deleting filter keys rest => exact hframe.returned
  | finished => exact hframe.returned

/-- A commit above the bound does not matter to the drain. -/
theorem Thread.Covered.frame {thread : Thread} (hthread : thread ∈ s.threads)
    (hframe : Frame s label next) (horder : InOrder s label)
    (hcovered : thread.Covered s) : thread.Covered next := by
  intro bound hbound row hrow hkey hle
  obtain hold | ⟨auth, call, rfl, rfl⟩ := hframe.added row hrow
  · exact thread.held_frame hframe (hcovered bound hbound row hold hkey hle)
  · have habove := horder thread hthread bound hbound hkey.symm
    exact absurd hle (Int.not_le.mpr habove)

variable {view : PendingTable} {cursor last : Option Int}
  {row : PendingMessage}

theorem mem_page {key : Bytes} :
    row ∈ page view key cursor last ↔
      (row ∈ view ∧ row.sessionKey = key) ∧
        (∀ c ∈ cursor, c < row.sendAt) ∧ ∀ c ∈ last, row.sendAt ≤ c := by
  rw [page, List.mem_filter, PendingTable.mem_ofSession, decide_eq_true_eq]

/-- With one more page everything up to its end is read. -/
theorem mem_append_page {key : Bytes} {rows : List PendingMessage}
    (hcovered : (Thread.reading key cursor rows).Covered s)
    (hview : s.table ⊆ view) (hrow : row ∈ s.table)
    (hkey : row.sessionKey = key) (hlast : ∀ c ∈ last, row.sendAt ≤ c) :
    row ∈ rows ++ page view key cursor last := by
  by_cases hbehind : ∀ c ∈ cursor, c < row.sendAt
  · apply List.mem_append_right
    exact mem_page.mpr ⟨⟨hview hrow, hkey⟩, hbehind, hlast⟩
  · apply List.mem_append_left
    push Not at hbehind
    obtain ⟨c, hc, hle⟩ := hbehind
    refine hcovered (key, c) ?_ row hrow hkey hle
    exact Option.mem_map_of_mem (Prod.mk key) hc

theorem covered_of_stepCase (hcase : StepCase lo s label next)
    (horder : InOrder s label)
    (hold : ∀ thread ∈ s.threads, thread.Covered next) :
    ∀ thread ∈ next.threads, thread.Covered next := by
  have hset : ∀ i new, new.Covered next →
      ∀ thread ∈ s.threads.set i new, thread.Covered next := by
    intro i new hnew thread hthread
    obtain hmem | rfl := List.mem_or_eq_of_mem_set hthread
    · exact hold thread hmem
    · exact hnew
  have hspawn : ∀ new, new.bound = none →
      ∀ thread ∈ s.threads ++ [new], thread.Covered next := by
    intro new hnone thread hthread
    obtain hmem | hlast := List.mem_append.mp hthread
    · exact hold thread hmem
    · rw [List.mem_singleton.mp hlast]
      intro bound hbound
      rw [hnone] at hbound
      cases hbound
  have hfinished : Thread.finished.Covered next := fun _ hbound => by
    cases hbound
  cases hcase with
  | advance elapsed => exact hold
  | create auth call => exact hold
  | consume auth => exact hspawn _ rfl
  | deleteAll auth => exact hspawn _ rfl
  | cleanUp => exact hspawn _ rfl
  | readMore view upTo hthread =>
    apply hset
    intro bound hbound row hrow hkey hle
    cases hbound
    refine mem_append_page (hold _ hthread) horder hrow hkey ?_
    intro c hc
    cases hc
    exact hle
  | readLast view hthread =>
    have hcovered := hold _ hthread
    unfold State.consumed at hcovered hset hfinished ⊢
    split
    · next hnil =>
      rw [if_pos hnil] at hset hfinished
      exact hset _ _ hfinished
    · next hnil =>
      rw [if_neg hnil] at hset hcovered
      apply hset
      intro bound hbound row hrow hkey _
      cases hbound
      apply List.mem_append_left
      exact mem_append_page hcovered horder hrow hkey fun _ hc => by cases hc
  | readFails i => exact hset _ _ hfinished
  | selectPage more _ hthread =>
    apply hset
    split
    · intro bound hbound
      exact hold _ hthread bound hbound
    · intro bound hbound
      exact hold _ hthread bound (mem_bound_of_deleting hbound)
  | selectFails err hthread =>
    apply hset
    intro bound hbound
    cases hbound
  | batchWriteItem _ hthread =>
    apply hset
    intro bound hbound
    exact hold _ hthread bound (mem_bound_of_deleting hbound)
  | batchWriteItemFails _ hthread =>
    apply hset
    intro bound hbound
    exact hold _ hthread bound (mem_bound_of_deleting hbound)

/-- What is deleted was handed out, is expired or belongs to a session that
was cleared. -/
theorem Kept.step (hinv : Inv s)
    (hcovered : ∀ thread ∈ s.threads, thread.Covered s) (hkept : Kept s)
    (hnew : NewKey s label) (hstep : step lo s label = some next) :
    Kept next := by
  have hcase := stepCase_of_step hstep
  have hframe := frame_of_stepCase hcase
  intro row hrow
  have hcreated : row ∈ s.committed ∨ row ∈ next.table := by
    obtain hsame | ⟨auth, call, rfl, hcons⟩ := hframe.committed
    · exact .inl (hsame ▸ hrow)
    · rw [hcons] at hrow
      obtain rfl | hold := List.mem_cons.mp hrow
      · cases hcase
        exact .inr List.mem_cons_self
      · exact .inl hold
  obtain hold | hstored := hcreated
  · obtain hstored | hreturned | hexpired | hcleared := hkept row hold
    · obtain hstored | ⟨filter, keys, request, rest, hthread, hselects,
        hgrounded⟩ := hinv.removed hnew hstep hstored
      · exact .inl hstored
      · cases filter with
        | upTo key maxSendAt =>
          have hread := hcovered _ hthread (key, maxSendAt) rfl row hstored
            hselects.1 hselects.2
          exact .inr (.inl (hframe.returned hread))
        | all key =>
          have hclears : row.sessionKey = key := hselects
          exact .inr (.inr (.inr (hframe.cleared (hclears ▸ hgrounded))))
        | expired before =>
          have hbefore : row.expiresAt < before := hselects
          have hnow := Int.le_trans hgrounded hframe.now
          exact .inr (.inr (.inl (Int.lt_of_lt_of_le hbefore hnow)))
    · exact .inr (.inl (hframe.returned hreturned))
    · exact .inr (.inr (.inl (Int.lt_of_lt_of_le hexpired hframe.now)))
    · exact .inr (.inr (.inr (hframe.cleared hcleared)))
  · exact .inl hstored

/-- However pages, batches, failures and cleanups of several containers are
interleaved, a committed message stays until a drain has it, it is expired, or
its session is cleared. -/
theorem committed_kept (hreach : Reach (step lo) Careful {} s) : Kept s := by
  have hinv : Inv s ∧ (∀ thread ∈ s.threads, thread.Covered s) ∧ Kept s := by
    refine Reach.invariant
      (fun s => Inv s ∧ (∀ thread ∈ s.threads, thread.Covered s) ∧ Kept s)
      ⟨inv_start, ?_, ?_⟩ ?_ hreach
    · intro thread hthread
      cases hthread
    · intro row hrow
      cases hrow
    · rintro s label next ⟨hinv, hcovered, hkept⟩ ⟨hnew, horder⟩ hstep
      have hcase := stepCase_of_step hstep
      refine ⟨hinv.step hnew hstep, covered_of_stepCase hcase horder ?_,
        hkept.step hinv hcovered hnew hstep⟩
      intro thread hthread
      exact (hcovered thread hthread).frame hthread
        (frame_of_stepCase hcase) horder
  exact hinv.2.2

/-- A second message commits above what the drain has read and stays. -/
theorem committed_kept_drained :
    let s := final (step BatchWrite.fullParts) {} (drainRun ++
      [.create { userID := [0x75], instanceID := [0x69] } ⟨11, [0x62], 100⟩,
        drainBatch])
    s.table.length = 1 ∧ s.committed.length = 2 ∧ Kept s :=
  ⟨by decide +kernel, by decide +kernel, committed_kept
    (reach_final (by decide +kernel) (by decide +kernel))⟩

end Drains

end PendingDrain

end Pipewave
