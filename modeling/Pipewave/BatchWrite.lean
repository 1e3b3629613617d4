/-
Batch writes to DynamoDB in chunks of 25.  The service may fail a call or
leave part of it undone; what is left of a chunk is sent again until the calls
of the chunk are used up.
-/
import Mathlib.Data.List.Perm.Subperm
import Mathlib.Data.List.ReduceOption
import Pipewave.Calls

namespace Pipewave

namespace BatchWrite

variable {α : Type}

/-- A call fails without effect, or some of the requests are processed and the
others come back. -/
inductive Answer (request : List α) where
  | failed
  | wrote (processed unprocessed : List α)
      (accounted : (processed ++ unprocessed).Perm request)

namespace Answer

variable {request : List α}

def processed : Answer request → List α
  | .failed => []
  | .wrote processed _ _ => processed

def isFailed : Answer request → Bool
  | .failed => true
  | .wrote _ _ _ => false

instance : Nonempty (Answer request) := ⟨.failed⟩

end Answer

abbrev Program (α Result : Type) := Calls (List α) (@Answer α) Result

/-- What is relied on of `lo.Chunk`. -/
structure Chunking (α : Type) where
  chunk : List α → Nat → List (List α)
  flatten_chunk : ∀ (collection : List α) (size : Nat), 0 < size →
    (chunk collection size).flatten = collection
  length_le : ∀ (collection : List α) (size : Nat),
    ∀ part ∈ chunk collection size, part.length ≤ size

/-- The loop over one chunk with `left` more calls allowed.  It returns what is
left of the chunk and whether a call failed. -/
def writeChunk : Nat → List α → Program α (List α × Bool)
  | _, [] => .done ([], false)
  -- counter > depth
  | 0, unprocessed => .done (unprocessed, false)
  | left + 1, unprocessed => .call unprocessed fun
      | .failed => .done (unprocessed, true)
      | .wrote _ unprocessed _ => writeChunk left unprocessed

def chunkError (i : Nat) : String :=
  "BatchWriteItem fail at chunk [" ++ toString i ++ "]"

/-- The loop over the chunks from the `i`th on. -/
def writeChunks (depth : Int) :
    Nat → List (List α) → Program α (List (List α × Option String))
  | _, [] => .done []
  | i, chunk :: rest =>
    (writeChunk (depth + 1).toNat chunk).bind fun written =>
      (writeChunks depth (i + 1) rest).bind fun results =>
        .done ((written.1,
          if written.2 then some (chunkError i) else none) :: results)

/-- `errors.Join`. -/
def joinErrors (errors : List (Option String)) : Option String :=
  if errors.reduceOption = [] then none
  else some ("\n".intercalate errors.reduceOption)

def recursiveBatchWriteItem (lo : Chunking α) (reqsItems : List α)
    (depth : Int) : Program α (List α × Option String) :=
  (writeChunks depth 0 (lo.chunk reqsItems 25)).bind fun results =>
    .done ((results.map Prod.fst).flatten, joinErrors (results.map Prod.snd))

abbrev Log (α : Type) := List (Calls.Exchange (@Answer α))

def processed (log : Log α) : List α :=
  log.flatMap fun exchange => exchange.2.processed

def SomeFailed (log : Log α) : Prop :=
  ∃ exchange ∈ log, exchange.2.isFailed = true

/-- The calls made for one chunk and what is left of it. -/
structure CallsFor (depth : Int) (chunk : List α) (write : Log α × List α) :
    Prop where
  count : write.1.length ≤ (depth + 1).toNat
  requests : ∀ exchange ∈ write.1, exchange.1 ≠ [] ∧ exchange.1.Subperm chunk
  conserved : (processed write.1 ++ write.2).Perm chunk
  leftOver : write.2 ≠ [] →
    write.1.length = (depth + 1).toNat ∨ SomeFailed write.1

/-- Every request is processed or returned, in few enough calls; what is
returned was tried as often as allowed or in a call that failed, and the error
tells whether one did. -/
structure Accounted (lo : Chunking α) (reqsItems : List α) (depth : Int)
    (outcome : Log α × List α × Option String) : Prop where
  chunks : ∀ part ∈ lo.chunk reqsItems 25, part.length ≤ 25
  calls : ∃ writes : List (Log α × List α),
    outcome.1 = (writes.map Prod.fst).flatten ∧
      outcome.2.1 = (writes.map Prod.snd).flatten ∧
      List.Forall₂ (CallsFor depth) (lo.chunk reqsItems 25) writes
  conserved : (processed outcome.1 ++ outcome.2.1).Perm reqsItems
  error : outcome.2.2.isSome = true ↔ SomeFailed outcome.1
  complete : outcome.2 = ([], none) → (processed outcome.1).Perm reqsItems

/-! ### One chunk -/

/-- What the loop over a chunk has done with `left` calls. -/
structure Written (left : Nat) (chunk : List α) (log : Log α)
    (written : List α × Bool) : Prop where
  count : log.length ≤ left
  requests : ∀ exchange ∈ log, exchange.1 ≠ [] ∧ exchange.1.Subperm chunk
  conserved : (processed log ++ written.1).Perm chunk
  leftOver : written.1 ≠ [] → log.length = left ∨ SomeFailed log
  failed : written.2 = true ↔ SomeFailed log

theorem not_someFailed_nil : ¬ SomeFailed ([] : Log α) := by
  rintro ⟨exchange, hmem, -⟩
  cases hmem

theorem someFailed_cons {exchange : Calls.Exchange (@Answer α)} {log : Log α} :
    SomeFailed (exchange :: log) ↔
      exchange.2.isFailed = true ∨ SomeFailed log := by
  simp [SomeFailed]

theorem someFailed_append {log log' : Log α} :
    SomeFailed (log ++ log') ↔ SomeFailed log ∨ SomeFailed log' := by
  simp only [SomeFailed, List.mem_append, or_and_right, exists_or]

theorem Written.nothing {left : Nat} {chunk : List α}
    (hover : chunk = [] ∨ left = 0) :
    Written left chunk [] (chunk, false) where
  count := Nat.zero_le left
  requests _ hmem := absurd hmem List.not_mem_nil
  conserved := List.Perm.refl chunk
  leftOver hrest := .inl (hover.resolve_left hrest).symm
  failed := iff_of_false Bool.false_ne_true not_someFailed_nil

theorem Written.failing (left : Nat) {chunk : List α} (hchunk : chunk ≠ []) :
    Written (left + 1) chunk [⟨chunk, .failed⟩] (chunk, true) where
  count := Nat.le_add_left 1 left
  requests exchange hmem := by
    rw [List.mem_singleton.mp hmem]
    exact ⟨hchunk, List.Subperm.refl chunk⟩
  conserved := List.Perm.refl chunk
  leftOver _ := .inr (someFailed_cons.mpr (.inl rfl))
  failed := iff_of_true rfl (someFailed_cons.mpr (.inl rfl))

/-- A call and what is done with the requests it returns. -/
theorem Written.cons {left : Nat} {chunk done rest : List α}
    (hchunk : chunk ≠ []) (haccounted : (done ++ rest).Perm chunk)
    {log : Log α} {written : List α × Bool}
    (hwritten : Written left rest log written) :
    Written (left + 1) chunk (⟨chunk, .wrote done rest haccounted⟩ :: log)
      written where
  count := Nat.succ_le_succ hwritten.count
  requests exchange hmem := by
    obtain rfl | htail := List.mem_cons.mp hmem
    · exact ⟨hchunk, List.Subperm.refl chunk⟩
    · obtain ⟨hne, hsub⟩ := hwritten.requests exchange htail
      have hrest : rest.Subperm chunk :=
        (List.sublist_append_right done rest).subperm.trans
          haccounted.subperm
      exact ⟨hne, hsub.trans hrest⟩
  conserved := by
    have hdone : processed (⟨chunk, .wrote done rest haccounted⟩ :: log) =
        done ++ processed log := rfl
    rw [hdone, List.append_assoc]
    exact (hwritten.conserved.append_left done).trans haccounted
  leftOver hrest := by
    obtain hlength | hfailed := hwritten.leftOver hrest
    · exact .inl (congrArg Nat.succ hlength)
    · exact .inr (someFailed_cons.mpr (.inr hfailed))
  failed := by
    rw [hwritten.failed, someFailed_cons]
    exact (or_iff_right Bool.false_ne_true).symm

theorem all_writeChunk (left : Nat) (chunk : List α) :
    Calls.All (Written left chunk) (writeChunk left chunk) := by
  induction left generalizing chunk with
  | zero =>
    cases chunk with
    | nil => exact .nothing (.inr rfl)
    | cons head rest => exact .nothing (.inr rfl)
  | succ left ih =>
    cases chunk with
    | nil => exact .nothing (.inl rfl)
    | cons head rest =>
      intro answer
      cases answer with
      | failed => exact .failing left (List.cons_ne_nil head rest)
      | wrote done unprocessed haccounted =>
        apply (ih unprocessed).mono
        intro log written hwritten
        exact hwritten.cons (List.cons_ne_nil head rest) haccounted

/-! ### All chunks -/

/-- What the loop over the chunks has done. -/
structure AllWritten (depth : Int) (chunks : List (List α)) (log : Log α)
    (results : List (List α × Option String)) : Prop where
  calls : ∃ writes : List (Log α × List α),
    log = (writes.map Prod.fst).flatten ∧
      results.map Prod.fst = writes.map Prod.snd ∧
      List.Forall₂ (CallsFor depth) chunks writes
  conserved :
    (processed log ++ (results.map Prod.fst).flatten).Perm chunks.flatten
  errors : (∃ result ∈ results, result.2.isSome = true) ↔ SomeFailed log

theorem processed_append (log log' : Log α) :
    processed (log ++ log') = processed log ++ processed log' :=
  List.flatMap_append

theorem AllWritten.cons {depth : Int} {chunk : List α}
    {chunks : List (List α)} {first rest : Log α} {written : List α × Bool}
    {results : List (List α × Option String)} (message : String)
    (hfirst : Written (depth + 1).toNat chunk first written)
    (hrest : AllWritten depth chunks rest results) :
    AllWritten depth (chunk :: chunks) (first ++ rest)
      ((written.1, if written.2 then some message else none) ::
        results) where
  calls := by
    obtain ⟨writes, rfl, hleft, hcalls⟩ := hrest.calls
    refine ⟨(first, written.1) :: writes, rfl, congrArg _ hleft, .cons ?_
      hcalls⟩
    exact ⟨hfirst.count, hfirst.requests, hfirst.conserved, hfirst.leftOver⟩
  conserved := by
    rw [processed_append, List.map_cons, List.flatten_cons, List.flatten_cons]
    calc processed first ++ processed rest ++
          (written.1 ++ (results.map Prod.fst).flatten)
        = processed first ++ (processed rest ++ written.1) ++
            (results.map Prod.fst).flatten := by
          simp only [List.append_assoc]
      List.Perm _ (processed first ++ (written.1 ++ processed rest) ++
            (results.map Prod.fst).flatten) :=
          (List.perm_append_comm.append_left _).append_right _
      _ = (processed first ++ written.1) ++
            (processed rest ++ (results.map Prod.fst).flatten) := by
          simp only [List.append_assoc]
      List.Perm _ (chunk ++ chunks.flatten) :=
          hfirst.conserved.append hrest.conserved
  errors := by
    rw [someFailed_append, ← hfirst.failed, ← hrest.errors]
    cases written.2 <;> simp

theorem all_writeChunks (depth : Int) (i : Nat) (chunks : List (List α)) :
    Calls.All (AllWritten depth chunks) (writeChunks depth i chunks) := by
  induction chunks generalizing i with
  | nil =>
    refine ⟨⟨[], rfl, rfl, .nil⟩, List.Perm.refl [], ?_⟩
    exact iff_of_false (by simp) not_someFailed_nil
  | cons chunk chunks ih =>
    apply (all_writeChunk (depth + 1).toNat chunk).bind
    intro first written hfirst
    apply (ih (i + 1)).bind
    intro rest results hrest
    rw [Calls.All, List.append_nil]
    exact hrest.cons (chunkError i) hfirst

theorem isSome_joinErrors (errors : List (Option String)) :
    (joinErrors errors).isSome = true ↔
      ∃ error ∈ errors, error.isSome = true := by
  rw [joinErrors]
  constructor
  · intro hsome
    split at hsome
    · cases hsome
    next hne =>
      obtain ⟨message, hmessage⟩ := List.exists_mem_of_ne_nil _ hne
      exact ⟨some message, List.reduceOption_mem_iff.mp hmessage, rfl⟩
  · rintro ⟨error, hmem, hsome⟩
    obtain ⟨message, rfl⟩ := Option.isSome_iff_exists.mp hsome
    rw [if_neg]
    · rfl
    · exact List.ne_nil_of_mem (List.reduceOption_mem_iff.mpr hmem)

theorem all_recursiveBatchWriteItem (lo : Chunking α) (reqsItems : List α)
    (depth : Int) :
    Calls.All (fun log result => Accounted lo reqsItems depth (log, result))
      (recursiveBatchWriteItem lo reqsItems depth) := by
  apply (all_writeChunks depth 0 (lo.chunk reqsItems 25)).bind
  intro log results hwritten
  rw [Calls.All, List.append_nil]
  have hconserved := hwritten.conserved
  rw [lo.flatten_chunk reqsItems 25 (by decide)] at hconserved
  obtain ⟨writes, hlog, hleft, hcalls⟩ := hwritten.calls
  refine ⟨lo.length_le reqsItems 25,
    ⟨writes, hlog, congrArg List.flatten hleft, hcalls⟩, hconserved, ?_, ?_⟩
  · rw [isSome_joinErrors, ← hwritten.errors]
    simp only [List.mem_map, exists_exists_and_eq_and]
  · intro hnothing
    rw [(Prod.mk.inj hnothing).1, List.append_nil] at hconserved
    exact hconserved

theorem exists_chunk_of_mem {depth : Int} {chunks : List (List α)}
    {writes : List (Log α × List α)}
    (hcalls : List.Forall₂ (CallsFor depth) chunks writes)
    {write : Log α × List α} (hwrite : write ∈ writes) :
    ∃ chunk ∈ chunks, CallsFor depth chunk write := by
  induction hcalls with
  | nil => cases hwrite
  | @cons chunk first chunks writes hfirst _ ih =>
    obtain rfl | hrest := List.mem_cons.mp hwrite
    · exact ⟨chunk, List.mem_cons_self, hfirst⟩
    · obtain ⟨found, hfound, hcallsFor⟩ := ih hrest
      exact ⟨found, List.mem_cons_of_mem chunk hfound, hcallsFor⟩

/-- Nothing is asked for that was not given. -/
theorem Accounted.mem_of_mem_request {lo : Chunking α} {reqsItems : List α}
    {depth : Int} {outcome : Log α × List α × Option String}
    (haccounted : Accounted lo reqsItems depth outcome)
    {exchange : Calls.Exchange (@Answer α)} (hmem : exchange ∈ outcome.1)
    {request : α} (hrequest : request ∈ exchange.1) : request ∈ reqsItems := by
  obtain ⟨writes, hlog, -, hcalls⟩ := haccounted.calls
  rw [hlog] at hmem
  obtain ⟨log, hwritten, hexchange⟩ := List.mem_flatten.mp hmem
  obtain ⟨write, hwrite, rfl⟩ := List.mem_map.mp hwritten
  obtain ⟨part, hpart, hcallsFor⟩ := exists_chunk_of_mem hcalls hwrite
  rw [← lo.flatten_chunk reqsItems 25 (by decide)]
  apply List.mem_flatten_of_mem hpart
  exact (hcallsFor.requests exchange hexchange).2.subset hrequest

/-- Against every service the program returns, and its outcome accounts for
every request. -/
theorem recursiveBatchWriteItem_accounted (lo : Chunking α)
    (service : Calls.Service (@Answer α)) (reqsItems : List α)
    (depth : Int) :
    Accounted lo reqsItems depth
      ((recursiveBatchWriteItem lo reqsItems depth).run service []) := by
  obtain ⟨log, hlog, haccounted⟩ :=
    (all_recursiveBatchWriteItem lo reqsItems depth).run service []
  rw [List.nil_append] at hlog
  rw [← hlog] at haccounted
  exact haccounted

/-! ### A run -/

theorem flatten_range_map_take (collection : List α) (size count : Nat) :
    ((List.range count).map fun i =>
      (collection.drop (i * size)).take size).flatten =
      collection.take (count * size) := by
  induction count with
  | zero => simp
  | succ count ih =>
    rw [List.range_succ, List.map_append, List.flatten_append, ih,
      Nat.succ_mul, List.take_add]
    simp

/-- Full parts, and one of what remains. -/
def fullParts : Chunking α where
  chunk collection size :=
    (List.range (collection.length / size +
        if collection.length % size ≠ 0 then 1 else 0)).map fun i =>
      (collection.drop (i * size)).take size
  flatten_chunk collection size hsize := by
    rw [flatten_range_map_take]
    apply List.take_of_length_le
    have hdiv := Nat.div_add_mod collection.length size
    have hmod := Nat.mod_lt collection.length hsize
    rw [Nat.add_mul, Nat.mul_comm]
    split
    · omega
    · omega
  length_le collection size part hpart := by
    obtain ⟨i, -, rfl⟩ := List.mem_map.mp hpart
    exact List.length_take_le _ _

/-- The first request of a call is processed, the others come back; a call
for one request fails. -/
def oneByOne : Calls.Service (@Answer Nat)
  | _, [] => .failed
  | _, [_] => .failed
  | _, first :: second :: rest => .wrote [first] (second :: rest) (.refl _)

/-- Of 27 requests the first chunk runs out of calls behind its third, and the
second one fails at its last request. -/
theorem recursiveBatchWriteItem_accounted_oneByOne :
    let outcome :=
      (recursiveBatchWriteItem fullParts (List.range 27) 2).run oneByOne []
    processed outcome.1 = [0, 1, 2, 25] ∧ outcome.1.length = 5 ∧
      outcome.2 = ((List.range 27).drop 3 |>.erase 25,
        some "BatchWriteItem fail at chunk [1]") ∧
      Accounted fullParts (List.range 27) 2 outcome :=
  ⟨by decide +kernel, by decide +kernel, by decide +kernel,
    recursiveBatchWriteItem_accounted fullParts oneByOne (List.range 27) 2⟩

end BatchWrite

end Pipewave
