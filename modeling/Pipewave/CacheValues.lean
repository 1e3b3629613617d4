/-
Numbers in the cache.  A number that is set by value is stored as its decimal
text and read back as such; anything but numbers, texts and bytes is stored as
msgpack, a pointer to a number included, which is what `CacheThis` sets.
-/
import Pipewave.Decimal
import Pipewave.Transition

namespace Pipewave

namespace Cache

open Transition
open Decimal

/-- `int` and `uint` have 64 bits. -/
inductive IntType where
  | int | int8 | int16 | int32 | int64
  | uint | uint8 | uint16 | uint32 | uint64
deriving Repr, DecidableEq

def IntType.bits : IntType → Nat
  | .int | .int64 | .uint | .uint64 => 64
  | .int8 | .uint8 => 8
  | .int16 | .uint16 => 16
  | .int32 | .uint32 => 32

def IntType.signed : IntType → Bool
  | .int | .int8 | .int16 | .int32 | .int64 => true
  | .uint | .uint8 | .uint16 | .uint32 | .uint64 => false

/-- The number is one of the type. -/
def IntType.Holds (t : IntType) (n : Int) : Prop :=
  if t.signed = true then -2 ^ (t.bits - 1) ≤ n ∧ n < 2 ^ (t.bits - 1)
  else 0 ≤ n ∧ n < 2 ^ t.bits

instance (t : IntType) (n : Int) : Decidable (t.Holds n) := by
  unfold IntType.Holds
  infer_instance

def convertNumberToStr (t : IntType) (n : Int) : Bytes :=
  if t.signed = true then formatInt n else formatUint n.toNat

/-- `strconv.ParseInt` or `strconv.ParseUint` with the bits of the type. -/
def convertStrToNumber (t : IntType) (s : Bytes) : Option Int :=
  if t.signed = true then
    (parseInt s).bind fun i => if t.Holds i then some i else none
  else (parseUint s).bind fun n =>
    if t.Holds (n : Int) then some (n : Int) else none

/-- What `Set` is given.  Strings, bytes and what encodes itself are stored as
they are; `packed` is any other value, with what msgpack makes of it. -/
inductive Value where
  | number (t : IntType) (n : Int)
  | text (s : Bytes)
  | nil
  | packed (bytes : Option Bytes)
deriving Repr, DecidableEq

/-- What `Set` stores, if it does. -/
def Value.stored : Value → Option Bytes
  | .number t n => some (convertNumberToStr t n)
  | .text s => some s
  | .nil => some []
  | .packed bytes => bytes

/-- What `msgpack.Marshal` makes of a pointer to a number.  The format has one
byte for the numbers up to 127; every other integer begins with a byte that
says what follows, or is a negative number in one byte. -/
structure IntPacking where
  marshal : IntType → Int → Bytes
  format : ∀ t n, t.Holds n →
    (0 ≤ n ∧ n ≤ 127 ∧ marshal t n = [UInt8.ofNat n.toNat]) ∨
      ∃ first rest, marshal t n = first :: rest ∧ 0x80 ≤ first

/-- `&n`, which is none of the number types. -/
def pointerTo (packing : IntPacking) (t : IntType) (n : Int) : Value :=
  .packed (some (packing.marshal t n))

/-! ### Numbers by value -/

variable {t : IntType} {n : Int} {first : UInt8} {rest : Bytes}

theorem IntType.Holds.bounds (hn : t.Holds n) :
    -2 ^ 63 ≤ n ∧ n < 2 ^ 64 ∧ (t.signed = true → n < 2 ^ 63) ∧
      (t.signed = false → 0 ≤ n) := by
  cases t <;> simp [Holds, signed, bits] at hn ⊢ <;> omega

theorem convertNumberToStr_eq (hn : t.Holds n) :
    convertNumberToStr t n = formatInt n := by
  rw [convertNumberToStr]
  split
  · rfl
  next hsigned =>
    have hpos := hn.bounds.2.2.2 (Bool.not_eq_true _ ▸ hsigned)
    rw [formatInt, if_neg (by omega)]
    congr 1
    omega

theorem parseUint_formatInt_of_neg (hn : n < 0) :
    parseUint (formatInt n) = none := by
  rw [formatInt, if_pos hn, parseUint, if_neg (List.cons_ne_nil _ _)]
  rfl

/-- A number is read back as itself where the type has room for it, and as
nothing else. -/
theorem convertStrToNumber_convertNumberToStr (t t' : IntType) {n : Int}
    (hn : t.Holds n) :
    convertStrToNumber t' (convertNumberToStr t n) =
      if t'.Holds n then some n else none := by
  obtain ⟨hlow, hhigh, -, -⟩ := hn.bounds
  rw [convertNumberToStr_eq hn, convertStrToNumber]
  split
  next hsigned =>
    by_cases hint : n < 2 ^ 63
    · rw [parseInt_formatInt hlow hint]
      rfl
    · -- a `uint64` beyond `int64`
      have hwide : ¬ t'.Holds n :=
        fun hholds => hint (hholds.bounds.2.2.1 hsigned)
      have hread : parseInt (formatInt n) = none := by
        rw [formatInt, if_neg (by omega), parseInt_formatUint, int64,
          if_neg (by omega)]
      rw [hread, if_neg hwide]
      rfl
  next hsigned =>
    by_cases hneg : n < 0
    · have hwide : ¬ t'.Holds n := by
        intro hholds
        have hpos := hholds.bounds.2.2.2 (Bool.not_eq_true _ ▸ hsigned)
        omega
      rw [parseUint_formatInt_of_neg hneg, if_neg hwide]
      rfl
    · rw [formatInt, if_neg hneg, parseUint_formatUint, Option.bind_some,
        show ((n.natAbs : Nat) : Int) = n by omega]

theorem convertStrToNumber_convertNumberToStr_uint64 :
    convertStrToNumber .int64 (convertNumberToStr .uint64 (2 ^ 64 - 1)) =
        none ∧
      convertStrToNumber .uint8 (convertNumberToStr .int (-3)) = none ∧
      convertStrToNumber .int8 (convertNumberToStr .uint64 127) =
        some 127 := by
  refine ⟨?_, ?_, ?_⟩
  · exact (convertStrToNumber_convertNumberToStr .uint64 .int64
      (by decide)).trans (by decide)
  · exact (convertStrToNumber_convertNumberToStr .int .uint8
      (by decide)).trans (by decide)
  · exact (convertStrToNumber_convertNumberToStr .uint64 .int8
      (by decide)).trans (by decide)

/-! ### Numbers behind a pointer -/

theorem parseUint_eq_none (hfirst : 0x80 ≤ first) :
    parseUint (first :: rest) = none := by
  have hdigit : digitValue first = none := by
    rw [digitValue, if_neg]
    rintro ⟨-, hle⟩
    exact absurd (UInt8.le_trans hfirst hle) (by decide)
  rw [parseUint, if_neg (List.cons_ne_nil _ _), parseDigits, hdigit]
  rfl

theorem parseInt_eq_none (hfirst : 0x80 ≤ first) :
    parseInt (first :: rest) = none := by
  have hplus : first ≠ 0x2B := by
    rintro rfl
    exact absurd hfirst (by decide)
  have hminus : first ≠ 0x2D := by
    rintro rfl
    exact absurd hfirst (by decide)
  rw [parseInt, if_neg hplus, if_neg hminus, parseUint_eq_none hfirst]
  rfl

theorem convertStrToNumber_wide (t : IntType) (hfirst : 0x80 ≤ first) :
    convertStrToNumber t (first :: rest) = none := by
  rw [convertStrToNumber, parseInt_eq_none hfirst, parseUint_eq_none hfirst]
  split <;> rfl

theorem convertStrToNumber_short (t : IntType) : ∀ n < 128,
    convertStrToNumber t [UInt8.ofNat n] =
      if 48 ≤ n ∧ n ≤ 57 then some ((n : Int) - 48) else none := by
  cases t <;> decide +kernel

/-- The packed numbers from 48 to 57 may be the digits, and no other packed
number is a decimal number. -/
theorem convertStrToNumber_marshal (packing : IntPacking) {value : Int}
    (hn : t.Holds n)
    (hread : convertStrToNumber t (packing.marshal t n) = some value) :
    48 ≤ n ∧ n ≤ 57 ∧ value = n - 48 := by
  rcases packing.format t n hn with ⟨hlow, hhigh, hshort⟩ |
    ⟨first, rest, hwide, hfirst⟩
  · obtain ⟨m, rfl⟩ := Int.eq_ofNat_of_zero_le hlow
    have hdigit := convertStrToNumber_short t m (by omega)
    rw [hshort, Int.toNat_natCast, hdigit] at hread
    split at hread
    · cases hread
      omega
    · cases hread
  · rw [hwide, convertStrToNumber_wide t hfirst] at hread
    cases hread

/-! ### `CacheThis` for numbers -/

def second : Int := 1000000000

/-- When what `valkeyAdapter.Set` stores expires, if the server takes the
command: a positive lifetime is sent in whole seconds, and `EX 0` is an
error.  Times are in nanoseconds. -/
def expiry (ttl now : Int) : Option (Option Int) :=
  if ttl ≤ 0 then some none
  else if ttl < second then none
  else some (some (now + ttl / second * second))

/-- What a `SET` on the key has left. -/
structure Entry where
  value : Bytes
  expireAt : Option Int
deriving Repr, DecidableEq

def Entry.Live (entry : Entry) (now : Int) : Prop :=
  ∀ at_ ∈ entry.expireAt, now < at_

instance (entry : Entry) (now : Int) : Decidable (entry.Live now) :=
  inferInstanceAs (Decidable (∀ at_ ∈ entry.expireAt, now < at_))

/-- What a call returns, `none` for an error, and what its `fetchFn` returned
if it was called. -/
structure Answer where
  result : Option Int
  fetched : Option (Option Int) := none
deriving Repr, DecidableEq

/-- Where a call of `CacheThis` is.  Every call has a flight group of its own,
so none waits for another. -/
inductive Call where
  | getting
  | fetching
  | setting (fresh : Int)
  | returned (answer : Answer)
deriving Repr, DecidableEq

/-- `written` has the executed `SET`s of the key, `fetched` what the calls of
`fetchFn` returned; no step reads the latter. -/
structure State where
  now : Int := 0
  written : List Entry := []
  calls : List Call := []
  fetched : List Int := []
deriving Repr, DecidableEq

inductive Label where
  | tick (now : Int)
  | call
  /-- The replica answers with the value of one of the `SET`s, or with none;
  so does a client that gets no answer. -/
  | get (c : Nat) (found : Option Nat)
  | fetch (c : Nat) (result : Option Int)
  /-- Whether the primary executes the command; a failure is logged. -/
  | set (c : Nat) (executed : Bool)
deriving Repr, DecidableEq

/-- `Get` into a number of the type. -/
def State.get (s : State) (t : IntType) (found : Option Nat) : Option Int :=
  match found.bind (s.written[·]?) with
  | none => none
  | some entry =>
    if entry.Live s.now then convertStrToNumber t entry.value else none

/-- `Set` of a value, where the server executes what it is sent. -/
def State.set (s : State) (value : Value) (ttl : Int) : State :=
  match value.stored, expiry ttl s.now with
  | some value, some expireAt =>
    { s with written := s.written ++ [⟨value, expireAt⟩] }
  | _, _ => s

def State.setCall (s : State) (c : Nat) (call : Call) : State :=
  { s with calls := s.calls.set c call }

/-- `cacheThis.do` for numbers of the type, over any number of calls. -/
def step (packing : IntPacking) (t : IntType) (ttl : Int) (s : State) :
    Label → Option State
  | .tick now => if s.now ≤ now then some { s with now } else none
  | .call => some { s with calls := s.calls ++ [.getting] }
  | .get c found =>
    match s.calls[c]? with
    | some .getting => some (s.setCall c (match s.get t found with
        | some value => .returned { result := some value }
        | none => .fetching))
    | _ => none
  | .fetch c result =>
    match s.calls[c]?, result with
    | some .fetching, none =>
      some (s.setCall c (.returned ⟨none, some none⟩))
    | some .fetching, some fresh =>
      if t.Holds fresh then
        some { s.setCall c (.setting fresh) with
          fetched := s.fetched ++ [fresh] }
      else none
    | _, _ => none
  | .set c executed =>
    match s.calls[c]? with
    | some (.setting fresh) =>
      let stored := if executed then s.set (pointerTo packing t fresh) ttl
        else s
      some (stored.setCall c (.returned ⟨some fresh, some (some fresh)⟩))
    | _ => none

/-- The call has fetched what it returns, or it returns a digit for one of the
numbers from 48 to 57 fetched by others. -/
def Answer.Expected (fetched : List Int) (answer : Answer) : Prop :=
  answer.fetched = some answer.result ∨
    answer.fetched = none ∧ ∃ n ∈ fetched, 48 ≤ n ∧ n ≤ 57 ∧
      answer.result = some (n - 48)

/-- What is stored, and what is about to be, was fetched. -/
structure Inv (packing : IntPacking) (t : IntType) (s : State) : Prop where
  written : ∀ entry ∈ s.written, ∃ n ∈ s.fetched, t.Holds n ∧
    entry.value = packing.marshal t n
  setting : ∀ fresh, .setting fresh ∈ s.calls →
    fresh ∈ s.fetched ∧ t.Holds fresh
  returned : ∀ answer, .returned answer ∈ s.calls → answer.Expected s.fetched

section Runs

variable {packing : IntPacking} {t : IntType} {ttl : Int} {s next : State}

theorem Answer.Expected.mono {answer : Answer} {fetched more : List Int}
    (hexpected : answer.Expected fetched) (hsub : fetched ⊆ more) :
    answer.Expected more := by
  rcases hexpected with hown | ⟨hnone, n, hn, hdigit⟩
  · exact .inl hown
  · exact .inr ⟨hnone, n, hsub hn, hdigit⟩

/-- A call may go on to where it is about to set what was fetched, or to an
expected answer. -/
theorem Inv.setCall (hinv : Inv packing t s) (c : Nat) {call : Call}
    (hsetting : ∀ fresh, call = .setting fresh →
      fresh ∈ s.fetched ∧ t.Holds fresh)
    (hreturned : ∀ answer, call = .returned answer →
      answer.Expected s.fetched) :
    Inv packing t (s.setCall c call) := by
  refine ⟨hinv.written, ?_, ?_⟩
  · intro fresh hmem
    rcases List.mem_or_eq_of_mem_set hmem with hold | hnew
    · exact hinv.setting fresh hold
    · exact hsetting fresh hnew.symm
  · intro answer hmem
    rcases List.mem_or_eq_of_mem_set hmem with hold | hnew
    · exact hinv.returned answer hold
    · exact hreturned answer hnew.symm

theorem Inv.setReturned (hinv : Inv packing t s) (c : Nat) {answer : Answer}
    (hexpected : answer.Expected s.fetched) :
    Inv packing t (s.setCall c (.returned answer)) := by
  refine hinv.setCall c (fun _ => Call.noConfusion) ?_
  rintro _ ⟨⟩
  exact hexpected

theorem Inv.fetch (hinv : Inv packing t s) (fresh : Int) :
    Inv packing t { s with fetched := s.fetched ++ [fresh] } := by
  have hsub : s.fetched ⊆ s.fetched ++ [fresh] := List.subset_append_left _ _
  refine ⟨?_, ?_, ?_⟩
  · intro entry hentry
    obtain ⟨n, hn, hvalue⟩ := hinv.written entry hentry
    exact ⟨n, hsub hn, hvalue⟩
  · intro other hmem
    obtain ⟨hfetched, hholds⟩ := hinv.setting other hmem
    exact ⟨hsub hfetched, hholds⟩
  · intro answer hmem
    exact (hinv.returned answer hmem).mono hsub

theorem Inv.set (hinv : Inv packing t s) {fresh : Int}
    (hfetched : fresh ∈ s.fetched) (hholds : t.Holds fresh) :
    Inv packing t (s.set (pointerTo packing t fresh) ttl) := by
  rw [State.set]
  split
  next value expireAt hstored _ =>
    cases hstored
    refine ⟨?_, hinv.setting, hinv.returned⟩
    intro entry hentry
    rcases List.mem_append.mp hentry with hold | hnew
    · exact hinv.written entry hold
    · cases List.mem_singleton.mp hnew
      exact ⟨fresh, hfetched, hholds, rfl⟩
  next => exact hinv

/-- A value that is found is a digit for a stored number. -/
theorem Inv.get (hinv : Inv packing t s) {found : Option Nat} {value : Int}
    (hget : s.get t found = some value) :
    ∃ n ∈ s.fetched, 48 ≤ n ∧ n ≤ 57 ∧ value = n - 48 := by
  rw [State.get] at hget
  split at hget
  · cases hget
  next entry hentry =>
    obtain ⟨k, -, hwritten⟩ := Option.bind_eq_some_iff.mp hentry
    obtain ⟨n, hn, hholds, hvalue⟩ :=
      hinv.written entry (List.mem_of_getElem? hwritten)
    split at hget
    · rw [hvalue] at hget
      exact ⟨n, hn, convertStrToNumber_marshal packing hholds hget⟩
    · cases hget

theorem inv_step {label : Label} (hinv : Inv packing t s)
    (hstep : step packing t ttl s label = some next) :
    Inv packing t next := by
  cases label with
  | tick now =>
    simp only [step, Option.ite_none_right_eq_some, Option.some.injEq]
      at hstep
    obtain ⟨-, rfl⟩ := hstep
    exact ⟨hinv.written, hinv.setting, hinv.returned⟩
  | call =>
    cases hstep
    refine ⟨hinv.written, ?_, ?_⟩
    · intro fresh hmem
      exact hinv.setting fresh (by simpa using hmem)
    · intro answer hmem
      exact hinv.returned answer (by simpa using hmem)
  | get c found =>
    simp only [step] at hstep
    split at hstep
    next =>
      cases hstep
      split
      next value hget =>
        obtain ⟨n, hn, hlow, hhigh, rfl⟩ := hinv.get hget
        exact hinv.setReturned c (.inr ⟨rfl, n, hn, hlow, hhigh, rfl⟩)
      next =>
        exact hinv.setCall c (fun _ => Call.noConfusion)
          fun _ => Call.noConfusion
    next => cases hstep
  | fetch c result =>
    simp only [step] at hstep
    split at hstep
    · cases hstep
      exact hinv.setReturned c (.inl rfl)
    next fresh _ =>
      split at hstep
      next hholds =>
        cases hstep
        refine (hinv.fetch fresh).setCall c ?_ fun _ => Call.noConfusion
        rintro other ⟨⟩
        exact ⟨List.mem_append_right _ List.mem_cons_self, hholds⟩
      next => cases hstep
    · cases hstep
  | set c executed =>
    simp only [step] at hstep
    split at hstep
    next fresh hcall =>
      cases hstep
      obtain ⟨hfetched, hholds⟩ :=
        hinv.setting fresh (List.mem_of_getElem? hcall)
      split
      · exact (hinv.set hfetched hholds).setReturned c (.inl rfl)
      · exact hinv.setReturned c (.inl rfl)
    next => cases hstep

end Runs

/-- However calls of `CacheThis` interleave, and whatever reads and writes
fail or come late, a call returns what it fetched or a digit for one of the
cached numbers from 48 to 57; the cached number itself it never returns. -/
theorem cacheThis_answers (packing : IntPacking) (t : IntType) (ttl : Int)
    {s : State}
    (hreach : Reach (step packing t ttl) Unguarded {} s)
    {c : Nat} {answer : Answer}
    (hreturned : s.calls[c]? = some (.returned answer)) :
    answer.Expected s.fetched := by
  have hinv : Inv packing t s := hreach.invariant _
    ⟨by simp, by simp, by simp⟩ fun _ _ _ hinv _ hstep => inv_step hinv hstep
  exact hinv.returned answer (List.mem_of_getElem? hreturned)

/-- One byte where that is possible, and nine otherwise. -/
def oneOrNine : IntPacking where
  marshal := fun _ n =>
    if 0 ≤ n ∧ n ≤ 127 then [UInt8.ofNat n.toNat]
    else 0xD3 :: putLen 8 (n % 2 ^ 64).toNat
  format := by
    intro t n _
    by_cases hshort : 0 ≤ n ∧ n ≤ 127
    · exact .inl ⟨hshort.1, hshort.2, if_pos hshort⟩
    · exact .inr ⟨_, _, if_neg hshort, by decide⟩

/-- Fifty-three is read back as five; a second call that reads too early, and
one whose value has expired, fetch again. -/
def readBack : List Label :=
  [.call, .call, .get 0 none, .get 1 none, .fetch 0 (some 53), .set 0 true,
    .fetch 1 (some 200), .set 1 false, .call, .get 2 (some 0),
    .tick 5000000000, .call, .get 3 (some 0), .fetch 3 none]

theorem cacheThis_answers_readBack :
    let s := final (step oneOrNine .int 5000000000) {} readBack
    s.calls[2]? = some (.returned ⟨some 5, none⟩) ∧
      s.calls[3]? = some (.returned ⟨none, some none⟩) ∧
      Answer.Expected s.fetched ⟨some 5, none⟩ := by
  intro s
  have hread : s.calls[2]? = some (.returned ⟨some 5, none⟩) := by
    decide +kernel
  exact ⟨hread, by decide +kernel, cacheThis_answers oneOrNine .int 5000000000
    (reach_final (by decide +kernel) (by decide +kernel)) hread⟩

end Cache

end Pipewave
