/-
Stores whose entries expire, and which hand an entry out once.  Every `put`
has a serial number; an entry remembers the number of the `put` it is from,
so whatever is handed out can be traced back to one of them.
-/
import Mathlib.Data.List.Nodup
import Pipewave.GoMap

namespace Pipewave

universe u v w

/-- What a `put` was given, `tag` apart, which the store does not keep. -/
structure ExpiringPut (κ : Type u) (ν : Type v) (τ : Type w) where
  key : κ
  value : ν
  tag : τ
  at_ : Int
  ttl : Int
deriving Repr, DecidableEq

structure ExpiringEntry (ν : Type v) where
  value : ν
  expireAt : Int
  serial : Nat
deriving Repr, DecidableEq

/-- `puts` and `taken`, the serial numbers of the entries handed out, are
records only. -/
structure ExpiringStore (κ : Type u) (ν : Type v) (τ : Type w) where
  now : Int := 0
  entries : GoMap κ (ExpiringEntry ν) := ∅
  puts : List (ExpiringPut κ ν τ) := []
  taken : List Nat := []

namespace ExpiringStore

variable {κ : Type u} {ν : Type v} {τ : Type w} [DecidableEq κ]
  (s : ExpiringStore κ ν τ)

def put (key : κ) (value : ν) (ttl : Int) (tag : τ) : ExpiringStore κ ν τ :=
  { s with
    entries := s.entries.insert key ⟨value, s.now + ttl, s.puts.length⟩
    puts := s.puts ++ [⟨key, value, tag, s.now, ttl⟩] }

/-- What is found under a key. -/
def get (key : κ) : Option (ExpiringEntry ν) :=
  (s.entries.lookup key).filter fun entry => s.now < entry.expireAt

def delete (key : κ) : ExpiringStore κ ν τ :=
  { s with entries := s.entries.erase key }

/-- Read and delete in one step. -/
def take (key : κ) : Option (ExpiringEntry ν) × ExpiringStore κ ν τ :=
  match s.get key with
  | none => (none, s.delete key)
  | some entry => (some entry,
      { s.delete key with taken := s.taken ++ [entry.serial] })

/-- The entry is the one the `put` left. -/
structure IsFrom (key : κ) (entry : ExpiringEntry ν)
    (put : ExpiringPut κ ν τ) : Prop where
  key : put.key = key
  value : put.value = entry.value
  expireAt : put.at_ + put.ttl = entry.expireAt

structure Sound : Prop where
  past : ∀ put ∈ s.puts, put.at_ ≤ s.now
  entry : ∀ key entry, s.entries.lookup key = some entry →
    ∃ put, s.puts[entry.serial]? = some put ∧ IsFrom key entry put
  fresh : ∀ key entry, s.entries.lookup key = some entry →
    entry.serial ∉ s.taken
  below : ∀ n ∈ s.taken, n < s.puts.length
  nodup : s.taken.Nodup

variable {s}

theorem get_eq_some_iff {key : κ} {entry : ExpiringEntry ν} :
    s.get key = some entry ↔
      s.entries.lookup key = some entry ∧ s.now < entry.expireAt := by
  rw [get, Option.filter_eq_some_iff, decide_eq_true_iff]

@[simp] theorem take_puts (key : κ) : (s.take key).2.puts = s.puts := by
  rw [take]
  split <;> rfl

/-! ### One `put`, one `take` -/

theorem sound_empty (now : Int) :
    Sound ({ now } : ExpiringStore κ ν τ) := by
  refine ⟨by simp, ?_, ?_, by simp, List.nodup_nil⟩
  all_goals
    intro key entry hlookup
    cases hlookup

theorem Sound.advance (hsound : s.Sound) {now : Int} (hnow : s.now ≤ now) :
    Sound { s with now } :=
  { hsound with
    past := fun put hput => Int.le_trans (hsound.past put hput) hnow }

theorem Sound.delete (hsound : s.Sound) (key : κ) : (s.delete key).Sound :=
  { hsound with
    entry := fun _ _ hlookup =>
      hsound.entry _ _ (GoMap.lookup_erase_some hlookup).2
    fresh := fun _ _ hlookup =>
      hsound.fresh _ _ (GoMap.lookup_erase_some hlookup).2 }

theorem Sound.serial_lt (hsound : s.Sound) {key : κ}
    {entry : ExpiringEntry ν} (hlookup : s.entries.lookup key = some entry) :
    entry.serial < s.puts.length := by
  obtain ⟨put, hput, -⟩ := hsound.entry key entry hlookup
  exact (List.getElem?_eq_some_iff.mp hput).1

/-- Entries under different keys are from different `put`s. -/
theorem Sound.serial_ne (hsound : s.Sound) {key other : κ}
    {entry entry' : ExpiringEntry ν}
    (hlookup : s.entries.lookup key = some entry)
    (hother : s.entries.lookup other = some entry') (hne : other ≠ key) :
    entry'.serial ≠ entry.serial := by
  intro hserial
  obtain ⟨put, hput, hfrom⟩ := hsound.entry key entry hlookup
  obtain ⟨put', hput', hfrom'⟩ := hsound.entry other entry' hother
  rw [hserial, hput] at hput'
  cases hput'
  exact hne (hfrom'.key.symm.trans hfrom.key)

theorem Sound.put (hsound : s.Sound) (key : κ) (value : ν) (ttl : Int)
    (tag : τ) : (s.put key value ttl tag).Sound := by
  constructor
  case past =>
    intro put hput
    rcases List.mem_append.mp hput with hold | hnew
    · exact hsound.past put hold
    · cases List.mem_singleton.mp hnew
      exact Int.le_refl _
  case entry =>
    intro other entry hlookup
    rcases GoMap.lookup_insert_some hlookup with ⟨rfl, rfl⟩ | ⟨-, hold⟩
    · exact ⟨_, List.getElem?_concat_length, rfl, rfl, rfl⟩
    · obtain ⟨put, hput, hfrom⟩ := hsound.entry other entry hold
      refine ⟨put, ?_, hfrom⟩
      exact (List.getElem?_append_left (hsound.serial_lt hold)).trans hput
  case fresh =>
    intro other entry hlookup hmem
    rcases GoMap.lookup_insert_some hlookup with ⟨rfl, rfl⟩ | ⟨-, hold⟩
    · exact absurd (hsound.below _ hmem) (Nat.lt_irrefl _)
    · exact hsound.fresh other entry hold hmem
  case below =>
    intro n hn
    have hlt := hsound.below n hn
    rw [ExpiringStore.put, List.length_append]
    exact Nat.lt_add_right _ hlt
  case nodup => exact hsound.nodup

theorem Sound.take (hsound : s.Sound) (key : κ) : (s.take key).2.Sound := by
  rw [ExpiringStore.take]
  split
  · exact hsound.delete key
  next entry hget =>
    have hlookup := (get_eq_some_iff.mp hget).1
    have hfresh := hsound.fresh key entry hlookup
    refine { hsound.delete key with fresh := ?_, below := ?_, nodup := ?_ }
    · intro other entry' hother hmem
      obtain ⟨hne, hold⟩ := GoMap.lookup_erase_some hother
      rcases List.mem_append.mp hmem with hbefore | hnow
      · exact hsound.fresh other entry' hold hbefore
      · exact hsound.serial_ne hlookup hold hne (List.mem_singleton.mp hnow)
    · intro n hn
      rcases List.mem_append.mp hn with hbefore | hnow
      · exact hsound.below n hbefore
      · rw [List.mem_singleton.mp hnow]
        exact hsound.serial_lt hlookup
    · exact List.nodup_append.mpr ⟨hsound.nodup, List.nodup_singleton _,
        fun n hn m hm hnm => hfresh (List.mem_singleton.mp hm ▸ hnm ▸ hn)⟩

/-- What is found is the value of one `put`, within its time. -/
theorem Sound.get (hsound : s.Sound) {key : κ} {entry : ExpiringEntry ν}
    (hget : s.get key = some entry) :
    ∃ put, s.puts[entry.serial]? = some put ∧ put.key = key ∧
      put.value = entry.value ∧ put.at_ ≤ s.now ∧
      s.now < put.at_ + put.ttl := by
  obtain ⟨hlookup, hnow⟩ := get_eq_some_iff.mp hget
  obtain ⟨put, hput, hfrom⟩ := hsound.entry key entry hlookup
  refine ⟨put, hput, hfrom.key, hfrom.value,
    hsound.past put (List.mem_of_getElem? hput), ?_⟩
  rw [hfrom.expireAt]
  exact hnow

/-! ### How long a value stays -/

/-- The value is found under the key before `expireAt`. -/
def Keeps (s : ExpiringStore κ ν τ) (key : κ) (value : ν) (expireAt : Int) :
    Prop :=
  ∃ entry, s.entries.lookup key = some entry ∧ entry.value = value ∧
    entry.expireAt = expireAt

section Keeps

variable {key other : κ} {value : ν} {expireAt : Int}

theorem keeps_put_self (key : κ) (value : ν) (ttl : Int) (tag : τ) :
    (s.put key value ttl tag).Keeps key value (s.now + ttl) :=
  ⟨_, AList.lookup_insert _, rfl, rfl⟩

theorem Keeps.put (hkeeps : s.Keeps key value expireAt) (hne : other ≠ key)
    (value' : ν) (ttl : Int) (tag : τ) :
    (s.put other value' ttl tag).Keeps key value expireAt := by
  obtain ⟨entry, hlookup, hentry⟩ := hkeeps
  exact ⟨entry, (AList.lookup_insert_ne hne.symm).trans hlookup, hentry⟩

theorem Keeps.delete (hkeeps : s.Keeps key value expireAt)
    (hne : other ≠ key) : (s.delete other).Keeps key value expireAt := by
  obtain ⟨entry, hlookup, hentry⟩ := hkeeps
  exact ⟨entry, (AList.lookup_erase_ne hne.symm).trans hlookup, hentry⟩

theorem Keeps.take (hkeeps : s.Keeps key value expireAt)
    (hne : other ≠ key) : (s.take other).2.Keeps key value expireAt := by
  rw [ExpiringStore.take]
  split
  · exact hkeeps.delete hne
  · exact hkeeps.delete hne

theorem Keeps.get (hkeeps : s.Keeps key value expireAt)
    (hnow : s.now < expireAt) :
    ∃ entry, s.get key = some entry ∧ entry.value = value := by
  obtain ⟨entry, hlookup, hvalue, rfl⟩ := hkeeps
  exact ⟨entry, get_eq_some_iff.mpr ⟨hlookup, hnow⟩, hvalue⟩

end Keeps

end ExpiringStore

end Pipewave
