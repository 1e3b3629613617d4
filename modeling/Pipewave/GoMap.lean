/-
Finite maps, and the two-level maps in which an inner map is dropped with its
last key.  Deleting a missing key leaves either map as it is.
-/
import Mathlib.Algebra.BigOperators.Group.List.Basic
import Mathlib.Algebra.GroupWithZero.Nat
import Mathlib.Data.List.AList

namespace Pipewave

universe u v w

/-- A finite map with decidable keys. -/
abbrev GoMap (κ : Type u) (ν : Type v) := AList fun _ : κ => ν

/-- A map of maps. -/
abbrev NestedMap (κ : Type u) (ι : Type v) (ν : Type w) :=
  GoMap κ (GoMap ι ν)

namespace GoMap

variable {κ : Type u} [DecidableEq κ]

theorem lookup_insert_some {ν : Type v} {map : GoMap κ ν} {key other : κ}
    {value found : ν}
    (hlookup : (map.insert key value).lookup other = some found) :
    (other = key ∧ value = found) ∨
      (other ≠ key ∧ map.lookup other = some found) := by
  by_cases hsame : other = key
  · rw [hsame, AList.lookup_insert] at hlookup
    exact .inl ⟨hsame, Option.some.inj hlookup⟩
  · rw [AList.lookup_insert_ne hsame] at hlookup
    exact .inr ⟨hsame, hlookup⟩

theorem lookup_erase_some {ν : Type v} {map : GoMap κ ν} {key other : κ}
    {found : ν} (hlookup : (map.erase key).lookup other = some found) :
    other ≠ key ∧ map.lookup other = some found := by
  by_cases hsame : other = key
  · rw [hsame, AList.lookup_erase] at hlookup
    cases hlookup
  · rw [AList.lookup_erase_ne hsame] at hlookup
    exact ⟨hsame, hlookup⟩

theorem lookup_insert_congr {ν : Type v} {a b : GoMap κ ν} {key : κ}
    (hlookup : a.lookup key = b.lookup key) (key' : κ) (value : ν) :
    (a.insert key' value).lookup key = (b.insert key' value).lookup key := by
  by_cases hkey : key = key'
  · rw [hkey, AList.lookup_insert, AList.lookup_insert]
  · rw [AList.lookup_insert_ne hkey, AList.lookup_insert_ne hkey, hlookup]

theorem lookup_erase_congr {ν : Type v} {a b : GoMap κ ν} {key : κ}
    (hlookup : a.lookup key = b.lookup key) (key' : κ) :
    (a.erase key').lookup key = (b.erase key').lookup key := by
  by_cases hkey : key = key'
  · rw [hkey, AList.lookup_erase, AList.lookup_erase]
  · rw [AList.lookup_erase_ne hkey, AList.lookup_erase_ne hkey, hlookup]

theorem length_keys_insert {ν : Type v} (map : GoMap κ ν) (key : κ)
    (value : ν) : (map.insert key value).keys.length =
      if key ∈ map then map.keys.length else map.keys.length + 1 := by
  rw [AList.keys_insert, List.length_cons]
  split
  next hmem =>
    rw [List.length_erase_of_mem (AList.mem_keys.mp hmem)]
    have hpos := List.length_pos_of_mem (AList.mem_keys.mp hmem)
    omega
  next hmem =>
    rw [List.erase_of_not_mem fun h => hmem (AList.mem_keys.mpr h)]

/-- Inserts in a loop that give the key one value only. -/
theorem lookup_foldl_insert {ν : Type v} {α : Type w} {k : α → κ} {v : α → ν}
    {key : κ} {value : ν} {items : List α}
    (hvalue : ∀ item ∈ items, k item = key → v item = value)
    (map : GoMap κ ν) :
    (items.foldl (fun map item => map.insert (k item) (v item)) map).lookup
        key =
      if key ∈ items.map k then some value else map.lookup key := by
  induction items generalizing map with
  | nil => simp
  | cons item rest ih =>
    have hrest : ∀ other ∈ rest, k other = key → v other = value :=
      fun other hother => hvalue other (List.mem_cons_of_mem item hother)
    rw [List.foldl_cons, ih hrest, List.map_cons]
    by_cases hlater : key ∈ rest.map k
    · rw [if_pos hlater, if_pos (List.mem_cons_of_mem _ hlater)]
    · rw [if_neg hlater]
      by_cases hkey : k item = key
      · rw [if_pos (List.mem_cons.mpr (.inl hkey.symm)), ← hkey,
          AList.lookup_insert, hvalue item List.mem_cons_self hkey]
      · rw [AList.lookup_insert_ne (Ne.symm hkey), if_neg]
        intro hmem
        obtain hsame | hrest := List.mem_cons.mp hmem
        · exact hkey hsame.symm
        · exact hlater hrest

theorem mem_foldl_insert {ν : Type v} {keys : List κ} {value : ν}
    {map : GoMap κ ν} {other : κ} :
    other ∈ keys.foldl (fun map key => map.insert key value) map ↔
      other ∈ keys ∨ other ∈ map := by
  induction keys generalizing map with
  | nil => simp
  | cons key rest ih =>
    rw [List.foldl_cons, ih, AList.mem_insert, List.mem_cons]
    tauto

theorem lookup_foldl_erase_some {ν : Type v} {keys : List κ}
    {map : GoMap κ ν} {other : κ} {found : ν}
    (hlookup : (keys.foldl (fun map key => map.erase key) map).lookup other =
      some found) : map.lookup other = some found := by
  induction keys generalizing map with
  | nil => exact hlookup
  | cons key rest ih => exact (lookup_erase_some (ih hlookup)).2

/-- What the entry under one key adds to a sum over all entries. -/
theorem sum_entries_key {ν : Type v} (map : GoMap κ ν) (key : κ)
    (g : ν → Nat) : (map.entries.map fun entry =>
      if entry.1 = key then g entry.2 else 0).sum =
        ((map.lookup key).map g).getD 0 := by
  have hlist : ∀ entries : List (Sigma fun _ : κ => ν), entries.NodupKeys →
      (entries.map fun entry => if entry.1 = key then g entry.2 else 0).sum =
        ((entries.dlookup key).map g).getD 0 := by
    intro entries hnodup
    induction entries with
    | nil => rfl
    | cons entry rest ih =>
      obtain ⟨hnew, hrest⟩ := List.nodupKeys_cons.mp hnodup
      obtain ⟨other, value⟩ := entry
      rw [List.map_cons, List.sum_cons, ih hrest]
      by_cases hkey : other = key
      · subst hkey
        rw [List.dlookup_eq_none.mpr hnew, List.dlookup_cons_eq, if_pos rfl]
        rfl
      · rw [if_neg hkey, List.dlookup_cons_ne _ _ (Ne.symm hkey),
          Nat.zero_add]
  exact hlist map.entries map.nodupKeys

/-- Only the entry under one key gives anything that is counted. -/
theorem countP_flatMap_entries {ν : Type v} {β : Type w} (map : GoMap κ ν)
    (key : κ) (f : (Sigma fun _ : κ => ν) → List β) (p : β → Bool)
    (hother : ∀ entry, entry.1 ≠ key → (f entry).countP p = 0) :
    (map.entries.flatMap f).countP p =
      ((map.lookup key).map fun value => (f ⟨key, value⟩).countP p).getD 0 := by
  rw [List.countP_flatMap, ← sum_entries_key]
  congr 1
  apply List.map_congr_left
  rintro ⟨other, value⟩ -
  split
  next hkey =>
    cases hkey
    rfl
  next hkey => exact hother _ hkey

/-- Delete in a loop over the entries. -/
def deleteWhere {ν : Type v} (p : κ → ν → Bool) (map : GoMap κ ν) :
    GoMap κ ν :=
  map.entries.foldl
    (fun map entry => if p entry.1 entry.2 then map.erase entry.1 else map)
    map

theorem lookup_foldl_erase {ν : Type v} (p : κ → ν → Bool)
    (entries : List (Sigma fun _ : κ => ν)) (map : GoMap κ ν) (key : κ) :
    (entries.foldl (fun map entry =>
        if p entry.1 entry.2 then map.erase entry.1 else map) map).lookup key =
      if ∃ entry ∈ entries, entry.1 = key ∧ p entry.1 entry.2 = true then none
      else map.lookup key := by
  induction entries generalizing map with
  | nil => simp
  | cons entry rest ih =>
    rw [List.foldl_cons, ih]
    simp only [List.exists_mem_cons_iff]
    by_cases hrest : ∃ entry ∈ rest, entry.1 = key ∧
        p entry.1 entry.2 = true
    · rw [if_pos hrest, if_pos (.inr hrest)]
    · simp only [hrest, if_false, or_false]
      by_cases hp : p entry.1 entry.2 = true
      · by_cases hkey : entry.1 = key
        · rw [if_pos hp, if_pos ⟨hkey, hp⟩, hkey, AList.lookup_erase]
        · rw [if_pos hp, if_neg (fun h => hkey h.1),
            AList.lookup_erase_ne (Ne.symm hkey)]
      · rw [if_neg hp, if_neg (fun h => hp h.2)]

/-- The loop keeps exactly the entries that are not to go. -/
theorem lookup_deleteWhere {ν : Type v} (p : κ → ν → Bool) (map : GoMap κ ν)
    (key : κ) : (map.deleteWhere p).lookup key =
      (map.lookup key).filter fun value => !p key value := by
  rw [deleteWhere, lookup_foldl_erase]
  cases hlookup : map.lookup key with
  | none =>
    rw [ite_self]
    rfl
  | some value =>
    have hmem : ⟨key, value⟩ ∈ map.entries := AList.mem_lookup_iff.mp hlookup
    by_cases hp : p key value = true
    · rw [if_pos ⟨_, hmem, rfl, hp⟩, Option.filter_some, hp]
      rfl
    · rw [if_neg]
      · rw [Option.filter_some, eq_false_of_ne_true hp]
        rfl
      · rintro ⟨⟨other, found⟩, hentry, rfl, hgone⟩
        have hfound := AList.mem_lookup_iff.mpr hentry
        rw [Option.mem_def, hlookup] at hfound
        cases hfound
        exact hp hgone

/-- A value that can only stand under one key is stored at most once. -/
theorem count_values {ν : Type v} [DecidableEq ν] {map : GoMap κ ν} {key : κ}
    {value : ν}
    (hkey : ∀ other, map.lookup other = some value → other = key) :
    (map.entries.map Sigma.snd).count value =
      if map.lookup key = some value then 1 else 0 := by
  have hfilter : ∀ entry ∈ map.entries.filter (fun entry => entry.2 = value),
      entry.1 = key := by
    intro entry hentry
    obtain ⟨hmem, hvalue⟩ := List.mem_filter.mp hentry
    apply hkey entry.1
    rw [← of_decide_eq_true hvalue]
    exact AList.mem_lookup_iff.mpr hmem
  have hnodup : (map.entries.filter fun entry => entry.2 = value).NodupKeys :=
    map.nodupKeys.sublist List.filter_sublist
  have hcount : (map.entries.map Sigma.snd).count value =
      (map.entries.filter fun entry => entry.2 = value).length := by
    rw [List.count, List.countP_map, List.countP_eq_length_filter]
    rfl
  rw [hcount]
  cases hentries : map.entries.filter fun entry => entry.2 = value with
  | nil =>
    rw [if_neg, List.length_nil]
    intro hlookup
    have hmem : ⟨key, value⟩ ∈
        map.entries.filter fun entry => entry.2 = value :=
      List.mem_filter.mpr ⟨AList.mem_lookup_iff.mp hlookup, by simp⟩
    rw [hentries] at hmem
    cases hmem
  | cons first rest =>
    have hfirst := hfilter first (by rw [hentries]; exact List.mem_cons_self)
    have hmem : first ∈ map.entries.filter fun entry => entry.2 = value := by
      rw [hentries]
      exact List.mem_cons_self
    obtain ⟨hin, hvalue⟩ := List.mem_filter.mp hmem
    rw [if_pos]
    · cases rest with
      | nil => rfl
      | cons second rest =>
        -- A second entry would have the same key.
        have hsecond := hfilter second (by rw [hentries]; simp)
        rw [hentries, List.nodupKeys_cons] at hnodup
        exact absurd (by simp [List.keys, hfirst, hsecond]) hnodup.1
    · rw [← hfirst, ← of_decide_eq_true hvalue]
      exact AList.mem_lookup_iff.mpr hin

end GoMap

namespace NestedMap

variable {κ : Type u} {ι : Type v} {ν : Type w} [DecidableEq κ]
  [DecidableEq ι]

def get (map : NestedMap κ ι ν) (outer : κ) (inner : ι) : Option ν :=
  (map.lookup outer).bind fun values => values.lookup inner

/-- Store a value, creating the inner map when it is missing. -/
def set (map : NestedMap κ ι ν) (outer : κ) (inner : ι) (value : ν) :
    NestedMap κ ι ν :=
  map.insert outer (((map.lookup outer).getD ∅).insert inner value)

/-- Delete a value, and its inner map once that is empty. -/
def delete (map : NestedMap κ ι ν) (outer : κ) (inner : ι) :
    NestedMap κ ι ν :=
  match map.lookup outer with
  | none => map
  | some values =>
    if (values.erase inner).keys = [] then map.erase outer
    else map.insert outer (values.erase inner)

/-- Every value of the map. -/
def values (map : NestedMap κ ι ν) : List ν :=
  map.entries.flatMap fun outer => outer.2.entries.map Sigma.snd

/-- The keys and values under one outer key. -/
def inner (map : NestedMap κ ι ν) (outer : κ) : List (ι × ν) :=
  ((map.lookup outer).getD ∅).entries.map fun entry => (entry.1, entry.2)

@[simp] theorem get_empty (outer : κ) (inner : ι) :
    get (∅ : NestedMap κ ι ν) outer inner = none := by
  simp [get]

theorem get_set (map : NestedMap κ ι ν) (outer outer' : κ) (inner inner' : ι)
    (value : ν) :
    get (set map outer inner value) outer' inner' =
      if outer' = outer ∧ inner' = inner then some value
      else get map outer' inner' := by
  by_cases houter : outer' = outer
  · subst houter
    by_cases hinner : inner' = inner
    · subst hinner
      simp [get, set]
    · cases hlookup : map.lookup outer' with
      | none =>
        simp only [get, set, AList.lookup_insert, Option.bind_some, hlookup,
          Option.getD_none, AList.lookup_insert_ne hinner,
          AList.lookup_empty, hinner, and_false, ↓reduceIte,
          Option.bind_none]
      | some values =>
        simp only [get, set, AList.lookup_insert, Option.bind_some, hlookup,
          Option.getD_some, AList.lookup_insert_ne hinner, hinner,
          and_false, ↓reduceIte]
  · simp [get, set, houter]

theorem lookup_eq_none_of_keys_eq_nil {values : GoMap ι ν}
    (hkeys : values.keys = []) (inner : ι) : values.lookup inner = none := by
  rw [AList.lookup_eq_none, AList.mem_keys, hkeys]
  exact List.not_mem_nil

theorem get_delete (map : NestedMap κ ι ν) (outer outer' : κ)
    (inner inner' : ι) :
    get (delete map outer inner) outer' inner' =
      if outer' = outer ∧ inner' = inner then none
      else get map outer' inner' := by
  cases hlookup : map.lookup outer with
  | none =>
    by_cases hsame : outer' = outer ∧ inner' = inner
    · obtain ⟨rfl, rfl⟩ := hsame
      simp [get, delete, hlookup]
    · simp only [delete, hlookup, if_neg hsame]
  | some values =>
    have herased : ∀ key, (values.erase inner).lookup key =
        if key = inner then none else values.lookup key := by
      intro key
      by_cases hkey : key = inner
      · subst hkey
        simp
      · simp [hkey]
    by_cases houter : outer' = outer
    · subst houter
      by_cases hempty : (values.erase inner).keys = []
      · have hnone := lookup_eq_none_of_keys_eq_nil hempty inner'
        rw [herased] at hnone
        simp only [get, delete, hlookup, if_pos hempty, AList.lookup_erase,
          Option.bind_none, true_and, Option.bind_some]
        by_cases hinner : inner' = inner
        · simp [hinner]
        · simpa [hinner] using hnone.symm
      · simp only [get, delete, hlookup, if_neg hempty, AList.lookup_insert,
          Option.bind_some, herased, true_and]
    · by_cases hempty : (values.erase inner).keys = []
      · simp only [get, delete, hlookup, if_pos hempty,
          AList.lookup_erase_ne houter, houter, false_and, ↓reduceIte]
      · simp only [get, delete, hlookup, if_neg hempty,
          AList.lookup_insert_ne houter, houter, false_and, ↓reduceIte]

theorem mem_values {map : NestedMap κ ι ν} {value : ν} :
    value ∈ values map ↔ ∃ outer inner, get map outer inner = some value := by
  constructor
  · intro hvalue
    simp only [values, List.mem_flatMap, List.mem_map] at hvalue
    obtain ⟨⟨outer, inners⟩, houter, ⟨inner, stored⟩, hinner, rfl⟩ := hvalue
    refine ⟨outer, inner, ?_⟩
    have hmap : map.lookup outer = some inners :=
      AList.mem_lookup_iff.mpr houter
    have hinners : inners.lookup inner = some stored :=
      AList.mem_lookup_iff.mpr hinner
    simp only [get, hmap, Option.bind_some, hinners]
  · rintro ⟨outer, inner, hget⟩
    obtain ⟨inners, hmap, hinners⟩ := Option.bind_eq_some_iff.mp hget
    simp only [values, List.mem_flatMap, List.mem_map]
    exact ⟨⟨outer, inners⟩, AList.mem_lookup_iff.mp hmap,
      ⟨inner, value⟩, AList.mem_lookup_iff.mp hinners, rfl⟩

theorem lookup_getD (map : NestedMap κ ι ν) (outer : κ) (key : ι) :
    ((map.lookup outer).getD ∅).lookup key = get map outer key := by
  cases hlookup : map.lookup outer with
  | none => simp [get, hlookup]
  | some values => simp [get, hlookup]

theorem mem_inner {map : NestedMap κ ι ν} {outer : κ} {key : ι} {value : ν} :
    (key, value) ∈ inner map outer ↔ get map outer key = some value := by
  rw [← lookup_getD, ← Option.mem_def, AList.mem_lookup_iff, inner,
    List.mem_map]
  constructor
  · rintro ⟨⟨key', value'⟩, hentry, heq⟩
    cases heq
    exact hentry
  · exact fun hentry => ⟨⟨key, value⟩, hentry, rfl⟩

omit [DecidableEq ι] in
theorem nodup_keys_inner (map : NestedMap κ ι ν) (outer : κ) :
    ((inner map outer).map Prod.fst).Nodup := by
  rw [inner, List.map_map]
  exact ((map.lookup outer).getD ∅).nodupKeys

section Inner

/-- Every outer key has an inner one. -/
def NoEmptyInner (map : NestedMap κ ι ν) : Prop :=
  ∀ outer values, map.lookup outer = some values → values.keys ≠ []

omit [DecidableEq ι] in
theorem noEmptyInner_empty : NoEmptyInner (∅ : NestedMap κ ι ν) := by
  intro outer values hlookup
  simp at hlookup

variable {map : NestedMap κ ι ν}

omit [DecidableEq ι] in
theorem NoEmptyInner.insert (hmap : NoEmptyInner map) {outer : κ}
    {values : GoMap ι ν} (hvalues : values.keys ≠ []) :
    NoEmptyInner (AList.insert outer values map) := by
  intro outer' values' hlookup
  obtain ⟨-, rfl⟩ | ⟨-, hold⟩ := GoMap.lookup_insert_some hlookup
  · exact hvalues
  · exact hmap outer' values' hold

theorem NoEmptyInner.set (hmap : NoEmptyInner map) (outer : κ) (inner : ι)
    (value : ν) : NoEmptyInner (set map outer inner value) := by
  refine hmap.insert ?_
  rw [AList.keys_insert]
  exact List.cons_ne_nil _ _

theorem NoEmptyInner.delete (hmap : NoEmptyInner map) (outer : κ)
    (inner : ι) : NoEmptyInner (delete map outer inner) := by
  unfold NestedMap.delete
  split
  · exact hmap
  next values hlookup =>
    split
    · intro outer' values' hlookup'
      exact hmap outer' values' (GoMap.lookup_erase_some hlookup').2
    next hne => exact hmap.insert hne

end Inner

end NestedMap

end Pipewave
