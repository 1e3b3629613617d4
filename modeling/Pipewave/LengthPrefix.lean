/-
Big-endian length prefixes over byte strings.  A prefixed field is a length
written in a fixed number of bytes followed by exactly that many bytes; the
reader takes one such field off the front of its input and returns the rest.
-/
import Mathlib.Data.List.Basic
import Mathlib.Tactic.Ring

namespace Pipewave

abbrev Bytes := List UInt8

/-- The low `width` bytes of `n`, most significant first. -/
def putLen : Nat → Nat → Bytes
  | 0, _ => []
  | width + 1, n => UInt8.ofNat (n >>> (8 * width)) :: putLen width n

/-- Read a big-endian length of `width` bytes off the front. -/
def getLen : Nat → Bytes → Option (Nat × Bytes)
  | 0, input => some (0, input)
  | _ + 1, [] => none
  | width + 1, byte :: input =>
    (getLen width input).map fun read =>
      (byte.toNat * 256 ^ width + read.1, read.2)

/-- One field with its own length in front. -/
def prefixed (width : Nat) (field : Bytes) : Bytes :=
  putLen width field.length ++ field

/-- Take one prefixed field off the front, or nothing when the input ends
inside the prefix or inside the declared length. -/
def takePrefixed (width : Nat) (input : Bytes) : Option (Bytes × Bytes) :=
  (getLen width input).bind fun read =>
    if read.1 ≤ read.2.length then
      some (read.2.take read.1, read.2.drop read.1)
    else none

@[simp] theorem putLen_length (width n : Nat) :
    (putLen width n).length = width := by
  induction width with
  | zero => rfl
  | succ width ih => simp [putLen, ih]

@[simp] theorem prefixed_length (width : Nat) (field : Bytes) :
    (prefixed width field).length = width + field.length := by
  simp [prefixed]

/-- Only the low bytes of the length are written. -/
theorem putLen_mod (width n : Nat) :
    putLen width (n % 256 ^ width) = putLen width n := by
  suffices h : ∀ k, width ≤ k → putLen width (n % 256 ^ k) = putLen width n from
    h width (Nat.le_refl width)
  induction width with
  | zero => intro k _; rfl
  | succ width ih =>
    intro k hk
    simp only [putLen]
    rw [ih k (Nat.le_of_succ_le hk)]
    congr 1
    obtain ⟨extra, rfl⟩ := Nat.exists_eq_add_of_le hk
    have hpow : 256 ^ (width + 1 + extra) =
        2 ^ (8 * width) * (256 * 256 ^ extra) := by
      have h256 : (256 : Nat) = 2 ^ 8 := rfl
      rw [h256, ← pow_mul, ← pow_mul, ← pow_add, ← pow_add]
      congr 1
      ring
    apply UInt8.toNat_inj.mp
    simp only [UInt8.toNat_ofNat', Nat.shiftRight_eq_div_pow]
    rw [hpow, Nat.mod_mul_right_div_self]
    exact Nat.mod_mul_right_mod _ _ _

variable {width : Nat} {input rest field : Bytes}

theorem getLen_putLen {n : Nat} (hn : n < 256 ^ width) (rest : Bytes) :
    getLen width (putLen width n ++ rest) = some (n, rest) := by
  induction width generalizing n with
  | zero =>
    have hzero : n = 0 := by simpa using hn
    simp [putLen, getLen, hzero]
  | succ width ih =>
    have hpos : 0 < 256 ^ width := Nat.pow_pos (by decide)
    have hlow : n % 256 ^ width < 256 ^ width := Nat.mod_lt _ hpos
    have hbyte : n / 256 ^ width < 256 := by
      rw [Nat.div_lt_iff_lt_mul hpos]
      rwa [Nat.pow_succ, Nat.mul_comm] at hn
    have hshift : n >>> (8 * width) = n / 256 ^ width := by
      rw [Nat.shiftRight_eq_div_pow, pow_mul]
      rfl
    simp only [putLen, List.cons_append, getLen]
    rw [← putLen_mod, ih hlow, hshift]
    simp only [Option.map_some, UInt8.toNat_ofNat', Nat.reducePow]
    rw [Nat.mod_eq_of_lt hbyte, Nat.div_add_mod']

/-- The reader accepts exactly what the writer produces. -/
theorem getLen_eq_some_iff {n : Nat} :
    getLen width input = some (n, rest) ↔
      n < 256 ^ width ∧ input = putLen width n ++ rest := by
  constructor
  · induction width generalizing input n with
    | zero =>
      intro h
      simp only [getLen, Option.some.injEq, Prod.mk.injEq] at h
      simp [putLen, ← h.1, h.2]
    | succ width ih =>
      intro h
      cases input with
      | nil => simp [getLen] at h
      | cons byte input =>
        simp only [getLen, Option.map_eq_some_iff, Prod.mk.injEq] at h
        obtain ⟨⟨low, tail⟩, hread, hn, rfl⟩ := h
        dsimp only at hn ⊢
        obtain ⟨hlow, rfl⟩ := ih hread
        have hbyte : byte.toNat < 256 := byte.toNat_lt
        have hpos : 0 < 256 ^ width := Nat.pow_pos (by decide)
        have hdiv : n / 256 ^ width = byte.toNat := by
          rw [← hn, Nat.mul_comm, Nat.mul_add_div hpos,
            Nat.div_eq_of_lt hlow, Nat.add_zero]
        have hmod : n % 256 ^ width = low := by
          rw [← hn, Nat.mul_comm, Nat.mul_add_mod, Nat.mod_eq_of_lt hlow]
        refine ⟨?_, ?_⟩
        · rw [Nat.pow_succ, Nat.mul_comm, ← Nat.div_lt_iff_lt_mul hpos, hdiv]
          exact hbyte
        · have hshift : n >>> (8 * width) = byte.toNat := by
            rw [Nat.shiftRight_eq_div_pow, pow_mul]
            exact hdiv
          rw [putLen, hshift, ← putLen_mod width n, hmod]
          simp
  · rintro ⟨hn, rfl⟩
    exact getLen_putLen hn rest

/-- A field is taken exactly when the input starts with its prefixed form. -/
theorem takePrefixed_eq_some_iff :
    takePrefixed width input = some (field, rest) ↔
      field.length < 256 ^ width ∧ input = prefixed width field ++ rest := by
  simp only [takePrefixed, Option.bind_eq_some_iff, Prod.exists]
  constructor
  · rintro ⟨n, tail, hread, htake⟩
    obtain ⟨hn, rfl⟩ := getLen_eq_some_iff.mp hread
    by_cases hle : n ≤ tail.length
    · simp only [hle, ↓reduceIte, Option.some.injEq, Prod.mk.injEq] at htake
      obtain ⟨rfl, rfl⟩ := htake
      have hlength : (tail.take n).length = n := by simp [hle]
      exact ⟨hlength.symm ▸ hn, by simp [prefixed, hle]⟩
    · simp [hle] at htake
  · rintro ⟨hlength, rfl⟩
    refine ⟨field.length, field ++ rest, ?_, ?_⟩
    · rw [prefixed, List.append_assoc]
      exact getLen_putLen hlength _
    · simp

theorem takePrefixed_prefixed (hlength : field.length < 256 ^ width)
    (rest : Bytes) :
    takePrefixed width (prefixed width field ++ rest) = some (field, rest) :=
  takePrefixed_eq_some_iff.mpr ⟨hlength, rfl⟩

/-- A field that is present only under a flag; an absent field is empty and
consumes nothing. -/
def takeFlagged (width : Nat) (present : Bool) (input : Bytes) :
    Option (Bytes × Bytes) :=
  if present then takePrefixed width input else some ([], input)

/-- The written form of an optional field. -/
def flagged (width : Nat) : Option Bytes → Bytes
  | none => []
  | some field => prefixed width field

theorem takeFlagged_eq_some_iff {present : Bool} :
    takeFlagged width present input = some (field, rest) ↔
      ∃ part : Option Bytes, part.isSome = present ∧ part.getD [] = field ∧
        (∀ value ∈ part, value.length < 256 ^ width) ∧
        input = flagged width part ++ rest := by
  cases present with
  | false =>
    simp only [takeFlagged, Bool.false_eq_true, ↓reduceIte,
      Option.some.injEq, Prod.mk.injEq]
    constructor
    · rintro ⟨rfl, rfl⟩
      exact ⟨none, by simp [flagged]⟩
    · rintro ⟨part, hpart, hfield, -, hinput⟩
      cases part with
      | none => exact ⟨hfield, by simpa [flagged] using hinput⟩
      | some value => simp at hpart
  | true =>
    simp only [takeFlagged, ↓reduceIte, takePrefixed_eq_some_iff]
    constructor
    · rintro ⟨hlength, rfl⟩
      exact ⟨some field, by simp [flagged, hlength]⟩
    · rintro ⟨part, hpart, hfield, hlength, hinput⟩
      cases part with
      | none => simp at hpart
      | some value =>
        have hvalue : value = field := by simpa using hfield
        subst hvalue
        exact ⟨hlength value rfl, by simpa [flagged] using hinput⟩

end Pipewave
