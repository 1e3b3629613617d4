/-
Signed decimal numbers of 64 bits over byte strings, as `strconv` writes and
reads them.  The reader also takes a plus sign and leading zeros.
-/
import Mathlib.Data.Nat.Digits.Lemmas
import Pipewave.LengthPrefix

namespace Pipewave

namespace Decimal

def digitByte (digit : Nat) : UInt8 := UInt8.ofNat (0x30 + digit)

def digitValue (byte : UInt8) : Option Nat :=
  if 0x30 ≤ byte ∧ byte ≤ 0x39 then some (byte.toNat - 0x30) else none

/-- Read digits behind a number read so far. -/
def parseDigits : Nat → Bytes → Option Nat
  | n, [] => some n
  | n, byte :: rest =>
    (digitValue byte).bind fun digit => parseDigits (10 * n + digit) rest

def parseUint (s : Bytes) : Option Nat :=
  if s = [] then none else parseDigits 0 s

/-- The check of the range; no caller tells its error from the others. -/
def int64 (i : Int) : Option Int :=
  if -2 ^ 63 ≤ i ∧ i < 2 ^ 63 then some i else none

/-- `strconv.ParseInt(s, 10, 64)`. -/
def parseInt : Bytes → Option Int
  | [] => none
  | first :: rest =>
    if first = 0x2B then (parseUint rest).bind fun n => int64 n
    else if first = 0x2D then (parseUint rest).bind fun n => int64 (-n)
    else (parseUint (first :: rest)).bind fun n => int64 n

def formatUint (n : Nat) : Bytes :=
  if n = 0 then [0x30] else (Nat.digits 10 n).reverse.map digitByte

/-- `strconv.FormatInt(i, 10)`. -/
def formatInt (i : Int) : Bytes :=
  if i < 0 then 0x2D :: formatUint i.natAbs else formatUint i.natAbs

theorem digitValue_digitByte {digit : Nat} (hdigit : digit < 10) :
    digitValue (digitByte digit) = some digit := by
  revert digit
  decide

theorem parseDigits_map {digits : List Nat} (hdigits : ∀ d ∈ digits, d < 10)
    (n : Nat) :
    parseDigits n (digits.map digitByte) =
      some (digits.foldl (fun n digit => 10 * n + digit) n) := by
  induction digits generalizing n with
  | nil => rfl
  | cons digit rest ih =>
    rw [List.map_cons, parseDigits,
      digitValue_digitByte (hdigits digit List.mem_cons_self),
      Option.bind_some, List.foldl_cons]
    apply ih
    exact fun d hd => hdigits d (List.mem_cons_of_mem digit hd)

/-- Every number has digits, and its digits are bytes of digits. -/
theorem formatUint_eq_map (n : Nat) :
    ∃ digits : List Nat, formatUint n = digits.map digitByte ∧ digits ≠ [] ∧
      (∀ d ∈ digits, d < 10) ∧ digits.foldl (fun n d => 10 * n + d) 0 = n := by
  by_cases hzero : n = 0
  · refine ⟨[0], ?_, by simp, by simp, ?_⟩
    · rw [formatUint, if_pos hzero]
      rfl
    · rw [hzero]
      rfl
  · refine ⟨(Nat.digits 10 n).reverse, if_neg hzero, ?_, ?_, ?_⟩
    · rw [ne_eq, List.reverse_eq_nil_iff, Nat.digits_eq_nil_iff_eq_zero]
      exact hzero
    · intro d hd
      exact Nat.digits_lt_base (by decide) (List.mem_reverse.mp hd)
    · rw [List.foldl_reverse]
      refine Eq.trans ?_ (Nat.ofDigits_digits 10 n)
      rw [Nat.ofDigits_eq_foldr]
      congr 1
      funext d value
      exact Nat.add_comm (10 * value) d

theorem parseUint_formatUint (n : Nat) :
    parseUint (formatUint n) = some n := by
  obtain ⟨digits, hformat, hsome, hdigits, hvalue⟩ := formatUint_eq_map n
  rw [hformat, parseUint, if_neg (by simpa using hsome),
    parseDigits_map hdigits, hvalue]

theorem mem_formatUint {n : Nat} {byte : UInt8}
    (hbyte : byte ∈ formatUint n) : 0x30 ≤ byte ∧ byte ≤ 0x39 := by
  have hrange : ∀ d < 10, 0x30 ≤ digitByte d ∧ digitByte d ≤ 0x39 := by decide
  obtain ⟨digits, hformat, -, hdigits, -⟩ := formatUint_eq_map n
  rw [hformat] at hbyte
  obtain ⟨d, hd, rfl⟩ := List.mem_map.mp hbyte
  exact hrange d (hdigits d hd)

/-- A number is written with a minus sign and digits only. -/
theorem mem_formatInt {i : Int} {byte : UInt8} (hbyte : byte ∈ formatInt i) :
    byte = 0x2D ∨ (0x30 ≤ byte ∧ byte ≤ 0x39) := by
  unfold formatInt at hbyte
  split at hbyte
  · obtain hminus | hdigit := List.mem_cons.mp hbyte
    · exact .inl hminus
    · exact .inr (mem_formatUint hdigit)
  · exact .inr (mem_formatUint hbyte)

/-- What is written without a sign is read without one. -/
theorem parseInt_formatUint (n : Nat) :
    parseInt (formatUint n) = int64 n := by
  have hread := parseUint_formatUint n
  cases hformat : formatUint n with
  | nil =>
    rw [hformat] at hread
    cases hread
  | cons first rest =>
    have hdigit : 0x30 ≤ first ∧ first ≤ 0x39 := by
      apply mem_formatUint (n := n)
      rw [hformat]
      exact List.mem_cons_self
    have hplus : first ≠ 0x2B := by
      rintro rfl
      exact absurd hdigit.1 (by decide)
    have hminus : first ≠ 0x2D := by
      rintro rfl
      exact absurd hdigit.1 (by decide)
    rw [parseInt, if_neg hplus, if_neg hminus, ← hformat, hread,
      Option.bind_some]

theorem parseInt_formatInt {i : Int} (hlow : -2 ^ 63 ≤ i)
    (hhigh : i < 2 ^ 63) :
    parseInt (formatInt i) = some i := by
  have hrange : int64 i = some i := if_pos ⟨hlow, hhigh⟩
  rw [formatInt]
  split
  next hneg =>
    rw [parseInt, if_neg (by decide), if_pos rfl, parseUint_formatUint,
      Option.bind_some, show -(i.natAbs : Int) = i by omega, hrange]
  next hpos =>
    rw [parseInt_formatUint, show (i.natAbs : Int) = i by omega, hrange]

end Decimal

end Pipewave
