/-
The v1 grammar as data: a derivation names the parts of a frame in wire order
and carries the length bounds of its prefixes, so that every derivation can be
written out.  The decoder accepts exactly the byte strings with a derivation.
-/
import Pipewave.WireParse

namespace Pipewave

namespace Wire

/-- A field whose length fits one byte. -/
abbrev ShortField := { field : Bytes // field.length ≤ maxShortField }

/-- A field whose length fits two bytes. -/
abbrev ErrorField := { field : Bytes // field.length ≤ maxErrorLen }

/-- The part behind the version byte: a control code or a message type. -/
inductive Head where
  | control (code : UInt8)
  | msgType (name : ShortField) (nonempty : name.1 ≠ [])

def Head.bytes : Head → Bytes
  | .control code => [0, code]
  | .msgType name _ => prefixed 1 name.1

def Head.name : Head → Bytes
  | .control _ => []
  | .msgType name _ => name.1

def Head.code : Head → UInt8
  | .control code => code
  | .msgType _ _ => 0

theorem Head.two_le_length (head : Head) : 2 ≤ head.bytes.length := by
  cases head with
  | control code => simp [Head.bytes]
  | msgType name hne =>
    have hpos := List.length_pos_iff.mpr hne
    simp only [Head.bytes, prefixed_length]
    omega

/-- A derivation of the v1 grammar.  `none` is a field whose flag is clear; a
flagged field may still be empty. -/
structure V1Frame where
  head : Head
  id : Option ShortField
  responseToID : Option ShortField
  ackID : Option ShortField
  error : Option ErrorField
  binary : Bytes

/-- The version byte whose flags answer the four presence questions. -/
def versionByte (id responseToID ackID error : Bool) : UInt8 :=
  version ||| ((if id then flagID else 0) |||
    (if responseToID then flagResponseToID else 0) |||
    (if ackID then flagAckID else 0) ||| (if error then flagError else 0))

def V1Frame.first (p : V1Frame) : UInt8 :=
  versionByte p.id.isSome p.responseToID.isSome p.ackID.isSome p.error.isSome

/-- The parts behind the version byte, in wire order. -/
def V1Frame.body (p : V1Frame) : Bytes :=
  p.head.bytes ++ flagged 1 (p.id.map Subtype.val) ++
    flagged 1 (p.responseToID.map Subtype.val) ++
    flagged 1 (p.ackID.map Subtype.val) ++
    flagged 2 (p.error.map Subtype.val) ++ p.binary

def V1Frame.bytes (p : V1Frame) : Bytes :=
  p.first :: p.body

def fieldValue {bound : Nat} :
    Option { field : Bytes // field.length ≤ bound } → Bytes
  | none => []
  | some field => field.1

/-- The frame a derivation stands for; an unflagged field is empty. -/
def V1Frame.frame (p : V1Frame) : Frame where
  msgType := p.head.name
  controlCode := p.head.code
  id := fieldValue p.id
  responseToID := fieldValue p.responseToID
  ackID := fieldValue p.ackID
  error := fieldValue p.error
  binary := some p.binary

theorem takeHead_eq_some_iff {input name rest : Bytes} {code : UInt8} :
    takeHead input = some ((name, code), rest) ↔
      ∃ head : Head, head.name = name ∧ head.code = code ∧
        input = head.bytes ++ rest := by
  constructor
  · intro htake
    cases input with
    | nil => simp [takeHead] at htake
    | cons len input =>
      by_cases hzero : len = 0
      · subst hzero
        cases input with
        | nil => simp [takeHead] at htake
        | cons control input =>
          simp only [takeHead, ↓reduceIte, Option.some.injEq,
            Prod.mk.injEq] at htake
          obtain ⟨⟨rfl, rfl⟩, rfl⟩ := htake
          exact ⟨.control control, rfl, rfl, rfl⟩
      · simp only [takeHead, hzero, ↓reduceIte, Option.map_eq_some_iff,
          Prod.mk.injEq, Prod.exists] at htake
        obtain ⟨field, tail, htake, ⟨rfl, rfl⟩, rfl⟩ := htake
        obtain ⟨hlength, hinput⟩ := takePrefixed_eq_some_iff.mp htake
        have hne : field ≠ [] := by
          rintro rfl
          apply hzero
          simpa [prefixed, putLen] using congrArg List.head? hinput
        exact ⟨.msgType ⟨field, Nat.le_of_lt_succ hlength⟩ hne, rfl, rfl,
          hinput⟩
  · rintro ⟨head, rfl, rfl, rfl⟩
    cases head with
    | control code => rfl
    | msgType field hne =>
      obtain ⟨field, hlength⟩ := field
      have hfit : field.length < 256 ^ 1 := Nat.lt_succ_of_le hlength
      have htake := takePrefixed_prefixed hfit rest
      have hlen : UInt8.ofNat field.length ≠ 0 := by
        intro hzero
        have hnat := congrArg UInt8.toNat hzero
        rw [UInt8.toNat_ofNat', UInt8.toNat_zero] at hnat
        have hempty : field.length = 0 := by omega
        exact hne (List.length_eq_zero_iff.mp hempty)
      simp only [prefixed, putLen, Nat.mul_zero, Nat.shiftRight_zero,
        List.cons_append, List.nil_append] at htake
      simp only [Head.bytes, Head.name, Head.code, prefixed, putLen,
        Nat.mul_zero, Nat.shiftRight_zero, List.cons_append, List.nil_append,
        takeHead, hlen, ↓reduceIte, htake, Option.map_some]

/-- A flagged field is taken exactly when a bounded part of the grammar, present
under the same flag, is written in front. -/
theorem takeFlagged_eq_some_iff_part {width : Nat} (bound : Nat)
    (hbound : bound + 1 = 256 ^ width) {present : Bool}
    {input field rest : Bytes} :
    takeFlagged width present input = some (field, rest) ↔
      ∃ part : Option { field : Bytes // field.length ≤ bound },
        part.isSome = present ∧ fieldValue part = field ∧
          input = flagged width (part.map Subtype.val) ++ rest := by
  rw [takeFlagged_eq_some_iff]
  constructor
  · rintro ⟨part, hpresent, hfield, hlength, hinput⟩
    cases part with
    | none => exact ⟨none, hpresent, hfield, hinput⟩
    | some value =>
      have hle : value.length ≤ bound := by
        have := hlength value rfl
        omega
      exact ⟨some ⟨value, hle⟩, hpresent, hfield, hinput⟩
  · rintro ⟨part, hpresent, hfield, hinput⟩
    refine ⟨part.map Subtype.val, by simpa using hpresent, ?_, ?_, hinput⟩
    · cases part <;> exact hfield
    · rintro value hvalue
      cases part with
      | none => simp at hvalue
      | some part =>
        have hpart : part.1 = value := by simpa using hvalue
        have hlength := part.2
        rw [hpart] at hlength
        omega

/-- A version byte passes the version test and answers each flag test with the
presence it was built from. -/
theorem versionByte_tests : ∀ id responseToID ackID error : Bool,
    let first := versionByte id responseToID ackID error
    first &&& 0x0F = version ∧
      decide ((first &&& 0xF0) &&& flagID ≠ 0) = id ∧
      decide ((first &&& 0xF0) &&& flagResponseToID ≠ 0) = responseToID ∧
      decide ((first &&& 0xF0) &&& flagAckID ≠ 0) = ackID ∧
      decide ((first &&& 0xF0) &&& flagError ≠ 0) = error := by
  decide

theorem V1Frame.first_tests (p : V1Frame) :
    p.first &&& 0x0F = version ∧
      decide ((p.first &&& 0xF0) &&& flagID ≠ 0) = p.id.isSome ∧
      decide ((p.first &&& 0xF0) &&& flagResponseToID ≠ 0) =
        p.responseToID.isSome ∧
      decide ((p.first &&& 0xF0) &&& flagAckID ≠ 0) = p.ackID.isSome ∧
      decide ((p.first &&& 0xF0) &&& flagError ≠ 0) = p.error.isSome :=
  versionByte_tests _ _ _ _

/-- Conversely a byte with the right version is rebuilt from its flag tests. -/
theorem versionByte_of_tests {first : UInt8}
    (hversion : first &&& 0x0F = version) :
    versionByte (decide ((first &&& 0xF0) &&& flagID ≠ 0))
      (decide ((first &&& 0xF0) &&& flagResponseToID ≠ 0))
      (decide ((first &&& 0xF0) &&& flagAckID ≠ 0))
      (decide ((first &&& 0xF0) &&& flagError ≠ 0)) = first := by
  have hall : ∀ n : Fin 256, UInt8.ofNat n.1 &&& 0x0F = version →
      versionByte (decide ((UInt8.ofNat n.1 &&& 0xF0) &&& flagID ≠ 0))
        (decide ((UInt8.ofNat n.1 &&& 0xF0) &&& flagResponseToID ≠ 0))
        (decide ((UInt8.ofNat n.1 &&& 0xF0) &&& flagAckID ≠ 0))
        (decide ((UInt8.ofNat n.1 &&& 0xF0) &&& flagError ≠ 0)) =
      UInt8.ofNat n.1 := by
    decide +kernel
  have hbyte : UInt8.ofNat first.toNat = first := by simp
  have hfirst := hall ⟨first.toNat, first.toNat_lt⟩
  simp only [hbyte] at hfirst
  exact hfirst hversion

/-- The parser finds a frame behind the version byte exactly when the flags
and the remaining bytes are those of a derivation. -/
theorem parseBody_eq_some_iff {first : UInt8} {input : Bytes} {frame : Frame}
    (hversion : first &&& 0x0F = version) :
    parseBody (first &&& 0xF0) input = some frame ↔
      ∃ p : V1Frame, p.bytes = first :: input ∧ p.frame = frame := by
  constructor
  · intro hparse
    simp only [parseBody, bind, Option.bind_eq_some_iff, Prod.exists] at hparse
    obtain ⟨name, code, rest, hhead, id, rest₁, hid, responseToID, rest₂,
      hresponseToID, ackID, rest₃, hackID, error, binary, herror, hframe⟩ :=
      hparse
    obtain ⟨head, rfl, rfl, rfl⟩ := takeHead_eq_some_iff.mp hhead
    obtain ⟨idPart, hidSome, rfl, rfl⟩ :=
      (takeFlagged_eq_some_iff_part maxShortField rfl).mp hid
    obtain ⟨responsePart, hresponseSome, rfl, rfl⟩ :=
      (takeFlagged_eq_some_iff_part maxShortField rfl).mp
        hresponseToID
    obtain ⟨ackPart, hackSome, rfl, rfl⟩ :=
      (takeFlagged_eq_some_iff_part maxShortField rfl).mp hackID
    obtain ⟨errorPart, herrorSome, rfl, rfl⟩ :=
      (takeFlagged_eq_some_iff_part maxErrorLen rfl).mp herror
    refine ⟨⟨head, idPart, responsePart, ackPart, errorPart, binary⟩, ?_, ?_⟩
    · have hfirst := versionByte_of_tests hversion
      simp only [V1Frame.bytes, V1Frame.first, hidSome, hresponseSome,
        hackSome, herrorSome, hfirst, V1Frame.body, List.append_assoc]
    · simpa [V1Frame.frame] using hframe
  · rintro ⟨p, hbytes, rfl⟩
    simp only [V1Frame.bytes, List.cons.injEq] at hbytes
    obtain ⟨rfl, rfl⟩ := hbytes
    obtain ⟨-, hid, hresponseToID, hackID, herror⟩ := p.first_tests
    simp only [parseBody, bind, Option.bind_eq_some_iff, Prod.exists,
      V1Frame.body, List.append_assoc]
    exact ⟨_, _, _, takeHead_eq_some_iff.mpr ⟨p.head, rfl, rfl, rfl⟩,
      _, _, (takeFlagged_eq_some_iff_part maxShortField rfl).mpr
        ⟨p.id, hid.symm, rfl, rfl⟩,
      _, _, (takeFlagged_eq_some_iff_part maxShortField rfl).mpr
        ⟨p.responseToID, hresponseToID.symm, rfl, rfl⟩,
      _, _, (takeFlagged_eq_some_iff_part maxShortField rfl).mpr
        ⟨p.ackID, hackID.symm, rfl, rfl⟩,
      _, _, (takeFlagged_eq_some_iff_part maxErrorLen rfl).mpr
        ⟨p.error, herror.symm, rfl, rfl⟩, rfl⟩

/-- The parser accepts exactly the byte strings with a derivation. -/
theorem parse_eq_ok_iff {data : Bytes} {frame : Frame} :
    parse data = .ok frame ↔
      ∃ p : V1Frame, p.bytes = data ∧ p.frame = frame := by
  match data with
  | [] => simp [parse, V1Frame.bytes]
  | [first] =>
    simp only [parse, reduceCtorEq, false_iff, not_exists, not_and]
    intro p hbytes
    have hlength := congrArg List.length hbytes
    have hhead := p.head.two_le_length
    simp only [V1Frame.bytes, V1Frame.body, List.length_cons,
      List.length_append, List.length_nil] at hlength
    omega
  | first :: second :: input =>
    by_cases hversion : first &&& 0x0F = version
    · rw [← parseBody_eq_some_iff hversion]
      simp only [parse, hversion, ne_eq, not_true_eq_false, ↓reduceIte]
      cases parseBody (first &&& 0xF0) (second :: input) <;> simp
    · simp only [parse, ne_eq, hversion, not_false_eq_true, ↓reduceIte,
        reduceCtorEq, false_iff, not_exists, not_and]
      intro p hbytes
      simp only [V1Frame.bytes, List.cons.injEq] at hbytes
      exact absurd (hbytes.1 ▸ p.first_tests.1) hversion

theorem parse_eq_version_iff {data : Bytes} :
    parse data = .error .version ↔
      2 ≤ data.length ∧ ∃ first ∈ data.head?, first &&& 0x0F ≠ version := by
  match data with
  | [] => simp [parse]
  | [first] => simp [parse]
  | first :: second :: input =>
    by_cases hversion : first &&& 0x0F = version
    · simp only [parse, hversion, ne_eq, not_true_eq_false, ↓reduceIte]
      cases parseBody (first &&& 0xF0) (second :: input) <;>
        simp [hversion]
    · simp [parse, hversion]

/-- Only the encoder reports a field that is too long. -/
theorem parse_ne_fieldTooLong (data : Bytes) :
    parse data ≠ .error .fieldTooLong := by
  match data with
  | [] => simp [parse]
  | [first] => simp [parse]
  | first :: second :: input =>
    by_cases hversion : first &&& 0x0F = version
    · simp only [parse, hversion, ne_eq, not_true_eq_false, ↓reduceIte]
      cases parseBody (first &&& 0xF0) (second :: input) <;> simp
    · simp [parse, hversion]

end Wire

end Pipewave
