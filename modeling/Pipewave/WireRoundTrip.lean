/-
Encoding as the choice of one derivation per frame, and the theorems about the
codec: every encodable frame survives the wire up to its ignored parts, every
accepted byte string re-encodes to its canonical form, and a frame cut in front
of its payload is malformed.
-/
import Pipewave.WireGrammar

namespace Pipewave

namespace Wire

/-- Some field does not fit the length prefix it is written with. -/
def Frame.TooLong (f : Frame) : Prop :=
  255 < f.msgType.length ∨ 255 < f.id.length ∨ 255 < f.responseToID.length ∨
    255 < f.ackID.length ∨ 65535 < f.error.length

instance (f : Frame) : Decidable f.TooLong :=
  inferInstanceAs (Decidable (_ ∨ _))

/-- What the wire keeps of a frame: no control code beside a message type, and
no difference between a nil and an empty payload. -/
def Frame.normalise (f : Frame) : Frame :=
  { f with
    controlCode := if f.msgType ≠ [] then 0 else f.controlCode
    binary := some (f.binary.getD []) }

/-- The encoder's part for a field: absent when the field is empty. -/
def canonicalPart {bound : Nat} (field : Bytes) (hfit : field.length ≤ bound) :
    Option { field : Bytes // field.length ≤ bound } :=
  if field = [] then none else some ⟨field, hfit⟩

variable {bound : Nat}

@[simp] theorem fieldValue_canonicalPart (field : Bytes)
    (hfit : field.length ≤ bound) :
    fieldValue (canonicalPart field hfit) = field := by
  by_cases hempty : field = [] <;> simp [canonicalPart, hempty, fieldValue]

theorem canonicalPart_isSome (field : Bytes) (hfit : field.length ≤ bound) :
    (canonicalPart field hfit).isSome = decide (field ≠ []) := by
  by_cases hempty : field = [] <;> simp [canonicalPart, hempty]

theorem flagged_canonicalPart {width : Nat} (field : Bytes)
    (hfit : field.length ≤ bound) :
    flagged width ((canonicalPart field hfit).map Subtype.val) =
      if field ≠ [] then prefixed width field else [] := by
  by_cases hempty : field = [] <;> simp [canonicalPart, hempty, flagged]

def canonicalHead (f : Frame) (hfit : f.msgType.length ≤ maxShortField) :
    Head :=
  if hempty : f.msgType = [] then .control f.controlCode
  else .msgType ⟨f.msgType, hfit⟩ hempty

/-- The derivation the encoder writes. -/
def canonical (f : Frame) (hfit : ¬ f.TooLong) : V1Frame where
  head := canonicalHead f (by simp only [Frame.TooLong, not_or] at hfit
                              exact Nat.le_of_not_lt hfit.1)
  id := canonicalPart f.id (by simp only [Frame.TooLong, not_or] at hfit
                               exact Nat.le_of_not_lt hfit.2.1)
  responseToID := canonicalPart f.responseToID
    (by simp only [Frame.TooLong, not_or] at hfit
        exact Nat.le_of_not_lt hfit.2.2.1)
  ackID := canonicalPart f.ackID
    (by simp only [Frame.TooLong, not_or] at hfit
        exact Nat.le_of_not_lt hfit.2.2.2.1)
  error := canonicalPart f.error
    (by simp only [Frame.TooLong, not_or] at hfit
        exact Nat.le_of_not_lt hfit.2.2.2.2)
  binary := f.binary.getD []

theorem canonical_frame (f : Frame) (hfit : ¬ f.TooLong) :
    (canonical f hfit).frame = f.normalise := by
  by_cases hempty : f.msgType = []
  · simp [canonical, V1Frame.frame, Frame.normalise, canonicalHead, hempty,
      Head.name, Head.code]
  · simp [canonical, V1Frame.frame, Frame.normalise, canonicalHead, hempty,
      Head.name, Head.code]

theorem canonicalHead_bytes (f : Frame)
    (hfit : f.msgType.length ≤ maxShortField) :
    (canonicalHead f hfit).bytes = encodeHead f := by
  by_cases hempty : f.msgType = []
  · simp [canonicalHead, encodeHead, hempty, Head.bytes]
  · simp [canonicalHead, encodeHead, hempty, Head.bytes, prefixed, putLen]

theorem canonical_bytes (f : Frame) (hfit : ¬ f.TooLong) :
    (canonical f hfit).bytes =
      [version ||| encodeFlags f] ++ encodeHead f ++ encodeShort f.id ++
        encodeShort f.responseToID ++ encodeShort f.ackID ++
        encodeError f.error ++ f.binary.getD [] := by
  have hfirst : (canonical f hfit).first = version ||| encodeFlags f := by
    simp only [V1Frame.first, canonical, canonicalPart_isSome, versionByte,
      decide_eq_true_eq, encodeFlags, flagBit]
  rw [V1Frame.bytes, hfirst]
  simp only [V1Frame.body, canonical,
    canonicalHead_bytes, flagged_canonicalPart, encodeShort, encodeError,
    prefixed, putLen, Nat.mul_zero, Nat.mul_one, Nat.shiftRight_zero,
    List.cons_append, List.nil_append, List.append_assoc]

/-- The encoder succeeds exactly on the frames that fit, and then writes the
canonical derivation. -/
theorem encode_eq (f : Frame) :
    encode f = if hfit : f.TooLong then .error .fieldTooLong
      else .ok (canonical f hfit).bytes := by
  by_cases hfit : f.TooLong
  · rw [dif_pos hfit]
    by_cases hshort : f.msgType.length > maxShortField ∨
        f.id.length > maxShortField ∨ f.responseToID.length > maxShortField ∨
        f.ackID.length > maxShortField
    · simp only [encode, if_pos hshort]
    · have herror : f.error.length > maxErrorLen := by
        simp only [Frame.TooLong, maxShortField, maxErrorLen] at *
        omega
      simp only [encode, if_neg hshort, if_pos herror]
  · rw [dif_neg hfit, canonical_bytes]
    have hshort : ¬ (f.msgType.length > maxShortField ∨
        f.id.length > maxShortField ∨ f.responseToID.length > maxShortField ∨
        f.ackID.length > maxShortField) := by
      simp only [Frame.TooLong, maxShortField] at *
      omega
    have herror : ¬ f.error.length > maxErrorLen := by
      simp only [Frame.TooLong, maxErrorLen] at *
      omega
    simp only [encode, if_neg hshort, if_neg herror]

example : encode { msgType := [0x74], id := [0x61, 0x62], binary := some [7] } =
    .ok [0x11, 1, 0x74, 2, 0x61, 0x62, 7] := by
  decide

theorem decode_eq_ok_iff {data : Bytes} {frame : Frame} :
    decode data = .ok frame ↔
      ∃ p : V1Frame, p.bytes = data ∧ p.frame = frame := by
  rw [decode_eq_parse, ← parse_eq_ok_iff]
  cases parse data <;> simp [Except.mapError]

/-! An error field may be announced and empty, but not cut. -/

example : decode [0x81, 1, 0x74, 0, 0] =
    .ok { msgType := [0x74], binary := some [] } := by
  decide

example : decode [0x81, 1, 0x74, 0] = .error (.err .malformed) := by
  decide

theorem decode_bytes (p : V1Frame) : decode p.bytes = .ok p.frame :=
  decode_eq_ok_iff.mpr ⟨p, rfl, rfl⟩

/-- Every frame: the encoder refuses it exactly when a field is too long, and
otherwise the decoder gives back the frame up to the ignored control code and
the nil payload.  Hence the encoding determines what the wire keeps. -/
theorem encode_decode_roundTrip :
    (∀ f : Frame, encode f = .error .fieldTooLong ↔ f.TooLong) ∧
      (∀ f : Frame, ¬ f.TooLong →
        ∃ data, encode f = .ok data ∧ decode data = .ok f.normalise) ∧
      ∀ f g : Frame, ¬ f.TooLong → ¬ g.TooLong →
        f.normalise ≠ g.normalise → encode f ≠ encode g := by
  have hround : ∀ f : Frame, ¬ f.TooLong →
      ∃ data, encode f = .ok data ∧ decode data = .ok f.normalise := by
    intro f hfit
    refine ⟨(canonical f hfit).bytes, ?_, ?_⟩
    · rw [encode_eq, dif_neg hfit]
    · rw [decode_bytes, canonical_frame]
  refine ⟨?_, hround, ?_⟩
  · intro f
    rw [encode_eq]
    by_cases hfit : f.TooLong <;> simp [hfit]
  · intro f g hf hg hne hencode
    obtain ⟨data, hfdata, hfdecode⟩ := hround f hf
    obtain ⟨data', hgdata, hgdecode⟩ := hround g hg
    have hdata : data = data' := by
      rw [hencode, hgdata] at hfdata
      exact (Except.ok.inj hfdata).symm
    subst hdata
    rw [hfdecode] at hgdecode
    exact hne (Except.ok.inj hgdecode)

/-- A control code beside a message type is the part that does not survive. -/
theorem roundTrip_ignored_code :
    let f : Frame := { msgType := [0x68, 0x69], controlCode := 0xCA,
                       id := [0x31], binary := none }
    ¬ f.TooLong ∧ ∃ data, encode f = .ok data ∧
      decode data = .ok { f with controlCode := 0, binary := some [] } :=
  ⟨by decide, encode_decode_roundTrip.2.1 _ (by decide)⟩

/-- The length-prefix bytes spent on a flagged field that is empty. -/
def emptyPrefix {bound : Nat} (width : Nat) :
    Option { field : Bytes // field.length ≤ bound } → Nat
  | none => 0
  | some field => if field.1 = [] then width else 0

def V1Frame.emptyPrefixes (p : V1Frame) : Nat :=
  emptyPrefix 1 p.id + emptyPrefix 1 p.responseToID +
    emptyPrefix 1 p.ackID + emptyPrefix 2 p.error

/-- No flagged field has declared length zero. -/
def V1Frame.NoEmptyField (p : V1Frame) : Prop :=
  (∀ field ∈ p.id, field.1 ≠ []) ∧ (∀ field ∈ p.responseToID, field.1 ≠ []) ∧
    (∀ field ∈ p.ackID, field.1 ≠ []) ∧ ∀ field ∈ p.error, field.1 ≠ []

theorem emptyPrefix_eq_zero_iff {width : Nat} (hwidth : width ≠ 0)
    (part : Option { field : Bytes // field.length ≤ bound }) :
    emptyPrefix width part = 0 ↔ ∀ field ∈ part, field.1 ≠ [] := by
  cases part with
  | none => simp [emptyPrefix]
  | some field => by_cases hempty : field.1 = [] <;>
      simp [emptyPrefix, hempty, hwidth]

theorem canonicalPart_fieldValue
    (part : Option { field : Bytes // field.length ≤ bound })
    (hfit : (fieldValue part).length ≤ bound)
    (hne : ∀ field ∈ part, field.1 ≠ []) :
    canonicalPart (fieldValue part) hfit = part := by
  cases part with
  | none => rfl
  | some field => simp [canonicalPart, fieldValue, hne field rfl]

theorem flagged_length (width : Nat)
    (part : Option { field : Bytes // field.length ≤ bound })
    (hfit : (fieldValue part).length ≤ bound) :
    (flagged width (part.map Subtype.val)).length =
      (flagged width ((canonicalPart (fieldValue part) hfit).map
        Subtype.val)).length + emptyPrefix width part := by
  cases part with
  | none => rfl
  | some field => by_cases hempty : field.1 = [] <;>
      simp [canonicalPart, fieldValue, emptyPrefix, flagged, hempty]

theorem fieldValue_length
    (part : Option { field : Bytes // field.length ≤ bound }) :
    (fieldValue part).length ≤ bound := by
  cases part with
  | none => simp [fieldValue]
  | some field => exact field.2

theorem V1Frame.frame_fits (p : V1Frame) : ¬ p.frame.TooLong := by
  have hname : p.head.name.length ≤ 255 := by
    cases p.head with
    | control code => simp [Head.name]
    | msgType name hne => exact name.2
  have hid := fieldValue_length p.id
  have hresponseToID := fieldValue_length p.responseToID
  have hackID := fieldValue_length p.ackID
  have herror := fieldValue_length p.error
  simp only [Frame.TooLong, V1Frame.frame, maxShortField, maxErrorLen] at *
  omega

theorem V1Frame.frame_normalise (p : V1Frame) :
    p.frame.normalise = p.frame := by
  cases hhead : p.head with
  | control code =>
    simp [Frame.normalise, V1Frame.frame, hhead, Head.name, Head.code]
  | msgType name hne =>
    simp [Frame.normalise, V1Frame.frame, hhead, Head.name, Head.code]

theorem canonicalHead_frame (p : V1Frame)
    (hfit : p.frame.msgType.length ≤ maxShortField) :
    canonicalHead p.frame hfit = p.head := by
  cases hhead : p.head with
  | control code =>
    simp [canonicalHead, V1Frame.frame, hhead, Head.name, Head.code]
  | msgType name hne =>
    simp [canonicalHead, V1Frame.frame, hhead, Head.name, hne]

/-- Re-encoding drops exactly the prefixes of the empty flagged fields. -/
theorem V1Frame.bytes_length (p : V1Frame) :
    p.bytes.length =
      (canonical p.frame p.frame_fits).bytes.length + p.emptyPrefixes := by
  have hid := flagged_length 1 p.id (fieldValue_length p.id)
  have hresponseToID := flagged_length 1 p.responseToID
    (fieldValue_length p.responseToID)
  have hackID := flagged_length 1 p.ackID
    (fieldValue_length p.ackID)
  have herror := flagged_length 2 p.error
    (fieldValue_length p.error)
  simp only [V1Frame.bytes, V1Frame.body, canonical, canonicalHead_frame,
    V1Frame.emptyPrefixes, List.length_cons, List.length_append]
  simp only [V1Frame.frame, Option.getD_some] at *
  omega

theorem V1Frame.emptyPrefixes_eq_zero_iff (p : V1Frame) :
    p.emptyPrefixes = 0 ↔ p.NoEmptyField := by
  simp only [V1Frame.emptyPrefixes, Nat.add_eq_zero_iff, V1Frame.NoEmptyField,
    emptyPrefix_eq_zero_iff (Nat.succ_ne_zero _), and_assoc]

theorem V1Frame.canonical_eq (p : V1Frame) (hne : p.NoEmptyField) :
    canonical p.frame p.frame_fits = p := by
  obtain ⟨hid, hresponseToID, hackID, herror⟩ := hne
  have hhead := canonicalHead_frame p
  cases p with
  | mk head id responseToID ackID error binary =>
    simp only [canonical, hhead, V1Frame.mk.injEq]
    exact ⟨trivial, canonicalPart_fieldValue _ _ hid,
      canonicalPart_fieldValue _ _ hresponseToID,
      canonicalPart_fieldValue _ _ hackID,
      canonicalPart_fieldValue _ _ herror, rfl⟩

/-- Every byte string: the decoder stays in range, reports a version error
exactly on a wrong version nibble, accepts exactly the derivable strings with
the derivation's fields, and calls everything else malformed.  Accepted input
re-encodes to a frame with the same meaning, which is the input itself exactly
when no flagged field is empty and is otherwise shorter by the prefixes of
those fields. -/
theorem decode_accepts_grammar (data : Bytes) :
    decode data ≠ .error .outOfRange ∧
      (decode data = .error (.err .version) ↔
        2 ≤ data.length ∧ ∃ first ∈ data.head?, first &&& 0x0F ≠ 1) ∧
      (∀ f, decode data = .ok f ↔
        ∃ p : V1Frame, p.bytes = data ∧ p.frame = f) ∧
      (decode data = .error (.err .malformed) ↔
        ¬ (2 ≤ data.length ∧ ∃ first ∈ data.head?, first &&& 0x0F ≠ 1) ∧
          ¬ ∃ p : V1Frame, p.bytes = data) ∧
      ∀ p : V1Frame, p.bytes = data →
        ∃ encoded, encode p.frame = .ok encoded ∧
          decode encoded = .ok p.frame ∧
          (encoded = data ↔ p.NoEmptyField) ∧
          data.length = encoded.length + p.emptyPrefixes := by
  have hversion : decode data = .error (.err .version) ↔
      2 ≤ data.length ∧ ∃ first ∈ data.head?, first &&& 0x0F ≠ 1 := by
    rw [decode_eq_parse]
    refine Iff.trans ?_ parse_eq_version_iff
    cases parse data <;> simp [Except.mapError]
  refine ⟨?_, hversion, fun f => decode_eq_ok_iff, ?_, ?_⟩
  · rw [decode_eq_parse]
    cases parse data <;> simp [Except.mapError]
  · rw [← hversion]
    have hok : (∃ p : V1Frame, p.bytes = data) ↔ ∃ f, decode data = .ok f := by
      simp [decode_eq_ok_iff]
    rw [hok, decode_eq_parse]
    cases hparse : parse data with
    | ok f => simp [Except.mapError]
    | error e =>
      have hnever : e ≠ .fieldTooLong := by
        rintro rfl
        exact parse_ne_fieldTooLong data hparse
      cases e <;> simp_all [Except.mapError]
  · rintro p rfl
    refine ⟨(canonical p.frame p.frame_fits).bytes, ?_, ?_, ?_,
      p.bytes_length⟩
    · rw [encode_eq, dif_neg p.frame_fits]
    · rw [decode_bytes, canonical_frame, p.frame_normalise]
    · constructor
      · intro heq
        rw [← p.emptyPrefixes_eq_zero_iff]
        have hlength := p.bytes_length
        rw [heq] at hlength
        omega
      · intro hne
        rw [p.canonical_eq hne]

/-- The frame of a heartbeat that flags an empty id. -/
def emptyIDHeartbeat : V1Frame where
  head := .control controlHeartbeat
  id := some ⟨[], by decide⟩
  responseToID := none
  ackID := none
  error := none
  binary := []

theorem accepts_emptyIDHeartbeat :
    emptyIDHeartbeat.bytes = [0x11, 0, 0xCA, 0] ∧
      ∃ encoded, encode emptyIDHeartbeat.frame = .ok encoded ∧
        decode encoded = .ok emptyIDHeartbeat.frame ∧
        (encoded = [0x11, 0, 0xCA, 0] ↔ emptyIDHeartbeat.NoEmptyField) ∧
        4 = encoded.length + 1 :=
  ⟨by decide, (decode_accepts_grammar [0x11, 0, 0xCA, 0]).2.2.2.2
    emptyIDHeartbeat (by decide)⟩

/-! ### Cut frames -/

/-- A derivation whose payload goes on. -/
def V1Frame.extend (p : V1Frame) (more : Bytes) : V1Frame :=
  { p with binary := p.binary ++ more }

theorem V1Frame.bytes_extend (p : V1Frame) (more : Bytes) :
    (p.extend more).bytes = p.bytes ++ more := by
  simp only [V1Frame.bytes, V1Frame.body, V1Frame.extend, V1Frame.first,
    List.cons_append, List.append_assoc]

/-- What is cut off a derivation behind its fields is cut off its payload. -/
theorem V1Frame.length_binary_of_append {p q : V1Frame} {more : Bytes}
    (hbytes : q.bytes ++ more = p.bytes) :
    p.binary.length = q.binary.length + more.length := by
  have hdecode : decode (q.extend more).bytes = decode p.bytes := by
    rw [q.bytes_extend, hbytes]
  rw [decode_bytes, decode_bytes] at hdecode
  have hframe := congrArg Frame.binary (Except.ok.inj hdecode)
  have hbinary : q.binary ++ more = p.binary := Option.some.inj hframe
  rw [← hbinary, List.length_append]

/-- A prefix keeps the version byte, so only a frame or `ErrMalformed` can come
out of it. -/
theorem V1Frame.parse_cut_ne_version (p : V1Frame) {cut : Bytes}
    (hcut : cut <+: p.bytes) : parse cut ≠ .error .version := by
  rw [ne_eq, parse_eq_version_iff]
  rintro ⟨-, first, hfirst, hversion⟩
  obtain ⟨more, hmore⟩ := hcut
  cases cut with
  | nil => cases hfirst
  | cons byte rest =>
    cases hfirst
    rw [V1Frame.bytes, List.cons_append, List.cons.injEq] at hmore
    rw [hmore.1] at hversion
    exact hversion p.first_tests.1

/-- A frame cut in front of its payload is malformed. -/
theorem decode_of_cut {f : Frame} {data cut : Bytes}
    (hencode : encode f = .ok data) (hcut : cut <+: data)
    (hshort : cut.length < data.length - (f.binary.getD []).length) :
    decode cut = .error (.err .malformed) := by
  rw [encode_eq] at hencode
  split at hencode
  · cases hencode
  next hfit =>
    cases hencode
    rw [decode_eq_parse]
    cases hparse : parse cut with
    | ok frame =>
      obtain ⟨q, rfl, -⟩ := parse_eq_ok_iff.mp hparse
      obtain ⟨more, hmore⟩ := hcut
      have hbinary := V1Frame.length_binary_of_append hmore
      have hlength := congrArg List.length hmore
      rw [List.length_append] at hlength
      simp only [canonical] at hbinary
      omega
    | error err =>
      cases err with
      | malformed => rfl
      | version =>
        exact absurd hparse (V1Frame.parse_cut_ne_version _ hcut)
      | fieldTooLong => exact absurd hparse (parse_ne_fieldTooLong cut)

/-- A frame with an ID and an empty payload, without its last byte. -/
theorem decode_of_cut_id :
    encode { msgType := [0x74], id := [0x61, 0x62] } =
        .ok [0x11, 1, 0x74, 2, 0x61, 0x62] ∧
      decode [0x11, 1, 0x74, 2, 0x61] = .error (.err .malformed) :=
  ⟨by decide, @decode_of_cut { msgType := [0x74], id := [0x61, 0x62] }
    [0x11, 1, 0x74, 2, 0x61, 0x62] _ (by decide) ⟨[0x62], rfl⟩ (by decide)⟩

end Wire

end Pipewave
