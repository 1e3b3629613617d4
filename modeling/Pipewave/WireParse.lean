/-
The index-based decoder read as a parser that consumes its input from the
front.  The two agree on every byte string, so the decoder never reads out of
range; encoding and decoding are then compared on the parser.
-/
import Pipewave.WireFrame

namespace Pipewave

section ExceptMonad

variable {ε α β : Type}

@[simp] theorem ok_bind (value : α) (next : α → Except ε β) :
    (Except.ok value >>= next) = next value := rfl

@[simp] theorem error_bind (stop : ε) (next : α → Except ε β) :
    (Except.error stop >>= next) = Except.error stop := rfl

@[simp] theorem pure_eq_ok (value : α) :
    (pure value : Except ε α) = .ok value := rfl

@[simp] theorem throw_eq_error (stop : ε) :
    (throw stop : Except ε α) = .error stop := rfl

end ExceptMonad

namespace Wire

/-- The message-type part taken off the front: a zero byte announces a control
code, any other byte the length of the message type. -/
def takeHead : Bytes → Option ((Bytes × UInt8) × Bytes)
  | [] => none
  | len :: input =>
    if len = 0 then
      match input with
      | [] => none
      | code :: rest => some (([], code), rest)
    else (takePrefixed 1 (len :: input)).map fun read => ((read.1, 0), read.2)

/-- Everything behind the version byte. -/
def parseBody (flags : UInt8) (input : Bytes) : Option Frame := do
  let ((msgType, controlCode), input) ← takeHead input
  let (id, input) ← takeFlagged 1 (flags &&& flagID ≠ 0) input
  let (responseToID, input) ←
    takeFlagged 1 (flags &&& flagResponseToID ≠ 0) input
  let (ackID, input) ← takeFlagged 1 (flags &&& flagAckID ≠ 0) input
  let (error, input) ← takeFlagged 2 (flags &&& flagError ≠ 0) input
  return { msgType, controlCode, id, responseToID, ackID, error,
           binary := some input }

def parse : Bytes → Except WireError Frame
  | first :: second :: input =>
    if first &&& 0x0F ≠ version then .error .version
    else match parseBody (first &&& 0xF0) (second :: input) with
      | none => .error .malformed
      | some frame => .ok frame
  | _ => .error .malformed

/-- An index-based read does what a front parser does: both fail, or the new
position is where the parser's remainder starts in the data. -/
def Reads {α : Type} (data : Bytes) (got : Except Stop (α × Nat))
    (want : Option (α × Bytes)) : Prop :=
  match want with
  | none => got = .error (.err .malformed)
  | some (value, rest) =>
    rest <:+ data ∧ got = .ok (value, data.length - rest.length)

theorem byteAt_append (before : Bytes) (byte : UInt8) (rest : Bytes) :
    byteAt (before ++ byte :: rest) before.length = .ok byte := by
  simp [byteAt]

theorem byteAt_append_succ (before : Bytes) (skipped byte : UInt8)
    (rest : Bytes) :
    byteAt (before ++ skipped :: byte :: rest) (before.length + 1) =
      .ok byte := by
  simp [byteAt]

theorem slice_append (before field rest : Bytes) :
    slice (before ++ field ++ rest) before.length
      (before.length + field.length) = .ok field := by
  simp [slice]

/-- A declared length that does not fit is refused before any slicing. -/
theorem takePrefixed_one_cons (len : UInt8) (rest : Bytes) :
    takePrefixed 1 (len :: rest) =
      if len.toNat ≤ rest.length then
        some (rest.take len.toNat, rest.drop len.toNat)
      else none := by
  simp [takePrefixed, getLen]

theorem takePrefixed_two_cons (high low : UInt8) (rest : Bytes) :
    takePrefixed 2 (high :: low :: rest) =
      if high.toNat * 256 + low.toNat ≤ rest.length then
        some (rest.take (high.toNat * 256 + low.toNat),
          rest.drop (high.toNat * 256 + low.toNat))
      else none := by
  simp [takePrefixed, getLen]

/-- Slicing a fitting length behind a position leaves the parser's remainder. -/
theorem slice_take (before : Bytes) {rest : Bytes} {n : Nat}
    (hfit : n ≤ rest.length) :
    slice (before ++ rest) before.length (before.length + n) =
      .ok (rest.take n) := by
  have hsplit := slice_append before (rest.take n) (rest.drop n)
  rw [List.append_assoc, List.take_append_drop, List.length_take,
    Nat.min_eq_left hfit] at hsplit
  exact hsplit

theorem readShort_append (before : Bytes) (len : UInt8) (rest : Bytes) :
    readShort (before ++ len :: rest) before.length =
      .ok (if len.toNat ≤ rest.length then
        some (rest.take len.toNat, before.length + 1 + len.toNat)
      else none) := by
  have hroom : ¬ before.length ≥ (before ++ len :: rest).length := by simp
  have hbyte := byteAt_append before len rest
  have hsplit : before ++ len :: rest = (before ++ [len]) ++ rest := by simp
  by_cases hfit : len.toNat ≤ rest.length
  · have hin : ¬ before.length + 1 + len.toNat >
        (before ++ len :: rest).length := by
      simp only [List.length_append, List.length_cons]
      omega
    have hslice := slice_take (before ++ [len]) hfit
    simp only [List.length_append, List.length_singleton] at hslice
    simp only [readShort, hroom, ↓reduceIte, hbyte, ok_bind, hin, hfit]
    rw [hsplit, hslice, ok_bind, pure_eq_ok]
  · have hout : before.length + 1 + len.toNat >
        (before ++ len :: rest).length := by
      simp only [List.length_append, List.length_cons]
      omega
    simp only [readShort, hroom, ↓reduceIte, hbyte, ok_bind, hout, hfit,
      pure_eq_ok]

theorem decodeShort_reads (before input : Bytes) (flags flag : UInt8) :
    Reads (before ++ input) (decodeShort (before ++ input) flags flag
      before.length) (takeFlagged 1 (flags &&& flag ≠ 0) input) := by
  by_cases hflag : flags &&& flag = 0
  · simp [Reads, takeFlagged, decodeShort, hflag]
  · simp only [takeFlagged, hflag, ne_eq, not_false_eq_true, decide_true,
      ↓reduceIte, decodeShort]
    cases input with
    | nil => simp [Reads, takePrefixed, getLen, readShort]
    | cons len rest =>
      rw [readShort_append, takePrefixed_one_cons, ok_bind]
      by_cases hfit : len.toNat ≤ rest.length
      · simp only [hfit, ↓reduceIte, Reads, pure_eq_ok]
        refine ⟨⟨before ++ len :: rest.take len.toNat, by simp⟩, ?_⟩
        simp only [List.length_append, List.length_cons, List.length_drop]
        congr 2
        omega
      · simp [hfit, Reads]

theorem shiftLeft_or_eq (high low : UInt8) :
    high.toNat <<< 8 ||| low.toNat = high.toNat * 256 + low.toNat := by
  have hlow : low.toNat < 2 ^ 8 := low.toNat_lt
  rw [← Nat.shiftLeft_add_eq_or_of_lt hlow, Nat.shiftLeft_eq]

theorem decodeError_reads (before input : Bytes) (flags : UInt8) :
    Reads (before ++ input) (decodeError (before ++ input) flags before.length)
      (takeFlagged 2 (flags &&& flagError ≠ 0) input) := by
  by_cases hflag : flags &&& flagError = 0
  · simp [Reads, takeFlagged, decodeError, hflag]
  · simp only [takeFlagged, hflag, ne_eq, not_false_eq_true, decide_true,
      ↓reduceIte, decodeError]
    rcases input with _ | ⟨high, _ | ⟨low, rest⟩⟩
    · simp [Reads, takePrefixed, getLen]
    · simp [Reads, takePrefixed, getLen]
    · have hroom : ¬ before.length + 2 >
          (before ++ high :: low :: rest).length := by
        simp only [List.length_append, List.length_cons]
        omega
      have hhigh := byteAt_append before high (low :: rest)
      have hlow := byteAt_append_succ before high low rest
      have hsplit : before ++ high :: low :: rest =
          (before ++ [high, low]) ++ rest := by simp
      rw [takePrefixed_two_cons]
      simp only [hroom, ↓reduceIte, hhigh, hlow, ok_bind, shiftLeft_or_eq]
      by_cases hfit : high.toNat * 256 + low.toNat ≤ rest.length
      · have hin : ¬ before.length + 2 + (high.toNat * 256 + low.toNat) >
            (before ++ high :: low :: rest).length := by
          simp only [List.length_append, List.length_cons]
          omega
        have hslice := slice_take (before ++ [high, low]) hfit
        simp only [List.length_append, List.length_cons,
          List.length_nil] at hslice
        simp only [hfit, hin, ↓reduceIte, Reads]
        refine ⟨⟨before ++ high :: low ::
          rest.take (high.toNat * 256 + low.toNat), by simp⟩, ?_⟩
        rw [hsplit, hslice]
        simp only [ok_bind, pure_eq_ok, List.length_append, List.length_cons,
          List.length_nil, List.length_drop]
        congr 2
        omega
      · have hout : before.length + 2 + (high.toNat * 256 + low.toNat) >
            (before ++ high :: low :: rest).length := by
          simp only [List.length_append, List.length_cons]
          omega
        simp only [hfit, hout, ↓reduceIte, Reads, throw_eq_error, error_bind]

theorem decodeHead_reads (before : Bytes) (len : UInt8) (input : Bytes) :
    Reads (before ++ len :: input)
      (decodeHead (before ++ len :: input) len.toNat (before.length + 1))
      (takeHead (len :: input)) := by
  by_cases hzero : len = 0
  · subst hzero
    cases input with
    | nil => simp [Reads, takeHead, decodeHead]
    | cons code rest =>
      have hroom : ¬ before.length + 1 ≥
          (before ++ 0 :: code :: rest).length := by simp
      have hcode := byteAt_append_succ before 0 code rest
      simp only [takeHead, decodeHead, UInt8.toNat_zero, ↓reduceIte, hroom,
        hcode, ok_bind, pure_eq_ok, Reads]
      refine ⟨⟨before ++ [0, code], by simp⟩, ?_⟩
      simp only [List.length_append, List.length_cons]
      congr 2
      omega
  · have hne : len.toNat ≠ 0 := fun h => hzero (UInt8.toNat_inj.mp h)
    have hsplit : before ++ len :: input = (before ++ [len]) ++ input := by simp
    simp only [takeHead, hzero, takePrefixed_one_cons, decodeHead, hne,
      ↓reduceIte]
    by_cases hfit : len.toNat ≤ input.length
    · have hin : ¬ before.length + 1 + len.toNat >
          (before ++ len :: input).length := by
        simp only [List.length_append, List.length_cons]
        omega
      have hslice := slice_take (before ++ [len]) hfit
      simp only [List.length_append, List.length_singleton] at hslice
      simp only [hfit, hin, ↓reduceIte, Option.map_some, Reads]
      refine ⟨⟨before ++ len :: input.take len.toNat, by simp⟩, ?_⟩
      rw [hsplit, hslice]
      simp only [ok_bind, pure_eq_ok, List.length_append, List.length_cons,
        List.length_nil, List.length_drop]
      congr 2
      omega
    · have hout : before.length + 1 + len.toNat >
          (before ++ len :: input).length := by
        simp only [List.length_append, List.length_cons]
        omega
      simp only [hfit, hout, ↓reduceIte, Option.map_none, Reads,
        throw_eq_error, error_bind]

/-- The two results a decoding step and a parsing step may share. -/
def Agrees {β : Type} (got : Except Stop β) (want : Option β) : Prop :=
  got = match want with
    | none => .error (.err .malformed)
    | some value => .ok value

/-- Sequencing: a read followed by steps that agree behind every split of the
data agrees as a whole. -/
theorem Reads.bind {α β : Type} {data : Bytes} {got : Except Stop (α × Nat)}
    {want : Option (α × Bytes)} (hreads : Reads data got want)
    {next : α × Nat → Except Stop β} {cont : α × Bytes → Option β}
    (hnext : ∀ value before rest, data = before ++ rest →
      Agrees (next (value, before.length)) (cont (value, rest))) :
    Agrees (got >>= next) (want >>= cont) := by
  cases want with
  | none =>
    simp only [Reads] at hreads
    rw [hreads]
    rfl
  | some read =>
    obtain ⟨⟨before, rfl⟩, hgot⟩ := hreads
    have hpos : (before ++ read.2).length - read.2.length =
        before.length := by simp
    rw [hgot, hpos]
    exact hnext read.1 before read.2 rfl

theorem decode_body_agrees (first second : UInt8) (input : Bytes)
    (hversion : first &&& 0x0F = version) :
    Agrees (decode (first :: second :: input))
      (parseBody (first &&& 0xF0) (second :: input)) := by
  have hlong : ¬ (first :: second :: input).length < 2 := by simp
  have hfirst : byteAt (first :: second :: input) 0 = .ok first := rfl
  have hsecond : byteAt (first :: second :: input) 1 = .ok second := rfl
  simp only [decode, hlong, ↓reduceIte, hfirst, ok_bind, hversion, ne_eq,
    not_true_eq_false, hsecond, parseBody]
  refine (decodeHead_reads [first] second input).bind ?_
  rintro ⟨msgType, controlCode⟩ before rest hdata
  simp only [List.singleton_append] at hdata
  rw [hdata]
  refine (decodeShort_reads before rest _ _).bind ?_
  intro id before rest hdata
  rw [hdata]
  refine (decodeShort_reads before rest _ _).bind ?_
  intro responseToID before rest hdata
  rw [hdata]
  refine (decodeShort_reads before rest _ _).bind ?_
  intro ackID before rest hdata
  rw [hdata]
  refine (decodeError_reads before rest _).bind ?_
  intro error before rest hdata
  have hbinary : slice (before ++ rest) before.length
      (before ++ rest).length = .ok rest := by
    simp [slice]
  simp only [Agrees, hdata, hbinary, ok_bind, pure_eq_ok]
  rfl

/-- The index-based decoder and the front parser are the same function; in
particular no read of the decoder is out of range. -/
theorem decode_eq_parse (data : Bytes) :
    decode data = (parse data).mapError Stop.err := by
  match data with
  | [] => rfl
  | [_] => rfl
  | first :: second :: input =>
    by_cases hversion : first &&& 0x0F = version
    · have hbody := decode_body_agrees first second input hversion
      unfold Agrees at hbody
      rw [hbody]
      simp only [parse, hversion, ne_eq, not_true_eq_false, ↓reduceIte]
      cases parseBody (first &&& 0xF0) (second :: input) <;> rfl
    · have hfirst : byteAt (first :: second :: input) 0 = .ok first := rfl
      simp [decode, parse, hfirst, hversion, Except.mapError]

end Wire

end Pipewave
