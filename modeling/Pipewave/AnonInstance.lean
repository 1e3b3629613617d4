/-
The instance ids of anonymous clients: a nano id and the second it was minted,
signed.  A token is read by two cuts at the first separator and a decimal
number, all of them over what the client sent.
-/
import Pipewave.Decimal
import Pipewave.GoTime
import Pipewave.Separator

namespace Pipewave

open Decimal

open GoTime (sub unix)

namespace AnonInstance

def dot : UInt8 := 0x2E
def colon : UInt8 := 0x3A

/-- Six hours in nanoseconds. -/
def anonymousInstanceMaxAge : Int := 6 * (60 * 60 * 10 ^ 9)

/-- What is used of the signature is that it is some text without a dot. -/
structure Signer where
  mac : Bytes → Bytes
  mac_ne_nil : ∀ payload, mac payload ≠ []
  dot_not_mem : ∀ payload, dot ∉ mac payload

structure NanoID where
  value : Bytes
  ne_nil : value ≠ []
  dot_not_mem : dot ∉ value
  colon_not_mem : colon ∉ value

namespace Signer

variable (s : Signer)

def sign (payload : Bytes) : Bytes := payload ++ [dot] ++ s.mac payload

def verify (token : Bytes) (now : Int) : Bool :=
  match cut dot token with
  | none => false
  | some (payload, sig) =>
    if payload = [] ∨ sig = [] then false
    else if sig ≠ s.mac payload then false
    else match cut colon payload with
      | none => false
      | some (_, mintedAtStr) => match parseInt mintedAtStr with
        | none => false
        | some mintedAt =>
          decide (sub now (unix mintedAt) ≤ anonymousInstanceMaxAge)

/-- The header is the empty string if it is missing. -/
def readAnonymousInstanceID (header : Bytes) (now : Int) : Option Bytes :=
  if header = [] ∨ s.verify header now = false then none else some header

/-- The payload of a token minted in the second `mintedAt`. -/
def payload (id : NanoID) (mintedAt : Int) : Bytes :=
  id.value ++ [colon] ++ formatInt mintedAt

/-- The clock is read once for the presented token and once for a new one. -/
def mintOrReadAnonymousInstanceID (header : Bytes) (id : NanoID)
    (readAt mintAt : Int) : Bytes :=
  match s.readAnonymousInstanceID header readAt with
  | some token => token
  | none => s.sign (payload id (mintAt / 10 ^ 9))

end Signer

/-- Seconds for which no time arithmetic wraps around. -/
def InRange (sec : Int) : Prop := -2 ^ 61 < sec ∧ sec < 2 ^ 61

/-- The number behind the first colon in front of the first dot. -/
def payloadTime (token : Bytes) : Option Int :=
  (cut dot token).bind fun parts =>
    (cut colon parts.1).bind fun fields => parseInt fields.2

/-- The token is a signed payload with the mint time `m`. -/
def Genuine (s : Signer) (token : Bytes) (m : Int) : Prop :=
  ∃ payload id field, token = joined dot payload (s.mac payload) ∧
    payload ≠ [] ∧ dot ∉ payload ∧ payload = joined colon id field ∧
    colon ∉ id ∧ parseInt field = some m

/-- At most six hours have passed since the second `m`. -/
def Fresh (now m : Int) : Prop := now - m * 10 ^ 9 ≤ 6 * 60 * 60 * 10 ^ 9

/-- Tokens are accepted exactly while they are genuine and fresh. -/
structure Lifecycle (s : Signer) : Prop where
  accepted : ∀ token now, (∀ m, payloadTime token = some m → InRange m) →
    (s.verify token now = true ↔ ∃ m, Genuine s token m ∧ Fresh now m)
  minted : ∀ id m now, InRange m →
    (s.verify (s.sign (Signer.payload id m)) now = true ↔ Fresh now m)
  presented : ∀ header id readAt mintAt, s.verify header readAt = true →
    s.mintOrReadAnonymousInstanceID header id readAt mintAt = header
  fresh : ∀ header id readAt mintAt, s.verify header readAt = false →
    InRange (mintAt / 10 ^ 9) →
      let token := s.mintOrReadAnonymousInstanceID header id readAt mintAt
      token = s.sign (Signer.payload id (mintAt / 10 ^ 9)) ∧
        s.verify token mintAt = true

theorem sub_unix_le_iff {now m : Int} (hrange : InRange m) :
    sub now (unix m) ≤ anonymousInstanceMaxAge ↔ Fresh now m := by
  obtain ⟨hlow, hhigh⟩ := hrange
  have hunix : unix m = m * 10 ^ 9 := by
    apply GoTime.unix_eq
    · rw [GoTime.minDuration]
      omega
    · rw [GoTime.unixToInternal, GoTime.maxDuration]
      omega
  rw [hunix, GoTime.sub_le_iff (by decide) (by decide), Fresh,
    anonymousInstanceMaxAge]
  omega

section Signed

variable {s : Signer}

theorem sign_eq_joined (payload : Bytes) :
    s.sign payload = joined dot payload (s.mac payload) := by
  simp [Signer.sign, joined]

theorem genuine_payloadTime {token : Bytes} {m : Int}
    (hgenuine : Genuine s token m) : payloadTime token = some m := by
  obtain ⟨payload, id, field, rfl, -, hdot, rfl, hcolon, hparse⟩ := hgenuine
  rw [payloadTime, cut_joined hdot, Option.bind_some, cut_joined hcolon,
    Option.bind_some, hparse]

/-- `verify` is the check of the signature and of the age. -/
theorem verify_eq_true_iff (token : Bytes) (now : Int) :
    s.verify token now = true ↔
      ∃ m, Genuine s token m ∧ sub now (unix m) ≤ anonymousInstanceMaxAge := by
  constructor
  · intro hverify
    unfold Signer.verify at hverify
    split at hverify
    · cases hverify
    next payload sig hcut =>
      obtain ⟨hdot, rfl⟩ := cut_eq_some_iff.mp hcut
      split at hverify
      · cases hverify
      next hparts =>
        split at hverify
        · cases hverify
        next hsig =>
          split at hverify
          · cases hverify
          next id field hcut' =>
            obtain ⟨hcolon, hpayload⟩ := cut_eq_some_iff.mp hcut'
            split at hverify
            · cases hverify
            next m hparse =>
              refine ⟨m, ⟨payload, id, field, ?_, ?_, hdot, hpayload, hcolon,
                hparse⟩, of_decide_eq_true hverify⟩
              · rw [Decidable.not_not.mp hsig]
              · exact fun hnil => hparts (.inl hnil)
  · rintro ⟨m, ⟨payload, id, field, rfl, hnil, hdot, hpayload, hcolon,
      hparse⟩, hage⟩
    have hparts : ¬ (payload = [] ∨ s.mac payload = []) := by
      rw [not_or]
      exact ⟨hnil, s.mac_ne_nil payload⟩
    have hcut : cut colon payload = some (id, field) :=
      cut_eq_some_iff.mpr ⟨hcolon, hpayload⟩
    simp only [Signer.verify, cut_joined hdot, if_neg hparts, ne_eq,
      not_true_eq_false, if_false, hcut, hparse]
    exact decide_eq_true hage

theorem genuine_mint (id : NanoID) {m : Int} (hrange : InRange m) :
    Genuine s (s.sign (Signer.payload id m)) m := by
  obtain ⟨hlow, hhigh⟩ := hrange
  refine ⟨Signer.payload id m, id.value, formatInt m, sign_eq_joined _, ?_, ?_,
    ?_, id.colon_not_mem, ?_⟩
  · simp [Signer.payload]
  · simp only [Signer.payload, List.mem_append, List.mem_singleton, not_or]
    refine ⟨⟨id.dot_not_mem, by decide⟩, fun hdot => ?_⟩
    exact absurd (mem_formatInt hdot) (by decide)
  · simp [Signer.payload, joined]
  · apply parseInt_formatInt <;> omega

theorem verify_mint_iff (id : NanoID) {m : Int} (hrange : InRange m)
    (now : Int) :
    s.verify (s.sign (Signer.payload id m)) now = true ↔ Fresh now m := by
  have hgenuine : Genuine s (s.sign (Signer.payload id m)) m :=
    genuine_mint id hrange
  rw [verify_eq_true_iff, ← sub_unix_le_iff hrange]
  constructor
  · rintro ⟨m', hgenuine', hage⟩
    -- A token has one mint time.
    have htime := genuine_payloadTime hgenuine'
    rw [genuine_payloadTime hgenuine] at htime
    cases htime
    exact hage
  · intro hage
    exact ⟨m, hgenuine, hage⟩

theorem read_of_verify {header : Bytes} {now : Int}
    (hverify : s.verify header now = true) :
    s.readAnonymousInstanceID header now = some header := by
  rw [Signer.readAnonymousInstanceID, if_neg]
  rintro (rfl | hfalse)
  · cases hverify
  · rw [hverify] at hfalse
    cases hfalse

theorem token_ne_nil_of_read {header token : Bytes} {now : Int}
    (hread : s.readAnonymousInstanceID header now = some token) :
    token ≠ [] := by
  rw [Signer.readAnonymousInstanceID, Option.ite_none_left_eq_some] at hread
  obtain ⟨hvalid, hheader⟩ := hread
  cases hheader
  exact fun hempty => hvalid (.inl hempty)

end Signed

/-- Acceptance, minting and reading of tokens, whatever the signature is. -/
theorem token_lifecycle (s : Signer) : Lifecycle s where
  accepted := by
    intro token now hrange
    rw [verify_eq_true_iff]
    refine exists_congr fun m => and_congr_right fun hgenuine => ?_
    exact sub_unix_le_iff (hrange m (genuine_payloadTime hgenuine))
  minted := by
    intro id m now hrange
    exact verify_mint_iff id hrange now
  presented := by
    intro header id readAt mintAt hverify
    rw [Signer.mintOrReadAnonymousInstanceID, read_of_verify hverify]
  fresh := by
    intro header id readAt mintAt hverify hrange
    have htoken : s.mintOrReadAnonymousInstanceID header id readAt mintAt =
        s.sign (Signer.payload id (mintAt / 10 ^ 9)) := by
      rw [Signer.mintOrReadAnonymousInstanceID,
        Signer.readAnonymousInstanceID, if_pos (.inr hverify)]
    refine ⟨htoken, ?_⟩
    rw [htoken, verify_mint_iff id hrange, Fresh]
    omega

/-- Every payload is signed with the letter `x`. -/
def letterSigner : Signer where
  mac _ := [0x78]
  mac_ne_nil _ := by decide
  dot_not_mem _ := by decide

def letterID : NanoID where
  value := [0x61]
  ne_nil := by decide
  dot_not_mem := by decide
  colon_not_mem := by decide

/-- The token `a:100.x` up to six hours after its second and one nanosecond
later, when a new one is minted in its place. -/
theorem token_lifecycle_letter :
    let token := letterSigner.sign (Signer.payload letterID 100)
    token = [0x61, 0x3A, 0x31, 0x30, 0x30, 0x2E, 0x78] ∧
      letterSigner.verify token (21700 * 10 ^ 9) = true ∧
      letterSigner.mintOrReadAnonymousInstanceID token letterID
        (21700 * 10 ^ 9 + 1) (21700 * 10 ^ 9 + 1) =
        letterSigner.sign (Signer.payload letterID 21700) :=
  ⟨by decide +kernel,
    ((token_lifecycle letterSigner).minted letterID 100 _
      (by unfold InRange; decide)).mpr (by unfold Fresh; decide),
    ((token_lifecycle letterSigner).fresh _ letterID _ _ (by decide +kernel)
      (by unfold InRange; decide)).1⟩

end AnonInstance

end Pipewave
