/-
**What can be wrong with a token, and what with a key.**

* `Token.Undecodable` lists what can be wrong with a token by itself, and `undecodable_iff`: exactly
  the tokens that nothing can be read of;
* `Key.Unusable` lists what can be wrong with a key, and `verifier?_eq_error_iff`: exactly the keys
  that no signature is checked under, each for its flaw;
* `KeyNumbers.key?_eq_none_iff`: a published key is none if one of its numbers is not base64url, and
  `key?_eq_edwardsCurve_iff`: an Edwards curve key has the octets that are spelt;
* `verify_compact`: a token that can be read is checked for its algorithm, its key and its
  signature, in this order.
-/

import ClientAssertion.Proofs.Jose.Token

namespace ClientAssertion

/-! ### Tokens -/

namespace Token

theorem Parts.of?_eq_none_iff {token : String} :
    Parts.of? token = none ↔ token.toList.count '.' < 2 := by
  unfold Parts.of?
  cases outer : splitLastDot? token.toList with
  | none =>
    have free := splitLastDot?_eq_none_iff.mp outer
    simp [List.count_eq_zero.mpr free]
  | some cut =>
    obtain ⟨signed, signature⟩ := cut
    obtain ⟨whole, signatureFree⟩ := splitLastDot?_eq_some_iff.mp outer
    have dots : token.toList.count '.' = signed.count '.' + 1 := by
      rw [whole, List.count_append, List.count_cons_self, List.count_eq_zero.mpr signatureFree]
    cases inner : splitLastDot? signed with
    | none =>
      have free := splitLastDot?_eq_none_iff.mp inner
      simp [inner, dots, List.count_eq_zero.mpr free]
    | some pair =>
      have dotted : '.' ∈ signed := by
        by_contra free
        rw [splitLastDot?_eq_none_iff.mpr free] at inner
        cases inner
      have := List.count_pos_iff.mpr dotted
      simp only [inner, Option.bind_eq_bind, Option.bind_some, reduceCtorEq, false_iff, dots]
      omega

/-- **What can be wrong with a token by itself**: it has fewer than two dots, one of its parts is not
unpadded base64url, its header is no readable header with a known algorithm, or its payload is not
readable as claims. -/
inductive Undecodable (token : String) : Prop where
  | parts (few : token.toList.count '.' < 2) : Undecodable token
  | part {parts : Parts} {part : List Char} (cut : Parts.of? token = some parts)
      (listed : part ∈ [parts.header, parts.payload, parts.signature])
      (foreign : ∀ octets, part ≠ Base64Url.encodeChars octets) : Undecodable token
  | header {parts : Parts} {octets : Bytes} (cut : Parts.of? token = some parts)
      (spelt : parts.header = Base64Url.encodeChars octets)
      (unreadable : Header.read? octets = none) : Undecodable token
  | claims {parts : Parts} {octets : Bytes} (cut : Parts.of? token = some parts)
      (spelt : parts.payload = Base64Url.encodeChars octets)
      (unreadable : Claims.ofPayload? octets = none) : Undecodable token

/-- **Something is wrong with a token exactly when it cannot be read.** -/
theorem undecodable_iff {token : String} :
    Undecodable token ↔ ∀ decoded, ¬Reads token decoded := by
  constructor
  · rintro wrong decoded ⟨header, payload, signature, rfl, isHeader, isClaims⟩
    have cut := Parts.of?_compact header payload signature
    cases wrong with
    | parts few =>
      rw [Parts.of?_eq_none_iff.mpr few] at cut
      cases cut
    | part other listed foreign =>
      obtain rfl := Option.some.inj (other.symm.trans cut)
      have spelt : _ ∈ [header, payload, signature].map Base64Url.encodeChars := listed
      obtain ⟨octets, -, rfl⟩ := List.mem_map.mp spelt
      exact foreign octets rfl
    | header other spelt unreadable =>
      obtain rfl := Option.some.inj (other.symm.trans cut)
      obtain rfl := Base64Url.encodeChars_injective spelt
      rw [isHeader] at unreadable
      cases unreadable
    | claims other spelt unreadable =>
      obtain rfl := Option.some.inj (other.symm.trans cut)
      obtain rfl := Base64Url.encodeChars_injective spelt
      rw [isClaims] at unreadable
      cases unreadable
  · intro unread
    cases cut : Parts.of? token with
    | none => exact .parts (Parts.of?_eq_none_iff.mp cut)
    | some parts =>
      by_cases spelt : ∀ part ∈ [parts.header, parts.payload, parts.signature],
        ∃ octets, part = Base64Url.encodeChars octets
      case neg =>
        simp only [Classical.not_forall, not_exists] at spelt
        obtain ⟨part, listed, foreign⟩ := spelt
        exact .part cut listed foreign
      obtain ⟨header, headerPart⟩ := spelt parts.header (by simp)
      obtain ⟨payload, payloadPart⟩ := spelt parts.payload (by simp)
      obtain ⟨signature, signaturePart⟩ := spelt parts.signature (by simp)
      cases isHeader : Header.read? header with
      | none => exact .header cut headerPart isHeader
      | some found =>
        cases isClaims : Claims.ofPayload? payload with
        | none => exact .claims cut payloadPart isClaims
        | some claims =>
          have written : token = compact header payload signature := by
            rw [← String.toList_inj, toList_compact, ← headerPart, ← payloadPart, ← signaturePart]
            exact (Parts.of?_eq_some_iff.mp cut).1
          exact absurd ⟨header, payload, signature, written, isHeader, isClaims⟩
            (unread ⟨found, claims⟩)

end Token

/-! ### Keys -/

/-- The curve that the keys of an algorithm are points of. -/
def Algorithm.curve? : Algorithm → Option Ecdsa.Curve
  | .es256 => some Ecdsa.p256
  | .es384 => some Ecdsa.p384
  | _ => none

namespace Key

/-- **What can be wrong with a key**: it is of another family than the algorithm's, its octets are no
point of the algorithm's curve, or they are too few for a point of the Edwards curve. -/
inductive Unusable : Key → Algorithm → TokenFlaw → Prop where
  | foreign {key : Key} {algorithm : Algorithm} (other : key.family ≠ algorithm.family) :
      Unusable key algorithm .keyFormat
  | curve {octets : Bytes} {algorithm : Algorithm} {curve : Ecdsa.Curve}
      (used : algorithm.curve? = some curve) (outside : curve.point? octets = none) :
      Unusable (.ellipticCurve octets) algorithm .ellipticCurveKey
  | short {octets : Bytes} (few : octets.length < 32) :
      Unusable (.edwardsCurve octets) .edDSA .edwardsKeyLength
  | edwardsCurve {octets : Bytes} (enough : 32 ≤ octets.length)
      (outside : Ed25519.point? (octets.take 32) = none) :
      Unusable (.edwardsCurve octets) .edDSA .edwardsCurveKey

theorem verifier?_of_family_ne {key : Key} {algorithm : Algorithm}
    (other : key.family ≠ algorithm.family) : key.verifier? algorithm = .error .keyFormat := by
  cases key <;> cases algorithm <;> first | rfl | exact absurd rfl other

theorem verifier?_ellipticCurve {algorithm : Algorithm} {curve : Ecdsa.Curve}
    (used : algorithm.curve? = some curve) (octets : Bytes) :
    (Key.ellipticCurve octets).verifier? algorithm = checkCurve curve octets := by
  cases algorithm <;> cases used <;> rfl

theorem verifier?_of_short {octets : Bytes} (few : octets.length < 32) :
    (Key.edwardsCurve octets).verifier? .edDSA = .error .edwardsKeyLength := if_pos few

/-- Of an Edwards curve key that is long enough the first 32 octets are used. -/
theorem verifier?_edwardsCurve {octets : Bytes} (enough : 32 ≤ octets.length) :
    (Key.edwardsCurve octets).verifier? .edDSA =
      (Ed25519.point? (octets.take 32)).elim (.error .edwardsCurveKey) fun point =>
        .ok (Ed25519.verify (octets.take 32) point) :=
  if_neg (Nat.not_lt.mpr enough)

/-- **Exactly an unusable key checks no signature.** -/
theorem verifier?_eq_error_iff {key : Key} {algorithm : Algorithm} {flaw : TokenFlaw} :
    key.verifier? algorithm = .error flaw ↔ key.Unusable algorithm flaw := by
  constructor
  · intro unprepared
    by_cases other : key.family ≠ algorithm.family
    · rw [verifier?_of_family_ne other] at unprepared
      obtain rfl := Except.error.inj unprepared
      exact .foreign other
    have same := of_not_not other
    cases key with
    | secret octets | rsa key => cases algorithm <;> cases same <;> cases unprepared
    | ellipticCurve octets =>
      obtain ⟨curve, used⟩ : ∃ curve, algorithm.curve? = some curve := by
        cases algorithm <;> cases same <;> exact ⟨_, rfl⟩
      rw [verifier?_ellipticCurve used, checkCurve] at unprepared
      split at unprepared
      case h_1 => cases unprepared
      case h_2 outside =>
        obtain rfl := Except.error.inj unprepared
        exact .curve used outside
    | edwardsCurve octets =>
      obtain rfl : algorithm = .edDSA := by cases algorithm <;> cases same; rfl
      by_cases few : octets.length < 32
      · rw [verifier?_of_short few] at unprepared
        obtain rfl := Except.error.inj unprepared
        exact .short few
      have enough := Nat.not_lt.mp few
      rw [verifier?_edwardsCurve enough] at unprepared
      cases found : Ed25519.point? (octets.take 32) with
      | none =>
        rw [found] at unprepared
        obtain rfl := Except.error.inj unprepared
        exact .edwardsCurve enough found
      | some point =>
        rw [found] at unprepared
        cases unprepared
  · intro unusable
    cases unusable with
    | foreign other => exact verifier?_of_family_ne other
    | curve used outside => rw [verifier?_ellipticCurve used, checkCurve, outside]
    | short few => exact verifier?_of_short few
    | edwardsCurve enough outside => rw [verifier?_edwardsCurve enough, outside, Option.elim_none]

end Key

namespace KeyNumbers

/-- The numbers of a key in written form. -/
def written : KeyNumbers → List String
  | .ellipticCurve _ x y => [x, y]
  | .rsa n e => [n, e]
  | .secret k => [k]
  | .edwardsCurve _ x => [x]

/-- **A published key is none exactly when one of its numbers is not unpadded base64url.** -/
theorem key?_eq_none_iff {numbers : KeyNumbers} :
    numbers.key? = none ↔ ∃ text ∈ numbers.written, ∀ octets, text ≠ Base64Url.encode octets := by
  simp only [← Base64Url.decode?_eq_none_iff]
  cases numbers with
  | ellipticCurve curve x y =>
    cases first : Base64Url.decode? x <;> cases second : Base64Url.decode? y <;>
      simp [key?, written, first, second]
  | rsa n e =>
    cases first : Base64Url.decode? n <;> cases second : Base64Url.decode? e <;>
      simp [key?, written, first, second]
  | secret k => simp [key?, written]
  | edwardsCurve curve x => simp [key?, written]

/-- A published key is of the family that it says. -/
theorem family_of_key? {numbers : KeyNumbers} {key : Key} (spelt : numbers.key? = some key) :
    key.family = numbers.family := by
  cases numbers with
  | ellipticCurve curve x y =>
    simp only [key?, Option.bind_eq_bind, Option.bind_eq_some_iff] at spelt
    obtain ⟨_, -, _, -, same⟩ := spelt
    obtain rfl := Option.some.inj same
    rfl
  | rsa n e =>
    simp only [key?, Option.bind_eq_bind, Option.bind_eq_some_iff] at spelt
    obtain ⟨_, -, _, -, same⟩ := spelt
    obtain rfl := Option.some.inj same
    rfl
  | secret k =>
    obtain ⟨_, -, rfl⟩ := Option.map_eq_some_iff.mp spelt
    rfl
  | edwardsCurve curve x =>
    obtain ⟨_, -, rfl⟩ := Option.map_eq_some_iff.mp spelt
    rfl

/-- **The octets of an Edwards curve key are what its number spells**, however many they are. -/
theorem key?_eq_edwardsCurve_iff {numbers : KeyNumbers} {octets : Bytes} :
    numbers.key? = some (.edwardsCurve octets) ↔
      ∃ curve, numbers = .edwardsCurve curve (Base64Url.encode octets) := by
  constructor
  · intro spelt
    have family := family_of_key? spelt
    cases numbers with
    | ellipticCurve | rsa | secret => cases family
    | edwardsCurve curve x =>
      obtain ⟨whole, read, same⟩ := Option.map_eq_some_iff.mp spelt
      obtain rfl := Key.edwardsCurve.inj same
      obtain rfl := Base64Url.decode?_eq_some_iff.mp read
      exact ⟨curve, rfl⟩
  · rintro ⟨curve, rfl⟩
    rw [key?, Base64Url.decode?_eq_some_iff.mpr rfl, Option.map_some]

end KeyNumbers

/-! ### Readable tokens -/

/-- **A token that can be read is checked for its algorithm, its key and its signature**, in this
order. -/
theorem Token.verify_compact {algorithm : Algorithm} {key : Key} {header payload signature : Bytes}
    {decoded : Decoded} (isHeader : Header.read? header = some decoded.header)
    (isClaims : Claims.ofPayload? payload = some decoded.claims) :
    Token.verify algorithm key (compact header payload signature) =
      if decoded.header.algorithm ≠ algorithm then .error .algorithm
      else
        match key.verifier? algorithm with
        | .error flaw => .error flaw
        | .ok check =>
          if check (Bytes.ofText (signingInput header payload)) signature then .ok decoded
          else .error .signature := by
  have headed : decodeHeader (Base64Url.encodeChars header) = .ok decoded.header :=
    decodeHeader_eq_ok_iff.mpr ⟨header, rfl, isHeader⟩
  have claimed : decodePayload (Base64Url.encodeChars payload) = .ok decoded.claims :=
    decodePayload_eq_ok_iff.mpr ⟨payload, rfl, isClaims⟩
  have signed := Parts.signed_ofOctets header payload signature
  rw [Token.verify, Parts.of?_compact]
  simp only [Parts.ofOctets] at signed
  simp only [orFlaw, bind, Except.bind, Parts.ofOctets, headed, signed, claimed,
    Base64Url.decodeChars?_encodeChars]
  cases key.verifier? algorithm <;> rfl

end ClientAssertion
