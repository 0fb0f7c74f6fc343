/-
**What a signed token in compact form is.**

* `splitLastDot?_eq_some_iff`: a text is cut at its last dot, and `Parts.of?_eq_some_iff`: a token
  at its last two;
* `compact` writes three octet strings as a token, and `signingInput` is what is signed of it;
* `Key.Accepts` says that a signature is right under a key, which has to be of the algorithm's
  family, and `Key.accepts_secret_iff`: under a secret there is one right signature;
* `Reads` says what can be read of a token without any key;
* `Signed` says that a token is the compact form of a header with the algorithm, readable claims and
  a right signature, and `verify_eq_ok_iff`: exactly these tokens pass, whatever they claim.
-/

import ClientAssertion.Jose.Token
import ClientAssertion.Proofs.Base64Url
import Mathlib.Tactic.ByContra

namespace ClientAssertion

/-! ### Keys -/

/-- The digest of a message authentication code. -/
def Algorithm.mac? : Algorithm → Option Hash
  | .hs256 => some .sha256
  | .hs384 => some .sha384
  | .hs512 => some .sha512
  | _ => none

theorem Algorithm.isMac_eq_isSome (algorithm : Algorithm) :
    algorithm.isMac = algorithm.mac?.isSome := by
  cases algorithm <;> rfl

namespace Key

/-- A signature of an algorithm is right for a message under a key. -/
def Accepts (key : Key) (algorithm : Algorithm) (message : String) (signature : Bytes) : Prop :=
  ∃ check, key.verifier? algorithm = .ok check ∧ check (Bytes.ofText message) signature = true

/-- Only a key of the algorithm's family checks signatures. -/
theorem family_of_verifier? {key : Key} {algorithm : Algorithm} {check : Check}
    (prepared : key.verifier? algorithm = .ok check) : key.family = algorithm.family := by
  cases key <;> cases algorithm <;> first | rfl | cases prepared

theorem Accepts.family {key : Key} {algorithm : Algorithm} {message : String} {signature : Bytes}
    (accepts : key.Accepts algorithm message signature) : key.family = algorithm.family := by
  obtain ⟨_, prepared, -⟩ := accepts
  exact family_of_verifier? prepared

theorem verifier?_secret {algorithm : Algorithm} {hash : Hash} (mac : algorithm.mac? = some hash)
    (secret : Bytes) : (Key.secret secret).verifier? algorithm = .ok (checkMac hash secret) := by
  cases algorithm <;> cases mac <;> rfl

/-- **Under a secret, a message has exactly one right signature**: the whole code. -/
theorem accepts_secret_iff {algorithm : Algorithm} {hash : Hash} (mac : algorithm.mac? = some hash)
    (secret : Bytes) (message : String) (signature : Bytes) :
    (Key.secret secret).Accepts algorithm message signature ↔
      signature = hash.hmac secret (Bytes.ofText message) := by
  unfold Accepts
  rw [verifier?_secret mac]
  constructor
  · rintro ⟨check, prepared, right⟩
    obtain rfl := Except.ok.inj prepared
    exact (beq_iff_eq.mp right).symm
  · rintro rfl
    exact ⟨_, rfl, beq_self_eq_true _⟩

end Key

namespace Token

/-! ### Parts -/

theorem splitLastDot?_eq_none_iff {chars : List Char} : splitLastDot? chars = none ↔ '.' ∉ chars := by
  induction chars with
  | nil => simp [splitLastDot?]
  | cons char chars hypothesis =>
    cases parts : splitLastDot? chars with
    | none =>
      have free := hypothesis.mp parts
      by_cases dot : char = '.'
      · simp [splitLastDot?, parts, dot]
      · simp [splitLastDot?, parts, dot, free, Ne.symm dot]
    | some pair =>
      have dotted : '.' ∈ chars := by
        by_contra free
        rw [hypothesis.mpr free] at parts
        cases parts
      simp [splitLastDot?, parts, dotted]

/-- **The last dot separates.** -/
theorem splitLastDot?_eq_some_iff {chars before after : List Char} :
    splitLastDot? chars = some (before, after) ↔ chars = before ++ '.' :: after ∧ '.' ∉ after := by
  induction chars generalizing before with
  | nil => simp [splitLastDot?]
  | cons char chars hypothesis =>
    cases parts : splitLastDot? chars with
    | none =>
      have free := splitLastDot?_eq_none_iff.mp parts
      simp only [splitLastDot?, parts]
      constructor
      · intro cut
        split_ifs at cut with dot
        obtain ⟨rfl, rfl⟩ := Prod.mk.inj (Option.some.inj cut)
        exact ⟨by rw [dot, List.nil_append], free⟩
      · rintro ⟨whole, -⟩
        cases before with
        | nil =>
          obtain ⟨rfl, rfl⟩ := List.cons.inj whole
          rw [if_pos rfl]
        | cons first before =>
          obtain ⟨-, rfl⟩ := List.cons.inj whole
          simp at free
    | some pair =>
      obtain ⟨front, back⟩ := pair
      simp only [splitLastDot?, parts]
      constructor
      · intro cut
        obtain ⟨rfl, rfl⟩ := Prod.mk.inj (Option.some.inj cut)
        obtain ⟨rfl, free⟩ := hypothesis.mp parts
        exact ⟨rfl, free⟩
      · rintro ⟨whole, free⟩
        cases before with
        | nil =>
          obtain ⟨-, rfl⟩ := List.cons.inj whole
          rw [splitLastDot?_eq_none_iff.mpr free] at parts
          cases parts
        | cons first before =>
          obtain ⟨rfl, rest⟩ := List.cons.inj whole
          have cut := hypothesis.mpr ⟨rest, free⟩
          rw [parts] at cut
          obtain ⟨rfl, rfl⟩ := Prod.mk.inj (Option.some.inj cut)
          rfl

/-- **The last two dots separate the parts of a token.** -/
theorem Parts.of?_eq_some_iff {token : String} {parts : Parts} :
    Parts.of? token = some parts ↔
      token.toList = parts.header ++ '.' :: parts.payload ++ '.' :: parts.signature ∧
        '.' ∉ parts.payload ∧ '.' ∉ parts.signature := by
  obtain ⟨header, payload, signature⟩ := parts
  simp only [Parts.of?, Option.bind_eq_bind, Option.bind_eq_some_iff]
  constructor
  · rintro ⟨⟨signed, last⟩, outer, ⟨first, middle⟩, inner, same⟩
    obtain ⟨whole, lastFree⟩ := splitLastDot?_eq_some_iff.mp outer
    obtain ⟨rfl, middleFree⟩ := splitLastDot?_eq_some_iff.mp inner
    obtain ⟨rfl, rfl, rfl⟩ := Parts.mk.inj (Option.some.inj same)
    exact ⟨whole, middleFree, lastFree⟩
  · rintro ⟨whole, middleFree, lastFree⟩
    exact ⟨(header ++ '.' :: payload, signature), splitLastDot?_eq_some_iff.mpr ⟨whole, lastFree⟩,
      (header, payload), splitLastDot?_eq_some_iff.mpr ⟨rfl, middleFree⟩, rfl⟩

/-! ### Compact form -/

/-- What is signed: header and payload in written form, joined by a dot. -/
def signingInput (header payload : Bytes) : String :=
  Base64Url.encode header ++ "." ++ Base64Url.encode payload

/-- A token: what is signed and the signature in written form, joined by a dot. -/
def compact (header payload signature : Bytes) : String :=
  signingInput header payload ++ "." ++ Base64Url.encode signature

theorem toList_signingInput (header payload : Bytes) :
    (signingInput header payload).toList =
      Base64Url.encodeChars header ++ '.' :: Base64Url.encodeChars payload := by
  simp [signingInput, Base64Url.encode]

theorem toList_compact (header payload signature : Bytes) :
    (compact header payload signature).toList =
      Base64Url.encodeChars header ++ '.' :: Base64Url.encodeChars payload ++
        '.' :: Base64Url.encodeChars signature := by
  simp [compact, toList_signingInput, Base64Url.encode]

theorem compact_ne_empty {header payload signature : Bytes} : compact header payload signature ≠ "" := by
  intro empty
  have chars := toList_compact header payload signature
  rw [empty] at chars
  simp at chars

/-- The parts of a token in written form. -/
def Parts.ofOctets (header payload signature : Bytes) : Parts :=
  ⟨Base64Url.encodeChars header, Base64Url.encodeChars payload, Base64Url.encodeChars signature⟩

theorem Parts.of?_compact (header payload signature : Bytes) :
    Parts.of? (compact header payload signature) = some (Parts.ofOctets header payload signature) :=
  Parts.of?_eq_some_iff.mpr ⟨toList_compact header payload signature,
    Base64Url.dot_not_mem_encodeChars payload, Base64Url.dot_not_mem_encodeChars signature⟩

theorem Parts.signed_ofOctets (header payload signature : Bytes) :
    (Parts.ofOctets header payload signature).signed = signingInput header payload :=
  String.toList_inj.mp (by
    rw [toList_signingInput, Parts.signed, String.toList_ofList]
    rfl)

/-- A token whose last part is given has no more than the two dots of its written form. -/
theorem compact_eq_append {header payload signature : Bytes} {input last : String}
    (dotted : '.' ∈ input.toList) (same : compact header payload signature = input ++ "." ++ last) :
    input = signingInput header payload ∧ last = Base64Url.encode signature := by
  have whole : input.toList ++ '.' :: last.toList =
      (signingInput header payload).toList ++ '.' :: Base64Url.encodeChars signature := by
    have chars := congrArg String.toList same
    rw [toList_compact] at chars
    rw [toList_signingInput, chars]
    simp
  have free : '.' ∉ last.toList := by
    intro member
    have dots := congrArg (List.count '.') whole
    rw [toList_signingInput] at dots
    simp only [List.count_append, List.count_cons_self,
      List.count_eq_zero.mpr (Base64Url.dot_not_mem_encodeChars _)] at dots
    have := List.count_pos_iff.mpr dotted
    have := List.count_pos_iff.mpr member
    omega
  have cut := splitLastDot?_eq_some_iff.mpr ⟨whole.symm, free⟩
  rw [splitLastDot?_eq_some_iff.mpr ⟨rfl, Base64Url.dot_not_mem_encodeChars signature⟩,
    Option.some.injEq, Prod.mk.injEq] at cut
  refine ⟨String.toList_inj.mp cut.1.symm, String.toList_inj.mp ?_⟩
  rw [← cut.2, Base64Url.encode, String.toList_ofList]

/-! ### Reading -/

theorem orFlaw_eq_ok_iff {α : Type} {flaw : TokenFlaw} {found : Option α} {value : α} :
    orFlaw flaw found = .ok value ↔ found = some value := by
  cases found <;> simp [orFlaw]

theorem bind_eq_ok_iff {α β : Type} {first : Except TokenFlaw α} {next : α → Except TokenFlaw β}
    {value : β} :
    first >>= next = .ok value ↔ ∃ middle, first = .ok middle ∧ next middle = .ok value := by
  cases first with
  | error flaw => exact ⟨nofun, fun ⟨_, impossible, _⟩ => nomatch impossible⟩
  | ok middle => exact ⟨fun last => ⟨middle, rfl, last⟩, fun ⟨_, rfl, last⟩ => last⟩

theorem decodeHeader_eq_ok_iff {part : List Char} {header : Header} :
    decodeHeader part = .ok header ↔
      ∃ octets, part = Base64Url.encodeChars octets ∧ Header.read? octets = some header := by
  simp only [decodeHeader, bind_eq_ok_iff, orFlaw_eq_ok_iff, Base64Url.decodeChars?_eq_some_iff]

theorem decodePayload_eq_ok_iff {part : List Char} {claims : Claims} :
    decodePayload part = .ok claims ↔
      ∃ octets, part = Base64Url.encodeChars octets ∧ Claims.ofPayload? octets = some claims := by
  simp only [decodePayload, bind_eq_ok_iff, orFlaw_eq_ok_iff, Base64Url.decodeChars?_eq_some_iff]

/-- **What a token says** without regard to any key: it is the compact form of a header and claims that
can be read, with some signature. -/
def Reads (token : String) (decoded : Decoded) : Prop :=
  ∃ header payload signature, token = compact header payload signature ∧
    Header.read? header = some decoded.header ∧ Claims.ofPayload? payload = some decoded.claims

theorem Reads.header_eq {token : String} {decoded : Decoded} (reads : Reads token decoded) :
    header token = .ok decoded.header := by
  obtain ⟨octets, payload, signature, rfl, isHeader, -⟩ := reads
  rw [header, Parts.of?_compact]
  exact decodeHeader_eq_ok_iff.mpr ⟨octets, rfl, isHeader⟩

/-- **A token is signed under a key**: it is the compact form of a header with the algorithm, of
readable claims and of a signature that is right under the key. -/
def Signed (algorithm : Algorithm) (key : Key) (token : String) (decoded : Decoded) : Prop :=
  ∃ header payload signature, token = compact header payload signature ∧
    Header.read? header = some decoded.header ∧ decoded.header.algorithm = algorithm ∧
    key.Accepts algorithm (signingInput header payload) signature ∧
    Claims.ofPayload? payload = some decoded.claims

theorem Signed.family {algorithm : Algorithm} {key : Key} {token : String} {decoded : Decoded}
    (signed : Signed algorithm key token decoded) : key.family = algorithm.family := by
  obtain ⟨_, _, _, -, -, -, accepts, -⟩ := signed
  exact accepts.family

theorem Signed.reads {algorithm : Algorithm} {key : Key} {token : String} {decoded : Decoded}
    (signed : Signed algorithm key token decoded) : Reads token decoded := by
  obtain ⟨header, payload, signature, written, isHeader, -, -, isClaims⟩ := signed
  exact ⟨header, payload, signature, written, isHeader, isClaims⟩

theorem header_of_signed {algorithm : Algorithm} {key : Key} {token : String} {decoded : Decoded}
    (signed : Signed algorithm key token decoded) : header token = .ok decoded.header :=
  signed.reads.header_eq

/-- **A token passes exactly when it is signed under the key**, whatever it claims. -/
theorem verify_eq_ok_iff {algorithm : Algorithm} {key : Key} {token : String} {decoded : Decoded} :
    verify algorithm key token = .ok decoded ↔ Signed algorithm key token decoded := by
  constructor
  · intro passed
    simp only [verify, bind_eq_ok_iff, orFlaw_eq_ok_iff] at passed
    obtain ⟨parts, cut, header, isHeader, passed⟩ := passed
    split_ifs at passed with same
    simp only [bind_eq_ok_iff, orFlaw_eq_ok_iff] at passed
    obtain ⟨check, prepared, signature, isSignature, passed⟩ := passed
    split_ifs at passed with right
    simp only [bind_eq_ok_iff] at passed
    obtain ⟨claims, isClaims, passed⟩ := passed
    obtain rfl := Except.ok.inj passed
    obtain ⟨headerOctets, headerPart, readHeader⟩ := decodeHeader_eq_ok_iff.mp isHeader
    obtain ⟨payloadOctets, payloadPart, readClaims⟩ := decodePayload_eq_ok_iff.mp isClaims
    have signaturePart := Base64Url.decodeChars?_eq_some_iff.mp isSignature
    obtain rfl : parts = Parts.ofOctets headerOctets payloadOctets signature := by
      rw [Parts.ofOctets, ← headerPart, ← payloadPart, ← signaturePart]
    have written : token = compact headerOctets payloadOctets signature := by
      rw [← String.toList_inj, toList_compact]
      exact (Parts.of?_eq_some_iff.mp cut).1
    rw [Parts.signed_ofOctets] at right
    exact ⟨headerOctets, payloadOctets, signature, written, readHeader, of_not_not same,
      ⟨check, prepared, right⟩, readClaims⟩
  · rintro ⟨header, payload, signature, rfl, isHeader, same, ⟨check, prepared, right⟩, isClaims⟩
    rw [verify, Parts.of?_compact]
    simp only [bind_eq_ok_iff, orFlaw_eq_ok_iff]
    refine ⟨_, rfl, decoded.header, decodeHeader_eq_ok_iff.mpr ⟨header, rfl, isHeader⟩, ?_⟩
    rw [if_neg (not_not.mpr same)]
    simp only [bind_eq_ok_iff, orFlaw_eq_ok_iff]
    refine ⟨check, prepared, signature, Base64Url.decodeChars?_encodeChars signature, ?_⟩
    rw [Parts.signed_ofOctets, if_pos right]
    simp only [bind_eq_ok_iff]
    exact ⟨decoded.claims, decodePayload_eq_ok_iff.mpr ⟨payload, rfl, isClaims⟩, rfl⟩

end Token

end ClientAssertion
