/-
**Which texts are code verifiers, and what becomes of them (RFC 7636, sections 4.1 to 4.6).**

* `CodeVerifier.Grammar`: 43 to 128 characters, all of them unreserved;
* `forall_octets_iff`: the octets of a text are unreserved exactly when its characters are, and then
  there are as many of the ones as of the others (`utf8ByteSize_eq_length`);
* `CodeVerifier.exists_of?_iff` and `CodeVerifier.of?_eq_error_iff`: exactly the texts with this
  grammar are verifiers, and any other is refused for its length or else for its characters;
* `CodeVerifier.grammar_generate`: 32 octets of entropy make a verifier;
* `code_verifiers_work`: what is accepted can be used, whatever text or entropy it comes from.
-/

import ClientAssertion.CommandLine.Run
import ClientAssertion.Proofs.Base64Url
import ClientAssertion.Proofs.Bytes
import ClientAssertion.Proofs.Pkce
import ClientAssertion.Proofs.Text.Numeral
import Mathlib.Tactic.Tauto

namespace ClientAssertion

namespace CodeVerifier

/-! ### Characters -/

/-- An unreserved character: `A-Z a-z 0-9 - . _ ~`. -/
def Unreserved (char : Char) : Prop := Base64Url.InAlphabet char ∨ char = '.' ∨ char = '~'

instance (char : Char) : Decidable (Unreserved char) := inferInstanceAs (Decidable (_ ∨ _))

theorem isUnreserved_iff {octet : UInt8} :
    isUnreserved octet = true ↔ Unreserved (Char.ofNat octet.toNat) := by
  simp only [isUnreserved, Unreserved, Base64Url.InAlphabet, Char.isAlphanum, Numeral.isAlpha_iff,
    Char.isDigit, Bool.or_eq_true, Bool.and_eq_true, decide_eq_true_eq, beq_iff_eq, Char.le_def,
    ge_iff_le]
  tauto

/-- An unreserved character is one of ASCII. -/
theorem Unreserved.ascii {char : Char} (unreserved : Unreserved char) : char.toNat < 128 := by
  have below {last : Char} (upTo : char ≤ last) (ascii : last.toNat < 128) : char.toNat < 128 :=
    Nat.lt_of_le_of_lt (UInt32.le_iff_toNat_le.mp (Char.le_def.mp upTo)) ascii
  obtain (⟨-, upper⟩ | ⟨-, lower⟩ | ⟨-, digit⟩ | rfl | rfl) | rfl | rfl := unreserved
  · exact below upper (by decide)
  · exact below lower (by decide)
  · exact below digit (by decide)
  all_goals decide

theorem forall_octets_char_iff (char : Char) :
    (∀ octet ∈ String.utf8EncodeChar char, isUnreserved octet = true) ↔ Unreserved char := by
  rcases Nat.lt_or_ge char.toNat 128 with ascii | wide
  · rw [Bytes.utf8EncodeChar_ascii ascii, List.forall_mem_singleton, isUnreserved_iff,
      Bytes.toNat_ofNat_ascii ascii, Char.ofNat_toNat]
  · -- the octets of a wider character are none of ASCII, and there is at least one
    obtain ⟨octet, member⟩ := List.exists_mem_of_length_pos
      (Nat.lt_of_lt_of_eq char.utf8Size_pos (String.length_utf8EncodeChar char).symm)
    have high := Bytes.high_of_mem_utf8EncodeChar wide octet member
    refine iff_of_false (fun all => ?_) fun unreserved => Nat.not_lt_of_le wide unreserved.ascii
    have ascii := (isUnreserved_iff.mp (all octet member)).ascii
    rw [Bytes.toNat_ofNat_octet] at ascii
    omega

/-- **The octets of a text are unreserved exactly when its characters are.** -/
theorem forall_octets_iff (text : String) :
    (Bytes.ofText text).all isUnreserved = true ↔ ∀ char ∈ text.toList, Unreserved char := by
  rw [Bytes.ofText_eq, Bytes.ofChars, List.all_flatMap, List.all_eq_true]
  simp only [List.all_eq_true, forall_octets_char_iff]

/-- A text of unreserved characters has an octet for each of them. -/
theorem utf8ByteSize_eq_length {text : String} (all : ∀ char ∈ text.toList, Unreserved char) :
    text.utf8ByteSize = text.length := by
  rw [← Bytes.length_ofText, Bytes.ofText_eq, Bytes.ofChars_ascii fun char member =>
    (all char member).ascii, List.length_map, String.length_toList]

/-! ### Verifiers -/

/-- **The grammar of verifiers**: 43 to 128 characters, all of them unreserved. -/
structure Grammar (text : String) : Prop where
  length : 43 ≤ text.length ∧ text.length ≤ 128
  characters : ∀ char ∈ text.toList, Unreserved char

theorem grammar_iff {text : String} :
    Grammar text ↔ (43 ≤ text.utf8ByteSize ∧ text.utf8ByteSize ≤ 128) ∧
      (Bytes.ofText text).all isUnreserved = true := by
  rw [forall_octets_iff]
  constructor
  · rintro ⟨length, characters⟩
    rw [utf8ByteSize_eq_length characters]
    exact ⟨length, characters⟩
  · rintro ⟨length, characters⟩
    rw [utf8ByteSize_eq_length characters] at length
    exact ⟨length, characters⟩

theorem of?_eq_ok_iff {text : String} {verifier : CodeVerifier} :
    of? text = .ok verifier ↔ verifier.text = text := by
  constructor
  · intro accepted
    unfold of? at accepted
    split_ifs at accepted
    rw [← Except.ok.inj accepted]
  · rintro rfl
    rw [of?, dif_pos verifier.valid.1, dif_pos verifier.valid.2]

/-- **Exactly the texts with the grammar are verifiers.** -/
theorem exists_of?_iff {text : String} :
    (∃ verifier, of? text = .ok verifier ∧ verifier.text = text) ↔ Grammar text := by
  rw [grammar_iff]
  constructor
  · rintro ⟨verifier, -, rfl⟩
    exact verifier.valid
  · intro valid
    exact ⟨⟨text, valid⟩, of?_eq_ok_iff.mpr rfl, rfl⟩

/-- Why a text is refused: it has too few or too many octets or, where their number is right, other
characters. -/
inductive Refuses (text : String) : PkceError → Prop where
  | length (wrong : text.utf8ByteSize < 43 ∨ 128 < text.utf8ByteSize) :
      Refuses text (.invalidLength text.utf8ByteSize)
  | characters (right : 43 ≤ text.utf8ByteSize ∧ text.utf8ByteSize ≤ 128)
      (reserved : ∃ char ∈ text.toList, ¬Unreserved char) : Refuses text .invalidCharacters

theorem of?_eq_error_iff {text : String} {error : PkceError} :
    of? text = .error error ↔ Refuses text error := by
  have reserved : (Bytes.ofText text).all isUnreserved ≠ true ↔
      ∃ char ∈ text.toList, ¬Unreserved char := by
    simp only [ne_eq, forall_octets_iff, not_forall, exists_prop]
  constructor
  · intro refused
    unfold of? at refused
    split_ifs at refused with length octets
    · obtain rfl := Except.error.inj refused
      exact .characters length (reserved.mp octets)
    · obtain rfl := Except.error.inj refused
      exact .length (by omega)
  · rintro (wrong | ⟨right, other⟩)
    · rw [of?, dif_neg (by omega)]
    · rw [of?, dif_pos right, dif_neg (reserved.mpr other)]

/-- **Entropy makes a verifier**, of 43 characters. -/
theorem grammar_generate {entropy : Bytes} (size : entropy.length = 32) :
    Grammar (generate entropy) where
  length := by
    rw [generate, Base64Url.length_encode, size]
    decide
  characters char member := .inl (Base64Url.inAlphabet_of_mem_encode entropy char member)

end CodeVerifier

/-! ### Challenges -/

/-- The challenge of a text under `S256` is a written form of 43 characters. -/
theorem ChallengeMethod.length_derive_s256 (verifier : String) :
    (ChallengeMethod.s256.derive verifier).length = 43 := by
  rw [derive, Base64Url.length_encode, Digest.length_sha256]

/-- **An authorization that keeps the challenge of a text is opened by the text**, unless that is
empty. -/
theorem checkVerifier_of_derived {authorization : Authorization} {verifier : String} (client : Client)
    (nonempty : verifier ≠ "")
    (bound : authorization.States (·.codeChallenge) (ChallengeMethod.s256.derive verifier))
    (named : authorization.States (·.codeChallengeMethod) "S256") :
    checkVerifier authorization client (some verifier) = .ok () :=
  checkVerifier_eq_ok_iff.mpr (.s256 bound (.inr named) rfl nonempty rfl)

theorem CodeVerifier.Grammar.ne_empty {text : String} (grammar : Grammar text) : text ≠ "" := by
  rintro rfl
  exact absurd grammar.length.1 (by decide)

/-- **Verifiers work.**

* Exactly the texts of 43 to 128 unreserved characters are accepted, as they are.  Any other text is
  refused: for its length, with the number of its octets, where that is not one of 43 to 128, and
  else for its characters.
* What 32 octets of entropy make is accepted.
* The challenge of an accepted text, which is also what the command line prints, has 43 characters
  of the alphabet of base64url; and every authorization that keeps it with the method `S256` is opened
  by the text, whoever the client is. -/
theorem code_verifiers_work :
    (∀ text, (∃ verifier, CodeVerifier.of? text = .ok verifier ∧ verifier.text = text) ↔
      CodeVerifier.Grammar text) ∧
    (∀ text error, CodeVerifier.of? text = .error error ↔ CodeVerifier.Refuses text error) ∧
    (∀ entropy : Bytes, entropy.length = 32 →
      ∃ verifier, CodeVerifier.of? (CodeVerifier.generate entropy) = .ok verifier) ∧
    ∀ text verifier, CodeVerifier.of? text = .ok verifier →
      let challenge := ChallengeMethod.s256.derive text
      (challenge.length = 43 ∧ ∀ char ∈ challenge.toList, Base64Url.InAlphabet char) ∧
      (∃ finding, CommandLine.challenge text = .ok finding ∧
        finding.document = .ofMembers [("code_challenge", .text challenge),
          ("code_challenge_method", .text "S256"), ("code_verifier", .text text)]) ∧
      ∀ (authorization : Authorization) (client : Client),
        authorization.States (·.codeChallenge) challenge →
        authorization.States (·.codeChallengeMethod) "S256" →
        checkVerifier authorization client (some text) = .ok () := by
  refine ⟨fun text => CodeVerifier.exists_of?_iff, fun text error => CodeVerifier.of?_eq_error_iff,
    fun entropy size => ?_, fun text verifier accepted => ⟨⟨?_, ?_⟩, ?_, ?_⟩⟩
  · obtain ⟨verifier, accepted, -⟩ := CodeVerifier.exists_of?_iff.mpr
      (CodeVerifier.grammar_generate size)
    exact ⟨verifier, accepted⟩
  · exact ChallengeMethod.length_derive_s256 text
  · exact Base64Url.inAlphabet_of_mem_encode _
  · refine ⟨⟨CommandLine.describeVerifier text, none⟩, ?_, rfl⟩
    rw [CommandLine.challenge, accepted]
  · intro authorization client bound named
    have grammar : CodeVerifier.Grammar text :=
      CodeVerifier.exists_of?_iff.mp ⟨verifier, accepted, CodeVerifier.of?_eq_ok_iff.mp accepted⟩
    exact checkVerifier_of_derived client grammar.ne_empty bound named

/-- The verifier of RFC 7636, appendix B, opens an authorization that keeps its challenge, also for a
client that has to use one. -/
theorem code_verifiers_work_appendix :
    let text := "dBjftJeZ4CVP-mB92K27uhbUJU1p1r_wW1gFWFOEjXk"
    let request : AuthorizationRequest :=
      { codeChallenge := some (ChallengeMethod.s256.derive text), codeChallengeMethod := some "S256" }
    let authorization :=
      (Authorization.new "authorization-1" "registration-1" "alice" .authorizationCode).withRequest
        request
    let client : Client :=
      { id := "registration-1", clientId := "client-1", settings := { requireProofKey := true } }
    CodeVerifier.Grammar text ∧
      authorization.States (·.codeChallenge) (ChallengeMethod.s256.derive text) ∧
      authorization.States (·.codeChallengeMethod) "S256" ∧
      checkVerifier authorization client (some text) = .ok () := by
  intro text request authorization client
  have grammar : CodeVerifier.Grammar text :=
    CodeVerifier.grammar_iff.mpr ⟨by decide, by decide +kernel⟩
  have bound : authorization.States (·.codeChallenge) (ChallengeMethod.s256.derive text) := by
    refine ⟨request, rfl, rfl, fun empty => ?_⟩
    have length := ChallengeMethod.length_derive_s256 text
    rw [empty] at length
    cases length
  have named : authorization.States (·.codeChallengeMethod) "S256" := ⟨request, rfl, rfl, by decide⟩
  obtain ⟨verifier, accepted, -⟩ := (code_verifiers_work.1 text).mpr grammar
  exact ⟨grammar, bound, named,
    (code_verifiers_work.2.2.2 text verifier accepted).2.2 authorization client bound named⟩

end ClientAssertion
