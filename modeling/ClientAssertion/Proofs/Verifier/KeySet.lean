/-
**Which published key checks an assertion.**

* `Jwk.Matches` says what a key has to state to be used for a header, and `Jwk.fits_iff` that
  exactly these keys fit;
* `KeySet.Selects`: the key is the first one of the set that matches;
* `Provides` says that a source yields a key, from the set as it is known or, where no key in that
  matches, from a fresh one;
* `verify_keySet_eq_ok_iff`: exactly the tokens are accepted that are signed under the key that is
  provided for their header.
-/

import ClientAssertion.Proofs.Verifier.Resolve

namespace ClientAssertion

/-! ### Keys -/

/-- Only the algorithm of a signature has its name. -/
theorem KeyAlgorithm.name_eq_iff {kind : KeyAlgorithm} {algorithm : Algorithm} :
    kind.name = algorithm.name ↔ kind = .signature algorithm := by
  constructor
  · intro same
    cases kind with
    | signature other =>
      have found : Algorithm.ofName? other.name = Algorithm.ofName? algorithm.name :=
        congrArg Algorithm.ofName? same
      rw [Algorithm.ofName?_name, Algorithm.ofName?_name] at found
      rw [Option.some.inj found]
    | rsa1_5 | rsaOaep | rsaOaep256 | unknown => cases algorithm <;> exact absurd same (by decide)
  · rintro rfl
    rfl

/-- **A key may have made a signature**: it has the identifier that the header names, if any, and
is for the algorithm and for signatures, as far as it says. -/
structure Jwk.Matches (jwk : Jwk) (keyId : Option String) (algorithm : Algorithm) : Prop where
  identified : ∀ id, keyId = some id → jwk.keyId = some id
  intended : ∀ kind, jwk.algorithm = some kind → kind = .signature algorithm
  signing : ∀ use, jwk.publicKeyUse = some use → use = "sig"

theorem Jwk.fits_iff {jwk : Jwk} {keyId : Option String} {algorithm : Algorithm} :
    jwk.fits keyId algorithm = true ↔ jwk.Matches keyId algorithm := by
  simp only [Jwk.fits, Bool.and_eq_true, Option.all_eq_true, decide_eq_true_eq,
    KeyAlgorithm.name_eq_iff]
  exact ⟨fun ⟨⟨identified, intended⟩, signing⟩ => ⟨identified, intended, signing⟩,
    fun ⟨identified, intended, signing⟩ => ⟨⟨identified, intended⟩, signing⟩⟩

/-! ### Sets -/

/-- A key is the first one of a set that may have made a signature. -/
def KeySet.Selects (set : KeySet) (keyId : Option String) (algorithm : Algorithm) (jwk : Jwk) :
    Prop :=
  jwk.Matches keyId algorithm ∧
    ∃ before after, set.keys = before ++ jwk :: after ∧
      ∀ earlier ∈ before, ¬earlier.Matches keyId algorithm

/-- No key of a set may have made a signature. -/
def KeySet.Lacks (set : KeySet) (keyId : Option String) (algorithm : Algorithm) : Prop :=
  ∀ jwk ∈ set.keys, ¬jwk.Matches keyId algorithm

theorem KeySet.find?_eq_some_iff {set : KeySet} {keyId : Option String} {algorithm : Algorithm}
    {jwk : Jwk} : set.find? keyId algorithm = some jwk ↔ set.Selects keyId algorithm jwk := by
  unfold KeySet.find? KeySet.Selects
  simp only [List.find?_eq_some_iff_append, Jwk.fits_iff, Bool.not_eq_true', ← Bool.not_eq_true]

theorem KeySet.find?_eq_none_iff {set : KeySet} {keyId : Option String} {algorithm : Algorithm} :
    set.find? keyId algorithm = none ↔ set.Lacks keyId algorithm := by
  unfold KeySet.find? KeySet.Lacks
  simp only [List.find?_eq_none, Jwk.fits_iff]

namespace Verifier

variable {State : Type} {source : KeySource State} {url : String} {keyId : Option String}
  {algorithm : Algorithm} {state : State}

/-! ### Sources -/

/-- **A source provides a key**: the one of the set as it is known, or else of a fresh set. -/
inductive Provides (source : KeySource State) (url : String) (keyId : Option String)
    (algorithm : Algorithm) (state : State) : Jwk → Prop where
  | known {set : KeySet} {jwk : Jwk}
      (answered : (source (.current url) state).result = .ok set)
      (selected : set.Selects keyId algorithm jwk) : Provides source url keyId algorithm state jwk
  | refreshed {set renewed : KeySet} {jwk : Jwk}
      (answered : (source (.current url) state).result = .ok set)
      (lacking : set.Lacks keyId algorithm)
      (refetched : (source (.refresh url) (source (.current url) state).state).result = .ok renewed)
      (selected : renewed.Selects keyId algorithm jwk) : Provides source url keyId algorithm state jwk

theorem verifyJwk_eq_ok_iff {jwk : Jwk} {token : String} {decoded : Decoded} :
    verifyJwk algorithm jwk token = .ok decoded ↔
      ∃ key, jwk.numbers.key? = some key ∧ Token.Signed algorithm key token decoded := by
  unfold verifyJwk
  cases numbers : jwk.numbers.key? with
  | none => simp
  | some key => simp [verifyKey_eq_ok_iff, Token.verify_eq_ok_iff]

theorem verifyRefreshed_eq_ok_iff {token : String} {first : KeyAnswer State} {decoded : Decoded} :
    (verifyRefreshed source algorithm url keyId token first).result = .ok decoded ↔
      ∃ renewed jwk, (source (.refresh url) first.state).result = .ok renewed ∧
        renewed.Selects keyId algorithm jwk ∧ verifyJwk algorithm jwk token = .ok decoded := by
  constructor
  · intro accepted
    unfold verifyRefreshed at accepted
    cases refetched : (source (.refresh url) first.state).result with
    | error error =>
      simp only [refetched] at accepted
      cases accepted
    | ok renewed =>
      cases found : renewed.find? keyId algorithm with
      | none =>
        simp only [refetched, found] at accepted
        cases accepted
      | some jwk =>
        simp only [refetched, found] at accepted
        exact ⟨renewed, jwk, rfl, KeySet.find?_eq_some_iff.mp found, accepted⟩
  · rintro ⟨renewed, jwk, refetched, selected, accepted⟩
    simp only [verifyRefreshed, refetched, KeySet.find?_eq_some_iff.mpr selected]
    exact accepted

theorem verifyPublished_eq_ok_iff {token : String} {decoded : Decoded} :
    (verifyPublished source algorithm url keyId token state).result = .ok decoded ↔
      ∃ jwk, Provides source url keyId algorithm state jwk ∧
        verifyJwk algorithm jwk token = .ok decoded := by
  constructor
  · intro accepted
    unfold verifyPublished at accepted
    cases answered : (source (.current url) state).result with
    | error error =>
      simp only [answered] at accepted
      cases accepted
    | ok set =>
      cases found : set.find? keyId algorithm with
      | none =>
        simp only [answered, found] at accepted
        obtain ⟨renewed, jwk, refetched, selected, accepted⟩ := verifyRefreshed_eq_ok_iff.mp accepted
        have lacking := KeySet.find?_eq_none_iff.mp found
        exact ⟨jwk, .refreshed answered lacking refetched selected, accepted⟩
      | some jwk =>
        simp only [answered, found] at accepted
        exact ⟨jwk, .known answered (KeySet.find?_eq_some_iff.mp found), accepted⟩
  · rintro ⟨jwk, ⟨answered, selected⟩ | ⟨answered, lacking, refetched, selected⟩, accepted⟩
    · simp only [verifyPublished, answered, KeySet.find?_eq_some_iff.mpr selected]
      exact accepted
    · simp only [verifyPublished, answered, KeySet.find?_eq_none_iff.mpr lacking]
      exact verifyRefreshed_eq_ok_iff.mpr ⟨_, jwk, refetched, selected, accepted⟩

/-- **Exactly the tokens are accepted that are signed under the key which is provided for their
header.** -/
theorem verify_keySet_eq_ok_iff {token : String} {decoded : Decoded} :
    (verify (.keySet algorithm url) source token state).result = .ok decoded ↔
      ∃ jwk key, Provides source url decoded.header.keyId algorithm state jwk ∧
        jwk.numbers.key? = some key ∧ Token.Signed algorithm key token decoded := by
  constructor
  · intro accepted
    cases headed : Token.header token with
    | error flaw =>
      simp only [verify, headed] at accepted
      cases accepted
    | ok header =>
      simp only [verify, headed] at accepted
      obtain ⟨jwk, provides, accepted⟩ := verifyPublished_eq_ok_iff.mp accepted
      obtain ⟨key, usable, signed⟩ := verifyJwk_eq_ok_iff.mp accepted
      obtain rfl := Except.ok.inj (headed.symm.trans (Token.header_of_signed signed))
      exact ⟨jwk, key, provides, usable, signed⟩
  · rintro ⟨jwk, key, provides, usable, signed⟩
    simp only [verify, Token.header_of_signed signed]
    have accepted := verifyJwk_eq_ok_iff.mpr ⟨key, usable, signed⟩
    exact verifyPublished_eq_ok_iff.mpr ⟨jwk, provides, accepted⟩

end Verifier

end ClientAssertion
