/-
**Keys of other kinds in a published set.**

* `Jwk.Serves`: a key is of the algorithm's kind and matches a header;
* `Consults`: the set that a key for a header is looked for in;
* `accepted_alone_iff`: a token is accepted by a source that serves one key exactly when the key
  matches the header and the token is right under it;
* `verify_behind_unmatched` and `verify_behind_foreign`: a key is used from any place in a set unless
  an earlier one matches, and an earlier one of another kind that matches is an invalid key;
* `foreign_keys` is both of every set.
-/

import ClientAssertion.Proofs.Verifier.Blame

namespace ClientAssertion

variable {keyId : Option String} {algorithm : Algorithm} {key jwk : Jwk}

/-! ### Sets -/

/-- **A key serves for a header**: it is of the algorithm's kind, and what it states matches. -/
structure Jwk.Serves (key : Jwk) (keyId : Option String) (algorithm : Algorithm) : Prop where
  suited : key.numbers.family = algorithm.family
  matched : key.Matches keyId algorithm

namespace KeySet

theorem Selects.mem {set : KeySet} (selected : set.Selects keyId algorithm jwk) :
    jwk ∈ set.keys := by
  obtain ⟨-, front, back, whole, -⟩ := selected
  rw [whole]
  exact List.mem_append_right front List.mem_cons_self

theorem selects_append {before rest : List Jwk}
    (selected : Selects ⟨before⟩ keyId algorithm jwk) :
    Selects ⟨before ++ rest⟩ keyId algorithm jwk := by
  obtain ⟨matched, front, back, rfl, unmatched⟩ := selected
  exact ⟨matched, front, back ++ rest, by simp, unmatched⟩

theorem selects_singleton_iff :
    Selects ⟨[key]⟩ keyId algorithm jwk ↔ jwk = key ∧ key.Matches keyId algorithm := by
  constructor
  · intro selected
    obtain rfl := List.mem_singleton.mp selected.mem
    exact ⟨rfl, selected.1⟩
  · rintro ⟨rfl, matched⟩
    exact ⟨matched, [], [], rfl, List.forall_mem_nil _⟩

/-- A set lacks a key for a header or selects one. -/
theorem lacks_or_selects (set : KeySet) (keyId : Option String) (algorithm : Algorithm) :
    set.Lacks keyId algorithm ∨ ∃ jwk, set.Selects keyId algorithm jwk := by
  cases found : set.find? keyId algorithm with
  | none => exact .inl (find?_eq_none_iff.mp found)
  | some jwk => exact .inr ⟨jwk, find?_eq_some_iff.mp found⟩

end KeySet

namespace Verifier

variable {State : Type} {source : KeySource State} {state : State} {url token : String}
  {decoded : Decoded}

/-! ### Sources -/

/-- **A key for a header is looked for in a set**: the one that the source knows, or a fresh one where
no key of that matches. -/
inductive Consults (source : KeySource State) (url : String) (keyId : Option String)
    (algorithm : Algorithm) (state : State) : KeySet → Prop where
  | known {set : KeySet} (answered : (source.known url state).result = .ok set) :
      Consults source url keyId algorithm state set
  | renewed {set fresh : KeySet} (answered : (source.known url state).result = .ok set)
      (lacking : set.Lacks keyId algorithm)
      (refetched : (source.renewed url state).result = .ok fresh) :
      Consults source url keyId algorithm state fresh

theorem Consults.provides {set : KeySet} (consults : Consults source url keyId algorithm state set)
    (selected : set.Selects keyId algorithm jwk) :
    Provides source url keyId algorithm state jwk := by
  cases consults with
  | known answered => exact .known answered selected
  | renewed answered lacking refetched => exact .refreshed answered lacking refetched selected

theorem Consults.serving (set : KeySet) (url : String) (keyId : Option String)
    (algorithm : Algorithm) : Consults (.serving set) url keyId algorithm () set :=
  .known rfl

theorem provides_serving_iff {set : KeySet} :
    Provides (.serving set) url keyId algorithm () jwk ↔ set.Selects keyId algorithm jwk := by
  constructor
  · intro provides
    cases provides with
    | known answered selected =>
      obtain rfl := Except.ok.inj answered
      exact selected
    | refreshed answered lacking refetched selected =>
      obtain rfl := Except.ok.inj refetched
      exact selected
  · exact fun selected => .known rfl selected

/-- **Under one key alone a token is accepted exactly if the key matches its header and it is right
under the key.** -/
theorem accepted_alone_iff :
    (verify (.keySet algorithm url) (.serving ⟨[key]⟩) token ()).result = .ok decoded ↔
      key.Matches decoded.header.keyId algorithm ∧ verifyJwk algorithm key token = .ok decoded := by
  rw [verify_keySet_eq_ok_iff, verifyJwk_eq_ok_iff]
  simp only [provides_serving_iff, KeySet.selects_singleton_iff]
  constructor
  · rintro ⟨_, written, ⟨rfl, matched⟩, spelt, signed⟩
    exact ⟨matched, written, spelt, signed⟩
  · rintro ⟨matched, written, spelt, signed⟩
    exact ⟨key, written, ⟨rfl, matched⟩, spelt, signed⟩

theorem serves_of_accepted_alone
    (accepted : (verify (.keySet algorithm url) (.serving ⟨[key]⟩) token ()).result = .ok decoded) :
    key.Serves decoded.header.keyId algorithm := by
  obtain ⟨matched, right⟩ := accepted_alone_iff.mp accepted
  obtain ⟨written, spelt, signed⟩ := verifyJwk_eq_ok_iff.mp right
  exact ⟨(KeyNumbers.family_of_key? spelt).symm.trans signed.family, matched⟩

/-! ### Keys in front -/

section Front

variable {before after : List Jwk}
  (accepted : (verify (.keySet algorithm url) (.serving ⟨[key]⟩) token ()).result = .ok decoded)
  (consults : Consults source url decoded.header.keyId algorithm state ⟨before ++ key :: after⟩)

include accepted consults

/-- **A key is used from any place in a set** behind keys that do not match. -/
theorem verify_behind_unmatched
    (unmatched : ∀ earlier ∈ before, ¬earlier.Matches decoded.header.keyId algorithm) :
    (verify (.keySet algorithm url) source token state).result = .ok decoded := by
  obtain ⟨matched, right⟩ := accepted_alone_iff.mp accepted
  obtain ⟨_, _, signed⟩ := verifyJwk_eq_ok_iff.mp right
  rw [verify_eq_of_provides (Token.header_of_signed signed)
    (consults.provides ⟨matched, before, after, rfl, unmatched⟩)]
  exact right

/-- **Behind a key of another kind that matches, no key is used.** -/
theorem verify_behind_foreign {foreign : Jwk}
    (selected : KeySet.Selects ⟨before⟩ decoded.header.keyId algorithm foreign)
    (other : foreign.numbers.family ≠ algorithm.family) :
    (verify (.keySet algorithm url) source token state).result = .error (.invalidKey
      (if foreign.numbers.key?.isSome then "InvalidKeyFormat" else "Invalid JWK: Base64 error")) := by
  obtain ⟨-, right⟩ := accepted_alone_iff.mp accepted
  obtain ⟨_, _, signed⟩ := verifyJwk_eq_ok_iff.mp right
  rw [verify_eq_of_provides (Token.header_of_signed signed)
    (consults.provides (KeySet.selects_append selected))]
  obtain ⟨header, payload, signature, rfl, isHeader, named, -, isClaims⟩ := signed
  rw [← judges_iff isHeader isClaims]
  cases spelt : foreign.numbers.key? with
  | none =>
    obtain ⟨text, listed, unspelt⟩ := KeyNumbers.key?_eq_none_iff.mp spelt
    exact .unspelt listed unspelt
  | some written => exact .otherFamily spelt named other

end Front

/-- **What keys of other kinds do in a published set.** Of a set in which no key in front of a key
serves for the header, and of a token that is accepted under that key alone:

* the key serves for the header;
* the token is accepted under the whole set, as what it is under the key alone, exactly if no key in
  front matches the header; what stands behind the key and all keys that state another algorithm,
  another use or another identifier do nothing;
* otherwise the first key in front that matches, which is of another kind, is reported as invalid. -/
theorem foreign_keys {before after : List Jwk}
    (consults : Consults source url decoded.header.keyId algorithm state ⟨before ++ key :: after⟩)
    (first : ∀ earlier ∈ before, ¬earlier.Serves decoded.header.keyId algorithm)
    (accepted : (verify (.keySet algorithm url) (.serving ⟨[key]⟩) token ()).result = .ok decoded) :
    let result := (verify (.keySet algorithm url) source token state).result
    key.Serves decoded.header.keyId algorithm ∧
      (result = .ok decoded ↔
        ∀ earlier ∈ before, ¬earlier.Matches decoded.header.keyId algorithm) ∧
      ∀ foreign, KeySet.Selects ⟨before⟩ decoded.header.keyId algorithm foreign →
        foreign.numbers.family ≠ algorithm.family ∧
        result = .error (.invalidKey
          (if foreign.numbers.key?.isSome then "InvalidKeyFormat"
            else "Invalid JWK: Base64 error")) := by
  intro result
  have other : ∀ foreign, KeySet.Selects ⟨before⟩ decoded.header.keyId algorithm foreign →
      foreign.numbers.family ≠ algorithm.family := by
    intro foreign selected suited
    exact first foreign selected.mem ⟨suited, selected.1⟩
  refine ⟨serves_of_accepted_alone accepted, ⟨fun passed => ?_, ?_⟩, fun foreign selected => ?_⟩
  · rcases KeySet.lacks_or_selects ⟨before⟩ decoded.header.keyId algorithm with
      unmatched | ⟨foreign, selected⟩
    · exact unmatched
    · have refused := verify_behind_foreign accepted consults selected (other foreign selected)
      cases passed.symm.trans refused
  · exact verify_behind_unmatched accepted consults
  · exact ⟨other foreign selected,
      verify_behind_foreign accepted consults selected (other foreign selected)⟩

section Sample

/-- A short key for the algorithm of the token below. -/
def shortKey : Jwk := .bare (.rsa
  "spj4MjhFIbADbhdttJVfdHL7-yafnvHZQ4kgMBlPWxvPbjeextLRDaPMvoLMHpVinDJ1gGVMxgnfR7oBJ-uslQ" "Aw")

/-- A key of another kind. -/
def curveKey : Jwk := .bare (.ellipticCurve .p256
  "f83OJ3D2xF1Bg8vub9tLe1gHMzV76e8Tus9uPHvRVEU" "x_FEzRu9m36HLN_tue659LNpXW6pCyStikYjKIWI5a0")

/-- The check, by a source that serves the given keys, of a token without claims that is signed under
the short key. -/
def checkUnder (keys : List Jwk) : Except JwtError Decoded :=
  (verify (.keySet .rs256 "https://client.example.com/jwks") (.serving ⟨keys⟩)
    ("eyJhbGciOiJSUzI1NiJ9.e30." ++
      "e3F91UdtYzizQBSfRfRgXkrapbm5gNO6PbIvxR-EuE88x2ZE0eDgMqukL-pbmcbJLljnDa5iLsu198EVzVsALw")
    ()).result

theorem exists_accepted_alone : ∃ decoded, checkUnder [shortKey] = .ok decoded := by
  have isOk : (checkUnder [shortKey]).toBool = true := by decide +kernel
  generalize checkUnder [shortKey] = result at isOk
  cases result with
  | error error => cases isOk
  | ok decoded => exact ⟨decoded, rfl⟩

/-- Behind a key of another kind for encryption the token is accepted. -/
theorem foreign_keys_encryption : ∃ decoded,
    checkUnder [shortKey] = .ok decoded ∧
      (∀ earlier ∈ [{ curveKey with publicKeyUse := some "enc" }],
        ¬earlier.Serves decoded.header.keyId .rs256) ∧
      checkUnder [{ curveKey with publicKeyUse := some "enc" }, shortKey, curveKey] =
        .ok decoded := by
  obtain ⟨decoded, accepted⟩ := exists_accepted_alone
  have unmatched : ∀ earlier ∈ [{ curveKey with publicKeyUse := some "enc" }],
      ¬earlier.Matches decoded.header.keyId .rs256 := by
    intro earlier member matched
    obtain rfl := List.mem_singleton.mp member
    exact absurd (matched.signing "enc" rfl) (by decide)
  have first : ∀ earlier ∈ [{ curveKey with publicKeyUse := some "enc" }],
      ¬earlier.Serves decoded.header.keyId .rs256 :=
    fun earlier member serves => unmatched earlier member serves.matched
  exact ⟨decoded, accepted, first,
    (foreign_keys (.serving ⟨[_] ++ shortKey :: [curveKey]⟩ _ _ _) first accepted).2.1.mpr unmatched⟩

/-- Behind a key of another kind that states nothing the token is refused, though its own key stands
in the set. -/
theorem foreign_key_refuses : ∃ decoded,
    checkUnder [shortKey] = .ok decoded ∧ shortKey.Serves decoded.header.keyId .rs256 ∧
      ¬curveKey.Serves decoded.header.keyId .rs256 ∧
      checkUnder [curveKey, shortKey] = .error (.invalidKey "InvalidKeyFormat") := by
  obtain ⟨decoded, accepted⟩ := exists_accepted_alone
  have serves := serves_of_accepted_alone accepted
  have matched : curveKey.Matches decoded.header.keyId .rs256 :=
    Jwk.bare_matches_iff.mpr (Jwk.bare_matches_iff.mp serves.matched)
  have other : curveKey.numbers.family ≠ Algorithm.rs256.family := by decide
  have selected : KeySet.Selects ⟨[curveKey]⟩ decoded.header.keyId .rs256 curveKey :=
    KeySet.selects_singleton_iff.mpr ⟨rfl, matched⟩
  have spelt : curveKey.numbers.key?.isSome = true := by decide +kernel
  have refused := verify_behind_foreign accepted
    (.serving ⟨[curveKey] ++ shortKey :: []⟩ _ _ _) selected other
  rw [if_pos spelt] at refused
  exact ⟨decoded, accepted, serves, fun foreign => other foreign.suited, refused⟩

end Sample

end Verifier

end ClientAssertion
