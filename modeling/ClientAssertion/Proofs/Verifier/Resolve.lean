/-
**What a registration is checked with.**

* `resolve_eq_ok_iff`: a registration has a verifier for a method exactly when its algorithm is of
  the method's kind and what the kind needs is there: a secret, or the URL of a key set, not empty;
* `resolve_eq_error_iff`: in every other case it lacks one thing, which is reported;
* `verifyKey_eq_ok_iff`: under a given key the verifier accepts what the token's own check accepts.
-/

import ClientAssertion.Proofs.Client
import ClientAssertion.Proofs.Jose.Token
import ClientAssertion.Verifier

namespace ClientAssertion.Verifier

/-- A registration and a method lead to a verifier: a code under the secret for an algorithm of
codes, a key from the published set for any other algorithm. -/
inductive Registered (client : Client) : AuthMethod → Verifier → Prop where
  | secret {algorithm : Algorithm} {secret : String}
      (registered : client.settings.signingAlgorithm = some algorithm) (kind : algorithm.isMac = true)
      (held : client.clientSecret = some secret) (nonempty : secret ≠ "") :
      Registered client .clientSecretJwt (.mac algorithm secret)
  | published {algorithm : Algorithm} {url : String}
      (registered : client.settings.signingAlgorithm = some algorithm) (kind : algorithm.isMac = false)
      (held : client.settings.keySetUrl = some url) (nonempty : url ≠ "") :
      Registered client .privateKeyJwt (.keySet algorithm url)

/-- **Exactly the registrations of the method's kind have a verifier.** -/
theorem resolve_eq_ok_iff {client : Client} {method : AuthMethod} {verifier : Verifier} :
    resolve client method = .ok verifier ↔ Registered client method verifier := by
  constructor
  · intro resolved
    unfold resolve at resolved
    split at resolved
    case h_1 algorithm registered =>
      split_ifs at resolved with kind
      split at resolved
      case h_1 url found =>
        obtain ⟨held, nonempty⟩ := filter_ne_empty_eq_some_iff.mp found
        obtain rfl := Except.ok.inj resolved
        exact .published registered (Bool.eq_false_iff.mpr kind) held nonempty
      case h_2 => cases resolved
    case h_2 algorithm registered =>
      split_ifs at resolved with kind
      split at resolved
      case h_1 secret found =>
        obtain ⟨held, nonempty⟩ := filter_ne_empty_eq_some_iff.mp found
        obtain rfl := Except.ok.inj resolved
        exact .secret registered kind held nonempty
      case h_2 => cases resolved
    case h_3 => cases resolved
  · rintro (⟨registered, kind, held, nonempty⟩ | ⟨registered, kind, held, nonempty⟩)
    · simp only [resolve, registered, kind, if_true, Client.secret?]
      rw [filter_ne_empty_eq_some_iff.mpr ⟨held, nonempty⟩]
    · simp only [resolve, registered, kind, Bool.false_eq_true, if_false]
      rw [filter_ne_empty_eq_some_iff.mpr ⟨held, nonempty⟩]

theorem Registered.unique {client : Client} {method : AuthMethod} {first second : Verifier}
    (one : Registered client method first) (two : Registered client method second) :
    first = second :=
  Except.ok.inj ((resolve_eq_ok_iff.mpr one).symm.trans (resolve_eq_ok_iff.mpr two))

/-- An algorithm is of the kind that a method needs. -/
def Suits (algorithm : Algorithm) : AuthMethod → Prop
  | .clientSecretJwt => algorithm.isMac = true
  | .privateKeyJwt => algorithm.isMac = false
  | _ => False

/-- **What a registration lacks for a method**: an algorithm that suits the method, or, beside such
an algorithm, the URL of a key set or a secret. -/
inductive Lacks (client : Client) : AuthMethod → Missing → Prop where
  | keySetUrl {algorithm : Algorithm}
      (registered : client.settings.signingAlgorithm = some algorithm) (kind : algorithm.isMac = false)
      (unheld : ∀ url, client.settings.keySetUrl = some url → url = "") :
      Lacks client .privateKeyJwt .keySetUrl
  | clientSecret {algorithm : Algorithm}
      (registered : client.settings.signingAlgorithm = some algorithm) (kind : algorithm.isMac = true)
      (unheld : ∀ secret, client.clientSecret = some secret → secret = "") :
      Lacks client .clientSecretJwt .clientSecret
  | algorithm {method : AuthMethod}
      (unsuited : ∀ algorithm, client.settings.signingAlgorithm = some algorithm →
        ¬Suits algorithm method) :
      Lacks client method (.algorithm client.settings.signingAlgorithm)

/-- **Exactly what a registration lacks is reported.** -/
theorem resolve_eq_error_iff {client : Client} {method : AuthMethod} {missing : Missing} :
    resolve client method = .error missing ↔ Lacks client method missing := by
  constructor
  · intro unresolved
    unfold resolve at unresolved
    split at unresolved
    case h_1 algorithm registered =>
      split_ifs at unresolved with kind
      · obtain rfl := Except.error.inj unresolved
        rw [← registered]
        refine .algorithm fun other same suits => ?_
        obtain rfl := Option.some.inj (registered.symm.trans same)
        exact absurd kind (Bool.eq_false_iff.mp suits)
      · split at unresolved
        case h_1 => cases unresolved
        case h_2 absent =>
          obtain rfl := Except.error.inj unresolved
          exact .keySetUrl registered (Bool.eq_false_iff.mpr kind)
            (filter_ne_empty_eq_none_iff.mp absent)
    case h_2 algorithm registered =>
      split_ifs at unresolved with kind
      · split at unresolved
        case h_1 => cases unresolved
        case h_2 absent =>
          obtain rfl := Except.error.inj unresolved
          exact .clientSecret registered kind (filter_ne_empty_eq_none_iff.mp absent)
      · obtain rfl := Except.error.inj unresolved
        rw [← registered]
        refine .algorithm fun other same suits => ?_
        obtain rfl := Option.some.inj (registered.symm.trans same)
        exact kind suits
    case h_3 used _ _ noKey noMac =>
      obtain rfl := Except.error.inj unresolved
      refine .algorithm fun algorithm registered suits => ?_
      cases used with
      | clientSecretJwt => exact noMac algorithm rfl registered
      | privateKeyJwt => exact noKey algorithm rfl registered
      | clientSecretBasic | clientSecretPost | none => exact suits
  · rintro (⟨registered, kind, unheld⟩ | ⟨registered, kind, unheld⟩ | ⟨unsuited⟩)
    · simp only [resolve, registered, kind, Bool.false_eq_true, if_false]
      rw [filter_ne_empty_eq_none_iff.mpr unheld]
    · simp only [resolve, registered, kind, if_true, Client.secret?]
      rw [filter_ne_empty_eq_none_iff.mpr unheld]
    · unfold resolve
      split
      case h_1 algorithm registered =>
        rw [if_pos (Bool.of_not_eq_false (unsuited algorithm registered)), registered]
      case h_2 algorithm registered =>
        have kind : ¬algorithm.isMac = true := unsuited algorithm registered
        rw [if_neg kind, registered]
      case h_3 => rfl

theorem Lacks.unique {client : Client} {method : AuthMethod} {first second : Missing}
    (one : Lacks client method first) (two : Lacks client method second) : first = second :=
  Except.error.inj ((resolve_eq_error_iff.mpr one).symm.trans (resolve_eq_error_iff.mpr two))

/-- What a registration lacks for a method is told by its algorithm alone. -/
theorem Lacks.of_same_algorithm {client other : Client} {method : AuthMethod}
    {first second : Missing} (one : Lacks client method first) (two : Lacks other method second)
    (same : client.settings.signingAlgorithm = other.settings.signingAlgorithm) :
    first = second := by
  cases one with
  | keySetUrl registered kind =>
    cases two with
    | keySetUrl => rfl
    | algorithm unsuited => exact absurd kind (unsuited _ (same.symm.trans registered))
  | clientSecret registered kind =>
    cases two with
    | clientSecret => rfl
    | algorithm unsuited => exact absurd kind (unsuited _ (same.symm.trans registered))
  | algorithm unsuited =>
    cases two with
    | keySetUrl registered kind => exact absurd kind (unsuited _ (same.trans registered))
    | clientSecret registered kind => exact absurd kind (unsuited _ (same.trans registered))
    | algorithm => rw [same]

theorem verifyKey_eq_ok_iff {algorithm : Algorithm} {key : Key} {token : String} {decoded : Decoded} :
    verifyKey algorithm key token = .ok decoded ↔ Token.verify algorithm key token = .ok decoded := by
  unfold verifyKey
  cases Token.verify algorithm key token <;> simp [Except.mapError]

end ClientAssertion.Verifier
