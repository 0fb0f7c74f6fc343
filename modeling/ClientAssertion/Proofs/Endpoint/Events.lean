/-
**What is logged of a request.**

Every way in which an authentication can end makes its own events.  They agree with the result, and
they name the client by the identifier of the request, also where they take it from the stored
registration.

* `Event.Tells`: an event tells the result of a request, with its error code if it has one;
* `Rejection.code_of_preliminary` and `Rejection.code_of_checkGrant`: a rejection is logged with the
  code that the client is told, since no check of a code is about the form of a verifier;
* `Attempt.Unbound`: the code of a request belongs to no authorization, and nothing before it failed;
* `Attempt.Logs`: all events of a request, one case for each way to end; `logs_events`: these are
  what an authentication makes;
* `log_tells_verdict`: so one event tells the verdict, and one more that no proof was asked for.
-/

import ClientAssertion.Proofs.Endpoint.Identifier
import ClientAssertion.Proofs.Endpoint.Rejection
import ClientAssertion.Proofs.Pkce.Verdict

namespace ClientAssertion

/-- A lookup has a result exactly where the store answers with it. -/
theorem Lookup.within_eq_ok_iff {α : Type} {lookup : Lookup α} {timeout : Span} {what : String}
    {found : Option α} : lookup.within timeout what = .ok found ↔ lookup = .answered found := by
  cases lookup <;> simp [within]

/-! ### Codes -/

namespace Rejection

variable {directory : Directory} {request : AuthRequest} {rejection : Rejection}

theorem code_of_preliminary (rejected : preliminary directory request = .error rejection) :
    rejection.code = rejection.error.code := by
  unfold preliminary at rejected
  split at rejected
  case h_1 => cases rejected; rfl
  case h_2 => cases rejected; rfl
  case h_3 =>
    split_ifs at rejected
    · split at rejected
      case h_1 => cases rejected; rfl
      case h_2 =>
        split at rejected
        case h_1 => cases rejected; rfl
        case h_2 => cases rejected
    · cases rejected; rfl

theorem code_of_checkGrant {client : Client}
    (rejected : checkGrant directory client request = .rejected rejection) :
    rejection.code = rejection.error.code := by
  unfold checkGrant at rejected
  split at rejected
  case h_1 => cases rejected
  case h_2 =>
    split at rejected
    case h_1 => cases rejected; rfl
    case h_2 => cases rejected
    case h_3 =>
      split at rejected
      case h_1 => cases rejected
      case h_2 error refused =>
        cases rejected
        exact (checkVerifier_eq_iff.mp refused).code_eq

end Rejection

theorem checkGrant_eq_unbound_iff {directory : Directory} {client : Client} {request : AuthRequest} :
    checkGrant directory client request = .unbound ↔
      ∃ code, request.Exchanges code ∧ directory.findCode code = .ok none := by
  simp only [← AuthRequest.code?_eq_some_iff, checkGrant]
  cases request.code? with
  | none => simp
  | some code =>
    simp only [Option.some.injEq, exists_eq_left']
    cases directory.findCode code with
    | error error => simp
    | ok found =>
      cases found with
      | none => simp
      | some authorization =>
        refine iff_of_false (fun unbound => ?_) fun none => by cases none
        cases checked :
            checkVerifier authorization client (request.parameters.get? Parameter.codeVerifier) with
        | ok => simp [checked] at unbound
        | error => simp [checked] at unbound

/-! ### Events -/

/-- The messages of verdicts. -/
def verdictMessages : List String :=
  ["client authenticated", "client assertion authentication rejected"]

/-- An event is about a verdict. -/
def Event.isVerdict (event : Event) : Bool := event.message ∈ verdictMessages

/-- **An event tells the result of a request**: that its client is authenticated, or the error code
of its rejection. -/
inductive Event.Tells (request : AuthRequest) : Except AuthError AuthenticatedClient → Event → Prop where
  | authenticated {accepted : AuthenticatedClient} : Tells request (.ok accepted)
      ⟨.info, "client authenticated",
        [("client_id", request.clientId), ("method", request.method.name)]⟩
  | rejected {error : AuthError} {reason category : String} : Tells request (.error error)
      ⟨.debug, "client assertion authentication rejected",
        [("client_id", request.clientId), ("reason", reason), ("error_code", error.code),
          ("category", category)]⟩

namespace Event.Tells

variable {request : AuthRequest} {result : Except AuthError AuthenticatedClient} {event : Event}

theorem isVerdict (tells : event.Tells request result) : event.isVerdict = true := by
  cases tells <;> rfl

theorem message_eq_authenticated_iff (tells : event.Tells request result) :
    event.message = "client authenticated" ↔ ∃ accepted, result = .ok accepted := by
  cases tells with
  | authenticated => exact iff_of_true rfl ⟨_, rfl⟩
  | rejected =>
    have other : "client assertion authentication rejected" ≠ "client authenticated" := by decide
    exact iff_of_false other (by rintro ⟨_, ⟨⟩⟩)

theorem message_eq_rejected_iff (tells : event.Tells request result) :
    event.message = "client assertion authentication rejected" ↔ ∃ error, result = .error error := by
  cases tells with
  | authenticated =>
    have other : "client authenticated" ≠ "client assertion authentication rejected" := by decide
    exact iff_of_false other (by rintro ⟨_, ⟨⟩⟩)
  | rejected => exact iff_of_true rfl ⟨_, rfl⟩

end Event.Tells

/-- The event of a code that belongs to no authorization, so that there is nothing to prove. -/
def Event.unproved (request : AuthRequest) : Event :=
  ⟨.debug, "no authorization for code, skipping PKCE", [("client_id", request.clientId)]⟩

theorem Rejection.tells {rejection : Rejection} {request : AuthRequest}
    (coded : rejection.code = rejection.error.code) :
    (rejection.event request.clientId).Tells request (.error rejection.error) := by
  rw [event, coded]
  exact .rejected

namespace Attempt

variable {State : Type} {attempt : Attempt State}

/-- The events of the authenticator itself. -/
def events (attempt : Attempt State) : List Event :=
  (authenticate attempt.directory attempt.source attempt.provider attempt.now attempt.request
    attempt.state).events

/-- **All checks before the one of the code pass, and the code belongs to no authorization.** -/
def Unbound (attempt : Attempt State) : Prop :=
  (∀ check ≤ .assertion, attempt.Passes check) ∧
    ∃ code, attempt.request.Exchanges code ∧ attempt.directory.findCode code = .ok none

/-- **All events of a request**: the one that tells its result and, in front of it where a code is
unbound, the one that tells this. -/
inductive Logs (attempt : Attempt State) : List Event → Prop where
  | verdict {verdict : Event} (bound : ¬attempt.Unbound)
      (tells : verdict.Tells attempt.request attempt.result) : Logs attempt [verdict]
  | unproved {verdict : Event} {accepted : AuthenticatedClient} (unbound : attempt.Unbound)
      (granted : attempt.result = .ok accepted)
      (tells : verdict.Tells attempt.request attempt.result) :
      Logs attempt [.unproved attempt.request, verdict]

/-! ### What is admitted -/

/-- An admitted request passes the checks before the assertion, and the validator's verdict on it is
the one on what was admitted. -/
theorem passes_of_preliminary {admission : Admission}
    (admitted : preliminary attempt.directory attempt.request = .ok admission) :
    (∀ check ≤ .verifier, attempt.Passes check) ∧ attempt.Knows admission.client ∧
      attempt.Judges (attempt.validation admission.verifier admission.assertion) := by
  obtain ⟨known, uses, supports, given, nonempty, resolved⟩ := preliminary_eq_ok_iff.mp admitted
  have usable := AuthMethod.usesAssertion_iff.mp uses
  have permitted := Client.supports_iff.mp supports
  have registered := Verifier.resolve_eq_ok_iff.mp resolved
  refine ⟨fun check upTo => ?_, known, admission.client, admission.verifier, admission.assertion,
    known, registered, ⟨given, nonempty⟩, rfl⟩
  cases check with
  | client => exact ⟨_, known⟩
  | method => exact ⟨usable, _, known, permitted⟩
  | credentials => exact ⟨_, given, nonempty⟩
  | verifier => exact ⟨_, _, known, registered⟩
  | assertion | authorization | proofKey => exact absurd upTo (by decide)

theorem passes_of_judges {assertion : Assertion} (passes : ∀ check ≤ .verifier, attempt.Passes check)
    (judged : attempt.Judges (.ok assertion)) : ∀ check ≤ .assertion, attempt.Passes check := by
  intro check upTo
  cases check with
  | client | method | credentials | verifier => exact passes _ (by decide)
  | assertion => exact ⟨assertion, judged⟩
  | authorization | proofKey => exact absurd upTo (by decide)

/-- The events of a request whose assertion has a verdict. -/
theorem events_of_admitted {admission : Admission} {verdict : Except JwtError Assertion}
    (admitted : preliminary attempt.directory attempt.request = .ok admission)
    (given : attempt.validation admission.verifier admission.assertion = verdict) :
    attempt.events = match verdict with
      | .error flaw => [(Rejection.badAssertion flaw).event attempt.request.clientId]
      | .ok assertion =>
        (conclude attempt.directory attempt.request admission.client assertion).2 := by
  unfold validation at given
  simp only [events, authenticate, admitted, given]
  cases verdict with
  | error flaw => rfl
  | ok assertion => rfl

/-- **The events behind a right assertion**, by what becomes of the code. -/
theorem logs_conclude {client : Client} {assertion : Assertion}
    (passes : ∀ check ≤ .assertion, attempt.Passes check)
    (same : client.clientId = attempt.request.clientId)
    (result : attempt.result = (conclude attempt.directory attempt.request client assertion).1) :
    attempt.Logs (conclude attempt.directory attempt.request client assertion).2 := by
  have unbound_iff : attempt.Unbound ↔
      checkGrant attempt.directory client attempt.request = .unbound := by
    rw [checkGrant_eq_unbound_iff]
    exact and_iff_right passes
  unfold conclude at result ⊢
  cases checked : checkGrant attempt.directory client attempt.request with
  | passed =>
    simp only [checked] at result ⊢
    refine .verdict (fun unbound => ?_) ?_
    · cases checked.symm.trans (unbound_iff.mp unbound)
    · rw [result]
      exact .authenticated
  | unbound =>
    simp only [checked] at result ⊢
    rw [unboundCodeEvent, same]
    refine .unproved (unbound_iff.mpr checked) result ?_
    rw [result]
    exact .authenticated
  | rejected rejection =>
    simp only [checked] at result ⊢
    rw [same]
    refine .verdict (fun unbound => ?_) ?_
    · cases checked.symm.trans (unbound_iff.mp unbound)
    · rw [result]
      exact Rejection.tells (Rejection.code_of_checkGrant checked)

/-- **An authentication logs its result**, where clients are found by their identifiers. -/
theorem logs_events (identifies : attempt.directory.Identifies) : attempt.Logs attempt.events := by
  cases admitted : preliminary attempt.directory attempt.request with
  | error rejection =>
    have events : attempt.events = [rejection.event attempt.request.clientId] := by
      simp only [events, authenticate, admitted]
    rw [events]
    refine .verdict (fun unbound => ?_) ?_
    · obtain ⟨_, _, _, -, -, -, other⟩ := preliminary_of_passes fun check upTo =>
        unbound.1 check (upTo.trans (by decide))
      cases admitted.symm.trans other
    · rw [result_of_preliminary rejection admitted]
      exact Rejection.tells (Rejection.code_of_preliminary admitted)
  | ok admission =>
    obtain ⟨passes, known, judged⟩ := passes_of_preliminary admitted
    cases verdict : attempt.validation admission.verifier admission.assertion with
    | error flaw =>
      rw [verdict] at judged
      have result : attempt.result = .error (Rejection.badAssertion flaw).error :=
        result_of_judges passes known judged
      rw [events_of_admitted admitted verdict]
      refine .verdict (fun unbound => ?_) ?_
      · obtain ⟨assertion, accepted⟩ := unbound.1 .assertion le_rfl
        cases judged.unique accepted
      · rw [result]
        exact Rejection.tells rfl
    | ok assertion =>
      rw [verdict] at judged
      rw [events_of_admitted admitted verdict]
      exact logs_conclude (passes_of_judges passes judged) (identifies _ _ known)
        (result_of_judges passes known judged)

/-! ### What events tell -/

namespace Logs

variable {events : List Event}

/-- **One event tells the verdict.** -/
theorem exists_verdict (logs : attempt.Logs events) : ∃ verdict,
    events.filter Event.isVerdict = [verdict] ∧ verdict.Tells attempt.request attempt.result := by
  cases logs with
  | @verdict verdict _ tells => exact ⟨verdict, by simp [tells.isVerdict], tells⟩
  | @unproved verdict _ _ _ tells =>
    have other : (Event.unproved attempt.request).isVerdict = false := rfl
    exact ⟨verdict, by simp [tells.isVerdict, other], tells⟩

/-- A message of verdicts occurs exactly where the event that tells the result has it. -/
theorem exists_message_iff (logs : attempt.Logs events) {message : String} {told : Prop}
    (known : message ∈ verdictMessages)
    (tells_iff : ∀ event : Event, event.Tells attempt.request attempt.result →
      (event.message = message ↔ told)) :
    (∃ event ∈ events, event.message = message) ↔ told := by
  obtain ⟨verdict, only, tells⟩ := logs.exists_verdict
  have member_iff (event : Event) :
      event ∈ events ∧ event.isVerdict = true ↔ event = verdict := by
    rw [← List.mem_filter, only, List.mem_singleton]
  constructor
  · rintro ⟨event, member, rfl⟩
    obtain rfl := (member_iff event).mp ⟨member, decide_eq_true known⟩
    exact (tells_iff event tells).mp rfl
  · intro holds
    exact ⟨verdict, ((member_iff verdict).mpr rfl).1, (tells_iff verdict tells).mpr holds⟩

/-- An unproved code is logged exactly where a code is unbound. -/
theorem exists_unproved_iff (logs : attempt.Logs events) :
    (∃ event ∈ events, event.message = "no authorization for code, skipping PKCE") ↔
      attempt.Unbound := by
  cases logs with
  | @verdict verdict bound tells =>
    refine iff_of_false ?_ bound
    rintro ⟨event, member, same⟩
    obtain rfl := List.mem_singleton.mp member
    have told := tells.isVerdict
    rw [Event.isVerdict, same] at told
    cases told
  | unproved unbound => exact iff_of_true ⟨_, List.mem_cons_self, rfl⟩ unbound

/-- Where a code is unbound, this is logged and the request is authenticated. -/
theorem of_unbound (logs : attempt.Logs events) (unbound : attempt.Unbound) :
    .unproved attempt.request ∈ events ∧ ∃ accepted, attempt.result = .ok accepted := by
  cases logs with
  | verdict bound => exact absurd unbound bound
  | unproved _ granted => exact ⟨List.mem_cons_self, _, granted⟩

end Logs

end Attempt

end ClientAssertion
