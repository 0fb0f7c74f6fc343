/-
**What the parameters of a token request make.**

* `Parameters.get?_ofPairs`: of a repeated parameter the first value counts;
* `AuthRequest.MadeOf` says what an authentication request takes from the parameters, and
  `ofAssertion_eq_some_iff` that it is exactly the one that they make;
* `GrantConverter.Maps`: a grant type is converted by a conversion, and `convert_of_maps` that it is;
* `Dispatcher.Registers`: requests with the methods of an authenticator are left to it.
-/

import ClientAssertion.Endpoint.Authenticator
import ClientAssertion.Proofs.Client
import ClientAssertion.Proofs.Table
import Mathlib.Tactic.SplitIfs

namespace ClientAssertion

/-! ### Parameters -/

namespace Parameters

/-- **The first value of a parameter counts.** -/
theorem get?_ofPairs (pairs : List (String × String)) (name : String) :
    (ofPairs pairs).get? name = pairs.lookup name :=
  Table.get?_ofFirstPairs pairs name

theorem nonEmpty?_eq_some_iff {parameters : Parameters} {name value : String} :
    parameters.nonEmpty? name = some value ↔ parameters.get? name = some value ∧ value ≠ "" :=
  filter_ne_empty_eq_some_iff

/-- The parameters that remain beside the client's assertion and identifier. -/
def remaining (parameters : Parameters) : Parameters :=
  parameters.filterKeys (!AuthRequest.isConsumed ·)

theorem get?_remaining (parameters : Parameters) (name : String) :
    parameters.remaining.get? name =
      if name ∈ ["client_assertion", "client_assertion_type", "client_id"] then none
      else parameters.get? name := by
  have consumed : AuthRequest.isConsumed name =
      decide (name ∈ ["client_assertion", "client_assertion_type", "client_id"]) := rfl
  rw [remaining, Table.get?_filterKeys, consumed]
  split_ifs <;> simp_all

end Parameters

/-! ### Requests -/

namespace AuthRequest

/-- **A request is made of parameters**: its credentials are their assertion, a signed token whose
header tells the method, its client identifier is theirs or else the token's, and all other
parameters remain. -/
structure MadeOf (parameters : Parameters) (request : AuthRequest) : Prop where
  type : parameters.get? "client_assertion_type" =
    some "urn:ietf:params:oauth:client-assertion-type:jwt-bearer"
  credentials : ∃ assertion header, parameters.get? "client_assertion" = some assertion ∧
    assertion ≠ "" ∧ Token.header assertion = .ok header ∧
    clientIdOf parameters assertion = .ok request.clientId ∧
    request.method = methodOf header.algorithm ∧ request.credentials = some assertion
  parameters : request.parameters = parameters.remaining

theorem ofToken_eq_ok_iff {parameters : Parameters} {assertion : String} {request : AuthRequest} :
    ofToken parameters assertion = .ok request ↔
      (∃ header, Token.header assertion = .ok header ∧
        clientIdOf parameters assertion = .ok request.clientId ∧
        request.method = methodOf header.algorithm ∧ request.credentials = some assertion) ∧
      request.parameters = parameters.remaining := by
  obtain ⟨clientId, method, credentials, remaining⟩ := request
  unfold ofToken
  cases Token.header assertion with
  | error flaw => simp [bind, Except.bind, Except.mapError]
  | ok header =>
    cases clientIdOf parameters assertion with
    | error error => simp [bind, Except.bind, Except.mapError]
    | ok found =>
      simp only [bind, Except.bind, Except.mapError, pure, Except.pure, Except.ok.injEq,
        AuthRequest.mk.injEq, exists_eq_left']
      constructor
      · rintro ⟨rfl, rfl, rfl, rfl⟩
        exact ⟨⟨rfl, rfl, rfl⟩, rfl⟩
      · rintro ⟨⟨rfl, rfl, rfl⟩, rfl⟩
        exact ⟨rfl, rfl, rfl, rfl⟩

/-- **Parameters make exactly the request that is made of them.** -/
theorem ofAssertion_eq_some_iff {parameters : Parameters} {request : AuthRequest} :
    ofAssertion parameters = .ok (some request) ↔ request.MadeOf parameters := by
  constructor
  · intro converted
    unfold ofAssertion at converted
    split at converted
    case h_1 => cases converted
    case h_2 type typed =>
      split_ifs at converted with bearer
      split at converted
      case h_1 => cases converted
      case h_2 assertion presented =>
        obtain ⟨given, -⟩ := Parameters.nonEmpty?_eq_some_iff.mp typed
        obtain ⟨carried, nonempty⟩ := Parameters.nonEmpty?_eq_some_iff.mp presented
        have made : ofToken parameters assertion = .ok request := by
          cases outcome : ofToken parameters assertion with
          | error error =>
            rw [outcome] at converted
            cases converted
          | ok other =>
            rw [outcome] at converted
            cases converted
            rfl
        obtain ⟨⟨header, headed, identified, inferred, presented⟩, rest⟩ := ofToken_eq_ok_iff.mp made
        refine ⟨given.trans (congrArg some bearer), ⟨assertion, header, carried, nonempty, headed,
          identified, inferred, presented⟩, rest⟩
  · rintro ⟨type, ⟨assertion, header, carried, nonempty, headed, identified, inferred, presented⟩, rest⟩
    have typed : parameters.nonEmpty? Parameter.clientAssertionType = some Parameter.jwtBearer :=
      Parameters.nonEmpty?_eq_some_iff.mpr ⟨type, by decide⟩
    have given : parameters.nonEmpty? Parameter.clientAssertion = some assertion :=
      Parameters.nonEmpty?_eq_some_iff.mpr ⟨carried, nonempty⟩
    have made : ofToken parameters assertion = .ok request :=
      ofToken_eq_ok_iff.mpr ⟨⟨header, headed, identified, inferred, presented⟩, rest⟩
    simp only [ofAssertion, typed, if_true, given, made]
    rfl

/-- A client identifier among the parameters counts. -/
theorem clientIdOf_of_given {parameters : Parameters} {clientId : String} (assertion : String)
    (given : parameters.get? "client_id" = some clientId) (nonempty : clientId ≠ "") :
    clientIdOf parameters assertion = .ok clientId := by
  have named : parameters.nonEmpty? Parameter.clientId = some clientId :=
    Parameters.nonEmpty?_eq_some_iff.mpr ⟨given, nonempty⟩
  simp only [clientIdOf, named]

end AuthRequest

/-! ### Conversion by grant type -/

theorem GrantType.name_ne_empty (type : GrantType) : type.name ≠ "" := by
  cases type <;> decide

namespace GrantConverter

/-- A converter has a conversion for the grant type of a name. -/
def Maps (converter : GrantConverter) (name : String) (conversion : Conversion) : Prop :=
  ∃ type : GrantType, name = type.name ∧ converter.conversions.get? type = some conversion

/-- A converter for some grant types maps exactly these, and to its conversion. -/
theorem maps_ofGrantTypes_iff {types : List GrantType} {conversion other : Conversion}
    {converter : GrantConverter} (built : ofGrantTypes types conversion = .ok converter)
    {name : String} :
    converter.Maps name other ↔ other = conversion ∧ ∃ type ∈ types, name = type.name := by
  have mapped : ∀ type, converter.conversions.get? type =
      if type ∈ types then some conversion else none := by
    intro type
    unfold ofGrantTypes GrantConverter.of at built
    split_ifs at built
    cases built
    show (List.foldl _ Table.empty (types.map fun type => (type, conversion))).get? type = _
    rw [List.foldl_map, Table.get?_foldl_insert, Table.get?_empty]
  unfold Maps
  constructor
  · rintro ⟨type, rfl, found⟩
    rw [mapped, Option.ite_none_right_eq_some] at found
    exact ⟨(Option.some.inj found.2).symm, type, found.1, rfl⟩
  · rintro ⟨rfl, type, member, rfl⟩
    exact ⟨type, rfl, by rw [mapped, if_pos member]⟩

/-- **Parameters are converted as their grant type is mapped.** -/
theorem convert_of_maps {converter : GrantConverter} {conversion : Conversion} {name : String}
    {parameters : Parameters} (maps : converter.Maps name conversion)
    (granted : parameters.get? "grant_type" = some name) :
    converter.convert parameters = conversion parameters := by
  obtain ⟨type, rfl, mapped⟩ := maps
  have named : parameters.nonEmpty? Parameter.grantType = some type.name :=
    Parameters.nonEmpty?_eq_some_iff.mpr ⟨granted, type.name_ne_empty⟩
  simp only [convert, named, Option.bind_eq_bind, Option.bind_some, GrantType.ofName?_name, mapped]

end GrantConverter

/-! ### Dispatch by method -/

namespace Dispatcher

variable {State : Type}

/-- An authenticator is the one for all its methods. -/
def Registers (dispatcher : Dispatcher State) (authenticator : Authenticator State) : Prop :=
  ∀ method ∈ authenticator.methods, dispatcher.get? method = some authenticator

theorem get?_withAuthenticator (dispatcher : Dispatcher State) (authenticator : Authenticator State)
    (method : AuthMethod) :
    (dispatcher.withAuthenticator authenticator).get? method =
      if method ∈ authenticator.methods then some authenticator else dispatcher.get? method :=
  Table.get?_foldl_insert dispatcher authenticator.methods authenticator method

theorem registers_withAuthenticator (dispatcher : Dispatcher State)
    (authenticator : Authenticator State) :
    (dispatcher.withAuthenticator authenticator).Registers authenticator := by
  intro method member
  rw [get?_withAuthenticator, if_pos member]

/-- **Requests are left to the authenticator that is registered for their method.** -/
theorem authenticate_of_registers {dispatcher : Dispatcher State}
    {authenticator : Authenticator State} (registers : dispatcher.Registers authenticator)
    {request : AuthRequest} (member : request.method ∈ authenticator.methods) (provider : Provider)
    (now : Instant) (state : State) :
    dispatcher.authenticate provider now request state =
      authenticator.run provider now request state := by
  rw [authenticate, registers request.method member]

end Dispatcher

end ClientAssertion
