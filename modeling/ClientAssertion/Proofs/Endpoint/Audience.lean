/-
**The audience of assertions.**

An assertion has to name the URL of the token endpoint, which joins the path of the endpoint to the
issuer with one slash.

* `Provider.IsBase` and `Provider.IsRest`: the longest part of an issuer that ends in no slash, and
  the longest part of a path that starts with none;
* `Provider.exists_url_eq`: a URL is such a part of the issuer, a slash and such a part of the path;
* `Provider.url_slashes`: slashes behind the issuer and in front of the path leave a URL as it is;
* `authenticate_congr`: an authentication reads nothing else of a server than its audience;
* `slashes_leave_audience`: so it does not depend on how many slashes a server is written with.
-/

import ClientAssertion.Proofs.Endpoint.Acceptance
import Mathlib.Data.List.DropRight

namespace ClientAssertion

namespace Provider

/-! ### Parts without slashes -/

/-- The longest part of a path, up to its end, that does not start with a slash. -/
structure IsRest (path rest : List Char) : Prop where
  part : rest <:+ path
  start : rest.head? ≠ some '/'
  longest : ∀ other, other <:+ path → other.head? ≠ some '/' → other.length ≤ rest.length

/-- The longest part of an issuer, from its start, that does not end in a slash. -/
structure IsBase (issuer base : List Char) : Prop where
  part : base <+: issuer
  stop : base.getLast? ≠ some '/'
  longest : ∀ other, other <+: issuer → other.getLast? ≠ some '/' → other.length ≤ base.length

theorem isRest_dropWhile (path : List Char) : IsRest path (path.dropWhile (· == '/')) where
  part := List.dropWhile_suffix _
  start starts := by
    have stops := List.head?_dropWhile_not (· == '/') path
    rw [starts] at stops
    cases stops
  longest other part start := by
    induction path with
    | nil => exact part.length_le
    | cons first path hypothesis =>
      by_cases slash : first = '/'
      · rw [List.dropWhile_cons_of_pos (by simpa using slash)]
        -- the whole path starts with a slash
        rcases List.suffix_cons_iff.mp part with rfl | later
        · exact absurd (congrArg some slash) start
        · exact hypothesis later
      · rw [List.dropWhile_cons_of_neg (by simpa using slash)]
        exact part.length_le

/-- Read from its end, an issuer is like a path. -/
theorem isBase_of_isRest_reverse {issuer base : List Char} (isRest : IsRest issuer.reverse base.reverse) :
    IsBase issuer base where
  part := List.reverse_suffix.mp isRest.part
  stop := by
    rw [← List.head?_reverse]
    exact isRest.start
  longest other part stop := by
    have longest := isRest.longest other.reverse (List.reverse_suffix.mpr part)
      (by rwa [List.head?_reverse])
    simpa only [List.length_reverse] using longest

theorem isBase_trimSlashes (issuer : List Char) : IsBase issuer (trimSlashes issuer) := by
  apply isBase_of_isRest_reverse
  rw [trimSlashes, List.reverse_reverse]
  exact isRest_dropWhile issuer.reverse

/-! ### URLs -/

/-- **A URL is a part of the issuer, a slash and a part of the path.** -/
theorem exists_url_eq (provider : Provider) (path : String) :
    ∃ base rest : String, provider.url path = base ++ "/" ++ rest ∧
      IsBase provider.issuer.toList base.toList ∧ IsRest path.toList rest.toList := by
  refine ⟨String.ofList (trimSlashes provider.issuer.toList),
    String.ofList (path.toList.dropWhile (· == '/')), ?_, ?_, ?_⟩
  · rw [url, String.append_assoc, String.ofList_append, String.ofList_cons]
    rfl
  · rw [String.toList_ofList]
    exact isBase_trimSlashes _
  · rw [String.toList_ofList]
    exact isRest_dropWhile _

/-- A text of slashes. -/
def slashes (count : Nat) : String := String.ofList (List.replicate count '/')

theorem forall_mem_slashes {count : Nat} : ∀ char ∈ (slashes count).toList, (char == '/') = true := by
  intro char member
  rw [slashes, String.toList_ofList] at member
  exact beq_iff_eq.mpr (List.eq_of_mem_replicate member)

theorem trimSlashes_append_slashes (text : List Char) (count : Nat) :
    trimSlashes (text ++ (slashes count).toList) = trimSlashes text := by
  rw [trimSlashes, List.reverse_append, List.dropWhile_append_of_pos, trimSlashes]
  exact fun char member => forall_mem_slashes char (List.mem_reverse.mp member)

/-- **Slashes between the issuer and the path leave a URL as it is.** -/
theorem url_slashes (issuer path : String) (endpoints : Endpoints) (behind before : Nat) :
    url ⟨issuer ++ slashes behind, endpoints⟩ (slashes before ++ path) = url ⟨issuer, endpoints⟩ path := by
  simp only [url, String.toList_append]
  rw [trimSlashes_append_slashes, List.dropWhile_append_of_pos forall_mem_slashes]

example : url ⟨"///", {}⟩ "//" = "/" := by decide

/-- Two servers differ in the slashes behind their issuers and in front of their token endpoints, and
otherwise only in their further endpoints. -/
structure AlikeButSlashes (first second : Provider) : Prop where
  issuer : ∃ stem behind behindToo,
    first.issuer = stem ++ slashes behind ∧ second.issuer = stem ++ slashes behindToo
  token : ∃ stem before beforeToo,
    first.endpoints.token = slashes before ++ stem ∧ second.endpoints.token = slashes beforeToo ++ stem

/-- Such servers are the same audience. -/
theorem AlikeButSlashes.tokenEndpointUrl_eq {first second : Provider}
    (alike : first.AlikeButSlashes second) : first.tokenEndpointUrl = second.tokenEndpointUrl := by
  obtain ⟨firstIssuer, firstEndpoints⟩ := first
  obtain ⟨secondIssuer, secondEndpoints⟩ := second
  obtain ⟨⟨issuer, behind, behindToo, rfl, rfl⟩, path, before, beforeToo, written, writtenToo⟩ := alike
  rw [tokenEndpointUrl, tokenEndpointUrl, written, writtenToo, url_slashes, url_slashes]
  rfl

end Provider

/-! ### Authentication -/

/-- **Of a server an authentication reads the audience alone.** -/
theorem authenticate_congr {State : Type} {first second : Provider}
    (same : first.tokenEndpointUrl = second.tokenEndpointUrl) (directory : Directory)
    (source : KeySource State) (now : Instant) (request : AuthRequest) (state : State) :
    authenticate directory source first now request state =
      authenticate directory source second now request state := by
  rw [authenticate, authenticate, same]

/-- **Slashes in issuer and path do not matter to the audience.** For every issuer and path:

* slashes behind the issuer and in front of the path leave the URL as it is;
* a URL is the longest part of the issuer that ends in no slash, one slash, and the longest part of
  the path that starts with none;
* so servers that differ in such slashes only, of the issuer and of the token endpoint, demand the
  same audience: for every directory, source of keys, instant and request an authentication under
  either ends alike, and no assertion is right under one and wrong under the other. -/
theorem slashes_leave_audience :
    (∀ issuer path endpoints behind before,
      Provider.url ⟨issuer ++ Provider.slashes behind, endpoints⟩ (Provider.slashes before ++ path) =
        Provider.url ⟨issuer, endpoints⟩ path) ∧
    (∀ (provider : Provider) (path : String), ∃ base rest : String,
      provider.url path = base ++ "/" ++ rest ∧
        Provider.IsBase provider.issuer.toList base.toList ∧ Provider.IsRest path.toList rest.toList) ∧
    ∀ first second : Provider, first.AlikeButSlashes second →
      first.tokenEndpointUrl = second.tokenEndpointUrl ∧
      ∀ (State : Type) (source : KeySource State) (now : Instant) (state : State),
        (∀ (directory : Directory) (request : AuthRequest),
          authenticate directory source first now request state =
            authenticate directory source second now request state) ∧
        ∀ (verifier : Verifier) (clientId token : String) (assertion : Assertion),
          (Assertion.validate verifier source (.ofClient clientId first.tokenEndpointUrl) now token
            state).result = .ok assertion ↔
          (Assertion.validate verifier source (.ofClient clientId second.tokenEndpointUrl) now token
            state).result = .ok assertion := by
  refine ⟨fun issuer path endpoints => Provider.url_slashes issuer path endpoints,
    Provider.exists_url_eq, ?_⟩
  intro first second alike
  have same := alike.tokenEndpointUrl_eq
  refine ⟨same, fun State source now state => ⟨?_, ?_⟩⟩
  · exact fun directory request => authenticate_congr same directory source now request state
  · intro verifier clientId token assertion
    rw [same]

/-- The assertion of a client is accepted by a server that is written with other slashes. -/
theorem slashes_leave_audience_sample :
    let client : Client :=
      { id := "registration-1", clientId := "client-1", clientSecret := some "secret"
        methods := [.clientSecretJwt], settings := { signingAlgorithm := some .hs256 } }
    let directory := Directory.ofStores (trace ClientStore.perform [client] .empty).2 .empty .zero
    let request : AuthRequest := ⟨"client-1", .clientSecretJwt, some Sample.token, .empty⟩
    let provider : Provider := ⟨"https://auth.example.com//", { token := "oauth2/token" }⟩
    Sample.provider.AlikeButSlashes provider ∧
      ∃ accepted, (authenticate directory KeySource.fixed provider Sample.now request
        .empty).result = .ok accepted := by
  intro client directory request provider
  have alike : Sample.provider.AlikeButSlashes provider :=
    ⟨⟨"https://auth.example.com", 0, 2, by decide, by decide⟩,
      ⟨"oauth2/token", 1, 0, by decide, by decide⟩⟩
  have known : directory.findClient "client-1" = .ok (some client) := rfl
  have exchanged : request.parameters.get? "grant_type" ≠ some "authorization_code" := nofun
  obtain ⟨accepted, accepts⟩ := Sample.authenticates KeySource.fixed .empty known (by simp [client])
    rfl rfl exchanged
  have same := ((slashes_leave_audience.2.2 _ _ alike).2 _ KeySource.fixed Sample.now .empty).1
    directory request
  exact ⟨alike, accepted, same ▸ accepts⟩

end ClientAssertion
