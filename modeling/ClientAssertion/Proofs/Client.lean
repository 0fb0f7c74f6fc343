/-
**What a registration states.**

* `filter_ne_empty_eq_some_iff` and `filter_ne_empty_eq_none_iff`: a text that is asked for unless
  it is empty;
* `Client.secret?_eq_some_iff` and `Client.supports_iff` say what stands behind the questions that
  are asked of a registration.
-/

import ClientAssertion.Client

namespace ClientAssertion

/-- A text that is not empty is kept. -/
theorem filter_ne_empty_eq_some_iff {text : Option String} {value : String} :
    text.filter (· ≠ "") = some value ↔ text = some value ∧ value ≠ "" := by
  rw [Option.filter_eq_some_iff]
  simp

theorem filter_ne_empty_eq_none_iff {text : Option String} :
    text.filter (· ≠ "") = none ↔ ∀ value, text = some value → value = "" := by
  rw [Option.filter_eq_none_iff]
  simp

namespace Client

/-- An empty secret is none. -/
theorem secret?_eq_some_iff {client : Client} {secret : String} :
    client.secret? = some secret ↔ client.clientSecret = some secret ∧ secret ≠ "" :=
  filter_ne_empty_eq_some_iff

theorem supports_iff {client : Client} {method : AuthMethod} :
    client.supports method = true ↔ method ∈ client.methods := by
  simp [supports]

end Client

/-- Two methods of all present an assertion. -/
theorem AuthMethod.usesAssertion_iff {method : AuthMethod} :
    method.usesAssertion = true ↔ method = .clientSecretJwt ∨ method = .privateKeyJwt := by
  cases method <;> simp [usesAssertion]

end ClientAssertion
