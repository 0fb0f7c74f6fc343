/-
**Parameters that arrive as a form.**

* `Parameters.ofForm_encode`: a form carries exactly the parameters that it was written of;
* `Parameters.ofPairs_of_known`: a parameter behind one with its name is not read;
* `form_undoes_encoding`: so the first value of a name is the one for every reader of a form.
-/

import ClientAssertion.Proofs.Endpoint.Request
import ClientAssertion.Proofs.Url.Form

namespace ClientAssertion

namespace Parameters

/-- **A form carries the parameters that it was written of.** -/
theorem ofForm_encode (pairs : List (String × String)) : ofForm (Form.encode pairs) = ofPairs pairs := by
  rw [ofForm, Form.decode_encode]

/-- A parameter behind one with its name is not read. -/
theorem ofPairs_of_known {name : String} {pairs : List (String × String)}
    (known : name ∈ pairs.map Prod.fst) (value : String) (after : List (String × String)) :
    ofPairs (pairs ++ (name, value) :: after) = ofPairs (pairs ++ after) :=
  Table.ofFirstPairs_of_known known value after

end Parameters

/-- **A form is read as it was written, and the first value of a name counts.** For every list of
pairs of texts, with empty and repeated names and any characters:

* the form that the pairs are written as is made of the octets of their names and values, escaped,
  and of separators, and carries the parameters of the pairs;
* a name has the value of the first pair with it, and none if there is no such pair;
* without a pair whose name a pair before it has, the form carries the same parameters, of which every
  conversion makes the same. -/
theorem form_undoes_encoding (pairs : List (String × String)) :
    let parameters := Parameters.ofForm (Form.encode pairs)
    Bytes.ofText (Form.encode pairs) = Form.encodeOctets pairs ∧
    parameters = .ofPairs pairs ∧
    (∀ name value, parameters.get? name = some value ↔
      ∃ before after, pairs = before ++ (name, value) :: after ∧ name ∉ before.map Prod.fst) ∧
    (∀ name, parameters.get? name = none ↔ name ∉ pairs.map Prod.fst) ∧
    ∀ before name value after, pairs = before ++ (name, value) :: after →
      name ∈ before.map Prod.fst →
      let fewer := Parameters.ofForm (Form.encode (before ++ after))
      fewer = parameters ∧ Parameters.ofPairs (before ++ after) = parameters ∧
      (∀ conversion : Conversion, conversion fewer = conversion parameters) ∧
      ∀ converter : GrantConverter, converter.convert fewer = converter.convert parameters := by
  intro parameters
  have read : parameters = .ofPairs pairs := Parameters.ofForm_encode pairs
  refine ⟨Form.ofText_encode pairs, read, ?_, ?_, ?_⟩
  · intro name value
    rw [read, Parameters.get?_ofPairs, Table.lookup_eq_some_iff]
  · intro name
    rw [read, Parameters.get?_ofPairs, Table.lookup_eq_none_iff]
  · rintro before name value after rfl known fewer
    have same : Parameters.ofPairs (before ++ after) = parameters :=
      (Parameters.ofPairs_of_known known value after).symm.trans read.symm
    have fewerSame : fewer = parameters := (Parameters.ofForm_encode _).trans same
    exact ⟨fewerSame, same, fun conversion => by rw [fewerSame], fun converter => by rw [fewerSame]⟩

end ClientAssertion
