/-
**What a TOML file gives.**

* `IsTomlFile`: a TOML file with a layer is at the path that is asked for, or at the default one;
* `IsTomlFile.chosen`: its layer is the one that is chosen;
* `IsTomlFile.laid_of_plain`: if its keys are no paths, it is laid as it stands, since its tables give
  every key one value;
* `IsTomlFile.ofLayer?_of_plain`: so it gives every setting what its tables hold, in whichever order its
  keys come out.
-/

import ClientAssertion.Proofs.Settings.Layer
import ClientAssertion.Proofs.Toml
import ClientAssertion.Settings.Load

namespace ClientAssertion.Settings

/-! ### Values of TOML documents -/

namespace Value

theorem entriesOfToml_eq_map (entries : Toml.Entries) :
    entriesOfToml entries = entries.map fun entry => (entry.1, ofToml entry.2) := by
  induction entries with
  | nil => rfl
  | cons entry entries hypothesis => rw [entriesOfToml, hypothesis, List.map_cons]

theorem keys_entriesOfToml (entries : Toml.Entries) :
    (entriesOfToml entries).map Prod.fst = entries.map Prod.fst := by
  rw [entriesOfToml_eq_map, List.map_map]
  rfl

/-- The keys of a value are distinct if they are so in TOML. -/
theorem distinct_ofToml {value : Toml.Value} (distinct : value.Distinct) : (ofToml value).Distinct := by
  induction distinct with
  | table keys _ hypothesis =>
    refine .table (by rwa [keys_entriesOfToml]) ?_
    rw [entriesOfToml_eq_map]
    exact List.forall_mem_map.mpr hypothesis
  | _ => exact .flat trivial

end Value

/-! ### Files -/

/-- At the path that is asked for, or at the default one, there is a TOML file with a layer. -/
def IsTomlFile (files : Files) (path : Option String) (layer : Layer) : Prop :=
  ∃ octets entries, files (path.getD defaultPath) = .ok (.file octets) ∧
    Format.ofPath? (path.getD defaultPath) = some .toml ∧
    Toml.ofText? (Bytes.lossyText (dropByteOrderMark octets)) = some entries ∧
    layer = Value.entriesOfToml entries

namespace IsTomlFile

/-- The file that holds a text, from the tokens of the text and the entries that they spell. -/
theorem of_scan {files : Files} {path text : String} {tokens : List Toml.Token} (entries : Toml.Entries)
    (held : files path = .ok (.file (Bytes.ofText text))) (format : Format.ofPath? path = some .toml)
    (unmarked : dropByteOrderMark (Bytes.ofText text) = Bytes.ofText text)
    (scanned : Toml.scan? (Toml.dropByteOrderMark text.toList) = some tokens)
    (read : Toml.statementsWithin? tokens.length [] [] tokens = some entries) :
    IsTomlFile files (some path) (Value.entriesOfToml entries) := by
  refine ⟨_, entries, held, format, ?_, rfl⟩
  rw [unmarked, Bytes.lossyText_ofText, Toml.ofText?, scanned]
  exact read

variable {files : Files} {path : Option String} {layer : Layer}

theorem chosen (isToml : IsTomlFile files path layer) : chosenLayer files path = .ok layer := by
  obtain ⟨octets, entries, held, format, read, rfl⟩ := isToml
  have fromPath : fileLayer files (path.getD defaultPath) = .ok (Value.entriesOfToml entries) := by
    simp [fileLayer, held, readLayer, fileLayer?, format, Format.layer?, Format.data?, read]
  cases path with
  | some path => exact fromPath
  | none =>
    rw [Option.getD_none] at held fromPath
    rw [chosenLayer, held]
    exact fromPath

theorem distinct (isToml : IsTomlFile files path layer) : Value.Distinct (.table layer) := by
  obtain ⟨octets, entries, -, -, read, rfl⟩ := isToml
  have tables : (Toml.Value.table .header entries).Distinct :=
    Toml.Value.Distinct.table_iff.mpr (Toml.distinct_of_ofText? read)
  exact Value.distinct_ofToml tables

/-- **A TOML file whose keys are no paths is laid as it stands.** -/
theorem laid_of_plain (isToml : IsTomlFile files path layer) (plain : Plain layer)
    (order : Arrangement Value) : laid [order.arrange layer] = .table (order.arrange layer) := by
  have perm := order.perm layer
  exact Settings.laid_of_plain (fun entry member => plain entry (perm.subset member))
    (isToml.distinct.of_perm perm.symm)

/-- **It gives every setting what its tables hold**, in whichever order its keys come out. -/
theorem ofLayer?_of_plain (isToml : IsTomlFile files path layer) (plain : Plain layer)
    (order : Arrangement Value) (setting : Setting) :
    setting.ofLayer? (order.arrange layer) = Value.at? setting.path (.table layer) := by
  obtain ⟨name, rest, isPath⟩ : ∃ name rest, setting.path = name :: rest := by
    cases setting <;> exact ⟨_, _, rfl⟩
  rw [Setting.ofLayer?, isToml.laid_of_plain plain, isPath]
  exact (isToml.distinct.at?_of_perm (order.perm layer).symm name rest).symm

end IsTomlFile

end ClientAssertion.Settings
