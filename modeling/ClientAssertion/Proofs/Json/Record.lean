/-
**Which documents are records, and what their fields are.**

* `knownMembers?_eq_some_iff`: the members of an object have fields exactly when all names denote
  texts and no known one is repeated, and these are then the members with the known names;
* `lookup_filter_keys`: so the value of a known name is the one that it has among all members;
* `exists_fields`: a record that is written by columns is read with their values, which
  `required?_written`, `defaulted?_written` and `optional?_written` read back;
* `asPairs?_arranged`: the pairs of a map are read in the order in which they were written.
-/

import ClientAssertion.Dictionary
import ClientAssertion.Json.Record
import ClientAssertion.Proofs.Table
import Mathlib.Data.List.Perm.Basic

namespace ClientAssertion.Json

/-! ### Members -/

/-- A member whose name is given. -/
def named (member : String × Json) : Option String × Json := (some member.1, member.2)

/-- The value of a name that is kept is the one that it had. -/
theorem lookup_filter_keys {Value : Type} (keep : String → Bool) {name : String}
    (kept : keep name = true) (members : List (String × Value)) :
    (members.filter fun member => keep member.1).lookup name = members.lookup name := by
  induction members with
  | nil => rfl
  | cons member members hypothesis =>
    rw [List.filter_cons, Table.lookup_cons_eq_ite]
    by_cases same : member.1 = name
    · rw [if_pos same, same, if_pos kept, Table.lookup_cons_eq_ite, if_pos same]
    · rw [if_neg same]
      cases keep member.1 with
      | true => rw [if_pos rfl, Table.lookup_cons_eq_ite, if_neg same, hypothesis]
      | false => rw [if_neg Bool.false_ne_true, hypothesis]

/-- **The members of an object have fields** exactly when all names denote texts and no known one
is repeated: the members with the known names. -/
theorem knownMembers?_eq_some_iff {names : List String} {members : List (Option String × Json)}
    {fields : List (String × Json)} :
    knownMembers? names members = some fields ↔
      ∃ all : List (String × Json), members = all.map named ∧
        fields = all.filter (fun member => decide (member.1 ∈ names)) ∧
        (fields.map Prod.fst).Nodup := by
  induction members generalizing fields with
  | nil =>
    constructor
    · rintro ⟨rfl⟩
      exact ⟨[], rfl, rfl, List.nodup_nil⟩
    · rintro ⟨all, none, rfl, -⟩
      obtain rfl := List.map_eq_nil_iff.mp none.symm
      rfl
  | cons member members hypothesis =>
    obtain ⟨name, value⟩ := member
    constructor
    · intro read
      simp only [knownMembers?, Option.bind_eq_bind, Option.bind_eq_some_iff] at read
      obtain ⟨name, rfl, rest, readRest, last⟩ := read
      obtain ⟨all, rfl, rfl, distinct⟩ := hypothesis.mp readRest
      refine ⟨(name, value) :: all, rfl, ?_⟩
      by_cases known : name ∈ names
      · rw [if_pos known] at last
        split_ifs at last with repeated
        obtain rfl := Option.some.inj last
        have new := Table.lookup_eq_none_iff.mp (Option.not_isSome_iff_eq_none.mp repeated)
        simp only [List.filter_cons, known, decide_true, if_true, List.map_cons, List.nodup_cons]
        exact ⟨trivial, new, distinct⟩
      · rw [if_neg known] at last
        obtain rfl := Option.some.inj last
        simp only [List.filter_cons, known, decide_false, Bool.false_eq_true, if_false]
        exact ⟨trivial, distinct⟩
    · rintro ⟨all, same, rfl, distinct⟩
      cases all with
      | nil => cases same
      | cons first all =>
        obtain ⟨isFirst, rfl⟩ := List.cons.inj same
        obtain ⟨rfl, rfl⟩ := Prod.mk.inj isFirst
        by_cases known : first.1 ∈ names
        · simp only [List.filter_cons, known, decide_true, if_true, List.map_cons,
            List.nodup_cons] at distinct ⊢
          have readRest := hypothesis.mpr ⟨all, rfl, rfl, distinct.2⟩
          have new := Table.lookup_eq_none_iff.mpr distinct.1
          simp [knownMembers?, readRest, known, new]
        · simp only [List.filter_cons, known, decide_false, Bool.false_eq_true, if_false] at distinct ⊢
          have readRest := hypothesis.mpr ⟨all, rfl, rfl, distinct⟩
          simp [knownMembers?, readRest, known]

/-- **A reader that knows fewer names** finds the same values of these. -/
theorem knownMembers?_fewer {names : List String} (fewer : List String)
    (included : ∀ name ∈ fewer, name ∈ names)
    {members : List (Option String × Json)} {fields : List (String × Json)}
    (read : knownMembers? names members = some fields) :
    ∃ part, knownMembers? fewer members = some part ∧
      ∀ name ∈ fewer, part.lookup name = fields.lookup name := by
  obtain ⟨all, rfl, rfl, distinct⟩ := knownMembers?_eq_some_iff.mp read
  have within : all.filter (fun member => decide (member.1 ∈ fewer)) =
      (all.filter (fun member => decide (member.1 ∈ names))).filter
        (fun member => decide (member.1 ∈ fewer)) := by
    rw [List.filter_filter]
    refine List.filter_congr fun member _ => ?_
    by_cases known : member.1 ∈ fewer
    · simp [known, included _ known]
    · simp [known]
  refine ⟨_, knownMembers?_eq_some_iff.mpr ⟨all, rfl, rfl, ?_⟩, fun name known => ?_⟩
  · rw [within]
    exact (List.filter_sublist.map Prod.fst).nodup distinct
  · rw [within]
    exact lookup_filter_keys (fun name => decide (name ∈ fewer)) (decide_eq_true known) _

/-! ### Written records -/

variable {α β : Type}

/-- The members of a record whose columns hold a value or none. -/
def present (columns : List (String × Option Json)) : List (String × Json) :=
  columns.filterMap fun column => column.2.map fun value => (column.1, value)

theorem present_nil : present [] = [] := rfl

theorem present_some (name : String) (value : Json) (columns : List (String × Option Json)) :
    present ((name, some value) :: columns) = (name, value) :: present columns := rfl

theorem present_none (name : String) (columns : List (String × Option Json)) :
    present ((name, none) :: columns) = present columns := rfl

/-- The column of an optional value gives the member that is written of it. -/
theorem present_map (name : String) (value : Option α) (toJson : α → Json)
    (columns : List (String × Option Json)) :
    present ((name, value.map toJson) :: columns) = Json.optional name value toJson ++ present columns := by
  cases value <;> rfl

/-- The members that are present have names of columns, in the order of these. -/
theorem keys_present (columns : List (String × Option Json)) :
    ((present columns).map Prod.fst).Sublist (columns.map Prod.fst) := by
  induction columns with
  | nil => exact List.Sublist.refl _
  | cons column columns hypothesis =>
    obtain ⟨name, value⟩ := column
    cases value with
    | none => exact hypothesis.cons name
    | some value => exact hypothesis.cons_cons name

/-- A name has the value of its column, if that holds one. -/
theorem lookup_present {columns : List (String × Option Json)}
    (distinct : (columns.map Prod.fst).Nodup) (name : String) :
    (present columns).lookup name = (columns.lookup name).join := by
  induction columns with
  | nil => rfl
  | cons column columns hypothesis =>
    obtain ⟨other, value⟩ := column
    rw [List.map_cons, List.nodup_cons] at distinct
    rw [Table.lookup_cons_eq_ite]
    cases value with
    | some value =>
      rw [present_some, Table.lookup_cons_eq_ite, hypothesis distinct.2]
      split_ifs <;> rfl
    | none =>
      rw [present_none]
      split_ifs with same
      · refine Table.lookup_eq_none_iff.mpr fun known => distinct.1 ?_
        rw [show other = name from same]
        exact (keys_present columns).subset known
      · exact hypothesis distinct.2

/-- **A record is read with the values of its columns.** -/
theorem exists_fields (columns : List (String × Option Json)) (names : List String)
    (order : columns.map Prod.fst = names) (distinct : names.Nodup) : ∃ fields,
    fields? names (.ofMembers (present columns)) = some fields ∧
      ∀ name, fields.lookup name = (columns.lookup name).join := by
  subst order
  have keys := keys_present columns
  refine ⟨present columns, knownMembers?_eq_some_iff.mpr
    ⟨present columns, rfl, ?_, keys.nodup distinct⟩, lookup_present distinct⟩
  refine (List.filter_eq_self.mpr fun member known => decide_eq_true ?_).symm
  exact keys.subset (List.mem_map_of_mem known)

theorem required?_written {fields : List (String × Json)} {name : String} {read : Json → Option α}
    {document : Json} {value : α} (found : fields.lookup name = some document)
    (back : read document = some value) : required? fields name read = some value := by
  rw [required?, found]
  exact back

/-- A field that was written is read back, whatever its default is. -/
theorem defaulted?_written {fields : List (String × Json)} {name : String} {default : α}
    {read : Json → Option α} {document : Json} {value : α}
    (found : fields.lookup name = some document) (back : read document = some value) :
    defaulted? fields name default read = some value := by
  rw [defaulted?, found]
  exact back

/-- A value that is not written as `null` is not taken for an absent one. -/
theorem orNull?_written {read : Json → Option α} {document : Json} {value : α}
    (noNull : read .null = none) (back : read document = some value) :
    orNull? read document = some (some value) := by
  cases document with
  | null =>
    rw [noNull] at back
    cases back
  | _ => exact congrArg (Option.map some) back

/-- An optional field is read back, present or absent. -/
theorem optional?_written {fields : List (String × Json)} {name : String} {read : Json → Option α}
    {toJson : α → Json} {value : Option α} (found : fields.lookup name = value.map toJson)
    (noNull : read .null = none) (back : ∀ held ∈ value, read (toJson held) = some held) :
    optional? fields name read = some value := by
  cases value with
  | none => rw [optional?, defaulted?, found, Option.map_none]
  | some value =>
    rw [optional?, defaulted?, found, Option.map_some]
    exact orNull?_written noNull (back value rfl)

/-- A list is read back if each of its values is. -/
theorem mapM_written {read : β → Option α} {write : α → β} {values : List α}
    (back : ∀ value ∈ values, read (write value) = some value) :
    (values.map write).mapM read = some values := by
  induction values with
  | nil => rfl
  | cons value values hypothesis =>
    rw [List.map_cons, List.mapM_cons, back value List.mem_cons_self,
      hypothesis fun other member => back other (List.mem_cons_of_mem _ member)]
    rfl

/-- The pairs of an object are read back if each of them is. -/
theorem asPairs?_written {readName : String → Option α} {read : Json → Option β}
    (name : α → String) (write : β → Json) {pairs : List (α × β)}
    (back : ∀ pair ∈ pairs, readName (name pair.1) = some pair.1 ∧ read (write pair.2) = some pair.2) :
    asPairs? readName read (.ofMembers (pairs.map fun pair => (name pair.1, write pair.2))) =
      some pairs := by
  rw [ofMembers, asPairs?, List.map_map]
  refine mapM_written fun pair member => ?_
  obtain ⟨isName, isValue⟩ := back pair member
  simp [isName, isValue]

/-- **The pairs of a map are read back** in the order in which they were written. -/
theorem asPairs?_arranged {readName : String → Option α} {read : Json → Option β}
    (name : α → String) (write : β → Json) {pairs : List (α × β)} (arrangement : Arrangement Json)
    (back : ∀ pair ∈ pairs, readName (name pair.1) = some pair.1 ∧ read (write pair.2) = some pair.2) :
    ∃ arranged : List (α × β), arranged.Perm pairs ∧
      asPairs? readName read
        (.ofMembers (arrangement.arrange (pairs.map fun pair => (name pair.1, write pair.2)))) =
          some arranged := by
  let member := fun pair : α × β => (name pair.1, write pair.2)
  have perm := arrangement.perm (pairs.map member)
  obtain ⟨arranged, isArranged, same⟩ :=
    (congrFun (congrFun (List.eq_map_comp_perm member) _) pairs).mpr perm
  refine ⟨arranged, same, ?_⟩
  rw [show arrangement.arrange (pairs.map member) = arranged.map member from isArranged]
  exact asPairs?_written name write fun pair known => back pair (same.subset known)

theorem asList?_texts (values : List String) : asList? asText? (.texts values) = some values :=
  mapM_written fun _ _ => rfl

theorem asList?_choices {ofName? : String → Option α} {name : α → String}
    (back : ∀ value, ofName? (name value) = some value) (values : List α) :
    asList? (choice? ofName?) (.texts (values.map name)) = some values := by
  rw [texts, asList?, List.map_map]
  exact mapM_written fun value _ => back value

/-! ### What was read -/

/-- An integer fits into 64 bits with a sign. -/
def FitsInt64 (value : Int) : Prop := -9223372036854775808 ≤ value ∧ value < 9223372036854775808

/-- An integer is read exactly if it fits. -/
theorem asInt64?_eq_some_iff {document : Json} {value : Int} :
    document.asInt64? = some value ↔ document.integer? = some value ∧ FitsInt64 value := by
  simp only [asInt64?, Option.bind_eq_bind, Option.bind_eq_some_iff]
  constructor
  · rintro ⟨other, isInteger, taken⟩
    split_ifs at taken with fits
    cases taken
    exact ⟨isInteger, fits⟩
  · rintro ⟨isInteger, fits⟩
    exact ⟨value, isInteger, if_pos fits⟩

/-- A natural number is read exactly if it fits into 64 bits. -/
theorem asNat64?_eq_some_iff {document : Json} {value : Nat} :
    document.asNat64? = some value ↔
      document.integer? = some (value : Int) ∧ value < 18446744073709551616 := by
  simp only [asNat64?, Option.bind_eq_bind, Option.bind_eq_some_iff]
  constructor
  · rintro ⟨other, isInteger, taken⟩
    split_ifs at taken with fits
    obtain rfl := Option.some.inj taken
    rw [Int.toNat_of_nonneg fits.1]
    exact ⟨isInteger, (Int.toNat_lt fits.1).mpr fits.2⟩
  · rintro ⟨isInteger, fits⟩
    exact ⟨value, isInteger, if_pos ⟨Int.natCast_nonneg value, Int.ofNat_lt.mpr fits⟩⟩

/-- The value of a required field was read of some document. -/
theorem exists_of_required? {fields : List (String × Json)} {name : String} {read : Json → Option α}
    {value : α} (taken : required? fields name read = some value) :
    ∃ document, read document = some value := by
  obtain ⟨document, -, isValue⟩ := Option.bind_eq_some_iff.mp taken
  exact ⟨document, isValue⟩

/-- The value of any other field is its default, or was read of some document. -/
theorem eq_or_exists_of_defaulted? {fields : List (String × Json)} {name : String} {default : α}
    {read : Json → Option α} {value : α} (taken : defaulted? fields name default read = some value) :
    value = default ∨ ∃ document, read document = some value := by
  rw [defaulted?] at taken
  split at taken
  · exact .inl (Option.some.inj taken).symm
  · exact .inr ⟨_, taken⟩

theorem exists_of_optional? {fields : List (String × Json)} {name : String} {read : Json → Option α}
    {value : Option α} (taken : optional? fields name read = some value) :
    ∀ held ∈ value, ∃ document, read document = some held := by
  rintro held rfl
  rw [optional?, defaulted?] at taken
  split at taken
  · cases taken
  · rename_i document _
    cases document with
    | null => cases taken
    | _ =>
      obtain ⟨other, isOther, same⟩ := Option.map_eq_some_iff.mp taken
      cases same
      exact ⟨_, isOther⟩

theorem exists_of_mapM {read : β → Option α} {documents : List β} {values : List α}
    (taken : documents.mapM read = some values) :
    ∀ value ∈ values, ∃ document, read document = some value := by
  induction documents generalizing values with
  | nil =>
    cases taken
    exact List.forall_mem_nil _
  | cons document documents hypothesis =>
    simp only [List.mapM_cons, Option.bind_eq_bind, Option.bind_eq_some_iff] at taken
    obtain ⟨first, isFirst, others, areOthers, ⟨⟩⟩ := taken
    exact List.forall_mem_cons.mpr ⟨⟨document, isFirst⟩, hypothesis areOthers⟩

theorem exists_of_asPairs? {readName : String → Option α} {read : Json → Option β} {document : Json}
    {pairs : List (α × β)} (taken : asPairs? readName read document = some pairs) :
    ∀ pair ∈ pairs, ∃ value, read value = some pair.2 := by
  cases document with
  | object members =>
    intro pair member
    obtain ⟨part, isPair⟩ := exists_of_mapM taken pair member
    simp only [Option.bind_eq_bind, Option.bind_eq_some_iff] at isPair
    obtain ⟨_, -, _, isValue, ⟨⟩⟩ := isPair
    exact ⟨_, isValue⟩
  | _ => cases taken

end ClientAssertion.Json
