/-
**What stands at a path after a change.**

Keys lead through tables; anything else on the way has no entries.

* `at?_alter_same`: a change at a path is seen there;
* `at?_alter_of_diverges`: it is not seen where another path leads that parts from the first one;
* `laidOver_of_flat`: a value that is no table replaces what it is laid over, and
  `Distinct.laidOver_nothing`: over nothing a value with distinct keys is the same;
* `Distinct.at?_of_perm`: the order of its entries does not count;
* `defaulted?_section`: of a section that is a table or missing, only the entries count.
-/

import ClientAssertion.Proofs.Table
import ClientAssertion.Settings.Value

namespace ClientAssertion.Settings.Value

/-! ### Paths of keys -/

/-- The value at a path of keys. -/
def at? : (path : List String) → Value → Option Value
  | [], value => some value
  | name :: path, value => (Table.find? name value.entries).bind (at? path)

/-- Two paths part before either of them ends. -/
def diverges : List String → List String → Bool
  | name :: path, other :: others => name != other || diverges path others
  | _, _ => false

theorem diverges_self (path : List String) : diverges path path = false := by
  induction path with
  | nil => rfl
  | cons name path hypothesis => rw [diverges, bne_self_eq_false, hypothesis, Bool.or_false]

theorem at?_cons_cons (name next : String) (path : List String) (value : Value) :
    at? (name :: next :: path) value = at? (next :: path) (entry name value.entries) := by
  rw [at?, entry]
  cases Table.find? name value.entries <;> rfl

theorem getD_at?_cons (name : String) (path : List String) (value : Value) :
    (at? (name :: path) value).getD .nothing =
      (at? path (entry name value.entries)).getD .nothing := by
  cases path with
  | nil =>
    rw [at?, at?, entry]
    cases Table.find? name value.entries <;> rfl
  | cons next path => rw [at?_cons_cons]

/-! ### Changes -/

variable {change : Value → Value}

/-- **A change is seen** at its own path. -/
theorem at?_alter_same (path : List String) (value : Value) :
    at? path (alter change (path.map .key) value) =
      some (change ((at? path value).getD .nothing)) := by
  induction path generalizing value with
  | nil => rfl
  | cons name path hypothesis =>
    rw [List.map_cons, alter, at?, entries, Table.find?_put, if_pos rfl, Option.bind_some,
      hypothesis, getD_at?_cons]

/-- **A change is not seen** from a path that parts from its own. -/
theorem at?_alter_of_diverges {path other : List String} (parts : diverges path other = true)
    (value : Value) : at? other (alter change (path.map .key) value) = at? other value := by
  induction path, other using diverges.induct generalizing value with
  | case1 name path next others hypothesis =>
    rw [List.map_cons, alter, at?, at?, entries, Table.find?_put]
    by_cases same : name = next
    · subst same
      rw [diverges, bne_self_eq_false, Bool.false_or] at parts
      -- Something follows the key that both have, or else they would not part.
      cases others with
      | nil => cases path <;> cases parts
      | cons next others => rw [if_pos rfl, Option.bind_some, hypothesis parts, ← at?_cons_cons, at?]
    · rw [if_neg same]
  | case2 path other short =>
    rw [diverges] at parts
    · cases parts
    · exact short

/-- The kind of value that replaces what it is laid over. -/
def IsFlat : Value → Prop
  | .table _ => False
  | _ => True

theorem laidOver_of_flat {value : Value} (flat : value.IsFlat) (below : Value) :
    value.laidOver below = value := by
  cases value with
  | table => cases flat
  | _ => rw [laidOver]; rintro _ ⟨⟩

/-! ### Tables with distinct keys -/

/-- The keys of a table are distinct, and those of the tables in it. -/
inductive Distinct : Value → Prop where
  | flat {value : Value} (isFlat : value.IsFlat) : Distinct value
  | table {entries : List (String × Value)} (distinct : (entries.map Prod.fst).Nodup)
      (each : ∀ entry ∈ entries, Distinct entry.2) : Distinct (.table entries)

theorem entry_of_not_mem {name : String} {entries : List (String × Value)}
    (new : name ∉ entries.map Prod.fst) : entry name entries = .nothing := by
  rw [entry, Table.find?_eq_none.mpr new, Option.getD_none]

theorem entriesOver_of_new {entries below : List (String × Value)}
    (distinct : ((below ++ entries).map Prod.fst).Nodup)
    (alone : ∀ entry ∈ entries, entry.2.laidOver .nothing = entry.2) :
    entriesOver entries below = below ++ entries := by
  induction entries generalizing below with
  | nil => rw [entriesOver, List.append_nil]
  | cons first entries hypothesis =>
    obtain ⟨name, value⟩ := first
    obtain ⟨same, alone⟩ := List.forall_mem_cons.mp alone
    have new : name ∉ below.map Prod.fst := fun known => by
      rw [List.map_append, List.map_cons, List.nodup_append] at distinct
      exact distinct.2.2 _ known _ List.mem_cons_self rfl
    rw [entriesOver, entry_of_not_mem new, same, Table.put_of_not_mem new,
      hypothesis (by rwa [List.append_assoc]) alone, List.append_assoc, List.singleton_append]

/-- **A value with distinct keys is the same over nothing.** -/
theorem Distinct.laidOver_nothing {value : Value} (distinct : value.Distinct) :
    value.laidOver .nothing = value := by
  induction distinct with
  | flat isFlat => exact laidOver_of_flat isFlat _
  | table distinct _ hypothesis =>
    rw [laidOver, entries, entriesOver_of_new (by simpa using distinct) hypothesis, List.nil_append]
    rintro _ ⟨⟩

theorem Distinct.table_iff {entries : List (String × Value)} :
    Distinct (.table entries) ↔
      (entries.map Prod.fst).Nodup ∧ ∀ entry ∈ entries, Distinct entry.2 := by
  constructor
  · rintro (isFlat | ⟨distinct, each⟩)
    · cases isFlat
    · exact ⟨distinct, each⟩
  · exact fun ⟨distinct, each⟩ => .table distinct each

/-- A value has a section that is a table, or none. -/
def HasSection (name : String) (value : Value) : Prop :=
  ∀ held, Table.find? name value.entries = some held → ∃ entries, held = .table entries

section Order

variable {entries others : List (String × Value)} (perm : entries.Perm others)
  (distinct : Distinct (.table entries))

include perm distinct

/-- The keys of a table are distinct in any order. -/
theorem Distinct.of_perm : Distinct (.table others) := by
  obtain ⟨keys, each⟩ := table_iff.mp distinct
  exact .table ((perm.map Prod.fst).nodup keys) fun entry member => each entry (perm.mem_iff.mpr member)

/-- **The order of entries with distinct keys does not count.** -/
theorem Distinct.at?_of_perm (name : String) (path : List String) :
    at? (name :: path) (.table entries) = at? (name :: path) (.table others) := by
  rw [at?, at?, Value.entries, Value.entries, Table.find?_of_perm perm (table_iff.mp distinct).1]

/-- Its sections are tables or missing in any order. -/
theorem HasSection.of_perm {name : String} (isSection : HasSection name (.table entries)) :
    HasSection name (.table others) := by
  intro held found
  rw [Value.entries, ← Table.find?_of_perm perm (Distinct.table_iff.mp distinct).1] at found
  exact isSection held found

end Order

/-! ### Sections -/

variable {α : Type}

/-- **Of a section only the entries count**, if it is missing or a table. -/
theorem defaulted?_section {name : String} {value : Value} (isSection : value.HasSection name)
    {default : α} {read : Value → Option α} (whole : read (.table []) = some default) :
    defaulted? value.entries name default read = read (.table (entry name value.entries).entries) := by
  rw [defaulted?, entry]
  cases found : Table.find? name value.entries with
  | none => exact whole.symm
  | some held =>
    obtain ⟨entries, rfl⟩ := isSection held found
    rfl

/-- A section stays one when something is put into it or beside it. -/
theorem HasSection.alter {name : String} {value : Value} (isSection : value.HasSection name)
    {path : List String} (inside : path ≠ [name]) (nonempty : path ≠ []) :
    (value.alter change (path.map .key)).HasSection name := by
  obtain ⟨first, rest, rfl⟩ := List.exists_cons_of_ne_nil nonempty
  intro held found
  rw [List.map_cons, Value.alter, entries, Table.find?_put] at found
  split at found
  · rename_i same
    subst same
    have deeper : rest ≠ [] := fun none => inside (congrArg (first :: ·) none)
    obtain ⟨next, rest, rfl⟩ := List.exists_cons_of_ne_nil deeper
    exact ⟨_, (Option.some.inj found).symm⟩
  · exact isSection held found

end ClientAssertion.Settings.Value
