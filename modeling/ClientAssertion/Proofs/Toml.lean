/-
**A TOML document gives every key one value.**

* `Distinct`: the keys of every table of a value are distinct;
* `Entries.Distinct.within`, `Entries.Distinct.assignIn?`: what a statement does at the end of a path
  keeps the keys of the tables on the way distinct;
* `readsDistinct`: values that were read are distinct, with the arrays and inline tables in them;
* `distinct_of_ofText?`: so is every document that was read.
-/

import ClientAssertion.Proofs.Table
import ClientAssertion.Toml.Document

namespace ClientAssertion.Toml

/-- The keys of every table of a value are distinct. -/
inductive Value.Distinct : Value → Prop where
  | bool (value : Bool) : Distinct (.bool value)
  | integer (value : Int) : Distinct (.integer value)
  | float (value : Float) : Distinct (.float value)
  | text (value : String) : Distinct (.text value)
  | moment (text : String) : Distinct (.moment text)
  | list {items : List Value} (each : ∀ item ∈ items, Distinct item) : Distinct (.list items)
  | table {origin : Origin} {entries : List (String × Value)}
      (distinct : (entries.map Prod.fst).Nodup) (each : ∀ entry ∈ entries, Distinct entry.2) :
      Distinct (.table origin entries)
  | tables {earlier : List (List (String × Value))} {last : List (String × Value)}
      (distinct : ∀ entries ∈ last :: earlier, (entries.map Prod.fst).Nodup)
      (each : ∀ entries ∈ last :: earlier, ∀ entry ∈ entries, Distinct entry.2) :
      Distinct (.tables earlier last)

/-- The keys of a table are distinct, and those of every table in it. -/
structure Entries.Distinct (entries : Entries) : Prop where
  keys : (entries.map Prod.fst).Nodup
  each : ∀ entry ∈ entries, entry.2.Distinct

namespace Value.Distinct

variable {origin : Origin} {inner last : Entries} {earlier : List (List (String × Value))}

theorem table_iff : (Value.table origin inner).Distinct ↔ Entries.Distinct inner := by
  constructor
  · rintro (_ | _ | _ | _ | _ | _ | ⟨keys, each⟩ | _)
    exact ⟨keys, each⟩
  · exact fun distinct => .table distinct.keys distinct.each

theorem tables_iff :
    (Value.tables earlier last).Distinct ↔ ∀ entries ∈ last :: earlier, Entries.Distinct entries := by
  constructor
  · rintro (_ | _ | _ | _ | _ | _ | _ | ⟨keys, each⟩) entries member
    exact ⟨keys entries member, each entries member⟩
  · exact fun distinct =>
      .tables (fun entries member => (distinct entries member).keys)
        fun entries member => (distinct entries member).each

end Value.Distinct

/-! ### Statements -/

namespace Entries.Distinct

variable {entries after : Entries} {name : String} {value : Value} {path : List String}

theorem nil : Entries.Distinct [] := ⟨List.nodup_nil, List.forall_mem_nil _⟩

theorem put (distinct : Entries.Distinct entries) (isDistinct : value.Distinct) :
    Entries.Distinct (Table.put name value entries) := by
  refine ⟨Table.nodup_keys_put distinct.keys, fun entry member => ?_⟩
  obtain rfl | known := Table.eq_or_mem_of_mem_put member
  · exact isDistinct
  · exact distinct.each entry known

theorem find? (distinct : Entries.Distinct entries) (found : Table.find? name entries = some value) :
    value.Distinct :=
  distinct.each _ (Table.mem_of_find? found)

/-- **A change at the path of a header** keeps keys distinct if it does so at the end of the path. -/
theorem within {change : Entries → Option Entries}
    (keeps : ∀ {before after}, Entries.Distinct before → change before = some after →
      Entries.Distinct after)
    (distinct : Entries.Distinct entries) (changed : within change path entries = some after) :
    Entries.Distinct after := by
  induction path generalizing entries after with
  | nil => exact keeps distinct changed
  | cons name path hypothesis =>
    rw [Toml.within] at changed
    split at changed
    · obtain ⟨inner, isInner, ⟨⟩⟩ := Option.bind_eq_some_iff.mp changed
      exact distinct.put (Value.Distinct.table_iff.mpr (hypothesis nil isInner))
    · cases changed
    · rename_i origin inner _ found
      obtain ⟨inner, isInner, ⟨⟩⟩ := Option.bind_eq_some_iff.mp changed
      have before := Value.Distinct.table_iff.mp (distinct.find? found)
      exact distinct.put (Value.Distinct.table_iff.mpr (hypothesis before isInner))
    · rename_i earlier last found
      obtain ⟨inner, isInner, ⟨⟩⟩ := Option.bind_eq_some_iff.mp changed
      obtain ⟨before, others⟩ := List.forall_mem_cons.mp
        (Value.Distinct.tables_iff.mp (distinct.find? found))
      exact distinct.put (Value.Distinct.tables_iff.mpr
        (List.forall_mem_cons.mpr ⟨hypothesis before isInner, others⟩))
    · cases changed

theorem openTable? (distinct : Entries.Distinct entries)
    (opened : openTable? name entries = some after) : Entries.Distinct after := by
  rw [Toml.openTable?] at opened
  split at opened
  · obtain ⟨rfl⟩ := opened
    exact distinct.put (Value.Distinct.table_iff.mpr nil)
  · rename_i inner found
    obtain ⟨rfl⟩ := opened
    exact distinct.put (Value.Distinct.table_iff.mpr
      (Value.Distinct.table_iff.mp (distinct.find? found)))
  · cases opened

theorem openElement? (distinct : Entries.Distinct entries)
    (opened : openElement? name entries = some after) : Entries.Distinct after := by
  rw [Toml.openElement?] at opened
  split at opened
  · obtain ⟨rfl⟩ := opened
    exact distinct.put (Value.Distinct.tables_iff.mpr (List.forall_mem_singleton.mpr nil))
  · rename_i earlier last found
    obtain ⟨rfl⟩ := opened
    obtain ⟨before, others⟩ := List.forall_mem_cons.mp
      (Value.Distinct.tables_iff.mp (distinct.find? found))
    refine distinct.put (Value.Distinct.tables_iff.mpr (List.forall_mem_cons.mpr ⟨nil, ?_⟩))
    exact List.forall_mem_append.mpr ⟨others, List.forall_mem_singleton.mpr before⟩
  · cases opened

/-- **A value at a path** keeps keys distinct if its own are. -/
theorem assignIn? {takesValues : Bool} (isDistinct : value.Distinct) (distinct : Entries.Distinct entries)
    (assigned : assignIn? value takesValues path entries = some after) : Entries.Distinct after := by
  induction path generalizing takesValues entries after with
  | nil => cases assigned
  | cons name path hypothesis =>
    have deeper {takesValues : Bool} {origin : Origin} {inner inside : Entries}
        (before : Entries.Distinct inner)
        (isInside : Toml.assignIn? value takesValues path inner = some inside) :
        Entries.Distinct (Table.put name (.table origin inside) entries) :=
      distinct.put (Value.Distinct.table_iff.mpr (hypothesis before isInside))
    cases path with
    | nil =>
      rw [Toml.assignIn?] at assigned
      split at assigned
      · obtain ⟨rfl⟩ := assigned
        exact distinct.put isDistinct
      · cases assigned
    | cons next path =>
      rw [Toml.assignIn?] at assigned
      · split at assigned
        · obtain ⟨inside, isInside, ⟨⟩⟩ := Option.bind_eq_some_iff.mp assigned
          exact deeper nil isInside
        · rename_i inner found
          obtain ⟨inside, isInside, ⟨⟩⟩ := Option.bind_eq_some_iff.mp assigned
          exact deeper (Value.Distinct.table_iff.mp (distinct.find? found)) isInside
        · rename_i inner found
          obtain ⟨inside, isInside, ⟨⟩⟩ := Option.bind_eq_some_iff.mp assigned
          exact deeper (Value.Distinct.table_iff.mp (distinct.find? found)) isInside
        · rename_i earlier last found
          obtain ⟨inside, isInside, ⟨⟩⟩ := Option.bind_eq_some_iff.mp assigned
          obtain ⟨before, others⟩ := List.forall_mem_cons.mp
            (Value.Distinct.tables_iff.mp (distinct.find? found))
          exact distinct.put (Value.Distinct.tables_iff.mpr
            (List.forall_mem_cons.mpr ⟨hypothesis before isInside, others⟩))
        · cases assigned
      · rintro ⟨⟩

end Entries.Distinct

/-! ### Values -/

theorem distinct_ofWord? {chars : List Char} {value : Value} (read : ofWord? chars = some value) :
    value.Distinct := by
  rw [ofWord?] at read
  split at read
  · obtain ⟨rfl⟩ := read
    exact .bool true
  split at read
  · obtain ⟨rfl⟩ := read
    exact .bool false
  simp only [Option.or_eq_some_iff, Option.map_eq_some_iff] at read
  obtain ⟨_, -, rfl⟩ | ⟨-, ⟨_, -, rfl⟩ | ⟨-, _, -, rfl⟩⟩ := read
  · exact .integer _
  · exact .float _
  · exact .moment _

/-- A scalar holds no table. -/
theorem distinct_scalar? {tokens rest : List Token} {value : Value}
    (read : scalar? tokens = some (value, rest)) : value.Distinct := by
  have word {chars : List Char} {after : List Token}
      (isWord : (ofWord? chars).map (·, after) = some (value, rest)) : value.Distinct := by
    obtain ⟨_, isValue, ⟨⟩⟩ := Option.map_eq_some_iff.mp isWord
    exact distinct_ofWord? isValue
  rw [scalar?] at read
  split at read
  split at read
  · split at read <;> exact word read
  · exact word read

/-- What is read with some fuel has distinct keys: a value, and an array or inline table of which the
first items or members are such. -/
structure ReadsDistinct (fuel : Nat) : Prop where
  value {depth : Nat} {tokens rest : List Token} {value : Value}
    (read : value? fuel depth tokens = some (value, rest)) : value.Distinct
  items {depth : Nat} {before : List Value} {tokens rest : List Token} {value : Value}
    (distinct : ∀ item ∈ before, Value.Distinct item)
    (read : items? fuel depth before tokens = some (value, rest)) : value.Distinct
  members {depth : Nat} {before : Entries} {tokens rest : List Token} {value : Value}
    (distinct : Entries.Distinct before)
    (read : members? fuel depth before tokens = some (value, rest)) : value.Distinct

namespace ReadsDistinct

variable {fuel depth : Nat} {tokens rest : List Token} {value : Value}

theorem zero : ReadsDistinct 0 where
  value read := by cases read
  items _ read := by cases read
  members _ read := by cases read

theorem value_succ (below : ReadsDistinct fuel)
    (read : value? (fuel + 1) depth tokens = some (value, rest)) : value.Distinct := by
  rw [value?.eq_def] at read
  dsimp only at read
  split at read
  · obtain ⟨rfl, -⟩ := read
    exact .text _
  · obtain ⟨rfl, -⟩ := read
    exact .text _
  · exact below.items (List.forall_mem_nil _) read
  · exact below.members .nil read
  · exact distinct_scalar? read

theorem items_succ {before : List Value} (below : ReadsDistinct fuel)
    (distinct : ∀ item ∈ before, Value.Distinct item)
    (read : items? (fuel + 1) depth before tokens = some (value, rest)) : value.Distinct := by
  have list {items : List Value} (all : ∀ item ∈ items, Value.Distinct item) :
      (Value.list items.reverse).Distinct :=
    .list fun item member => all item (List.mem_reverse.mp member)
  rw [items?.eq_def] at read
  split at read
  · cases read
  · obtain ⟨rfl, -⟩ := read
    exact list distinct
  · rename_i same _
    obtain rfl := Nat.succ.inj same
    simp only [Option.bind_eq_bind, Option.bind_eq_some_iff] at read
    obtain ⟨⟨item, after⟩, isItem, read⟩ := read
    have all := List.forall_mem_cons.mpr ⟨below.value isItem, distinct⟩
    split at read
    · exact below.items all read
    · obtain ⟨rfl, -⟩ := read
      exact list all
    · cases read

theorem members_succ {before : Entries} (below : ReadsDistinct fuel)
    (distinct : Entries.Distinct before)
    (read : members? (fuel + 1) depth before tokens = some (value, rest)) : value.Distinct := by
  rw [members?.eq_def] at read
  split at read
  · cases read
  · obtain ⟨rfl, -⟩ := read
    exact Value.Distinct.table_iff.mpr distinct
  · rename_i same _
    obtain rfl := Nat.succ.inj same
    simp only [Option.bind_eq_bind, Option.bind_eq_some_iff] at read
    obtain ⟨⟨path, after⟩, -, read⟩ := read
    split at read
    · simp only [Option.bind_eq_some_iff] at read
      obtain ⟨⟨member, after⟩, isMember, entries, assigned, read⟩ := read
      have all := distinct.assignIn? (below.value isMember) assigned
      split at read
      · exact below.members all read
      · obtain ⟨rfl, -⟩ := read
        exact Value.Distinct.table_iff.mpr all
      · cases read
    · cases read

end ReadsDistinct

/-- **What is read has distinct keys**, with any fuel. -/
theorem readsDistinct (fuel : Nat) : ReadsDistinct fuel := by
  induction fuel with
  | zero => exact .zero
  | succ fuel below => exact ⟨below.value_succ, below.items_succ, below.members_succ⟩

/-! ### Documents -/

theorem distinct_header? {opening : String → Entries → Option Entries}
    (keeps : ∀ {name before after}, Entries.Distinct before → opening name before = some after →
      Entries.Distinct after)
    {path : List String} {root after : Entries} (distinct : Entries.Distinct root)
    (opened : header? opening path root = some after) : Entries.Distinct after := by
  obtain ⟨name, -, changed⟩ := Option.bind_eq_some_iff.mp opened
  exact distinct.within keeps changed

/-- A statement keeps keys distinct: a header opens a table or an element, and any other one gives a
value to a key. -/
theorem distinct_statement? {header following : List String} {root after : Entries}
    {tokens rest : List Token} (distinct : Entries.Distinct root)
    (read : statement? header root tokens = some (following, after, rest)) : Entries.Distinct after := by
  rw [statement?.eq_def] at read
  split at read
  · simp only [Option.bind_eq_bind, Option.bind_eq_some_iff] at read
    obtain ⟨⟨path, others⟩, -, read⟩ := read
    split at read
    · simp only [Option.bind_eq_some_iff] at read
      obtain ⟨_, opened, _, -, ⟨⟩⟩ := read
      exact distinct_header? Entries.Distinct.openElement? distinct opened
    · cases read
  · simp only [Option.bind_eq_bind, Option.bind_eq_some_iff] at read
    obtain ⟨⟨path, others⟩, -, read⟩ := read
    split at read
    · simp only [Option.bind_eq_some_iff] at read
      obtain ⟨_, opened, _, -, ⟨⟩⟩ := read
      exact distinct_header? Entries.Distinct.openTable? distinct opened
    · cases read
  · simp only [Option.bind_eq_bind, Option.bind_eq_some_iff] at read
    obtain ⟨⟨path, others⟩, -, read⟩ := read
    split at read
    · simp only [Option.bind_eq_some_iff] at read
      obtain ⟨⟨value, _⟩, isValue, _, assigned, _, -, ⟨⟩⟩ := read
      have isDistinct := (readsDistinct _).value isValue
      exact distinct.within (fun before changed => before.assignIn? isDistinct changed) assigned
    · cases read

theorem distinct_statementsWithin? {fuel : Nat} {header : List String} {root after : Entries}
    {tokens : List Token} (distinct : Entries.Distinct root)
    (read : statementsWithin? fuel header root tokens = some after) : Entries.Distinct after := by
  induction fuel generalizing header root tokens with
  | zero =>
    rw [statementsWithin?] at read
    split at read
    · obtain ⟨rfl⟩ := read
      exact distinct
    · cases read
  | succ fuel hypothesis =>
    rw [statementsWithin?] at read
    split at read
    · obtain ⟨rfl⟩ := read
      exact distinct
    · simp only [Option.bind_eq_bind, Option.bind_eq_some_iff] at read
      obtain ⟨⟨_, _, _⟩, isStatement, read⟩ := read
      exact hypothesis (distinct_statement? distinct isStatement) read

/-- **A document that was read gives every key one value.** -/
theorem distinct_of_ofText? {text : String} {entries : Entries} (read : ofText? text = some entries) :
    Entries.Distinct entries := by
  obtain ⟨tokens, -, spelled⟩ := Option.bind_eq_some_iff.mp read
  exact distinct_statementsWithin? .nil spelled

end ClientAssertion.Toml
