/-
**Finite maps as lists of entries.**

The entries of a table have distinct keys and stand in the order in which their keys were first
inserted; a key that is inserted again keeps its place and takes the new value.

* `get?_insert`, `get?_erase`, `get?_empty`: what each operation does to the values of the keys;
* `ofPairs`: the last value of a repeated key counts, `ofFirstPairs`: the first one does.
-/

namespace ClientAssertion

/-- A finite map. -/
structure Table (Key Value : Type) where
  entries : List (Key × Value)
  distinct : (entries.map Prod.fst).Nodup
deriving DecidableEq

namespace Table

variable {Key Value : Type} [DecidableEq Key]

/-! ### Operations on entries -/

/-- The value of a key among entries. -/
def find? (key : Key) : List (Key × Value) → Option Value
  | [] => none
  | entry :: entries => if entry.1 = key then some entry.2 else find? key entries

/-- The entries with the value of one key set. -/
def put (key : Key) (value : Value) : List (Key × Value) → List (Key × Value)
  | [] => [(key, value)]
  | entry :: entries => if entry.1 = key then (key, value) :: entries else entry :: put key value entries

theorem find?_eq_none {key : Key} {entries : List (Key × Value)} :
    find? key entries = none ↔ key ∉ entries.map Prod.fst := by
  induction entries with
  | nil => simp [find?]
  | cons entry entries hypothesis => by_cases same : entry.1 = key <;> grind [find?]

theorem find?_put (key other : Key) (value : Value) (entries : List (Key × Value)) :
    find? other (put key value entries) = if key = other then some value else find? other entries := by
  induction entries with
  | nil => simp [put, find?]
  | cons entry entries hypothesis =>
    by_cases same : entry.1 = key
    · subst same
      simp only [put, if_true, find?]
      split <;> rfl
    · grind [put, find?]

theorem mem_keys_put {key other : Key} {value : Value} {entries : List (Key × Value)} :
    other ∈ (put key value entries).map Prod.fst ↔ other = key ∨ other ∈ entries.map Prod.fst := by
  induction entries with
  | nil => simp [put]
  | cons entry entries hypothesis => by_cases same : entry.1 = key <;> grind [put]

theorem nodup_keys_put {key : Key} {value : Value} {entries : List (Key × Value)}
    (distinct : (entries.map Prod.fst).Nodup) : ((put key value entries).map Prod.fst).Nodup := by
  induction entries with
  | nil => simp [put]
  | cons entry entries hypothesis =>
    by_cases same : entry.1 = key
    · subst same
      simpa [put] using distinct
    · simp only [List.map_cons, List.nodup_cons] at distinct
      simp only [put, if_neg same, List.map_cons, List.nodup_cons, mem_keys_put]
      exact ⟨fun member => member.elim same distinct.1, hypothesis distinct.2⟩

theorem find?_filter_ne (key other : Key) (entries : List (Key × Value)) :
    find? other (entries.filter fun entry => entry.1 ≠ key) =
      if key = other then none else find? other entries := by
  induction entries with
  | nil => simp [find?]
  | cons entry entries hypothesis =>
    by_cases same : entry.1 = key <;> by_cases equal : key = other <;> grind [find?]

/-! ### Tables -/

/-- The table without entries. -/
def empty : Table Key Value := ⟨[], by simp⟩

instance : Inhabited (Table Key Value) := ⟨empty⟩

/-- The value of a key. -/
def get? (table : Table Key Value) (key : Key) : Option Value := find? key table.entries

/-- The table with the value of one key set. -/
def insert (table : Table Key Value) (key : Key) (value : Value) : Table Key Value :=
  ⟨put key value table.entries, nodup_keys_put table.distinct⟩

/-- The table without one key. -/
def erase (table : Table Key Value) (key : Key) : Table Key Value :=
  ⟨table.entries.filter fun entry => entry.1 ≠ key,
    (List.filter_sublist.map Prod.fst).nodup table.distinct⟩

/-- The number of keys. -/
def size (table : Table Key Value) : Nat := table.entries.length

/-- The table of the pairs in which the last value of a key counts. -/
def ofPairs (pairs : List (Key × Value)) : Table Key Value :=
  pairs.foldl (fun table pair => table.insert pair.1 pair.2) empty

/-- The table with the value of one key set, if it has none. -/
def insertNew (table : Table Key Value) (key : Key) (value : Value) : Table Key Value :=
  match table.get? key with
  | some _ => table
  | none => table.insert key value

/-- The table of the pairs in which the first value of a key counts. -/
def ofFirstPairs (pairs : List (Key × Value)) : Table Key Value :=
  pairs.foldl (fun table pair => table.insertNew pair.1 pair.2) empty

/-- The entries of the keys that satisfy a condition. -/
def filterKeys (table : Table Key Value) (keep : Key → Bool) : Table Key Value :=
  ⟨table.entries.filter fun entry => keep entry.1,
    (List.filter_sublist.map Prod.fst).nodup table.distinct⟩

/-! ### The values of the keys -/

@[simp] theorem get?_empty (key : Key) : (empty : Table Key Value).get? key = none := rfl

@[simp] theorem get?_insert (table : Table Key Value) (key other : Key) (value : Value) :
    (table.insert key value).get? other = if key = other then some value else table.get? other :=
  find?_put key other value table.entries

@[simp] theorem get?_erase (table : Table Key Value) (key other : Key) :
    (table.erase key).get? other = if key = other then none else table.get? other :=
  find?_filter_ne key other table.entries

end Table

end ClientAssertion
