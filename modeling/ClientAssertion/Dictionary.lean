/-
**Maps without an order of their own.**

A hash map holds one value for each name and promises nothing of the order in which its entries come
out: two maps with the same entries are equal and may still be written in two orders.

* `Dictionary`: such a map by its sorted entries, so that equality sees no order;
* `Arrangement`: the order in which entries happen to come out.
-/

namespace ClientAssertion

/-! ### Maps -/

/-- A map from names, which its sorted entries stand for. -/
structure Dictionary (Value : Type) where
  entries : List (String × Value)
  sorted : entries.Pairwise fun first second => first.1 < second.1
deriving DecidableEq

namespace Dictionary

variable {Value : Type}

/-- Sorted entries with the value of one name set. -/
def put (name : String) (value : Value) : List (String × Value) → List (String × Value)
  | [] => [(name, value)]
  | entry :: entries =>
    if name < entry.1 then (name, value) :: entry :: entries
    else if entry.1 = name then (name, value) :: entries
    else entry :: put name value entries

theorem mem_put {name : String} {value : Value} {entries : List (String × Value)}
    {entry : String × Value} (member : entry ∈ put name value entries) :
    entry = (name, value) ∨ entry ∈ entries := by
  induction entries with
  | nil => simpa [put] using member
  | cons first entries hypothesis => grind [put]

theorem sorted_put (name : String) (value : Value) {entries : List (String × Value)}
    (sorted : entries.Pairwise fun first second => first.1 < second.1) :
    (put name value entries).Pairwise fun first second => first.1 < second.1 := by
  induction entries with
  | nil => exact List.pairwise_singleton _ _
  | cons first entries hypothesis =>
    obtain ⟨least, sorted⟩ := List.pairwise_cons.mp sorted
    rw [put]
    split
    · rename_i before
      refine List.pairwise_cons.mpr ⟨List.forall_mem_cons.mpr ⟨before, fun entry member => ?_⟩,
        List.pairwise_cons.mpr ⟨least, sorted⟩⟩
      exact String.lt_trans before (least entry member)
    · split
      · rename_i same
        exact List.pairwise_cons.mpr ⟨same ▸ least, sorted⟩
      · refine List.pairwise_cons.mpr ⟨fun entry member => ?_, hypothesis sorted⟩
        obtain rfl | member := mem_put member
        · grind
        · exact least entry member

/-- The map without entries. -/
def empty : Dictionary Value := ⟨[], .nil⟩

instance : Inhabited (Dictionary Value) := ⟨empty⟩

/-- The map with the value of one name set. -/
def insert (dictionary : Dictionary Value) (name : String) (value : Value) : Dictionary Value :=
  ⟨put name value dictionary.entries, sorted_put name value dictionary.sorted⟩

/-- The map of pairs, of which the last of a name counts. -/
def ofPairs (pairs : List (String × Value)) : Dictionary Value :=
  pairs.foldl (fun dictionary pair => dictionary.insert pair.1 pair.2) empty

end Dictionary

/-! ### The order of entries -/

/-- The order in which the entries of maps come out.  It may be another one for each map, and another
one for the same entries elsewhere. -/
structure Arrangement (Value : Type) where
  arrange : List (String × Value) → List (String × Value)
  perm : ∀ entries, (arrange entries).Perm entries

namespace Arrangement

variable {Value : Type}

/-- Entries come out as they are held. -/
def asGiven : Arrangement Value := ⟨id, fun _ => .refl _⟩

/-- Entries come out from the last one to the first. -/
def reversed : Arrangement Value := ⟨List.reverse, List.reverse_perm⟩

end Arrangement

end ClientAssertion
