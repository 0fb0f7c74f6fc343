/-
**The order in which pairs are put into a map does not matter.**

* `foldl_of_perm`: pairs with distinct keys are taken in alike in any order, if any two of them are;
* `insert_comm`: the values of two names are put in in either order;
* `ofPairs_entries`: a map is the one of its entries, and `ofPairs_of_perm` the one of its entries in
  any order.
-/

import ClientAssertion.Dictionary
import Mathlib.Data.List.Nodup

namespace ClientAssertion

/-- **Pairs of which no two have one key are taken in alike in any order**, if two with different keys
are. -/
theorem foldl_of_perm {State Key Value : Type} {take : State → Key × Value → State}
    (commute : ∀ state (first second : Key × Value), first.1 ≠ second.1 →
      take (take state first) second = take (take state second) first)
    {pairs others : List (Key × Value)} (perm : pairs.Perm others)
    (single : ∀ first ∈ others, ∀ second ∈ others, first.1 = second.1 → first = second)
    (start : State) : pairs.foldl take start = others.foldl take start := by
  refine perm.foldl_eq' (fun first isFirst second isSecond state => ?_) start
  by_cases same : first.1 = second.1
  · rw [single first (perm.subset isFirst) second (perm.subset isSecond) same]
  · exact commute state first second same

namespace Dictionary

variable {Value : Type}

theorem put_comm {name other : String} (distinct : name ≠ other) (value second : Value)
    (entries : List (String × Value)) :
    put other second (put name value entries) = put name value (put other second entries) := by
  induction entries with
  | nil => grind [put]
  | cons entry entries hypothesis => grind [put]

/-- The values of two names are put in in either order. -/
theorem insert_comm (dictionary : Dictionary Value) {name other : String} (distinct : name ≠ other)
    (value second : Value) :
    (dictionary.insert name value).insert other second =
      (dictionary.insert other second).insert name value := by
  simp only [insert, put_comm distinct]

/-- A name behind all others is put in at the end. -/
theorem put_of_last {name : String} {entries : List (String × Value)}
    (last : ∀ entry ∈ entries, entry.1 < name) (value : Value) :
    put name value entries = entries ++ [(name, value)] := by
  induction entries with
  | nil => rfl
  | cons entry entries hypothesis =>
    obtain ⟨before, last⟩ := List.forall_mem_cons.mp last
    rw [put, if_neg (by grind), if_neg (by grind), hypothesis last, List.cons_append]

/-- Sorted pairs behind all entries are put in behind these. -/
theorem entries_foldl_insert {dictionary : Dictionary Value} {pairs : List (String × Value)}
    (sorted : (dictionary.entries ++ pairs).Pairwise fun first second => first.1 < second.1) :
    (pairs.foldl (fun dictionary pair => dictionary.insert pair.1 pair.2) dictionary).entries =
      dictionary.entries ++ pairs := by
  induction pairs generalizing dictionary with
  | nil => exact (List.append_nil _).symm
  | cons pair pairs hypothesis =>
    have last : ∀ entry ∈ dictionary.entries, entry.1 < pair.1 := fun entry member =>
      (List.pairwise_append.mp sorted).2.2 entry member pair List.mem_cons_self
    have inserted : (dictionary.insert pair.1 pair.2).entries = dictionary.entries ++ [pair] :=
      put_of_last last pair.2
    rw [List.foldl_cons, hypothesis (by rwa [inserted, List.append_assoc]), inserted,
      List.append_assoc, List.singleton_append]

/-- **A map is the one of its entries.** -/
theorem ofPairs_entries (dictionary : Dictionary Value) : ofPairs dictionary.entries = dictionary := by
  have kept : (ofPairs dictionary.entries).entries = dictionary.entries := by
    rw [ofPairs, entries_foldl_insert dictionary.sorted]
    rfl
  generalize ofPairs dictionary.entries = other at kept
  obtain ⟨entries, sorted⟩ := other
  cases kept
  rfl

/-- The names of a map are distinct. -/
theorem nodup_names (dictionary : Dictionary Value) : (dictionary.entries.map Prod.fst).Nodup := by
  refine List.pairwise_map.mpr (dictionary.sorted.imp fun {first second} before same => ?_)
  exact String.lt_irrefl second.1 (same ▸ before)

/-- **A map is the one of its entries in any order.** -/
theorem ofPairs_of_perm {dictionary : Dictionary Value} {pairs : List (String × Value)}
    (perm : pairs.Perm dictionary.entries) : ofPairs pairs = dictionary := by
  have single : ∀ first ∈ dictionary.entries, ∀ second ∈ dictionary.entries,
      first.1 = second.1 → first = second :=
    fun _ isFirst _ isSecond => List.inj_on_of_nodup_map dictionary.nodup_names isFirst isSecond
  rw [ofPairs, foldl_of_perm (fun start _ _ different => insert_comm start different _ _) perm single,
    ← ofPairs, ofPairs_entries]

end Dictionary

end ClientAssertion
