/-
**What tables of pairs hold.**

* `get?_filterKeys`: the entries of some keys are those of the whole table;
* `get?_ofFirstPairs`: a table of pairs holds the first value of every key, and
  `ofFirstPairs_of_known` that the pairs with the others may be left out;
* `get?_foldl_insert`: a value is put in under some keys;
* `entries_ofPairs`: pairs with distinct keys are the entries of their table;
* `find?_of_perm`: entries with distinct keys hold the same in any order;
* `filterKeys_erase`, `filterKeys_insert`: a key that is left out need not be there.
-/

import ClientAssertion.Table
import Mathlib.Tactic.SplitIfs

namespace ClientAssertion.Table

variable {Key Value : Type} [DecidableEq Key]

theorem find?_filter_keys (keep : Key → Bool) (key : Key) (entries : List (Key × Value)) :
    find? key (entries.filter fun entry => keep entry.1) =
      if keep key then find? key entries else none := by
  induction entries with
  | nil => simp [find?]
  | cons entry entries hypothesis =>
    by_cases same : entry.1 = key
    · subst same
      cases kept : keep entry.1 with
      | true => simp [find?, kept]
      | false => simp [kept, hypothesis]
    · cases kept : keep entry.1 with
      | true => simp [find?, kept, same, hypothesis]
      | false => simp [find?, kept, same, hypothesis]

theorem mem_of_find? {key : Key} {value : Value} {entries : List (Key × Value)}
    (found : find? key entries = some value) : (key, value) ∈ entries := by
  induction entries with
  | nil => cases found
  | cons entry entries hypothesis =>
    rw [find?] at found
    split_ifs at found with same
    · obtain ⟨rfl⟩ := found
      rw [← same]
      exact List.mem_cons_self
    · exact List.mem_cons_of_mem _ (hypothesis found)

/-- **Entries with distinct keys hold the same in any order.** -/
theorem find?_of_perm {entries others : List (Key × Value)} (perm : entries.Perm others)
    (distinct : (entries.map Prod.fst).Nodup) (key : Key) : find? key entries = find? key others := by
  induction perm with
  | nil => rfl
  | cons entry _ hypothesis =>
    rw [find?, find?, hypothesis (List.nodup_cons.mp distinct).2]
  | swap first second entries =>
    have different : second.1 ≠ first.1 := fun same =>
      (List.nodup_cons.mp distinct).1 (same ▸ List.mem_cons_self)
    grind [find?]
  | trans perm _ hypothesis hypothesisToo =>
    exact (hypothesis distinct).trans (hypothesisToo ((perm.map Prod.fst).nodup distinct))

theorem eq_or_mem_of_mem_put {key : Key} {value : Value} {entry : Key × Value}
    {entries : List (Key × Value)} (member : entry ∈ put key value entries) :
    entry = (key, value) ∨ entry ∈ entries := by
  induction entries with
  | nil => exact .inl (List.mem_singleton.mp member)
  | cons first entries hypothesis =>
    rw [put] at member
    split_ifs at member
    · exact (List.mem_cons.mp member).imp id (List.mem_cons_of_mem _)
    · obtain rfl | later := List.mem_cons.mp member
      · exact .inr List.mem_cons_self
      · exact (hypothesis later).imp id (List.mem_cons_of_mem _)

@[simp] theorem get?_filterKeys (table : Table Key Value) (keep : Key → Bool) (key : Key) :
    (table.filterKeys keep).get? key = if keep key then table.get? key else none :=
  find?_filter_keys keep key table.entries

/-- Without a key that is left out, the entries of the others are the same. -/
theorem filterKeys_erase {keep : Key → Bool} {key : Key} (dropped : keep key = false)
    (table : Table Key Value) : (table.erase key).filterKeys keep = table.filterKeys keep := by
  obtain ⟨entries, distinct⟩ := table
  simp only [filterKeys, erase, mk.injEq, List.filter_filter]
  refine List.filter_congr fun entry _ => ?_
  by_cases same : entry.1 = key
  · simp [same, dropped]
  · simp [same]

theorem filter_put {keep : Key → Bool} {key : Key} (dropped : keep key = false) (value : Value)
    (entries : List (Key × Value)) :
    (put key value entries).filter (fun entry => keep entry.1) =
      entries.filter fun entry => keep entry.1 := by
  induction entries with
  | nil => simp [put, dropped]
  | cons entry entries hypothesis =>
    by_cases same : entry.1 = key
    · simp [put, same, dropped]
    · simp [put, same, List.filter_cons, hypothesis]

/-- With a key that is left out, the entries of the others are the same. -/
theorem filterKeys_insert {keep : Key → Bool} {key : Key} (dropped : keep key = false)
    (table : Table Key Value) (value : Value) :
    (table.insert key value).filterKeys keep = table.filterKeys keep := by
  obtain ⟨entries, distinct⟩ := table
  simp only [filterKeys, insert, filter_put dropped]

theorem get?_insertNew (table : Table Key Value) (key other : Key) (value : Value) :
    (table.insertNew key value).get? other =
      (table.get? other).or (if key = other then some value else none) := by
  unfold insertNew
  cases held : table.get? key with
  | none =>
    rw [get?_insert]
    split_ifs with same
    · rw [← same, held, Option.none_or]
    · rw [Option.or_none]
  | some former =>
    split_ifs with same
    · rw [← same, held, Option.some_or]
    · rw [Option.or_none]

theorem lookup_cons_eq_ite (pair : Key × Value) (pairs : List (Key × Value)) (key : Key) :
    (pair :: pairs).lookup key = if pair.1 = key then some pair.2 else pairs.lookup key := by
  rw [List.lookup_cons]
  by_cases same : pair.1 = key
  · simp [same]
  · have different : (key == pair.1) = false := beq_eq_false_iff_ne.mpr (Ne.symm same)
    rw [different, if_neg same]

theorem forall_bne_iff {key : Key} {pairs : List (Key × Value)} :
    (∀ pair ∈ pairs, (key != pair.1) = true) ↔ key ∉ pairs.map Prod.fst := by
  simp only [bne_iff_ne, List.mem_map, not_exists, not_and]
  exact forall₂_congr fun _ _ => ne_comm

theorem lookup_eq_none_iff {key : Key} {pairs : List (Key × Value)} :
    pairs.lookup key = none ↔ key ∉ pairs.map Prod.fst :=
  List.lookup_eq_none_iff.trans forall_bne_iff

/-- A key has the value of the first pair with it. -/
theorem lookup_eq_some_iff {key : Key} {value : Value} {pairs : List (Key × Value)} :
    pairs.lookup key = some value ↔
      ∃ before after, pairs = before ++ (key, value) :: after ∧ key ∉ before.map Prod.fst := by
  simp only [List.lookup_eq_some_iff, forall_bne_iff]

/-- **The first value of a name counts.** -/
theorem get?_ofFirstPairs (pairs : List (Key × Value)) (key : Key) :
    (ofFirstPairs pairs).get? key = pairs.lookup key := by
  have onto : ∀ table : Table Key Value,
      (pairs.foldl (fun table pair => table.insertNew pair.1 pair.2) table).get? key =
        (table.get? key).or (pairs.lookup key) := by
    induction pairs with
    | nil => simp
    | cons pair pairs hypothesis =>
      intro table
      rw [List.foldl_cons, hypothesis, get?_insertNew, Option.or_assoc, lookup_cons_eq_ite]
      split_ifs
      · rw [Option.some_or]
      · rw [Option.none_or]
  rw [ofFirstPairs, onto, get?_empty, Option.none_or]

/-- **A pair behind one with its key changes nothing.** -/
theorem ofFirstPairs_of_known {key : Key} {pairs : List (Key × Value)}
    (known : key ∈ pairs.map Prod.fst) (value : Value) (after : List (Key × Value)) :
    ofFirstPairs (pairs ++ (key, value) :: after) = ofFirstPairs (pairs ++ after) := by
  obtain ⟨first, held⟩ : ∃ first, (ofFirstPairs pairs).get? key = some first := by
    rw [← Option.ne_none_iff_exists', get?_ofFirstPairs]
    exact fun absent => lookup_eq_none_iff.mp absent known
  have kept : (ofFirstPairs pairs).insertNew key value = ofFirstPairs pairs := by
    rw [insertNew, held]
  calc ofFirstPairs (pairs ++ (key, value) :: after)
      = after.foldl (fun table pair => table.insertNew pair.1 pair.2)
          ((ofFirstPairs pairs).insertNew key value) := by
        rw [ofFirstPairs, List.foldl_append, List.foldl_cons, ← ofFirstPairs]
    _ = ofFirstPairs (pairs ++ after) := by
        rw [kept, ofFirstPairs, ofFirstPairs, List.foldl_append]

/-- A value that is put in under some keys stands under exactly these. -/
theorem get?_foldl_insert (table : Table Key Value) (keys : List Key) (value : Value) (key : Key) :
    (keys.foldl (fun table other => table.insert other value) table).get? key =
      if key ∈ keys then some value else table.get? key := by
  induction keys generalizing table with
  | nil => simp
  | cons first keys hypothesis =>
    rw [List.foldl_cons, hypothesis, get?_insert]
    by_cases later : key ∈ keys
    · simp [later]
    · by_cases same : first = key
      · simp [same]
      · simp [later, same, Ne.symm same]

theorem put_of_not_mem {key : Key} {entries : List (Key × Value)} (new : key ∉ entries.map Prod.fst)
    (value : Value) : put key value entries = entries ++ [(key, value)] := by
  induction entries with
  | nil => rfl
  | cons entry entries hypothesis =>
    rw [List.map_cons, List.mem_cons, not_or] at new
    rw [put, if_neg (Ne.symm new.1), hypothesis new.2, List.cons_append]

/-- Pairs with new and distinct keys are put in behind the entries that are there. -/
theorem entries_foldl_insert {table : Table Key Value} {pairs : List (Key × Value)}
    (distinct : ((table.entries ++ pairs).map Prod.fst).Nodup) :
    (pairs.foldl (fun table pair => table.insert pair.1 pair.2) table).entries =
      table.entries ++ pairs := by
  induction pairs generalizing table with
  | nil => exact (List.append_nil _).symm
  | cons pair pairs hypothesis =>
    have new : pair.1 ∉ table.entries.map Prod.fst := fun known => by
      rw [List.map_append, List.map_cons, List.nodup_append] at distinct
      exact distinct.2.2 _ known _ List.mem_cons_self rfl
    have inserted : (table.insert pair.1 pair.2).entries = table.entries ++ [pair] :=
      put_of_not_mem new pair.2
    rw [List.foldl_cons, hypothesis (by rwa [inserted, List.append_assoc]), inserted,
      List.append_assoc, List.singleton_append]

/-- Pairs with distinct keys are the entries of their table. -/
theorem entries_ofPairs {pairs : List (Key × Value)} (distinct : (pairs.map Prod.fst).Nodup) :
    (ofPairs pairs).entries = pairs := by
  rw [ofPairs, entries_foldl_insert (by simpa [empty] using distinct)]
  rfl

end ClientAssertion.Table
