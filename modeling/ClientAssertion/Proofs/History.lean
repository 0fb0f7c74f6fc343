/-
**Runs, their histories, and what was last written.**

A system takes commands one after the other; each leaves a record and a state.

* `trace` is the history of a run with the state that it ends in, and `trace_induction` carries a
  law from the start through every run, one command at a time;
* `latest` is what a history last wrote to a place, when each record writes there, erases what is
  there or keeps it;
* `latest_eq_some_iff`: a value is the latest exactly when some record wrote it and every later
  record keeps the place as it is;
* `latest_concat_update` and `Table.get?_insert_eq`: a record, or an operation on a table, that
  changes one place updates a map at that place.
-/

import ClientAssertion.Table
import Mathlib.Data.List.Induction
import Mathlib.Logic.Function.Basic

namespace ClientAssertion

/-! ### Runs -/

section Runs

variable {Command State Record : Type}

/-- The history of a run and the state that it ends in. -/
def trace (step : Command → State → Record × State) : List Command → State → List Record × State
  | [], state => ([], state)
  | command :: commands, state =>
    let (record, next) := step command state
    let (records, final) := trace step commands next
    (record :: records, final)

variable (step : Command → State → Record × State)

/-- A run can be continued by one more command. -/
theorem trace_concat (commands : List Command) (command : Command) (state : State) :
    trace step (commands ++ [command]) state =
      ((trace step commands state).1 ++ [(step command (trace step commands state).2).1],
        (step command (trace step commands state).2).2) := by
  induction commands generalizing state with
  | nil => rfl
  | cons first commands hypothesis =>
    show ((step first state).1 :: (trace step (commands ++ [command]) (step first state).2).1,
      (trace step (commands ++ [command]) (step first state).2).2) = _
    rw [hypothesis]
    rfl

/-- **A law of histories and states that every command keeps holds after every run.** -/
theorem trace_induction {start : State} (law : List Record → State → Prop) (initial : law [] start)
    (kept : ∀ history state command, law history state →
      law (history ++ [(step command state).1]) (step command state).2)
    (commands : List Command) : law (trace step commands start).1 (trace step commands start).2 := by
  induction commands using List.reverseRecOn with
  | nil => exact initial
  | append_singleton commands command hypothesis =>
    rw [trace_concat]
    exact kept _ _ command hypothesis

end Runs

/-! ### What was last written -/

/-- What a record does to the value at a place. -/
inductive Effect (Value : Type) where
  | keep
  | erase
  | write (value : Value)
deriving DecidableEq

section Latest

variable {Record Value : Type}

/-- The value at a place after an effect. -/
def Effect.apply : Effect Value → Option Value → Option Value
  | .keep, known => known
  | .erase, _ => none
  | .write value, _ => some value

/-- What a history last wrote to a place, unless it was erased since. -/
def latest (effect : Record → Effect Value) (history : List Record) : Option Value :=
  history.foldl (fun known record => (effect record).apply known) none

variable (effect : Record → Effect Value)

@[simp] theorem latest_nil : latest effect [] = none := rfl

@[simp] theorem latest_concat (history : List Record) (record : Record) :
    latest effect (history ++ [record]) = (effect record).apply (latest effect history) := by
  rw [latest, List.foldl_append]
  rfl

/-- Records that keep a place add nothing to it. -/
theorem latest_append_keep (history : List Record) {more : List Record}
    (keep : ∀ record ∈ more, effect record = .keep) :
    latest effect (history ++ more) = latest effect history := by
  induction more using List.reverseRecOn with
  | nil => rw [List.append_nil]
  | append_singleton more record hypothesis =>
    rw [← List.append_assoc, latest_concat, keep record (by simp)]
    exact hypothesis fun earlier member => keep earlier (List.mem_append_left _ member)

/-- **A record that changes one place updates what was last written there.** -/
theorem latest_concat_update {Place : Type} [DecidableEq Place]
    (effectAt : Place → Record → Effect Value) (history : List Record) (record : Record)
    {place : Place} {value : Option Value}
    (there : ∀ known, (effectAt place record).apply known = value)
    (elsewhere : ∀ other, other ≠ place → effectAt other record = .keep) :
    (fun other => latest (effectAt other) (history ++ [record])) =
      Function.update (fun other => latest (effectAt other) history) place value := by
  funext other
  rw [latest_concat]
  by_cases same : other = place
  · subst same
    rw [Function.update_self, there]
  · rw [Function.update_of_ne same, elsewhere other same]
    rfl

/-- The records of a history wrote a value at some point and kept it from then on. -/
def WrittenLast (history : List Record) (value : Value) : Prop :=
  ∃ before record after, history = before ++ record :: after ∧ effect record = .write value ∧
    ∀ later ∈ after, effect later = .keep

/-- The last record of a history stands behind a given record or is that record. -/
theorem concat_eq_append_cons {history before after : List Record} {record writer : Record}
    (split : history ++ [record] = before ++ writer :: after) :
    (after = [] ∧ record = writer ∧ history = before) ∨
      ∃ rest, after = rest ++ [record] ∧ history = before ++ writer :: rest := by
  rcases after.eq_nil_or_concat with rfl | ⟨rest, last, rfl⟩
  · obtain ⟨front, same⟩ := List.append_inj' split rfl
    exact Or.inl ⟨rfl, List.singleton_inj.mp same, front⟩
  · have regrouped : history ++ [record] = (before ++ writer :: rest) ++ [last] := by
      simpa using split
    obtain ⟨front, same⟩ := List.append_inj' regrouped rfl
    exact Or.inr ⟨rest, by simpa using (List.singleton_inj.mp same).symm, front⟩

variable {effect}

theorem writtenLast_concat_keep {history : List Record} {record : Record} {value : Value}
    (keeps : effect record = .keep) :
    WrittenLast effect (history ++ [record]) value ↔ WrittenLast effect history value := by
  constructor
  · rintro ⟨before, writer, after, split, writes, kept⟩
    rcases concat_eq_append_cons split with ⟨-, rfl, -⟩ | ⟨rest, rfl, front⟩
    · rw [keeps] at writes
      cases writes
    · exact ⟨before, writer, rest, front, writes, fun later member =>
        kept later (List.mem_append_left _ member)⟩
  · rintro ⟨before, writer, after, rfl, writes, kept⟩
    refine ⟨before, writer, after ++ [record], by simp, writes, fun later member => ?_⟩
    rcases List.mem_append.mp member with member | member
    · exact kept later member
    · rw [List.mem_singleton.mp member]
      exact keeps

theorem writtenLast_concat_change {history : List Record} {record : Record} {value : Value}
    (changes : effect record ≠ .keep) :
    WrittenLast effect (history ++ [record]) value ↔ effect record = .write value := by
  constructor
  · rintro ⟨before, writer, after, split, writes, kept⟩
    rcases concat_eq_append_cons split with ⟨-, rfl, -⟩ | ⟨rest, rfl, -⟩
    · exact writes
    · exact absurd (kept record (by simp)) changes
  · intro writes
    exact ⟨history, record, [], rfl, writes, fun later member => absurd member List.not_mem_nil⟩

/-- **The latest value is the one that was written and kept since.** -/
theorem latest_eq_some_iff (history : List Record) (value : Value) :
    latest effect history = some value ↔ WrittenLast effect history value := by
  induction history using List.reverseRecOn with
  | nil => simp [WrittenLast]
  | append_singleton history record hypothesis =>
    rw [latest_concat]
    -- the last record decides, unless it keeps the place
    cases change : effect record with
    | keep => exact hypothesis.trans (writtenLast_concat_keep change).symm
    | erase =>
      rw [writtenLast_concat_change (by simp [change]), change]
      simp [Effect.apply]
    | write written =>
      rw [writtenLast_concat_change (by simp [change]), change]
      simp [Effect.apply]

end Latest

/-! ### Maps -/

section Maps

variable {Key Value : Type} [DecidableEq Key]

/-- A law of the values of a map holds after an update if it holds of the value that is put in. -/
theorem holds_update {law : Key → Value → Prop} {map : Key → Option Value} {key : Key}
    {value : Option Value} (holds : ∀ key held, map key = some held → law key held)
    (written : ∀ held, value = some held → law key held) :
    ∀ other held, Function.update map key value other = some held → law other held := by
  intro other held stands
  by_cases same : other = key
  · subst same
    rw [Function.update_self] at stands
    exact written held stands
  · rw [Function.update_of_ne same] at stands
    exact holds other held stands

theorem Table.get?_insert_eq (table : Table Key Value) (key : Key) (value : Value) :
    (table.insert key value).get? = Function.update table.get? key (some value) := by
  funext other
  rw [Table.get?_insert]
  by_cases same : key = other
  · subst same
    rw [if_pos rfl, Function.update_self]
  · rw [if_neg same, Function.update_of_ne (Ne.symm same)]

theorem Table.get?_erase_eq (table : Table Key Value) (key : Key) :
    (table.erase key).get? = Function.update table.get? key none := by
  funext other
  rw [Table.get?_erase]
  by_cases same : key = other
  · subst same
    rw [if_pos rfl, Function.update_self]
  · rw [if_neg same, Function.update_of_ne (Ne.symm same)]

end Maps

end ClientAssertion
