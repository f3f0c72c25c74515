import BoundSql.Proofs.Phases.Execution
import BoundSql.Proofs.Record

/-!
# Generated keys by a match column

A retrieval with a match column finds the row of a record by the value beside the key.  If there is
one row for the value of each record, every record gets the key of its own row, whatever the order
of the rows and whatever other rows there are, and nothing else about the records changes.

## What is assumed, and why

The values are looked up in a dictionary, so rows and records meet where their values are the same
key in it (`Value.scalar?`); for instance a truth value and the number that it equals do.  Of
several rows with one value the last would count, and then the order would matter.  So for the value
of each record there is one row (`KeyRetrieval.Matchable`); about rows that belong to no record
nothing is assumed, except that all rows have to be looked up.  A row whose value cannot be a key
makes the whole retrieval fail, before any record is written, and this is a case of the main result
and no hypothesis.

The records are different ones.  A record that occurred twice would be matched a second time by what
has become of it, and if keys are written into the property by which records are matched, that is
something else.

## The shape of the proof

The records are written one after the other, while the dictionary stays as it is.  That a record is
matched by its value before the retrieval is due to its being written once only.  What it is given
is decided by the dictionary (`KeyRetrieval.Gives`), and a dictionary that is filled in another
order gives the same wherever there is one row for a value (`KeyRetrieval.get?_keysByValue_perm`).

* `KeyRetrieval.get?_keysByValue` : the key that is found for the value of one row.
* `KeyRetrieval.outcome_assignMatching` : what is done to one record.
* `KeyRetrieval.forM_assignMatching` : what is done to all of them.
* `KeyRetrieval.keys_by_match_column` : the whole retrieval.
-/

namespace BoundSql

open BoundSql.Action

/-! ### The reply -/

/-- The connection is about to reply with rows of a key and a match value, all of which can be
fetched. -/
def Site.Returns (s : Site) (pairs : List (Value × Value)) : Prop :=
  ∃ columns affected?, s.executor.connection.replies.head?.getD default =
    .result columns (pairs.map fun row => [row.1, row.2]) affected?

namespace KeyRetrieval

/-! ### Looking up -/

/-- The rows as entries of the dictionary in which keys are looked up. -/
def keyEntries (pairs : List (Value × Value)) : Assoc Scalar Value :=
  pairs.filterMap fun row => row.2.scalar?.map fun value => (value, row.1)

/-- A value can be looked up exactly if it stands for a key. -/
theorem lookupKey_eq_ok_iff {v : Value} {value : Scalar} :
    lookupKey v = .ok value ↔ v.scalar? = some value := by
  rw [lookupKey, Value.scalar?]
  cases v.scalar with
  | ok s => exact ⟨fun same => congrArg some (Except.ok.inj same),
      fun same => congrArg Except.ok (Option.some.inj same)⟩
  | error type => exact iff_of_false nofun nofun

/-- A value that stands for no key is refused. -/
theorem lookupKey_eq_error {v : Value} (none : v.scalar? = .none) :
    ∃ e, lookupKey v = .error e := by
  cases looked : lookupKey v with
  | ok value => cases none.symm.trans (lookupKey_eq_ok_iff.mp looked)
  | error e => exact ⟨e, rfl⟩

/-- The dictionary is made if every row has a value that can be looked up, and its entries are then
put into it from the first row to the last. -/
theorem keysByValue_eq_ok_iff {pairs : List (Value × Value)} {keys : Assoc Scalar Value} :
    keysByValue (pairs.map fun row => [row.1, row.2]) = .ok keys ↔
      (∀ row ∈ pairs, ∃ value, row.2.scalar? = some value) ∧
        keys = Assoc.putAll [] (keyEntries pairs) := by
  unfold keysByValue
  -- the keys are gathered from left to right, so the induction is over any that are found so far
  generalize ([] : Assoc Scalar Value) = found
  induction pairs generalizing found with
  | nil =>
      exact ⟨fun same => ⟨List.forall_mem_nil _, (Except.ok.inj same).symm⟩,
        fun ⟨_, same⟩ => congrArg Except.ok same.symm⟩
  | cons row pairs ih =>
      rw [List.map_cons, List.foldlM_cons, List.forall_mem_cons]
      cases hashed : row.2.scalar? with
      | none =>
          obtain ⟨e, looked⟩ := lookupKey_eq_error hashed
          simp [looked, bind, Except.bind]
      | some value =>
          have entries : keyEntries (row :: pairs) = (value, row.1) :: keyEntries pairs := by
            simp [keyEntries, hashed]
          simp only [lookupKey_eq_ok_iff.mpr hashed, entries]
          refine (ih _).trans ?_
          simp [Assoc.putAll]

/-- The only row of its value is found with its key.  Later rows have other values and do not
replace it. -/
theorem get?_keysByValue {pairs : List (Value × Value)} {keys : Assoc Scalar Value}
    (told : keysByValue (pairs.map fun row => [row.1, row.2]) = .ok keys) {value : Scalar}
    (once : pairs.countP (fun row => row.2.scalar? = some value) = 1) {row : Value × Value}
    (mem : row ∈ pairs) (own : row.2.scalar? = some value) :
    Assoc.get? value keys = some row.1 := by
  obtain ⟨-, rfl⟩ := keysByValue_eq_ok_iff.mp told
  -- whatever is found under the value comes from a row of this value
  have only {key : Value} (found : Assoc.get? value (keyEntries pairs).reverse = some key) :
      key = row.1 := by
    have entry := List.mem_reverse.mp (Assoc.mem_of_get? found)
    obtain ⟨row', mem', hashed⟩ := List.mem_filterMap.mp entry
    obtain ⟨value', own', same⟩ := Option.map_eq_some_iff.mp hashed
    obtain ⟨rfl, rfl⟩ := Prod.mk.inj same
    rw [List.countP_eq_length_filter, List.length_eq_one_iff] at once
    obtain ⟨single, all⟩ := once
    have first : row ∈ [single] := all ▸ List.mem_filter.mpr ⟨mem, by simpa using own⟩
    have second : row' ∈ [single] := all ▸ List.mem_filter.mpr ⟨mem', by simpa using own'⟩
    rw [List.mem_singleton.mp first, List.mem_singleton.mp second]
  have entry : (value, row.1) ∈ (keyEntries pairs).reverse :=
    List.mem_reverse.mpr (List.mem_filterMap.mpr ⟨row, mem, by rw [own]; rfl⟩)
  obtain ⟨key, found⟩ := Assoc.mem_keys_iff.mp (List.mem_map_of_mem (f := Prod.fst) entry)
  rw [Assoc.get?_putAll, found, only found]
  rfl

/-- What is found for a value with one row does not depend on the order of the rows. -/
theorem get?_keysByValue_perm {pairs pairs' : List (Value × Value)}
    {keys keys' : Assoc Scalar Value} (perm : pairs'.Perm pairs)
    (told : keysByValue (pairs.map fun row => [row.1, row.2]) = .ok keys)
    (told' : keysByValue (pairs'.map fun row => [row.1, row.2]) = .ok keys') {value : Scalar}
    (once : pairs.countP (fun row => row.2.scalar? = some value) = 1) :
    Assoc.get? value keys' = Assoc.get? value keys := by
  obtain ⟨row, mem, own⟩ := List.countP_pos_iff.mp (once ▸ Nat.one_pos)
  have own : row.2.scalar? = some value := of_decide_eq_true own
  rw [get?_keysByValue told once mem own,
    get?_keysByValue told' ((perm.countP_eq _).trans once) (perm.mem_iff.mpr mem) own]

/-! ### Assigning -/

variable (k : KeyRetrieval) (column : String)

/-- The value by which a record is matched, as it is looked up. -/
def matchValue? (record : Record) : Option Scalar :=
  match record.get (k.matchProperty column) with
  | .ok v => v.scalar?
  | .error _ => none

/-- The key that is found for a record, written into it.  The value of the record is taken as it is
before it is written. -/
def Gives (keys : Assoc Scalar Value) (record written : Record) : Prop :=
  ∃ value key, k.matchValue? column record = some value ∧ Assoc.get? value keys = some key ∧
    record.set k.keyProperty key = .ok written

variable {k column} {keys : Assoc Scalar Value} {ids : List RecordId} {s : Site}

/-- A record can be given one key only. -/
theorem Gives.unique {record written written' : Record} (h : k.Gives column keys record written)
    (h' : k.Gives column keys record written') : written = written' := by
  obtain ⟨value, key, matched, found, set⟩ := h
  obtain ⟨value', key', matched', found', set'⟩ := h'
  obtain rfl := Option.some.inj (matched.symm.trans matched')
  obtain rfl := Option.some.inj (found.symm.trans found')
  exact Except.ok.inj (set.symm.trans set')

/-- A record gets the key that is found for it. -/
theorem outcome_assignMatching {id : RecordId} {written : Record}
    (gives : k.Gives column keys (s.records.at id) written) :
    (k.assignMatching (k.matchProperty column) keys id).outcome s =
      (.ok (), { s with records := s.records.set id written }) := by
  obtain ⟨value, key, matched, found, set⟩ := gives
  obtain ⟨v, read, hashed⟩ : ∃ v, (s.records.at id).get (k.matchProperty column) = .ok v ∧
      v.scalar? = some value := by
    unfold matchValue? at matched
    split at matched
    case h_1 v read => exact ⟨v, read, matched⟩
    case h_2 => cases matched
  have looked : lookupKey v = .ok value := lookupKey_eq_ok_iff.mpr hashed
  rw [assignMatching, outcome_look_bind, Record.read_eq_ok_iff.mpr read,
    outcome_bind_of_ok (outcome_ofExcept _ _), looked, outcome_bind_of_ok (outcome_ofExcept _ _)]
  simp only [found]
  rw [assign, outcome_look_bind, set]
  rfl

/-- **Every record gets the key that is found for it**, and the other records stay as they are.  The
induction is over the records; since they are different, those still to come are as they were at the
beginning. -/
theorem forM_assignMatching (distinct : ids.Nodup) (known : ∀ id ∈ ids, id < s.records.length)
    (gives : ∀ id ∈ ids, ∃ written, k.Gives column keys (s.records.at id) written) :
    ∃ records : Records,
      (ids.forM (k.assignMatching (k.matchProperty column) keys)).outcome s =
        (.ok (), { s with records }) ∧
      records.length = s.records.length ∧
      (∀ id ∈ ids, k.Gives column keys (s.records.at id) (records.at id)) ∧
      ∀ id ∉ ids, records.at id = s.records.at id := by
  have nodup : (ids.map id).Nodup := by rwa [List.map_id]
  have wrote := Records.forM_write id (fun _ => k.Gives column keys)
    (fun _ _ _ => outcome_assignMatching) nodup known gives
  rwa [List.map_id] at wrote

/-! ### Retrieving -/

/-- The records can be matched with rows: they are different records, their key property can be
written, and for the value of each of them there is one row. -/
structure Matchable (k : KeyRetrieval) (column : String) (pairs : List (Value × Value))
    (ids : List RecordId) (records : Records) : Prop where
  distinct : ids.Nodup
  known : ∀ id ∈ ids, id < records.length
  writable : ∀ id ∈ ids, ∀ key, ∃ written, (records.at id).set k.keyProperty key = .ok written
  once : ∀ id ∈ ids, ∃ value, k.matchValue? column (records.at id) = some value ∧
    pairs.countP (fun row => row.2.scalar? = some value) = 1

/-- Every record has the key of its own row, and nothing else about the records has changed. -/
structure HaveOwnKeys (k : KeyRetrieval) (column : String) (pairs : List (Value × Value))
    (ids : List RecordId) (before after : Records) : Prop where
  /-- A record has the key beside its value. -/
  own : ∀ id ∈ ids, ∀ row ∈ pairs, row.2.scalar? = k.matchValue? column (before.at id) →
    (after.at id).get k.keyProperty = .ok row.1
  /-- No other property has changed. -/
  properties : ∀ id name, name ≠ k.keyProperty → (after.at id).get name = (before.at id).get name
  /-- Apart from the key property, the records are what they were. -/
  without : ∀ id, (after.at id).without k.keyProperty = (before.at id).without k.keyProperty
  /-- Other records have not changed at all. -/
  rest : ∀ id, id ∉ ids → after.at id = before.at id

/-- For every record that can be matched, a key is found. -/
theorem Matchable.exists_gives {pairs : List (Value × Value)} {records : Records}
    (h : Matchable k column pairs ids records)
    (told : keysByValue (pairs.map fun row => [row.1, row.2]) = .ok keys) :
    ∀ id ∈ ids, ∃ written, k.Gives column keys (records.at id) written := by
  intro id mem
  obtain ⟨value, matched, once⟩ := h.once id mem
  obtain ⟨row, hrow, own⟩ := List.countP_pos_iff.mp (once ▸ Nat.one_pos)
  obtain ⟨written, set⟩ := h.writable id mem row.1
  have found := get?_keysByValue told once hrow (of_decide_eq_true own)
  exact ⟨written, value, row.1, matched, found, set⟩

/-- The same key is found for a record in whatever order the rows are. -/
theorem Matchable.gives_perm {pairs pairs' : List (Value × Value)} {records : Records}
    (h : Matchable k column pairs ids records) (perm : pairs'.Perm pairs)
    {keys' : Assoc Scalar Value}
    (told : keysByValue (pairs.map fun row => [row.1, row.2]) = .ok keys)
    (told' : keysByValue (pairs'.map fun row => [row.1, row.2]) = .ok keys') {id : RecordId}
    (mem : id ∈ ids) {written : Record} (given : k.Gives column keys' (records.at id) written) :
    k.Gives column keys (records.at id) written := by
  obtain ⟨value, key, matched, found, set⟩ := given
  obtain ⟨value', matched', once⟩ := h.once id mem
  obtain rfl := Option.some.inj (matched.symm.trans matched')
  rw [get?_keysByValue_perm perm told told' once] at found
  exact ⟨value, key, matched, found, set⟩

/-- Whether records can be matched does not depend on the order of the rows. -/
theorem Matchable.perm {pairs pairs' : List (Value × Value)} {records : Records}
    (h : Matchable k column pairs ids records) (perm : pairs'.Perm pairs) :
    Matchable k column pairs' ids records where
  distinct := h.distinct
  known := h.known
  writable := h.writable
  once := by
    intro id mem
    obtain ⟨value, matched, once⟩ := h.once id mem
    exact ⟨value, matched, (perm.countP_eq _).trans once⟩

/-- Records that have been given what was found for them have the keys of their own rows. -/
theorem HaveOwnKeys.of_gives {pairs : List (Value × Value)} {before after : Records}
    (h : Matchable k column pairs ids before)
    (told : keysByValue (pairs.map fun row => [row.1, row.2]) = .ok keys)
    (given : ∀ id ∈ ids, k.Gives column keys (before.at id) (after.at id))
    (rest : ∀ id ∉ ids, after.at id = before.at id) :
    HaveOwnKeys k column pairs ids before after := by
  have without : ∀ id, (after.at id).without k.keyProperty =
      (before.at id).without k.keyProperty := by
    intro id
    by_cases mem : id ∈ ids
    · obtain ⟨value, key, -, -, set⟩ := given id mem
      exact Record.without_of_set set
    · rw [rest id mem]
  refine ⟨fun id mem row hrow own => ?_, fun id name other => ?_, without, rest⟩
  · obtain ⟨value, key, matched, found, set⟩ := given id mem
    obtain ⟨value', matched', once⟩ := h.once id mem
    obtain rfl := Option.some.inj (matched.symm.trans matched')
    rw [get?_keysByValue told once hrow (own.trans matched)] at found
    rw [Option.some.inj found]
    exact Record.get_of_set set
  · rw [← Record.get_without other, without, Record.get_without other]

variable {pairs : List (Value × Value)} {sql : String} {parameters : Parameters}

/-- What a retrieval does once its parameters are bound and its rows have been returned.  Looking
the values up and writing the keys stands in the guarded block. -/
theorem outcome_run_of_returns (matched : k.matchColumn? = some column)
    (bound : bindRowSlots sql (ids.map s.records.at) = .ok parameters)
    (returned : s.Returns pairs) :
    ∃ text executor, (k.run sql ids).outcome s = (Executor.guarded text (do
      let keys ← Action.ofExcept (keysByValue (pairs.map fun row => [row.1, row.2]))
      ids.forM (k.assignMatching (k.matchProperty column) keys)
      return (pairs.length : Int) : Action Site Int)).outcome { s with executor } := by
  obtain ⟨columns, affected?, reply⟩ := returned
  let d := Dispatch.one (k.statement sql) parameters
  have result : s.reply.outcome d = .ok _ := congrArg (Reply.outcome d) reply
  refine ⟨d.sql, s.executor.sending [d], ?_⟩
  rw [outcome_run_of_bound bound, Executor.outcome_run_of_result result, Executor.outcome_guarded,
    Executor.outcome_guarded, assignKeys, matched]
  -- all rows can be fetched
  have fetched : Outcome.allRows ⟨columns, pairs.map fun row => [row.1, row.2],
      affected?.getD d.parameterSets.length, none⟩ = .ok (pairs.map fun row => [row.1, row.2]) :=
    rfl
  simp only [fetched]
  rw [outcome_bind_of_ok (outcome_ofExcept _ _)]
  simp only [List.length_map]
  rfl

/-- When the rows can be looked up, the records get their keys. -/
theorem outcome_run_of_told (matched : k.matchColumn? = some column)
    (h : Matchable k column pairs ids s.records)
    (bound : bindRowSlots sql (ids.map s.records.at) = .ok parameters)
    (returned : s.Returns pairs)
    (told : keysByValue (pairs.map fun row => [row.1, row.2]) = .ok keys) :
    ∃ after : Site, (k.run sql ids).outcome s = (.ok (pairs.length : Int), after) ∧
      after.records.length = s.records.length ∧
      (∀ id ∈ ids, k.Gives column keys (s.records.at id) (after.records.at id)) ∧
      ∀ id ∉ ids, after.records.at id = s.records.at id := by
  obtain ⟨text, executor, opened⟩ := outcome_run_of_returns matched bound returned
  obtain ⟨records, assigned, facts⟩ := forM_assignMatching (s := { s with executor }) h.distinct
    h.known (h.exists_gives told)
  refine ⟨{ s with executor, records }, ?_, facts⟩
  rw [opened]
  refine Executor.outcome_guarded_of_ok ?_
  rw [told, outcome_bind_of_ok (outcome_ofExcept _ _), outcome_bind_of_ok assigned]
  rfl

/-- When a row cannot be looked up, no record is written.  The error is not one of the database
layer, so the guarded block lets it pass. -/
theorem outcome_run_of_not_told (matched : k.matchColumn? = some column)
    (bound : bindRowSlots sql (ids.map s.records.at) = .ok parameters)
    (returned : s.Returns pairs) {e : Error}
    (told : keysByValue (pairs.map fun row => [row.1, row.2]) = .error e) :
    ∃ after : Site, (k.run sql ids).outcome s = (.error e, after) ∧ after.records = s.records := by
  obtain ⟨text, executor, opened⟩ := outcome_run_of_returns matched bound returned
  refine ⟨{ s with executor }, ?_, rfl⟩
  rw [opened]
  refine Executor.outcome_guarded_of_other ?_ fun f raw => ?_
  · rw [told]
    rfl
  · -- a value that is no key is a plain error
    rw [raw] at told
    cases isPlain_of_keysByValue told

/-- **Keys matched by a column do not depend on the order of the rows.**  Let there be one row for
the value of each record.  The retrieval succeeds if the value of every row can be looked up.  Every
record then has the key of its own row, nothing else has changed, and the result is the number of
rows.  The records come to be the same if the rows are returned in any other order. -/
theorem keys_by_match_column (matched : k.matchColumn? = some column)
    (h : Matchable k column pairs ids s.records)
    (bound : bindRowSlots sql (ids.map s.records.at) = .ok parameters)
    (returned : s.Returns pairs) :
    let after := (k.run sql ids).outcome s
    ((∃ n, after.1 = .ok n) ↔ ∀ row ∈ pairs, ∃ value, row.2.scalar? = some value) ∧
      (∀ n, after.1 = .ok n →
        n = pairs.length ∧ HaveOwnKeys k column pairs ids s.records after.2.records) ∧
      ∀ (pairs' : List (Value × Value)) (s' : Site), pairs'.Perm pairs →
        s'.records = s.records → s'.Returns pairs' →
        ((k.run sql ids).outcome s').2.records = after.2.records := by
  intro after
  have hashable {pairs' : List (Value × Value)} (perm : pairs'.Perm pairs) :
      (∀ row ∈ pairs', ∃ value, row.2.scalar? = some value) ↔
        ∀ row ∈ pairs, ∃ value, row.2.scalar? = some value :=
    forall_congr' fun row => imp_congr_left perm.mem_iff
  -- Whether the keys can be told depends on the rows and not on their order: in both cases the run
  -- on the permuted rows goes the same way.
  cases told : keysByValue (pairs.map fun row => [row.1, row.2]) with
  | error e =>
      obtain ⟨s₁, outcome, unchanged⟩ := outcome_run_of_not_told matched bound returned told
      have failed : after = (.error e, s₁) := outcome
      have never : ¬ ∀ row ∈ pairs, ∃ value, row.2.scalar? = some value := fun all => by
        cases told.symm.trans (keysByValue_eq_ok_iff.mpr ⟨all, rfl⟩)
      rw [failed]
      refine ⟨iff_of_false (by rintro ⟨n, ⟨⟩⟩) never, by rintro n ⟨⟩, ?_⟩
      intro pairs' s' perm same returned'
      cases told' : keysByValue (pairs'.map fun row => [row.1, row.2]) with
      | ok keys' => exact absurd ((hashable perm).mp (keysByValue_eq_ok_iff.mp told').1) never
      | error e' =>
          rw [← same] at bound
          obtain ⟨s₂, outcome', unchanged'⟩ :=
            outcome_run_of_not_told matched bound returned' told'
          rw [outcome']
          exact unchanged'.trans (same.trans unchanged.symm)
  | ok keys =>
      obtain ⟨s₁, outcome, length, given, rest⟩ :=
        outcome_run_of_told matched h bound returned told
      have done : after = (.ok (pairs.length : Int), s₁) := outcome
      have all := (keysByValue_eq_ok_iff.mp told).1
      rw [done]
      refine ⟨iff_of_true ⟨_, rfl⟩ all, fun n same => ⟨(Except.ok.inj same).symm,
        .of_gives h told given rest⟩, ?_⟩
      intro pairs' s' perm same returned'
      have told' := keysByValue_eq_ok_iff.mpr ⟨(hashable perm).mpr all, rfl⟩
      obtain ⟨s₂, outcome', length', given', rest'⟩ := outcome_run_of_told matched
        (same ▸ h.perm perm) (same ▸ bound) returned' told'
      rw [outcome']
      rw [same] at length' given' rest'
      refine Records.ext_at (length'.trans length.symm) fun id _ => ?_
      by_cases mem : id ∈ ids
      · exact (h.gives_perm perm told told' mem (given' id mem)).unique (given id mem)
      · exact (rest' id mem).trans (rest id mem).symm

/-- A retrieval that writes the keys into the property by which records are matched. -/
def byCode : KeyRetrieval where
  keyColumn := "id"
  keyProperty := "code"
  matchColumn? := some "code"

/-- A mapping and an object, whose code is a tuple. -/
def crew : Records :=
  [.mapping [(.text "name", .text "Ada"), (.text "code", .text "a")],
    .object .dataclass ["code"] [("code", .tuple [.text "b", .int 2])]]

/-- The statement that puts the crew into a table. -/
def crewSql : String := "INSERT INTO crew (code) VALUES (:records_0_code), (:records_1_code)"

/-- Rows in another order than that of the records, and one that belongs to no record. -/
def crewRows : List (Value × Value) :=
  [(.int 8, .tuple [.text "b", .int 2]), (.int 9, .text "z"), (.int 7, .text "a")]

/-- The site of the crew, to which these rows are about to be returned. -/
def crewSite (rows : List (Value × Value)) : Site where
  executor.connection.replies :=
    [.result ["id", "code"] (rows.map fun row => [row.1, row.2]) none]
  records := crew

/-- Each of the two gets its own key, also from the rows in the opposite order. -/
theorem keys_by_match_column_sample :
    let after := (byCode.run crewSql [0, 1]).outcome (crewSite crewRows)
    Matchable byCode "code" crewRows [0, 1] crew ∧ after.1 = .ok 3 ∧
      (after.2.records.at 0).get "code" = .ok (.int 7) ∧
      (after.2.records.at 1).get "code" = .ok (.int 8) ∧
      (after.2.records.at 0).get "name" = .ok (.text "Ada") ∧
      ((byCode.run crewSql [0, 1]).outcome (crewSite crewRows.reverse)).2.records =
        after.2.records := by
  have matchable : Matchable byCode "code" crewRows [0, 1] crew := by
    refine ⟨by decide, by decide, ?_, ?_⟩
    · simp only [List.forall_mem_cons]
      exact ⟨fun _ => ⟨_, rfl⟩, fun _ => ⟨_, rfl⟩, List.forall_mem_nil _⟩
    · simp only [List.forall_mem_cons]
      exact ⟨⟨.atom (.text "a"), rfl, rfl⟩,
        ⟨.tuple [.atom (.text "b"), .atom (.number 2)], rfl, rfl⟩,
        List.forall_mem_nil _⟩
  have returned (rows : List (Value × Value)) : (crewSite rows).Returns rows :=
    ⟨["id", "code"], none, rfl⟩
  obtain ⟨parameters, bound⟩ :
      ∃ parameters, bindRowSlots crewSql ([0, 1].map crew.at) = .ok parameters := by
    have slots : rowReferences crewSql =
        [("records_0_code", ⟨['0'], "code"⟩), ("records_1_code", ⟨['1'], "code"⟩)] := by
      rw [crewSql]
      rfl
    rw [bindRowSlots, slots]
    exact ⟨_, rfl⟩
  have facts := keys_by_match_column (k := byCode) (s := crewSite crewRows) rfl matchable bound
    (returned crewRows)
  -- from here on the outcome is not to be computed
  generalize (byCode.run crewSql [0, 1]).outcome (crewSite crewRows) = reached at facts ⊢
  obtain ⟨succeeds, keys, permuted⟩ := facts
  have hashable : ∀ row ∈ crewRows, ∃ value, row.2.scalar? = some value := by
    simp only [crewRows, List.forall_mem_cons]
    exact ⟨⟨_, rfl⟩, ⟨_, rfl⟩, ⟨_, rfl⟩, List.forall_mem_nil _⟩
  obtain ⟨n, done⟩ := succeeds.mpr hashable
  obtain ⟨rfl, own⟩ := keys n done
  intro after
  exact ⟨matchable, done, own.own 0 (by decide) (.int 7, .text "a") (by simp [crewRows]) rfl,
    own.own 1 (by decide) (.int 8, .tuple [.text "b", .int 2]) (by simp [crewRows]) rfl,
    own.properties 0 "name" (by decide),
    permuted _ (crewSite crewRows.reverse) (List.reverse_perm crewRows) rfl (returned _)⟩

end KeyRetrieval

end BoundSql
