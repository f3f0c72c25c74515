import BoundSql.Proofs.Phases.Execution
import BoundSql.Proofs.Record

/-!
# Generated keys by position

A retrieval without a match column pairs the keys that are returned with the records by position, as
far as there are both.  Whatever can fail does so before the first record is written: if the
parameters cannot be rebuilt nothing happens at all, and if the execution fails, or the fetching of
its rows, or if there is a row without a key, no record is changed.  This rests on the order of two
steps.  The keys are read from all rows before the first of them is written, although both happen
in the same guarded block.

The records are taken to be different ones whose key property can be written
(`KeyRetrieval.Assignable`).  Neither can be left out.  A record that occurs twice has the last of
its keys, not that at its first place; and where writing fails, the records before have been given
their keys already.

* `KeyRetrieval.outcome_assignInOrder` : the keys are written into different records.
* `KeyRetrieval.HaveKeysInOrder` : what the records have become.
* `KeyRetrieval.keys_by_position` : the whole retrieval, for every reply.
-/

namespace BoundSql.KeyRetrieval

open BoundSql.Action

variable {k : KeyRetrieval} {ids : List RecordId} {keys : List Value} {s : Site}

/-! ### Writing the keys -/

/-- The records are different ones, and their key property can be written.  Whether it can does not
depend on the key. -/
structure Assignable (k : KeyRetrieval) (ids : List RecordId) (records : Records) : Prop where
  distinct : ids.Nodup
  known : ∀ id ∈ ids, id < records.length
  writable : ∀ id ∈ ids, ∀ key, ∃ written, (records.at id).set k.keyProperty key = .ok written

/-- A key is written into one record and leaves all others as they are. -/
theorem outcome_assign {id : RecordId} {key : Value} {written : Record}
    (set : (s.records.at id).set k.keyProperty key = .ok written) :
    (k.assign id key).outcome s = (.ok (), { s with records := s.records.set id written }) := by
  rw [assign, outcome_look_bind, set]
  rfl

/-- The records that keys are paired with come first. -/
theorem map_fst_zip (ids : List RecordId) (keys : List Value) :
    (ids.zip keys).map Prod.fst = ids.take keys.length := by
  induction ids generalizing keys with
  | nil => exact List.take_nil.symm
  | cons id ids ih =>
    cases keys with
    | nil => rfl
    | cons key keys => exact congrArg (id :: ·) (ih keys)

/-- **Every record gets the key at its own position**, and the records for which there is no key
stay as they are.  The induction is over the pairs of records and keys; as the records are
different, what one of them becomes is not changed by those behind it. -/
theorem outcome_assignInOrder (h : k.Assignable ids s.records) (keys : List Value) :
    ∃ records : Records, (k.assignInOrder ids keys).outcome s = (.ok (), { s with records }) ∧
      records.length = s.records.length ∧
      (∀ pair ∈ ids.zip keys,
        (s.records.at pair.1).set k.keyProperty pair.2 = .ok (records.at pair.1)) ∧
      ∀ id ∉ ids.take keys.length, records.at id = s.records.at id := by
  have paired : (ids.zip keys).map Prod.fst = ids.take keys.length := map_fst_zip ids keys
  have among (pair : RecordId × Value) (mem : pair ∈ ids.zip keys) : pair.1 ∈ ids :=
    (List.of_mem_zip mem).1
  rw [← paired]
  exact Records.forM_write Prod.fst
    (fun pair record written => record.set k.keyProperty pair.2 = .ok written)
    (fun _ _ _ => outcome_assign) (paired ▸ h.distinct.sublist (List.take_sublist _ _))
    (fun pair mem => h.known _ (among pair mem)) (fun pair mem => h.writable _ (among pair mem) _)

/-! ### Retrieving -/

/-- There is one key for each row. -/
theorem length_firstColumn {o : Outcome} (found : o.firstColumn = .ok keys) :
    keys.length = o.rows.length := by
  obtain ⟨rows, fetched, found⟩ := bind_eq_ok_iff.mp found
  obtain ⟨-, -, same⟩ := bind_eq_ok_iff.mp fetched
  obtain rfl := Except.ok.inj same
  split at found
  · cases found
  · exact (mapM_eq_ok_iff.mp found).length_eq.symm

/-- The keys cannot be read when fetching breaks off. -/
theorem firstColumn_of_broken {o : Outcome} {f : DatabaseFailure} (broken : o.broken? = some f) :
    o.firstColumn = .error (.database f) := by
  rw [Outcome.firstColumn, Outcome.allRows, Outcome.finish, broken]
  rfl

/-- When all rows can be fetched, the error of reading the keys is not one of the database layer. -/
theorem other_of_firstColumn {o : Outcome} (whole : o.broken? = none) {e : Error}
    (h : o.firstColumn = .error e) (f : DatabaseFailure) : e ≠ .database f := by
  rintro rfl
  have fetched : o.allRows = .ok o.rows := by
    rw [Outcome.allRows, Outcome.finish, whole]
    rfl
  rcases error_of_firstColumn h with unfetched | plain
  · cases fetched.symm.trans unfetched
  · cases plain

/-- The keys of a result that has no other column are its values. -/
theorem firstColumn_single (column : String) (keys : List Value) (affected : Int) :
    Outcome.firstColumn ⟨[column], keys.map ([·]), affected, none⟩ = .ok keys := by
  have read (key : Value) : Row.read ⟨[column], [key]⟩ column = .ok key := by
    simp [Row.read, Row.lastPosition?]
  show (keys.map ([·])).mapM (fun row => Row.read ⟨[column], row⟩ column) = .ok keys
  rw [List.mapM_map, mapM_eq_ok_iff, List.forall₂_same]
  exact fun key _ => read key

/-- Every record has the key at its own position, as far as there are keys, and nothing else about
the records has changed. -/
structure HaveKeysInOrder (k : KeyRetrieval) (ids : List RecordId) (keys : List Value)
    (before after : Records) : Prop where
  /-- A record has the key at its position. -/
  own : ∀ (i : Nat) id key, ids[i]? = some id → keys[i]? = some key →
    (after.at id).get k.keyProperty = .ok key
  /-- No other property has changed. -/
  properties : ∀ id name, name ≠ k.keyProperty → (after.at id).get name = (before.at id).get name
  /-- Apart from the key property, the records are what they were. -/
  without : ∀ id, (after.at id).without k.keyProperty = (before.at id).without k.keyProperty
  /-- Records for which there is no key have not changed at all, and other records neither. -/
  rest : ∀ id, id ∉ ids.take keys.length → after.at id = before.at id
  /-- There are as many records as before. -/
  length : after.length = before.length

/-- Records into which the keys have been written have them in order. -/
theorem HaveKeysInOrder.of_written {before after : Records} (length : after.length = before.length)
    (written : ∀ pair ∈ ids.zip keys,
      (before.at pair.1).set k.keyProperty pair.2 = .ok (after.at pair.1))
    (rest : ∀ id ∉ ids.take keys.length, after.at id = before.at id) :
    HaveKeysInOrder k ids keys before after := by
  have without (id : RecordId) :
      (after.at id).without k.keyProperty = (before.at id).without k.keyProperty := by
    by_cases mem : id ∈ ids.take keys.length
    · rw [← map_fst_zip, List.mem_map] at mem
      obtain ⟨pair, mem, rfl⟩ := mem
      exact Record.without_of_set (written pair mem)
    · rw [rest id mem]
  refine ⟨fun i id key hid hkey => ?_, fun id name other => ?_, without, rest, length⟩
  · have paired : (ids.zip keys)[i]? = some (id, key) :=
      List.getElem?_zip_eq_some.mpr ⟨hid, hkey⟩
    exact Record.get_of_set (written _ (List.mem_of_getElem? paired))
  · rw [← Record.get_without other, without, Record.get_without other]

variable (k) in
/-- What is done with a result when there is no match column. -/
theorem assignKeys_of_positional (positional : k.matchColumn? = none) (ids : List RecordId)
    (o : Outcome) :
    k.assignKeys ids o = (do
      let keys ← Action.ofExcept o.firstColumn
      k.assignInOrder ids keys
      return (keys.length : Int)) := by
  rw [assignKeys, positional]

/-- **Keys are retrieved by position, and all or none of them are written.**  If the parameters
cannot be rebuilt, nothing happens.  If the execution fails, or fetching breaks off, an execution
error is raised that carries the text that was sent and the failure, and every record is as before;
so it is if a row has no first value to read, which is an error of its own.  Otherwise every record
has the key at its own position, as far as there are keys, nothing else has changed, and the outcome
is the number of keys, one for each row. -/
theorem keys_by_position (positional : k.matchColumn? = none) (h : k.Assignable ids s.records)
    (sql : String) :
    let after := (k.run sql ids).outcome s
    (∀ e, bindRowSlots sql (ids.map s.records.at) = .error e → after = (.error e, s)) ∧
      ∀ parameters, bindRowSlots sql (ids.map s.records.at) = .ok parameters →
        let reply := s.reply.outcome (.one (k.statement sql) parameters)
        (∀ f, (reply = .error f ∨ ∃ o, reply = .ok o ∧ o.broken? = some f) →
          after.1 = .error (.execution
            ⟨"Statement execution failed: " ++ f.message, some (k.statement sql), some f⟩) ∧
          after.2.records = s.records) ∧
        ∀ o, reply = .ok o → o.broken? = none →
          (∀ e, o.firstColumn = .error e → after.1 = .error e ∧ after.2.records = s.records) ∧
          ∀ keys, o.firstColumn = .ok keys →
            after.1 = .ok (keys.length : Int) ∧ keys.length = o.rows.length ∧
              HaveKeysInOrder k ids keys s.records after.2.records := by
  intro after
  refine ⟨fun e fails => outcome_run_of_error fails, fun parameters bound => ?_⟩
  intro reply
  let d := Dispatch.one (k.statement sql) parameters
  have executed : after = (Executor.run d (k.assignKeys ids)).outcome s :=
    outcome_run_of_bound bound
  have result {o : Outcome} (same : reply = .ok o) :
      after = (Executor.guarded d.sql (k.assignKeys ids o)).outcome (s.sending d) :=
    executed.trans (Executor.outcome_run_of_result same _)
  -- the keys that are read are all there is in the block before the first of them is written
  have misread {o : Outcome} {e : Error} (unread : o.firstColumn = .error e) :
      (k.assignKeys ids o).outcome (s.sending d) = (.error e, s.sending d) := by
    rw [assignKeys_of_positional k positional, unread]
    rfl
  refine ⟨fun f fails => ?_, fun o same whole => ⟨fun e unread => ?_, fun keys found => ?_⟩⟩
  · rcases fails with fails | ⟨o, same, broken⟩
    · rw [executed, Executor.outcome_run_of_failure fails]
      exact ⟨rfl, rfl⟩
    · rw [result same,
        Executor.outcome_guarded_of_database (misread (firstColumn_of_broken broken))]
      exact ⟨rfl, rfl⟩
  · rw [result same,
      Executor.outcome_guarded_of_other (misread unread) (other_of_firstColumn whole unread)]
    exact ⟨rfl, rfl⟩
  · obtain ⟨records, wrote, length, written, rest⟩ :=
      outcome_assignInOrder (s := s.sending d) h keys
    have assigned : (k.assignKeys ids o).outcome (s.sending d) =
        (.ok (keys.length : Int), { s.sending d with records }) := by
      rw [assignKeys_of_positional k positional, found,
        outcome_bind_of_ok (outcome_ofExcept _ _), outcome_bind_of_ok wrote]
      rfl
    rw [result same, Executor.outcome_guarded_of_ok assigned]
    exact ⟨rfl, length_firstColumn found, .of_written length written rest⟩

/-- A retrieval that writes the keys into a property of the records. -/
def numbering : KeyRetrieval where
  keyColumn := "id"
  keyProperty := "number"

/-- A mapping and two objects. -/
def guests : Records :=
  [.mapping [(.text "name", .text "Ada"), (.text "number", .null)],
    .object .dataclass ["name", "number"] [("name", .text "Ben"), ("number", .null)],
    .object .dataclass ["name", "number"] [("name", .text "Cyd"), ("number", .int 1)]]

/-- A site at which a reply is about to be given. -/
def guestSite (reply : Reply) : Site where
  executor.connection.replies := [reply]
  records := guests

/-- Of two guests the first gets the only key, and the third is not concerned; a failure leaves all
of them alone, also if it comes when a key has been fetched. -/
theorem keys_by_position_sample :
    let locked : DatabaseFailure := ⟨"OperationalError", "database is locked"⟩
    let wrapped : ExecutionError :=
      ⟨"Statement execution failed: database is locked", some "INSERT RETURNING id", some locked⟩
    let failed := (numbering.run "INSERT" [1, 0]).outcome (guestSite (.failure locked))
    let half := Reply.result ["id"] [[.int 7]] none (some locked)
    let broken := (numbering.run "INSERT" [1, 0]).outcome (guestSite half)
    let single := Reply.result ["id"] [[.int 7]] none
    let after := (numbering.run "INSERT" [1, 0]).outcome (guestSite single)
    Assignable numbering [1, 0] guests ∧
      failed.1 = .error (.execution wrapped) ∧ failed.2.records = guests ∧
      broken.1 = .error (.execution wrapped) ∧ broken.2.records = guests ∧
      after.1 = .ok 1 ∧
      (after.2.records.at 1).get "number" = .ok (.int 7) ∧
      (after.2.records.at 1).get "name" = .ok (.text "Ben") ∧
      after.2.records.at 0 = guests.at 0 ∧ after.2.records.at 2 = guests.at 2 := by
  have assignable : Assignable numbering [1, 0] guests := by
    refine ⟨by decide, by decide, ?_⟩
    simp only [List.forall_mem_cons]
    exact ⟨fun _ => ⟨_, rfl⟩, fun _ => ⟨_, rfl⟩, List.forall_mem_nil _⟩
  intro locked wrapped failed half broken single after
  have replying (reply : Reply) := (keys_by_position (s := guestSite reply) rfl assignable
    "INSERT").2 [] rfl
  obtain ⟨lost, unchanged⟩ := (replying (.failure locked)).1 locked (.inl rfl)
  obtain ⟨lost', unchanged'⟩ := (replying half).1 locked (.inr ⟨_, rfl, rfl⟩)
  obtain ⟨done, -, kept⟩ := ((replying single).2 _ rfl rfl).2 [.int 7]
    (firstColumn_single "id" [.int 7] 1)
  exact ⟨assignable, lost, unchanged, lost', unchanged', done, kept.own 0 1 _ rfl rfl,
    kept.properties 1 "name" (by decide), kept.rest 0 (by decide), kept.rest 2 (by decide)⟩

end BoundSql.KeyRetrieval
