import BoundSql.Proofs.GeneratedKeys

/-!
# Errors of executions

A statement that is executed has been built, and what can fail is to execute it and to read its
result.  None of these errors says that a statement is malformed, but for two: a row mapper of the
caller's raises what it likes, and a retrieval of generated keys that matches rows by a column reads
a property of the records after the execution, which one of them may lack.

The errors come in three kinds.  Those of the database layer are raised by the execution and by
fetching rows, and never leave the guarded block, which makes execution errors of them.  Those of
reading rows and looking up keys are plain (`Error.isPlain`).  What is left are the two exceptions.
So it is enough to say of each reading that it raises no other errors than plain ones and those of
the database layer; this is what the lemmas about `Outcome` and `Row` do, one for each function.

* `Error.isPlain` : the errors of reading rows and looking up keys.
* `Executor.raises_perform` : a method raises a build error only if its row mapper does.
* `KeyRetrieval.run_eq_build_iff` : when a retrieval raises a build error after it has executed the
  insert.
-/

namespace BoundSql

open BoundSql.Action

/-- The error says that an execution failed. -/
def Error.IsExecution (e : Error) : Prop := ∃ x, e = .execution x

/-- The error is about something else than a statement or its execution. -/
def Error.isPlain : Error → Bool
  | .build _ | .execution _ | .database _ => false
  | _ => true

/-- Plain errors do not say that a statement is malformed. -/
theorem Error.not_isBuild_of_isPlain {e : Error} (plain : e.isPlain = true) : ¬ e.IsBuild := by
  rintro ⟨b, rfl⟩
  cases plain

/-- Neither do they say that an execution failed. -/
theorem Error.not_isExecution_of_isPlain {e : Error} (plain : e.isPlain = true) :
    ¬ e.IsExecution := by
  rintro ⟨x, rfl⟩
  cases plain

theorem Error.not_isBuild_execution (x : ExecutionError) : ¬ (Error.execution x).IsBuild := by
  rintro ⟨b, ⟨⟩⟩

/-! ### Readings -/

namespace Outcome

variable {o : Outcome} {e : Error}

/-- Rows that cannot all be fetched are an error of the database layer. -/
theorem database_of_finish (h : o.finish = .error e) : ∃ f, e = .database f := by
  unfold finish at h
  split at h <;> cases h
  exact ⟨_, rfl⟩

/-- The only row is missing as the database layer says it, and in no other way. -/
theorem database_of_onlyRow (h : o.onlyRow = .error e) : ∃ f, e = .database f := by
  unfold onlyRow at h
  split at h
  · rcases bind_eq_error_iff.mp h with finish | ⟨-, -, h⟩
    · exact database_of_finish finish
    · cases h
      exact ⟨_, rfl⟩
  · rcases bind_eq_error_iff.mp h with finish | ⟨-, -, h⟩
    · exact database_of_finish finish
    · cases h
  · cases h
    exact ⟨_, rfl⟩

/-- So is more than one row, where there should be one at most. -/
theorem database_of_oneOrNone (h : o.oneOrNone = .error e) : ∃ f, e = .database f := by
  unfold oneOrNone at h
  split at h
  · rcases bind_eq_error_iff.mp h with finish | ⟨-, -, h⟩
    · exact database_of_finish finish
    · cases h
  · rcases bind_eq_error_iff.mp h with finish | ⟨-, -, h⟩
    · exact database_of_finish finish
    · cases h
  · cases h
    exact ⟨_, rfl⟩

theorem database_of_allRows (h : o.allRows = .error e) : ∃ f, e = .database f := by
  rcases bind_eq_error_iff.mp h with finish | ⟨-, -, h⟩
  · exact database_of_finish finish
  · cases h

/-- Going through the rows fails with what is made of one of them, or as fetching breaks off. -/
theorem error_of_eachRow {α : Type} {f : Row → Except Error α} (h : o.eachRow f = .error e) :
    (∃ row, f row = .error e) ∨ ∃ f, e = .database f := by
  rcases bind_eq_error_iff.mp h with h | ⟨values, -, h⟩
  · obtain ⟨row, -, h⟩ := exists_of_mapM_eq_error h
    exact .inl ⟨o.named row, h⟩
  · rcases bind_eq_error_iff.mp h with finish | ⟨-, -, h⟩
    · exact .inr (database_of_finish finish)
    · cases h

end Outcome

/-- A column that a row does not have is an error of the caller's, as is everything about a row that
has been fetched. -/
theorem Row.isPlain_of_read {row : Row} {name : String} {e : Error}
    (h : row.read name = .error e) : e.isPlain = true := by
  unfold Row.read at h
  split at h
  · cases h
    rfl
  · split at h <;> cases h
    rfl

theorem Row.isPlain_of_dictionary {row : Row} {e : Error} (h : row.dictionary = .error e) :
    e.isPlain = true := by
  obtain ⟨name, -, found, h⟩ := exists_of_foldlM_eq_error h
  rcases bind_eq_error_iff.mp h with read | ⟨v, -, h⟩
  · exact Row.isPlain_of_read read
  · cases h

theorem Row.isPlain_of_first {row : Row} {e : Error} (h : row.first = .error e) :
    e.isPlain = true := by
  unfold Row.first at h
  split at h <;> cases h
  rfl

theorem Value.isPlain_of_toInteger {v : Value} {e : Error} (h : v.toInteger = .error e) :
    e.isPlain = true := by
  unfold Value.toInteger at h
  split at h
  case h_1 s =>
    cases read : Text.readInteger s with
    | ok i => rw [read] at h; cases h
    | error fault => rw [read] at h; cases fault <;> cases h <;> rfl
  case h_2 =>
    split at h <;> cases h
    rfl

/-- The value of a count is read with plain errors and those of the database layer. -/
theorem Outcome.isPlain_of_count {o : Outcome} {e : Error}
    (h : (o.onlyRow >>= Row.first) = .error e) (other : ∀ f, e ≠ .database f) :
    e.isPlain = true := by
  rcases bind_eq_error_iff.mp h with row | ⟨row, -, h⟩
  · obtain ⟨f, raw⟩ := Outcome.database_of_onlyRow row
    exact absurd raw (other f)
  · exact Row.isPlain_of_first h

/-! ### Methods -/

/-- **A method raises a build error only if its row mapper does**, whether the mapper runs in the
guarded block or behind it.  There is one case for each way of reading a result. -/
theorem Executor.raises_perform (method : Method) (r : Rendered) (mapper? : Option RowMapper) :
    Raises (fun e => e.IsBuild → ∃ f row, mapper? = some f ∧ f row = .error e)
      (perform method r mapper?) := by
  have run {α : Type} {read : Outcome → Except Error α}
      (own : ∀ o e, read o = .error e → (∀ f, e ≠ .database f) → e.IsBuild →
        ∃ f row, mapper? = some f ∧ f row = .error e) :
      Raises (fun e => e.IsBuild → ∃ f row, mapper? = some f ∧ f row = .error e)
        (runOne r read) :=
    raises_runOne own (fun x isBuild => absurd isBuild (Error.not_isBuild_execution x)) r
  have value (row : Row) (e : Error) (h : rowValue mapper? row = .error e) (isBuild : e.IsBuild) :
      ∃ f row, mapper? = some f ∧ f row = .error e := by
    cases mapper? with
    | some f => exact ⟨f, row, rfl, h⟩
    | none => exact absurd isBuild (Error.not_isBuild_of_isPlain
        (Row.isPlain_of_dictionary (map_eq_error_iff.mp h)))
  cases method with
  | count =>
      refine Raises.map (Raises.bind (run fun o e h other isBuild => ?_) fun v => .ofExcept ?_) _
      · exact absurd isBuild (Error.not_isBuild_of_isPlain (Outcome.isPlain_of_count h other))
      · intro e h isBuild
        exact absurd isBuild (Error.not_isBuild_of_isPlain (Value.isPlain_of_toInteger h))
  | selectMany =>
      refine Raises.map (run fun o e h other isBuild => ?_) _
      rcases Outcome.error_of_eachRow h with ⟨row, h⟩ | ⟨f, raw⟩
      · exact value row e h isBuild
      · exact absurd raw (other f)
  | selectOne =>
      refine Raises.bind (run fun o e h other => ?_) fun row? => ?_
      · obtain ⟨f, raw⟩ := Outcome.database_of_oneOrNone h
        exact absurd raw (other f)
      cases row? with
      | some row => exact .ofExcept (value row)
      | none => exact .pure Value.null
  | execute | update | delete | insert | generalInsert | insertMultiple | insertSelect =>
      -- the statement is run or queued
      have runs : Raises (fun e => e.IsBuild → ∃ f row, mapper? = some f ∧ f row = .error e)
          (change r) := run fun o e unread => nomatch unread
      refine (Raises.look _).bind fun queue? => ?_
      cases queue? <;> first
        | exact runs.map _
        | exact ((Raises.update _).bind fun _ => .pure _).map _

/-! ### Retrievals of generated keys -/

namespace KeyRetrieval

variable {k : KeyRetrieval}

/-- A value that cannot be looked up is no fault of the statement. -/
theorem isPlain_of_lookupKey {v : Value} {e : Error} (h : lookupKey v = .error e) :
    e.isPlain = true := by
  unfold lookupKey at h
  cases key : v.scalar with
  | ok s => rw [key] at h; cases h
  | error type => rw [key] at h; cases h; rfl

theorem isPlain_of_keysByValue {rows : List (List Value)} {e : Error}
    (h : keysByValue rows = .error e) : e.isPlain = true := by
  obtain ⟨row, -, found, h⟩ := exists_of_foldlM_eq_error h
  split at h
  · rcases bind_eq_error_iff.mp h with key | ⟨s, -, h⟩
    · exact isPlain_of_lookupKey key
    · cases h
  · cases h
    rfl

/-- Reading the keys fails because fetching does, or else with a plain error. -/
theorem error_of_firstColumn {o : Outcome} {e : Error} (h : o.firstColumn = .error e) :
    o.allRows = .error e ∨ e.isPlain = true := by
  rcases bind_eq_error_iff.mp h with rows | ⟨rows, -, h⟩
  · exact .inl rows
  · refine .inr ?_
    split at h
    · cases h
      rfl
    · obtain ⟨row, -, h⟩ := exists_of_mapM_eq_error h
      exact Row.isPlain_of_read h

/-- A key that cannot be written is an error of the record. -/
theorem raises_assign (id : RecordId) (key : Value) :
    Raises (fun e => e.isPlain = true) (k.assign id key) := by
  refine (Raises.look _).bind fun record => (Raises.ofExcept fun e h => ?_).bind fun written =>
    .update _
  cases record with
  | object kind declared attributes =>
      simp only [Record.set] at h
      split at h <;> cases h
      rfl
  | _ => cases h <;> rfl

/-- What is done with a result by position fails with plain errors and those of the database layer
only. -/
theorem raises_inOrder (ids : List RecordId) (o : Outcome) :
    Raises (fun e => (∀ f, e ≠ .database f) → e.isPlain = true) (do
      let keys ← Action.ofExcept o.firstColumn
      k.assignInOrder ids keys
      return (keys.length : Int)) := by
  refine Raises.bind (.ofExcept fun e h other => ?_) fun keys => ?_
  · rcases error_of_firstColumn h with unfetched | plain
    · obtain ⟨f, raw⟩ := Outcome.database_of_allRows unfetched
      exact absurd raw (other f)
    · exact plain
  · refine Raises.bind (.forM ?_ (ids.zip keys)) fun _ => .pure _
    rintro ⟨id, key⟩
    exact (raises_assign id key).imp fun e plain _ => plain

/-- **The key of a record is matched with a build error exactly if the record lacks the property
that it is matched by.** -/
theorem assignMatching_eq_build_iff {property : String} {keys : Assoc Scalar Value} {id : RecordId}
    {s : Site} :
    (∃ b, ((k.assignMatching property keys id).outcome s).1 = .error (.build b)) ↔
      ∃ e, (s.records.at id).get property = .error e := by
  have read := outcome_ofExcept ((s.records.at id).read property .insertMultiple) s
  rw [assignMatching, outcome_look_bind, outcome_bind, read]
  cases found : (s.records.at id).get property with
  | error e =>
      rw [Record.read, found]
      exact iff_of_true ⟨_, rfl⟩ ⟨e, rfl⟩
  | ok v =>
      rw [Record.read_eq_ok_iff.mpr found]
      refine iff_of_false ?_ ?_
      · rintro ⟨b, fails⟩
        -- what is left to do raises other errors
        refine Error.not_isBuild_of_isPlain (Raises.bind (P := fun e => e.isPlain = true)
          (.ofExcept fun e h => isPlain_of_lookupKey h) (fun value => ?_) s _ fails) ⟨b, rfl⟩
        cases Assoc.get? value keys with
        | some key => exact raises_assign id key
        | none => exact .pure ()
      · rintro ⟨e, other⟩
        cases other

/-- A retrieval comes upon a record that cannot be matched: the insert has been executed and all its
rows have been fetched, the values beside the keys can be looked up, the records before have been
given their keys, and the next one lacks the property that it is matched by. -/
inductive MissesMatch (k : KeyRetrieval) (sql : String) (ids : List RecordId) (s : Site) : Prop
  | lacking {column : String} {parameters : Parameters} {rows : List (List Value)}
      {keys : Assoc Scalar Value} {done rest : List RecordId} {id : RecordId} {s₁ s₂ : Site}
      {e : Error} (matched : k.matchColumn? = some column)
      (bound : bindRowSlots sql (ids.map s.records.at) = .ok parameters)
      (executed : (Executor.run (.one (k.statement sql) parameters) fun o =>
        Action.ofExcept o.allRows).outcome s = (.ok rows, s₁))
      (told : keysByValue rows = .ok keys) (split : ids = done ++ id :: rest)
      (assigned : (done.forM (k.assignMatching (k.matchProperty column) keys)).outcome s₁ =
        (.ok (), s₂))
      (lacks : (s₂.records.at id).get (k.matchProperty column) = .error e) :
      MissesMatch k sql ids s

/-- **A retrieval whose parameters are rebuilt raises a build error exactly if it comes upon a
record that cannot be matched.**  Without the hypothesis nothing is executed and the error is that
of rebuilding, which is no build error either. -/
theorem run_eq_build_iff {sql : String} {ids : List RecordId} {s : Site} {parameters : Parameters}
    (bound : bindRowSlots sql (ids.map s.records.at) = .ok parameters) :
    (∃ b, ((k.run sql ids).outcome s).1 = .error (.build b)) ↔ k.MissesMatch sql ids s := by
  have plain {e : Error} (b : BuildError) (same : e = .build b) : ¬ e.isPlain = true := by
    rw [same]
    exact Bool.false_ne_true
  have raw (b : BuildError) : ¬ ∃ f, Error.build b = .database f := by
    rintro ⟨f, ⟨⟩⟩
  rw [outcome_run_of_bound bound]
  cases reply : s.reply.outcome (.one (k.statement sql) parameters) with
  | error f =>
      rw [Executor.outcome_run_of_failure reply]
      refine iff_of_false (by rintro ⟨b, ⟨⟩⟩) ?_
      rintro ⟨-, bound', executed, -⟩
      obtain rfl := Except.ok.inj (bound.symm.trans bound')
      rw [Executor.outcome_run_of_failure reply] at executed
      cases executed
  | ok o =>
      -- from here on it is the reading of the result that is looked at
      have read (b : BuildError) :
          ((Executor.run (.one (k.statement sql) parameters) (k.assignKeys ids)).outcome s).1 =
              .error (.build b) ↔
            ((k.assignKeys ids o).outcome (s.sending (.one (k.statement sql) parameters))).1 =
              .error (.build b) := by
        rw [Executor.outcome_run_of_result reply]
        exact Executor.fst_guarded_eq_error_iff nofun nofun
      rw [exists_congr read, assignKeys]
      cases matched : k.matchColumn? with
      | none =>
          refine iff_of_false ?_ ?_
          · rintro ⟨b, fails⟩
            exact plain b rfl (raises_inOrder ids o _ _ fails fun f same => raw b ⟨f, same⟩)
          · rintro ⟨matched', -⟩
            cases matched.symm.trans matched'
      | some column =>
          constructor
          · rintro ⟨b, fails⟩
            obtain ⟨rows, s₁, fetched, fails⟩ := ((Raises.ofExcept fun e h =>
              Outcome.database_of_allRows h).outcome_bind_eq_error_iff (raw b)).mp fails
            obtain ⟨keys, s₂, looked, fails⟩ := ((Raises.ofExcept fun e h =>
              isPlain_of_keysByValue h).outcome_bind_eq_error_iff (plain b rfl)).mp fails
            obtain ⟨told, rfl⟩ := Prod.mk.inj looked
            rcases outcome_bind_eq_error_iff.mp fails with fails | ⟨_, _, -, other⟩
            · obtain ⟨done, id, rest, s₂, split, assigned, fails⟩ :=
                outcome_forM_eq_error_iff.mp fails
              obtain ⟨e, lacks⟩ := assignMatching_eq_build_iff.mp ⟨b, fails⟩
              have executed := (Executor.outcome_run_read_eq_ok_iff reply).mpr
                (Prod.mk.inj fetched)
              exact .lacking matched bound executed told split assigned lacks
            · cases other
          · rintro ⟨matched', bound', executed, told, split, assigned, lacks⟩
            obtain rfl := Option.some.inj (matched.symm.trans matched')
            obtain rfl := Except.ok.inj (bound.symm.trans bound')
            obtain ⟨fetched, rfl⟩ := (Executor.outcome_run_read_eq_ok_iff reply).mp executed
            obtain ⟨b, fails⟩ := assignMatching_eq_build_iff.mpr ⟨_, lacks⟩
            refine ⟨b, outcome_bind_eq_error_iff.mpr (.inr ⟨_, _, congrArg (·, _) fetched, ?_⟩)⟩
            refine outcome_bind_eq_error_iff.mpr (.inr ⟨_, _, congrArg (·, _) told, ?_⟩)
            refine outcome_bind_eq_error_iff.mpr (.inl ?_)
            exact outcome_forM_eq_error_iff.mpr ⟨_, _, _, _, split, assigned, fails⟩

end KeyRetrieval

end BoundSql
