import BoundSql.Executor.GeneratedKeys
import BoundSql.Proofs.Binding
import BoundSql.Proofs.Execution
import BoundSql.Proofs.Mapper

/-!
# Inserts that retrieve generated keys

An insert of many records is handed over in one of two ways: as a statement with its parameters, or
as its text and its records, from which a mapper that retrieves generated keys rebuilds the
parameters.  What is rebuilt are the values of the records as they are, whereas the parameters of
the statement have been converted for their columns.  The two agree exactly if conversion leaves
every value that is found again in the text as it is (`KeyRetrieval.mapper_agrees_iff`), and an
insert with a converter in general sends other values when it is to retrieve keys.

## What is compared

The plain insert and the one that retrieves keys are run in the same world, on the same records,
with the same completer.  The plain insert is given a mapper that does nothing but return its
statement, so that its parameters can be looked at; from the other one nothing is seen but what the
executor has sent.  Both sets of parameters are indexed by the names of row slots.  They need not
have the same names, because a parameter is rebuilt only for a name that is found in the text; so
they are said to agree if they have the same value wherever both have one (`Parameters.Agree`).

A property may be mapped to several columns with different converters, and the parameter of the
statement is then converted by the last of them.  The condition is about this one.

What the retrieval writes into the records is the subject of the modules
`Proofs/GeneratedKeys/Matching` and `Proofs/GeneratedKeys/Positional`.
-/

namespace BoundSql

open BoundSql.Action

/-! ### The values -/

/-- Two sets of parameters have the same value wherever both have one. -/
def Parameters.Agree (p q : Parameters) : Prop :=
  ∀ name v w, Assoc.get? name p = some v → Assoc.get? name q = some w → v = w

/-- **The parameters that are rebuilt from the text agree with those of the statement** exactly if
the last converter of every property leaves the values that are found in the text as they are.
Values that are not found again in the text do not matter, as nothing is rebuilt for them. -/
theorem InsertMultiple.agree_iff {catalog : Catalog} {dialect : Dialect}
    {i : InsertMultiple Record} {r : Rendered} {bound : List Binding} {rebuilt : Parameters}
    (h : i.render catalog dialect = .ok r) (hb : i.bindings catalog = .ok bound)
    (hr : bindRowSlots r.sql i.records = .ok rebuilt) :
    r.parameters.Agree rebuilt ↔ ∀ (slot : RowSlot) b v,
      slot.name ∈ Assoc.keys rebuilt → Binding.last? slot.property bound = some b →
      slot.value i.records = .ok v → b.column.convert v = .ok v := by
  constructor
  · intro agree slot b v mem last value
    obtain ⟨v', found⟩ := Assoc.mem_keys_iff.mp mem
    have named := property_ne_empty hb last
    obtain rfl := Except.ok.inj (value.symm.trans (value_of_bindRowSlots hr named found))
    obtain ⟨u, converted⟩ := exists_converted h hb last value
    -- what is found again in the text is a parameter of the statement as well
    have bound' : Assoc.get? slot.name r.parameters = some u := by
      refine (get?_parameters h hb).mpr ⟨slot, rfl, ?_⟩
      rw [RowSlot.converted?, last, value]
      exact congrArg some converted
    rw [converted, agree _ _ _ bound' found]
  · intro unchanged name v w hv hw
    obtain ⟨slot, rfl, converted⟩ := (get?_parameters h hb).mp hv
    obtain ⟨b, last, converted⟩ := Option.map_eq_some_iff.mp converted
    obtain ⟨w', value, converted⟩ := bind_eq_ok_iff.mp converted
    -- both values come from the same record and property
    have rebuilt := value_of_bindRowSlots hr (property_ne_empty hb last) hw
    obtain rfl := Except.ok.inj (value.symm.trans rebuilt)
    have same := unchanged slot b w' (Assoc.mem_keys_iff.mpr ⟨w', hw⟩) last value
    exact Except.ok.inj (converted.symm.trans same)

/-! ### Retrieving -/

namespace KeyRetrieval

section Keeps

variable (k : KeyRetrieval) {τ : Type} {part : Site → τ}
  (others : ∀ s records, part { s with records } = part s)

include others

/-- Only records are written.  What is kept is any part of a site that does not depend on its
records, such as the executor or the log. -/
theorem keeps_assign (id : RecordId) (key : Value) : Keeps part (k.assign id key) := by
  refine (Keeps.look _).bind fun record => (Keeps.ofExcept _).bind fun written => ?_
  exact .update fun s => others s _

theorem keeps_assignInOrder (ids : List RecordId) (keys : List Value) :
    Keeps part (k.assignInOrder ids keys) := by
  refine Keeps.forM ?_ (ids.zip keys)
  rintro ⟨id, key⟩
  exact k.keeps_assign others id key

theorem keeps_assignMatching (property : String) (keys : Assoc Scalar Value) (id : RecordId) :
    Keeps part (k.assignMatching property keys id) := by
  refine (Keeps.look _).bind fun record => (Keeps.ofExcept _).bind fun v => ?_
  refine (Keeps.ofExcept _).bind fun s => ?_
  cases Assoc.get? s keys with
  | some key => exact k.keeps_assign others id key
  | none => exact .pure ()

theorem keeps_assignKeys (ids : List RecordId) (o : Outcome) :
    Keeps part (k.assignKeys ids o) := by
  unfold assignKeys
  cases k.matchColumn? with
  | none =>
      refine (Keeps.ofExcept _).bind fun keys => ?_
      exact (k.keeps_assignInOrder others ids keys).bind fun _ => .pure _
  | some column =>
      refine (Keeps.ofExcept _).bind fun rows => (Keeps.ofExcept _).bind fun keys => ?_
      exact (Keeps.forM (k.keeps_assignMatching others _ keys) ids).bind fun _ => .pure _

end Keeps

variable {k : KeyRetrieval} {sql : String} {ids : List RecordId} {s : Site}

/-- Nothing happens when the parameters cannot be rebuilt: nothing is sent, and no record is
written. -/
theorem outcome_run_of_error {e : Error}
    (h : bindRowSlots sql (ids.map s.records.at) = .error e) :
    (k.run sql ids).outcome s = (.error e, s) := by
  rw [run, outcome_look_bind, h]
  rfl

/-- When the parameters can be rebuilt, the text is executed with them, and the keys in the result
are written into the records while it is read. -/
theorem outcome_run_of_bound {rebuilt : Parameters}
    (h : bindRowSlots sql (ids.map s.records.at) = .ok rebuilt) :
    (k.run sql ids).outcome s =
      (Executor.run (.one (k.statement sql) rebuilt) (k.assignKeys ids)).outcome s := by
  rw [run, outcome_look_bind, h]
  rfl

/-- The text is sent with the parameters that were rebuilt, and nothing else is done to the
executor, whether the execution succeeds or not. -/
theorem executor_run {rebuilt : Parameters}
    (h : bindRowSlots sql (ids.map s.records.at) = .ok rebuilt) :
    ((k.run sql ids).outcome s).2.executor =
      s.executor.sending [.one (k.statement sql) rebuilt] := by
  rw [outcome_run_of_bound h]
  exact Executor.executor_run (k.keeps_assignKeys (fun _ _ => rfl) ids) _ s

/-- The text is sent with the parameters that were rebuilt, and nothing else is sent. -/
theorem sent_run {rebuilt : Parameters}
    (h : bindRowSlots sql (ids.map s.records.at) = .ok rebuilt) :
    ((k.run sql ids).outcome s).2.sent = s.sent ++ [.one (k.statement sql) rebuilt] := by
  rw [Site.sent, executor_run h]
  rfl

end KeyRetrieval

/-! ### Handing over -/

namespace World

variable {τ : Type}

/-- What an executor has sent. -/
def sent (w : World τ) (executor : Nat) : List Dispatch := (w.executor executor).connection.sent

/-- An executor acts in a world as it does at its site.  It has to be one of the world's. -/
theorem sent_atExecutor {α : Type} {w : World τ} {executor : Nat}
    (present : executor < w.executors.length) (a : Action Site α) :
    ((atExecutor executor a).outcome w).2.sent executor =
      (a.outcome (w.site executor)).2.sent := by
  rw [atExecutor, outcome_within]
  show (World.executor ⟨_, _, w.executors.set executor _, _, _, _, _⟩ executor).connection.sent = _
  rw [World.executor, List.getElem?_set_self present]
  rfl

/-- A world in which an executor has done nothing is the same. -/
theorem withSite_site {w : World τ} {executor : Nat} (present : executor < w.executors.length) :
    w.withSite executor (w.site executor) = w := by
  have same : w.executors.set executor (w.executor executor) = w.executors := by
    rw [World.executor, List.getElem?_eq_getElem present]
    exact List.set_getElem_self present
  show { w with executors := w.executors.set executor (w.executor executor) } = w
  rw [same]

end World

namespace KeyRetrieval

variable {τ : Type}

/-- The mapper of an executor that retrieves generated keys. -/
def mapper (k : KeyRetrieval) (executor : Nat) : KeyMapper τ Int :=
  fun sql ids => World.atExecutor executor (k.run sql ids)

variable {k : KeyRetrieval} {executor : Nat} {sql : String} {ids : List RecordId} {w : World τ}

/-- Where the parameters cannot be rebuilt, the mapper leaves the world as it was. -/
theorem outcome_mapper_of_error (present : executor < w.executors.length) {e : Error}
    (h : bindRowSlots sql (ids.map w.records.at) = .error e) :
    (k.mapper executor sql ids).outcome w = (.error e, w) := by
  have here : bindRowSlots sql (ids.map (w.site executor).records.at) = .error e := h
  rw [mapper, World.atExecutor, outcome_within, outcome_run_of_error here,
    World.withSite_site present]

/-- Where they can, it sends the text with them, and nothing else. -/
theorem sent_mapper (present : executor < w.executors.length) {rebuilt : Parameters}
    (h : bindRowSlots sql (ids.map w.records.at) = .ok rebuilt) :
    ((k.mapper executor sql ids).outcome w).2.sent executor =
      w.sent executor ++ [.one (k.statement sql) rebuilt] := by
  have here : bindRowSlots sql (ids.map (w.site executor).records.at) = .ok rebuilt := h
  rw [mapper, World.sent_atExecutor present, sent_run here]
  rfl

/-- **An insert that retrieves generated keys sends the values of the plain insert exactly where
conversion leaves them as they are.**  Suppose that the plain insert hands over a statement.  The
insert that retrieves keys then either fails because the parameters cannot be rebuilt, and sends
nothing, or it sends parameters that agree with those of the statement exactly if the last
converter of every property leaves the values that are found in the text as they are. -/
theorem mapper_agrees_iff (k : KeyRetrieval) {executor : Nat} {records : List RecordId}
    {table : Table} {complete : Completer τ} {w w' : World τ} {r : Rendered}
    {ids : List RecordId}
    (handed : (Mapper.insertMultiple pure records table complete).outcome w =
      (.ok (.insertMultiple r ids), w'))
    (present : executor < w'.executors.length) :
    let outcome := (Mapper.insertMultipleWithGeneratedKeys (k.mapper executor) records table
      complete).outcome w
    (∃ e, bindRowSlots r.sql (ids.map w'.records.at) = .error e ∧ outcome = (.error e, w')) ∨
      ∃ target rebuilt bound,
        bindRowSlots r.sql (ids.map w'.records.at) = .ok rebuilt ∧
        w'.bench.draft w.bench.drafts.length = .insertMultiple ⟨target, ids⟩ ∧
        InsertMultiple.bindings w'.bench.catalog ⟨target, ids.map w'.records.at⟩ = .ok bound ∧
        outcome.2.sent executor =
          w'.sent executor ++ [.one (k.statement r.sql) rebuilt] ∧
        (r.parameters.Agree rebuilt ↔ ∀ (slot : RowSlot) b v,
          slot.name ∈ Assoc.keys rebuilt → Binding.last? slot.property bound = some b →
          slot.value (ids.map w'.records.at) = .ok v → b.column.convert v = .ok v) := by
  intro outcome
  have same : outcome = (k.mapper executor r.sql ids).outcome w' := by
    show (Mapper.insertMultipleWithGeneratedKeys _ _ _ complete).outcome w = _
    rw [Mapper.insertMultipleWithGeneratedKeys_eq, outcome_bind_of_ok handed]
    rfl
  rw [same]
  cases rebuilding : bindRowSlots r.sql (ids.map w'.records.at) with
  | error e =>
      exact .inl ⟨e, rfl, outcome_mapper_of_error present rebuilding⟩
  | ok rebuilt =>
      obtain ⟨target, d, draft, rendered⟩ := Mapper.insertMultiple_eq_ok handed
      obtain ⟨bound, hb⟩ := InsertMultiple.exists_bindings rendered
      exact .inr ⟨target, rebuilt, bound, rfl, draft, hb, sent_mapper present rebuilding,
        InsertMultiple.agree_iff rendered hb rebuilding⟩

/-- A table of persons. -/
def persons : Table := ⟨0, "person", none⟩

/-- A world in which the truth values of a column are stored as letters. -/
def lettered : World Unit :=
  { bench := { catalog := ⟨[(persons, [.plain "employed" persons (some fun v =>
      .ok (.text (if v.isNull then "N" else "Y")))])]⟩ }
    records := [.mapping [(.text "employed", .bool true)]]
    executors := [{}]
    settings? := some {}
    caller := () }

/-- The statement that inserts its record. -/
def letteredInsert : Rendered :=
  ⟨"INSERT INTO person (employed) VALUES (:records_0_employed)",
    [("records_0_employed", .text "Y")]⟩

/-- A converter that changes a value: the plain insert hands over the letter, and the insert that
retrieves keys sends the truth value of the record. -/
theorem mapper_agrees_iff_sample :
    let k : KeyRetrieval := { keyColumn := "id", keyProperty := "id" }
    ((Mapper.insertMultiple pure [0] persons fun _ => pure ()).outcome lettered).1 =
      .ok (.insertMultiple letteredInsert [0]) ∧
    ((Mapper.insertMultipleWithGeneratedKeys (k.mapper 0) [0] persons fun _ =>
        pure ()).outcome lettered).2.sent 0 =
      [.one (k.statement letteredInsert.sql) [("records_0_employed", .bool true)]] ∧
    ¬ letteredInsert.parameters.Agree [("records_0_employed", .bool true)] := by
  refine ⟨rfl, ?_⟩
  -- nothing but the workbench has changed when the statement is handed over
  obtain ⟨w', unchanged, draft, handed⟩ : ∃ w' : World Unit,
      (w'.records, w'.bench.catalog, w'.executors) =
        (lettered.records, lettered.bench.catalog, lettered.executors) ∧
      w'.bench.draft 0 = .insertMultiple ⟨{ table? := some persons }, [0]⟩ ∧
      (Mapper.insertMultiple pure [0] persons fun _ => pure ()).outcome lettered =
        (.ok (.insertMultiple letteredInsert [0]), w') :=
    ⟨((Mapper.insertMultiple pure [0] persons fun _ => pure ()).outcome lettered).2, rfl, rfl, rfl⟩
  obtain ⟨records, catalog, executors⟩ : _ ∧ _ ∧ _ := by simpa using unchanged
  have reads : bindRowSlots letteredInsert.sql ([0].map w'.records.at) =
      .ok [("records_0_employed", .bool true)] := by
    rw [records]
    rfl
  obtain ⟨e, fails, -⟩ | ⟨target, rebuilt, bound, reads', draft', hb, sent, agree⟩ :=
    mapper_agrees_iff _ handed (show 0 < w'.executors.length by rw [executors]; decide)
  · cases reads.symm.trans fails
  · have before : w'.sent 0 = [] := by
      rw [World.sent, World.executor, executors]
      rfl
    obtain rfl := Except.ok.inj (reads.symm.trans reads')
    rw [before, List.nil_append] at sent
    refine ⟨sent, fun h => ?_⟩
    cases draft.symm.trans draft'
    rw [catalog, records] at hb
    cases hb
    have value : RowSlot.value ⟨0, "employed"⟩ ([0].map w'.records.at) = .ok (.bool true) := by
      rw [records]
      rfl
    cases agree.mp h ⟨0, "employed"⟩ _ (.bool true) (by decide) rfl value

end KeyRetrieval

end BoundSql
