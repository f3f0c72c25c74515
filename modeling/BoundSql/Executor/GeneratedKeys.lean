import BoundSql.Executor

/-!
# Generated keys

An insert of many records can ask the database to return the keys it generated, and write them
into the records.  Without a match column the keys are paired with the records by position.  With
one, the database returns the column's value beside each key, and a record gets the key that
stands beside the value of its own property.

The parameters are rebuilt from the finished text and the records, before anything is sent.  All
rows are fetched before the first record is written, and the keys are written while the result is
being read: an error of the database layer is wrapped up to the last of them.

## Main definitions

* `KeyRetrieval` : which column is the key, where it goes, and how rows find their records.
* `KeyRetrieval.assignKeys` : what is done with the result of the insert.
* `KeyRetrieval.run` : the mapper for inserts that retrieve generated keys.
-/

namespace BoundSql

/-- How generated keys are retrieved. -/
structure KeyRetrieval where
  keyColumn : String
  keyProperty : String
  matchColumn? : Option String := none
  matchProperty? : Option String := none
deriving DecidableEq, Repr

namespace KeyRetrieval

/-- The columns the database is to return. -/
def returning (k : KeyRetrieval) : String :=
  match k.matchColumn? with
  | none => k.keyColumn
  | some column => k.keyColumn ++ ", " ++ column

/-- The text that is sent. -/
def statement (k : KeyRetrieval) (sql : String) : String := sql ++ " RETURNING " ++ k.returning

/-- The property that holds a record's match value: by default the one named as the column. -/
def matchProperty (k : KeyRetrieval) (column : String) : String :=
  (nonempty? k.matchProperty?).getD column

/-- Writes a key into a record. -/
def assign (k : KeyRetrieval) (id : RecordId) (key : Value) : Action Site Unit := do
  let record ← Action.look fun s => s.records.at id
  let record ← Action.ofExcept (record.set k.keyProperty key)
  Action.update fun s => { s with records := s.records.set id record }

/-- Writes keys into records by position, as far as there are both. -/
def assignInOrder (k : KeyRetrieval) (ids : List RecordId) (keys : List Value) :
    Action Site Unit :=
  (ids.zip keys).forM fun (id, key) => k.assign id key

/-- A value as a key to look up, if it can be one.  The error names the type that is to blame, which
in a tuple is that of an item. -/
def lookupKey (v : Value) : Except Error Scalar := v.scalar.mapError .notAKey

/-- The generated keys by the values beside them; of several rows with one value the last
counts. -/
def keysByValue (rows : List (List Value)) : Except Error (Assoc Scalar Value) :=
  rows.foldlM (fun found row =>
    match row with
    | key :: value :: _ => do
      let s ← lookupKey value
      return Assoc.put s key found
    | _ => .error .rowTooShort) []

/-- Writes into a record the key that stands beside its match value, if there is one. -/
def assignMatching (k : KeyRetrieval) (property : String) (keys : Assoc Scalar Value)
    (id : RecordId) : Action Site Unit := do
  let record ← Action.look fun s => s.records.at id
  let v ← Action.ofExcept (record.read property .insertMultiple)
  let s ← Action.ofExcept (lookupKey v)
  match Assoc.get? s keys with
  | some key => k.assign id key
  | none => return ()

/-- Fetches the rows of a result and writes the keys in them into the records; what it gives is the
number of rows. -/
def assignKeys (k : KeyRetrieval) (ids : List RecordId) (o : Outcome) : Action Site Int := do
  match k.matchColumn? with
  | none =>
    let keys ← Action.ofExcept o.firstColumn
    k.assignInOrder ids keys
    return keys.length
  | some column =>
    let rows ← Action.ofExcept o.allRows
    let keys ← Action.ofExcept (keysByValue rows)
    ids.forM (k.assignMatching (k.matchProperty column) keys)
    return rows.length

/-- Runs an insert of many records and writes the generated keys into them; the result is the
number of rows that were returned. -/
def run (k : KeyRetrieval) (sql : String) (ids : List RecordId) : Action Site Int := do
  let records ← Action.look fun s => ids.map s.records.at
  let parameters ← Action.ofExcept (bindRowSlots sql records)
  Executor.run (.one (k.statement sql) parameters) (k.assignKeys ids)

end KeyRetrieval

end BoundSql
