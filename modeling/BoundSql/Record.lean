import BoundSql.Error

/-!
# Records

A record is where a row insert takes its values from and where generated keys are written to.
Mappings are read by key, objects by attribute.  An object may declare its fields, and what it
declares is what it lists; an object that declares nothing lists its attributes, except those
that start with an underscore.

## Main definitions

* `Key` : the keys of a mapping; only text keys are reached by property name.
* `Record` : the kinds of record.
* `Record.properties` : the names a record lists.
* `Record.get`, `Record.set` : reading and writing a property.
* `Record.read` : reading a property for a statement, where absence is a build error.
-/

namespace BoundSql

/-- A key of a mapping record. -/
inductive Key where
  | null
  | bool (b : Bool)
  | int (i : Int)
  | text (s : String)

namespace Key

/-- What a key stands for; keys that stand for the same are the same key. -/
def atom : Key → Atom
  | null => .null
  | bool b => .number (if b then 1 else 0)
  | int i => .number i
  | text s => .text s

instance : BEq Key := ⟨fun a b => a.atom == b.atom⟩

/-- The key as a value. -/
def value : Key → Value
  | null => .null
  | bool b => .bool b
  | int i => .int i
  | text s => .text s

/-- The name a key is listed under. -/
def name : Key → String
  | null => "None"
  | bool true => "True"
  | bool false => "False"
  | int i => toString i
  | text s => s

end Key

/-- How an object declares its fields. -/
inductive ObjectKind where
  /-- The fields are declared; further attributes may be added. -/
  | dataclass
  /-- The fields are declared, and the only further attributes are private ones. -/
  | model
  /-- Nothing is declared. -/
  | plain
deriving DecidableEq, Repr

/-- The name of a kind of object. -/
def ObjectKind.name : ObjectKind → String
  | dataclass => "dataclass"
  | model => "model"
  | plain => "object"

/-- A record. -/
inductive Record where
  /-- A mapping with its entries in order. -/
  | mapping (entries : Assoc Key Value)
  /-- An object with its declared fields and all its attributes, in order. -/
  | object (kind : ObjectKind) (declared : List String) (attributes : Assoc String Value)
  /-- A value that is no record at all. -/
  | bare (v : Value)

instance : Inhabited Record := ⟨.mapping []⟩

namespace Record

/-- Is the attribute private, as its name says with an underscore at its start? -/
def isPrivate (name : String) : Bool := name.startsWith "_"

/-- The names of the properties a record lists, in order. -/
def properties : Record → Except Error (List String)
  | mapping entries => .ok (entries.map (·.1.name))
  | object .plain _ attributes =>
    .ok ((Assoc.keys attributes).filter fun name => !isPrivate name)
  | object _ declared _ => .ok declared
  | bare _ => .error .noProperties

/-- The name of a record's type in messages. -/
def typeName : Record → String
  | mapping _ => "dict"
  | object _ _ _ => "Record"
  | bare v => v.typeName

/-- An attribute of a record; the entries of a mapping are no attributes. -/
def attribute? : Record → String → Option Value
  | object _ _ attributes, name => Assoc.get? name attributes
  | _, _ => none

/-- Reads a property. -/
def get (record : Record) (name : String) : Except Error Value :=
  match record with
  | mapping entries =>
    match Assoc.get? (Key.text name) entries with
    | some v => .ok v
    | none => .error (.keyMissing name)
  | object kind _ attributes =>
    match kind, Assoc.get? name attributes with
    | _, some v => .ok v
    | .model, none => .error (.modelAttributeMissing name)
    | _, none => .error (.attributeMissing record.typeName name)
  | bare v => .error (.attributeMissing v.typeName name)

/-- Writes a property; a new one comes last.  A model takes no new one unless it is private. -/
def set (record : Record) (name : String) (v : Value) : Except Error Record :=
  match record with
  | mapping entries => .ok (mapping (Assoc.put (Key.text name) v entries))
  | object kind declared attributes =>
    if kind = .model ∧ !isPrivate name ∧ (Assoc.get? name attributes).isNone then
      .error (.fieldUndeclared name)
    else .ok (object kind declared (Assoc.put name v attributes))
  | bare w => .error (.attributeMissing w.typeName name)

/-- How a record lacks a property. -/
def absence : Record → Absence
  | mapping _ => .key
  | _ => .attribute

/-- Reads a property for a statement of some kind. -/
def read (record : Record) (name : String) (kind : StatementKind) : Except Error Value :=
  match record.get name with
  | .ok v => .ok v
  | .error _ => fail (.missingProperty name record.absence) kind

end Record

end BoundSql
