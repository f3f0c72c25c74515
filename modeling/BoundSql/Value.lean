import BoundSql.Assoc

/-!
# Values

The data a statement can bind: null, booleans, integers of any size, text, and lists and
objects of such values.  Database rows, record fields and log fields hold the same values.  A
caller can give several values as a tuple or a set as well as in a list.

## Main definitions

* `Value` : the type.
* `Value.isNull` : the test every optional condition makes.
* `Value.number?` : the number a value is, if it is one.
* `Value.typeName` : the name of a value's type in messages.
* `Atom`, `Scalar` : the values that can be looked up, with `true` the same as one and `false` the
  same as zero, and tuples of such.
* `Value.scalar` : the key that a value stands for, or what keeps it from being one.
* `Raised` : an error raised by code that the caller supplied.
-/

namespace BoundSql

/-- A value that can be bound to a parameter. -/
inductive Value where
  | null
  | bool (b : Bool)
  | int (i : Int)
  | text (s : String)
  | list (items : List Value)
  | tuple (items : List Value)
  | set (items : List Value)
  | object (fields : List (String × Value))
deriving Inhabited

namespace Value

/-- Is the value absent? -/
def isNull : Value → Bool
  | null => true
  | _ => false

/-- The number a value is; booleans are the numbers zero and one. -/
def number? : Value → Option Int
  | int i => some i
  | bool b => some (if b then 1 else 0)
  | _ => none

/-- The text as a value, or null. -/
def ofText? : Option String → Value
  | some s => text s
  | none => null

/-- The name of a value's type in messages. -/
def typeName : Value → String
  | null => "NoneType"
  | bool _ => "bool"
  | int _ => "int"
  | text _ => "str"
  | list _ => "list"
  | tuple _ => "tuple"
  | set _ => "set"
  | object _ => "dict"

@[simp] theorem isNull_null : isNull null = true := rfl

theorem isNull_eq_true_iff {v : Value} : v.isNull = true ↔ v = null := by
  cases v <;> simp [isNull]

end Value

/-- A key that is not made of others.  Booleans are the numbers zero and one. -/
inductive Atom where
  | null
  | number (i : Int)
  | text (s : String)
deriving DecidableEq

/-- A value that can serve as a key: an atom, or a tuple of such values. -/
inductive Scalar where
  | atom (a : Atom)
  | tuple (items : List Scalar)

namespace Scalar

mutual

/-- Are two keys the same? A tuple is never the same as an atom. -/
def decEq : (a b : Scalar) → Decidable (a = b)
  | atom a, atom b => decidable_of_iff (a = b) ⟨congrArg atom, atom.inj⟩
  | tuple xs, tuple ys =>
    match decEqItems xs ys with
    | isTrue same => isTrue (congrArg tuple same)
    | isFalse other => isFalse fun same => other (tuple.inj same)
  | atom _, tuple _ | tuple _, atom _ => isFalse nofun

/-- Are two lists of keys the same? They are compared item by item. -/
def decEqItems : (xs ys : List Scalar) → Decidable (xs = ys)
  | [], [] => isTrue rfl
  | x :: xs, y :: ys =>
    match decEq x y, decEqItems xs ys with
    | isTrue same, isTrue others => isTrue (congr (congrArg List.cons same) others)
    | isFalse other, _ => isFalse fun same => other (List.cons.inj same).1
    | _, isFalse other => isFalse fun same => other (List.cons.inj same).2
  | [], _ :: _ | _ :: _, [] => isFalse nofun

end

-- Atoms are compared without the recursion, so that lookups by them are evaluated as fast as for a
-- type that is not recursive.
instance : DecidableEq Scalar
  | atom a, atom b => decidable_of_iff (a = b) ⟨congrArg atom, atom.inj⟩
  | tuple xs, tuple ys =>
    have := decEqItems xs ys
    decidable_of_iff (xs = ys) ⟨congrArg tuple, tuple.inj⟩
  | atom _, tuple _ | tuple _, atom _ => isFalse nofun

end Scalar

namespace Value

mutual

/-- The key a value stands for.  A tuple stands for one if all its items do; a list, a set or an
object stands for none.  Where there is no key, the result is the name of the type that is to blame,
which may be that of an item. -/
def scalar : Value → Except String Scalar
  | null => .ok (.atom .null)
  | bool b => .ok (.atom (.number (if b then 1 else 0)))
  | int i => .ok (.atom (.number i))
  | text s => .ok (.atom (.text s))
  | tuple items => .tuple <$> scalars items
  | list items => .error (typeName (list items))
  | set items => .error (typeName (set items))
  | object fields => .error (typeName (object fields))

/-- The keys that several values stand for; the first value that stands for none is to blame. -/
def scalars : List Value → Except String (List Scalar)
  | [] => .ok []
  | v :: rest => do
    let key ← scalar v
    let keys ← scalars rest
    return key :: keys

end

/-- The key a value stands for, if it stands for one. -/
def scalar? (v : Value) : Option Scalar := v.scalar.toOption

end Value

/-- An error raised by code that the caller supplied: the kind of error and its message. -/
structure Raised where
  kind : String
  message : String
deriving DecidableEq, Repr

end BoundSql
