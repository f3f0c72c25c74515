import BoundSql.Proofs.Layout

/-!
# Renaming parameters

The inserts of records read the same values from a record and write the same expressions for it;
only the names of the parameters differ, and the kind of statement that an error names.

Both differences are treated in the same way.  There is a function that makes the difference, on
dictionaries and texts the one and on errors the other, and each step of an insert is shown to
commute with it.  For dictionaries the new names have to be as different as the old ones, or entries
would be lost; for the names of row slots this is known.  On errors nothing has to be assumed.

* `Assoc.rename`, `Fragment.rename` : other names, in a dictionary and in a text.
* `mapM_rowExpression_rename` : the value expressions of a record under other names.
* `Error.withKind` : an error of another kind of statement.
* `bindRecord_rename`, `bindRecord_ofKind` : the values of a record under other names, and for
  another kind of statement.
-/

namespace BoundSql

/-! ### Dictionaries -/

namespace Assoc

variable {κ κ' ν : Type}

/-- The entries under other keys. -/
def rename (f : κ → κ') (entries : Assoc κ ν) : Assoc κ' ν :=
  entries.map fun entry => (f entry.1, entry.2)

/-- The keys are renamed, and stay in order. -/
theorem keys_rename (f : κ → κ') (entries : Assoc κ ν) :
    keys (rename f entries) = (keys entries).map f := by
  rw [keys, keys, rename, List.map_map, List.map_map]
  rfl

section

variable [BEq κ] [LawfulBEq κ] [BEq κ'] [LawfulBEq κ'] {f : κ → κ'}

/-- Different keys stay different, so a key is compared as before. -/
theorem beq_rename (injective : Function.Injective f) (a b : κ) : (f a == f b) = (a == b) := by
  by_cases same : a = b
  · simp [same]
  · simp [same, injective.eq_iff]

/-- Writing an entry and renaming may be interchanged, if different keys stay different. -/
theorem rename_put (injective : Function.Injective f) (key : κ) (value : ν)
    (entries : Assoc κ ν) :
    rename f (put key value entries) = put (f key) value (rename f entries) := by
  induction entries with
  | nil => rfl
  | cons entry rest ih =>
      show _ = if f entry.1 == f key then _ else _
      rw [put, beq_rename injective]
      split
      · rfl
      · exact congrArg (List.cons _) ih

/-- So may writing several entries. -/
theorem rename_putAll (injective : Function.Injective f) (entries more : Assoc κ ν) :
    rename f (putAll entries more) = putAll (rename f entries) (rename f more) := by
  induction more generalizing entries with
  | nil => rfl
  | cons entry more ih =>
      show rename f (putAll (put entry.1 entry.2 entries) more) = _
      rw [ih, rename_put injective]
      rfl

end

variable [BEq κ] [LawfulBEq κ]

/-- Under different keys every entry is found. -/
theorem get?_of_mem {entries : Assoc κ ν} (different : (keys entries).Nodup) {key : κ} {value : ν}
    (mem : (key, value) ∈ entries) : get? key entries = some value := by
  induction entries with
  | nil => cases mem
  | cons entry rest ih =>
      rw [keys, List.map_cons, List.nodup_cons] at different
      rcases List.mem_cons.mp mem with rfl | mem
      · rw [get?, beq_self_eq_true, if_pos rfl]
      · have other : entry.1 ≠ key := by
          rintro rfl
          exact different.1 (List.mem_map.mpr ⟨_, mem, rfl⟩)
        rw [get?, if_neg (by simpa using other), ih different.2 mem]

/-- Runs of writes of different keys leave what they write, one behind the other.  No entry replaces
another one. -/
theorem foldl_putAll_of_nodup {runs : List (Assoc κ ν)} {entries : Assoc κ ν}
    (different : (keys (entries ++ runs.flatten)).Nodup) :
    runs.foldl putAll entries = entries ++ runs.flatten := by
  induction runs generalizing entries with
  | nil => rw [List.flatten_nil, List.append_nil]; rfl
  | cons run runs ih =>
      rw [List.flatten_cons, ← List.append_assoc] at different
      have first : (keys (entries ++ run)).Nodup := by
        rw [keys, List.map_append] at different
        exact (List.nodup_append.mp different).1
      rw [List.foldl_cons, putAll_of_nodup first, ih different, List.flatten_cons,
        List.append_assoc]

end Assoc

/-! ### Texts -/

/-- The piece with another name for a parameter whose name is settled. -/
def Piece.rename (f : String → String) : Piece → Piece
  | .parameter p => .parameter (f p)
  | piece => piece

/-- The text with other names for the parameters whose names are settled. -/
def Fragment.rename (f : String → String) (text : Fragment) : Fragment := text.map (Piece.rename f)

/-- A literal has no parameter. -/
theorem Mapping.rename_literal {m : Mapping} {text : Fragment} (h : m.literal = .ok text)
    (f : String → String) : Fragment.rename f text = text := by
  unfold literal at h
  split at h
  case h_4 => cases h
  all_goals
    rw [← Except.ok.inj h]
    rfl

/-- A value expression under another name is the renamed value expression. -/
theorem rowExpression_rename (f : String → String) (m : Mapping) :
    rowExpression f m = Fragment.rename f <$> rowExpression id m := by
  unfold rowExpression
  cases m.property? with
  | some p => rfl
  | none =>
      cases written : m.literal with
      | error e => rfl
      | ok text => exact congrArg Except.ok (m.rename_literal written f).symm

/-- The value expressions of a record are those of any other under other names. -/
theorem mapM_rowExpression_rename (f : String → String) (mappings : List Mapping) :
    mappings.mapM (rowExpression f) =
      List.map (Fragment.rename f) <$> mappings.mapM (rowExpression id) := by
  rw [← mapM_result_eq]
  exact congrArg (List.mapM · mappings) (funext (rowExpression_rename f))

/-! ### Kinds of statements -/

/-- The error, if it says that a statement cannot be rendered, for another kind of statement. -/
def Error.withKind (kind : StatementKind) : Error → Error
  | .build e => .build { e with kind }
  | e => e

/-- A computation whose errors are those of another kind of statement. -/
def ofKind {α : Type} (kind : StatementKind) (x : Except Error α) : Except Error α :=
  x.mapError (Error.withKind kind)

section

variable {α β : Type} (kind : StatementKind)

@[simp] theorem ofKind_pure (a : α) : ofKind kind (pure a) = pure a := rfl

/-- The kind may be changed in each of two steps. -/
theorem ofKind_bind (x : Except Error α) (f : α → Except Error β) :
    ofKind kind (x >>= f) = ofKind kind x >>= fun a => ofKind kind (f a) := by
  cases x <;> rfl

/-- It may be changed for each member of a list. -/
theorem ofKind_mapM (f : α → Except Error β) (xs : List α) :
    ofKind kind (xs.mapM f) = xs.mapM fun x => ofKind kind (f x) := by
  induction xs with
  | nil => rfl
  | cons x xs ih => simp only [List.mapM_cons, ofKind_bind, ofKind_pure, ih]

/-- What has no column for a name is no matter of the statement. -/
theorem ofKind_named (m : Mapping) : ofKind kind m.named = m.named := by
  unfold Mapping.named
  cases m.column <;> rfl

/-- Neither is a literal that is none. -/
theorem ofKind_literal (m : Mapping) : ofKind kind m.literal = m.literal := by
  unfold Mapping.literal
  cases m.origin <;> rfl

/-- So a value expression is no matter of the statement. -/
theorem ofKind_rowExpression (f : String → String) (m : Mapping) :
    ofKind kind (rowExpression f m) = rowExpression f m := by
  unfold rowExpression
  cases m.property? with
  | some p => rfl
  | none => exact ofKind_literal kind m

/-- A conversion that fails raises an error of its own. -/
theorem ofKind_convert (c : Column) (v : Value) : ofKind kind (c.convert v) = c.convert v := by
  unfold Column.convert
  split
  · rfl
  · cases c.converter? with
    | none => rfl
    | some convert =>
        show ofKind kind ((convert v).mapError Error.raised) = (convert v).mapError Error.raised
        cases convert v <;> rfl

/-- A record that lacks a property lacks it for every kind of statement. -/
theorem ofKind_read (record : Record) (name : String) (kind' : StatementKind) :
    ofKind kind (record.read name kind') = record.read name kind := by
  unfold Record.read
  cases record.get name <;> rfl

end

/-- **A record is read in one way** whatever the parameters are called.  The induction is over the
bindings, in the course of which the dictionary is filled. -/
theorem bindRecord_rename {f : String → String} (injective : Function.Injective f)
    (kind : StatementKind) (record : Record) (bindings : List Binding) :
    bindRecord kind f record bindings =
      Assoc.rename f <$> bindRecord kind id record bindings := by
  have entry : ∀ b : Binding, (do
      let v ← record.read b.property kind
      let v ← b.column.convert v
      return (f b.property, v)) = (fun e : String × Value => (f e.1, e.2)) <$> (do
      let v ← record.read b.property kind
      let v ← b.column.convert v
      return (b.property, v)) := by
    intro b
    simp only [map_eq_pure_bind, bind_assoc, pure_bind]
  unfold bindRecord
  simp only [entry, mapM_result_eq, id]
  simp only [map_eq_pure_bind, bind_assoc, pure_bind, Assoc.rename_putAll injective]
  rfl

/-- A record is read in one way whatever kind of statement it is read for. -/
theorem bindRecord_ofKind (kind kind' : StatementKind) (f : String → String) (record : Record)
    (bindings : List Binding) :
    bindRecord kind' f record bindings = ofKind kind' (bindRecord kind f record bindings) := by
  unfold bindRecord
  simp only [ofKind_bind, ofKind_mapM, ofKind_pure, ofKind_read, ofKind_convert]

end BoundSql
