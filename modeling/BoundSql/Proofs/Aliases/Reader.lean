import Mathlib.Data.String.Basic
import BoundSql.Proofs.Aliases.Terms

/-!
# A reader of select lists

A select list has items with commas between them.  An item is a term, and behind `AS` there may be
its alias, which is a term too.  This is all that the reader knows of statements.

Each step of the reader is described by an equivalence.  For what is written it would be enough to
know that it is read as it is meant; but the question here is when it is not, and for that one has
to know that nothing else leads to the same result.  So `SelectList.item?_named_iff` and its like go
both ways, and `SelectList.items?_intercalate_iff` turns an equivalence for each item into one for
the list.  For the direction from the list to the items it is important that items are read from
left to right, and that the reading of one determines where the next begins: an item that is read
wrongly cannot be made up for by those behind it.

* `SelectList.Item`, `SelectList.item?` : an item as it is read.
* `SelectList.read?` : the items of the select list of a statement.
* `SelectList.items?_intercalate_iff` : a list is read as it is meant exactly if each of its items
  is.
* `SelectList.sortKey?` : an item of a sort order that sorts by an identifier in double quotes.
-/

namespace BoundSql.SelectList

open Place (outside)
open Text (doubleQuote)

/-! ### Items -/

/-- An alias as it is read: an identifier that was in double quotes, or a text that is none. -/
inductive Alias where
  | quoted (name : String)
  | bare (text : String)
deriving DecidableEq, Repr

/-- The alias that a text says. -/
def Alias.ofText (text : List Char) : Alias :=
  match identifier? text with
  | some name => quoted name
  | none => bare (String.ofList text)

/-- An item as it is read: an expression, and its alias. -/
structure Item where
  expression : String
  alias? : Option Alias
deriving DecidableEq, Repr

/-- The item at the beginning of a text, and the text behind it.  Only `AS` with blanks around it
makes what follows an alias. -/
def item? (text : List Char) : Option (Item × List Char) :=
  match term? outside text with
  | none => none
  | some (expression, rest) =>
    match rest.dropPrefix? " AS ".toList with
    | none => some (⟨String.ofList expression, none⟩, rest)
    | some rest => (term? outside rest).map fun (key, rest) =>
        (⟨String.ofList expression, some (.ofText key)⟩, rest)

/-- An item of a sort order that consists of an identifier in double quotes, and the word for
sorting downwards: the identifier, and whether the word is there. -/
def sortKey? (text : String) : Option (String × Bool) := do
  let (key, rest) ← term? outside text.toList
  let name ← identifier? key
  if rest = [] then some (name, false)
  else if rest = " DESC".toList then some (name, true)
  else none

/-- Texts that say the same alias are the same.  For identifiers this holds because each is written
in one way only. -/
theorem Alias.ofText_injective : Function.Injective ofText := by
  intro text other same
  unfold ofText at same
  split at same
  case h_1 name read =>
    split at same
    case h_1 name' read' =>
      rw [identifier?_eq_some_iff.mp read, identifier?_eq_some_iff.mp read', quoted.inj same]
    case h_2 => cases same
  case h_2 =>
    split at same
    case h_1 => cases same
    case h_2 => exact String.ofList_injective (bare.inj same)

theorem Alias.ofText_eq_quoted_iff {name : String} :
    ofText text = quoted name ↔ identifier? text = some name := by
  unfold ofText
  split
  case h_1 s read => rw [read, quoted.injEq, Option.some.injEq]
  case h_2 none => rw [none]; exact iff_of_false nofun nofun

/-! ### Reading items -/

/-- A beginning is taken off exactly if the text has it. -/
theorem dropPrefix?_eq_some_iff {start : List Char} :
    text.dropPrefix? start = some rest ↔ text = start ++ rest := by
  simp [List.dropPrefix?_eq_some_iff]

/-- An item without an alias is a term that `AS` does not follow. -/
theorem item?_unnamed_iff {expression : String} :
    item? text = some (⟨expression, none⟩, rest) ↔
      term? outside text = some (expression.toList, rest) ∧
        rest.dropPrefix? " AS ".toList = none := by
  unfold item?
  cases term? outside text with
  | none => simp
  | some read =>
      obtain ⟨key, behind⟩ := read
      simp only [Option.some.injEq, Prod.mk.injEq]
      cases follows : behind.dropPrefix? " AS ".toList with
      | none =>
          simp only [Option.some.injEq, Prod.mk.injEq, Item.mk.injEq, and_true, String.ofList_eq]
          exact ⟨fun same => ⟨same, same.2 ▸ follows⟩, And.left⟩
      | some name =>
          refine iff_of_false (fun read => ?_) fun ⟨⟨_, same⟩, apart⟩ => ?_
          · obtain ⟨_, -, same⟩ := Option.map_eq_some_iff.mp read
            cases (Prod.mk.inj same).1
          · rw [← same, follows] at apart
            cases apart

/-- An item with an alias is a term, and behind `AS` a term that is the alias.  There is no other
way to read one. -/
theorem item?_named_iff {expression : String} {name : Alias} :
    item? text = some (⟨expression, some name⟩, rest) ↔
      ∃ behind key, term? outside text = some (expression.toList, " AS ".toList ++ behind) ∧
        term? outside behind = some (key, rest) ∧ Alias.ofText key = name := by
  unfold item?
  cases term? outside text with
  | none => simp
  | some read =>
      obtain ⟨key, behind⟩ := read
      simp only [Option.some.injEq, Prod.mk.injEq]
      cases follows : behind.dropPrefix? " AS ".toList with
      | none =>
          refine iff_of_false (fun read => ?_) fun ⟨behind', _, ⟨_, same⟩, _⟩ => ?_
          · cases (Prod.mk.inj (Option.some.inj read)).1
          · rw [dropPrefix?_eq_some_iff.mpr same] at follows
            cases follows
      | some behind' =>
          obtain rfl := dropPrefix?_eq_some_iff.mp follows
          simp only [Option.map_eq_some_iff, Prod.exists, Prod.mk.injEq, Item.mk.injEq,
            Option.some.injEq, String.ofList_eq, List.append_cancel_left_eq]
          constructor
          · rintro ⟨name, rest', read, ⟨same, named⟩, rfl⟩
            exact ⟨behind', name, ⟨same, rfl⟩, read, named⟩
          · rintro ⟨_, name, ⟨same, rfl⟩, read, named⟩
            exact ⟨name, rest, read, ⟨same, named⟩, rfl⟩

/-- What stands behind an item of a select list.  Both begin with what ends a term, and neither can
be taken for `AS`. -/
inductive BehindItem : List Char → Prop
  | comma (more : List Char) : BehindItem (", ".toList ++ more)
  | source (more : List Char) : BehindItem (" FROM ".toList ++ more)

theorem BehindItem.breaks (follows : BehindItem text) : Breaks text := by
  cases follows <;> exact fun c first => Option.some.inj first ▸ rfl

theorem BehindItem.dropPrefix? (follows : BehindItem text) :
    text.dropPrefix? " AS ".toList = none := by
  cases follows <;> rfl

/-- A text that no alias follows is read as what it is exactly if it is complete in itself. -/
theorem item?_append_iff {expression : String} {tail : List Char} (follows : BehindItem tail) :
    item? (expression.toList ++ tail) = some (⟨expression, none⟩, rest) ↔
      IsTerm expression ∧ rest = tail := by
  rw [item?_unnamed_iff, term?_append_iff, and_iff_right follows.breaks]
  constructor
  · exact And.left
  · rintro ⟨complete, rfl⟩
    exact ⟨⟨complete, rfl⟩, follows.dropPrefix?⟩

/-- A text that an alias follows is read as what it is exactly if it is complete in itself and the
alias is read. -/
theorem item?_append_alias_iff {expression : String} {name : Alias} {tail : List Char} :
    item? (expression.toList ++ (" AS ".toList ++ tail)) = some (⟨expression, some name⟩, rest) ↔
      IsTerm expression ∧
        ∃ key, term? outside tail = some (key, rest) ∧ Alias.ofText key = name := by
  have breaks : Breaks (" AS ".toList ++ tail) := fun c first => Option.some.inj first ▸ rfl
  rw [item?_named_iff]
  simp only [term?_append_iff, and_iff_right breaks, List.append_cancel_left_eq]
  constructor
  · rintro ⟨_, key, ⟨complete, rfl⟩, read⟩
    exact ⟨complete, key, read⟩
  · rintro ⟨complete, key, read⟩
    exact ⟨tail, key, ⟨complete, rfl⟩, read⟩

/-- An alias is read as what its text says exactly if its text is complete in itself.  If it is not,
the reader stops earlier or later, and what it has read is another text and another alias. -/
theorem Alias.exists_ofText_iff {s : String} {tail : List Char} (breaks : Breaks tail) :
    (∃ key, term? outside (s.toList ++ tail) = some (key, rest) ∧
        Alias.ofText key = .ofText s.toList) ↔
      IsTerm s ∧ rest = tail := by
  constructor
  · rintro ⟨key, read, same⟩
    obtain rfl := Alias.ofText_injective same
    obtain ⟨complete, -, rest⟩ := term?_append_iff.mp read
    exact ⟨complete, rest⟩
  · rintro ⟨complete, rfl⟩
    exact ⟨s.toList, term?_append_iff.mpr ⟨complete, breaks, rfl⟩, rfl⟩

/-! ### Reading lists -/

/-- Reading a term does not lengthen the text. -/
theorem length_le_of_term? (read : term? place text = some (term, rest)) :
    rest.length ≤ text.length := by
  obtain ⟨-, rfl, -⟩ := term?_eq_some_iff.mp read
  simp

/-- Neither does reading an item; together with the comma this is why the reading of a list comes to
an end. -/
theorem length_le_of_item? {item : Item} (read : item? text = some (item, rest)) :
    rest.length ≤ text.length := by
  obtain ⟨expression, alias?⟩ := item
  cases alias? with
  | none => exact length_le_of_term? (item?_unnamed_iff.mp read).1
  | some name =>
      obtain ⟨behind, key, first, second, -⟩ := item?_named_iff.mp read
      have outer := length_le_of_term? first
      rw [List.length_append] at outer
      exact Nat.le_trans (length_le_of_term? second) (Nat.le_of_add_left_le outer)

/-- The items at the beginning of a text, with commas between them, and the text behind them. -/
def items? (text : List Char) : Option (List Item × List Char) :=
  match _item : item? text with
  | none => none
  | some (item, rest) =>
    match _comma : rest.dropPrefix? ", ".toList with
    | none => some ([item], rest)
    | some rest => (items? rest).map fun (items, rest) => (item :: items, rest)
termination_by text.length
decreasing_by
  have used := length_le_of_item? _item
  rw [dropPrefix?_eq_some_iff.mp _comma, List.length_append] at used
  exact Nat.lt_of_lt_of_le (Nat.lt_add_of_pos_left (Nat.zero_lt_succ _)) used

/-- The items of the select list of a statement. -/
def read? (distinct : Bool) (sql : String) : Option (List Item) := do
  let list ← sql.toList.dropPrefix? (if distinct then "SELECT DISTINCT " else "SELECT ").toList
  let (items, rest) ← items? list
  let _ ← rest.dropPrefix? " FROM ".toList
  return items

/-- Items are read one by one: either a comma follows, and further items, or nothing is read that
stands behind the item. -/
theorem items?_eq_some_iff {items : List Item} :
    items? text = some (items, rest) ↔
      ∃ item rest', item? text = some (item, rest') ∧
        ((rest'.dropPrefix? ", ".toList = none ∧ items = [item] ∧ rest = rest') ∨
          ∃ behind others, rest' = ", ".toList ++ behind ∧
            items? behind = some (others, rest) ∧ items = item :: others) := by
  rw [items?.eq_def]
  split
  case h_1 none => simp [none]
  case h_2 item rest' read =>
    simp only [read, Option.some.injEq, Prod.mk.injEq]
    split
    case h_1 none =>
      constructor
      · intro same
        obtain ⟨rfl, rfl⟩ := Prod.mk.inj (Option.some.inj same)
        exact ⟨item, rest', ⟨rfl, rfl⟩, .inl ⟨none, rfl, rfl⟩⟩
      · rintro ⟨_, _, ⟨rfl, rfl⟩, ⟨-, rfl, rfl⟩ | ⟨behind, _, same, _⟩⟩
        · rfl
        · rw [dropPrefix?_eq_some_iff.mpr same] at none
          cases none
    case h_2 behind comma =>
      obtain rfl := dropPrefix?_eq_some_iff.mp comma
      constructor
      · intro others
        obtain ⟨⟨items', rest''⟩, read', same⟩ := Option.map_eq_some_iff.mp others
        obtain ⟨rfl, rfl⟩ := Prod.mk.inj same
        exact ⟨item, _, ⟨rfl, rfl⟩, .inr ⟨behind, items', rfl, read', rfl⟩⟩
      · rintro ⟨_, _, ⟨rfl, rfl⟩, ⟨none, _⟩ | ⟨behind', others, same, read', rfl⟩⟩
        · rw [comma] at none
          cases none
        · obtain rfl := List.append_cancel_left same
          rw [read']
          rfl

/-- There is no list without items: an empty text in the place of an item is an item that is
empty. -/
theorem ne_nil_of_items? {items : List Item} (read : items? text = some (items, rest)) :
    items ≠ [] := by
  obtain ⟨_, _, -, ⟨-, rfl, -⟩ | ⟨_, _, -, -, rfl⟩⟩ := items?_eq_some_iff.mp read
  · exact List.cons_ne_nil _ _
  · exact List.cons_ne_nil _ _

/-- **A list of items is read item by item**, and it is read as it is meant exactly if each of its
items is.  What is known of the items is an equivalence for each, whatever stands behind it. -/
theorem items?_intercalate_iff {α : Type} {xs : List α} (present : xs ≠ [])
    {text : α → List Char} {item : α → Item} {Reads : α → Prop}
    (each : ∀ x ∈ xs, ∀ rest tail, BehindItem tail →
      (item? (text x ++ tail) = some (item x, rest) ↔ Reads x ∧ rest = tail))
    (more rest : List Char) :
    items? (", ".toList.intercalate (xs.map text) ++ (" FROM ".toList ++ more)) =
        some (xs.map item, rest) ↔
      (∀ x ∈ xs, Reads x) ∧ rest = " FROM ".toList ++ more := by
  induction xs with
  | nil => exact absurd rfl present
  | cons x xs ih =>
      obtain ⟨first, others⟩ := List.forall_mem_cons.mp each
      cases xs with
      | nil =>
          -- the last item: what stands behind it is FROM, so the reader stops here
          have apart : (" FROM ".toList ++ more).dropPrefix? ", ".toList = none := rfl
          rw [List.map_singleton, List.intercalate_singleton, items?_eq_some_iff,
            List.map_singleton, List.forall_mem_singleton]
          constructor
          · rintro ⟨item', rest', read, ⟨-, same, rfl⟩ | ⟨behind, others, rfl, read', same⟩⟩
            · obtain rfl := List.singleton_inj.mp same
              exact (first _ _ (.source more)).mp read
            · obtain rfl := (List.cons.inj same).2
              exact absurd rfl (ne_nil_of_items? read')
          · rintro ⟨reads, rfl⟩
            exact ⟨item x, _, (first _ _ (.source more)).mpr ⟨reads, rfl⟩, .inl ⟨apart, rfl, rfl⟩⟩
      | cons y xs =>
          -- a further item follows: the rest is again a list of items, and the hypothesis is about
          -- it
          have line : ", ".toList.intercalate ((x :: y :: xs).map text) ++
              (" FROM ".toList ++ more) = text x ++ (", ".toList ++
                (", ".toList.intercalate ((y :: xs).map text) ++ (" FROM ".toList ++ more))) := by
            rw [List.map_cons, List.map_cons, List.intercalate_cons_cons, List.append_assoc,
              List.append_assoc]
          have rest_iff := ih (List.cons_ne_nil y xs) others
          rw [line, items?_eq_some_iff, List.forall_mem_cons, and_assoc, ← rest_iff]
          constructor
          · rintro ⟨item', rest', read, ⟨-, same, -⟩ | ⟨behind, others', rfl, read', same⟩⟩
            · cases (List.cons.inj same).2
            · obtain ⟨rfl, rfl⟩ := List.cons.inj same
              obtain ⟨reads, comma⟩ := (first _ _ (.comma _)).mp read
              exact ⟨reads, List.append_cancel_left comma ▸ read'⟩
          · rintro ⟨reads, read⟩
            exact ⟨item x, _, (first _ _ (.comma _)).mpr ⟨reads, rfl⟩,
              .inr ⟨_, _, rfl, read, rfl⟩⟩

/-- A select list goes from its keyword to `FROM`. -/
theorem read?_eq_some_iff {distinct : Bool} {sql : String} {items : List Item} :
    read? distinct sql = some items ↔
      ∃ list more, sql.toList =
          (if distinct then "SELECT DISTINCT " else "SELECT ").toList ++ list ∧
        items? list = some (items, " FROM ".toList ++ more) := by
  simp only [read?, Option.bind_eq_bind, Option.bind_eq_some_iff, dropPrefix?_eq_some_iff,
    Prod.exists, Option.pure_def, Option.some.injEq]
  constructor
  · rintro ⟨list, text, _, _, read, more, rfl, rfl⟩
    exact ⟨list, more, text, read⟩
  · rintro ⟨list, more, text, read⟩
    exact ⟨list, text, items, _, read, more, rfl, rfl⟩

/-- **A select list is read as it is meant** exactly if each of its items is.  The text behind
`FROM` is arbitrary. -/
theorem read?_intercalate_iff {α : Type} {xs : List α} (present : xs ≠ []) {text : α → String}
    {item : α → Item} {Reads : α → Prop}
    (each : ∀ x ∈ xs, ∀ rest tail, BehindItem tail →
      (item? ((text x).toList ++ tail) = some (item x, rest) ↔ Reads x ∧ rest = tail))
    (distinct : Bool) (more : String) :
    read? distinct ((if distinct then "SELECT DISTINCT " else "SELECT ") ++
        ", ".intercalate (xs.map text) ++ " FROM " ++ more) = some (xs.map item) ↔
      ∀ x ∈ xs, Reads x := by
  have list := items?_intercalate_iff present each more.toList
  have texts : (xs.map text).map String.toList = xs.map fun x => (text x).toList := by
    rw [List.map_map]
    rfl
  simp only [read?_eq_some_iff, String.toList_append, String.toList_intercalate, texts,
    List.append_assoc, List.append_cancel_left_eq]
  constructor
  · rintro ⟨_, rest, rfl, read⟩
    exact ((list _).mp read).1
  · intro reads
    exact ⟨_, more.toList, rfl, (list _).mpr ⟨reads, rfl⟩⟩

/-! ### Reading sort keys -/

/-- What was put between double quotes as it is, and is sorted by, is read as what it is exactly if
it has no double quote. -/
theorem sortKey?_between_iff {s : String} {downwards : Bool} :
    sortKey? ("\"" ++ s ++ "\"" ++ if downwards then " DESC" else "") = some (s, downwards) ↔
      doubleQuote ∉ s.toList := by
  have breaks : Breaks (if downwards then " DESC" else "").toList := by
    cases downwards with
    | true => exact fun c first => Option.some.inj first ▸ rfl
    | false => exact nofun
  simp only [sortKey?, String.toList_append, Option.bind_eq_bind, Option.bind_eq_some_iff,
    Prod.exists]
  have between := term?_between_iff s breaks
  simp only [String.toList_append] at between
  constructor
  · rintro ⟨key, rest, read, name, named, result⟩
    have same : name = s := by
      split at result
      · exact (Prod.mk.inj (Option.some.inj result)).1
      · split at result
        · exact (Prod.mk.inj (Option.some.inj result)).1
        · cases result
    exact ((between rest).mp ⟨key, read, same ▸ named⟩).1
  · intro absent
    obtain ⟨key, read, named⟩ := (between _).mpr ⟨absent, rfl⟩
    exact ⟨key, _, read, s, named, by cases downwards <;> rfl⟩

end BoundSql.SelectList
