import BoundSql.Proofs.References.Renaming
import BoundSql.Proofs.Subquery

/-!
# References to columns

A text that mentions columns is put together of parts: texts that have nothing to do with the names
of columns, and references to columns.  `Refers` says of a fragment that depends on the names what
its references are, in order: whatever the names are, it is written of the same parts.  So the text
changes with the names at the references, and nowhere else.

The parts are chosen once for all names.  This is what gives `Refers` its content: if they could be
chosen for each naming anew, the whole text could be taken as one verbatim part.  They may depend on
the context in which the fragment is written, because the context decides how values are numbered;
and the context behind the fragment must not depend on the names, or what follows would be numbered
differently under other names.

Two fragments that refer are put one behind the other by putting their parts one behind the other
(`Refers.append`), and all other rules come down to this one.

* `Reference`, `Reference.text` : a reference, and its text.
* `Part`, `Part.spell` : the parts of a text, and the text under a naming.
* `Refers` : the references of a fragment.
-/

namespace BoundSql

/-! ### References -/

/-- A text does not become shorter when a character in it is doubled.  So a quoted name is longer
than the name itself, by the quotes around it at least. -/
theorem Text.length_le_doubled (q : Char) (s : List Char) : s.length ≤ (doubled q s).length := by
  induction s with
  | nil => exact Nat.le_refl 0
  | cons c s ih =>
      unfold doubled
      split
      · exact Nat.succ_le_succ (Nat.le_succ_of_le ih)
      · exact Nat.succ_le_succ ih

/-- What a column is referred to for. -/
inductive Reference.Role where
  /-- To be selected. -/
  | selected
  /-- To be compared in the criteria of a join. -/
  | joined
  /-- To be compared in the restriction. -/
  | restricted
  /-- To group the rows. -/
  | grouped
  /-- To sort the rows. -/
  | sorted
deriving DecidableEq, Repr

/-- A place in a text where a column is referred to by its name. -/
structure Reference where
  role : Reference.Role
  column : Column

/-- The text of a reference under a naming: the name as the dialect quotes it, except that rows are
sorted by the bare name. -/
def Reference.text (dialect : Dialect) (names : Naming) (r : Reference) : String :=
  match r.role with
  | .sorted => names r.column
  | _ => dialect.quote (names r.column)

/-- A dialect that quotes identifiers leaves none as it is.  The empty identifier is no exception,
since it is written as two quotes. -/
theorem Dialect.quote_eq_self_iff {dialect : Dialect} {s : String} :
    dialect.quote s = s ↔ dialect = .generic := by
  cases quotes : dialect.quoteChar? with
  | none =>
      rw [quote, quotes]
      cases dialect <;> cases quotes
      exact iff_of_true rfl rfl
  | some q =>
      refine iff_of_false (fun same => ?_) fun generic => ?_
      · rw [quote, quotes] at same
        have shorter := congrArg (fun s : String => s.toList.length) same
        have grown := Text.length_le_doubled q s.toList
        simp only [Text.toList_enclosed, List.length_cons, List.length_append] at shorter
        omega
      · rw [generic] at quotes
        cases quotes

/-- A reference is quoted unless it is there for sorting, or nothing is quoted at all. -/
theorem Reference.text_eq_quote_iff {r : Reference} {dialect : Dialect} {names : Naming} :
    r.text dialect names = dialect.quote (names r.column) ↔
      r.role ≠ .sorted ∨ dialect = .generic := by
  obtain ⟨role, column⟩ := r
  cases role with
  | sorted =>
      show names column = dialect.quote (names column) ↔ _
      rw [eq_comm, Dialect.quote_eq_self_iff]
      simp
  | _ => exact iff_of_true rfl (.inl nofun)

/-- A part of a text. -/
inductive Part where
  /-- A text that stands there under any names. -/
  | verbatim (s : String)
  | reference (r : Reference)

namespace Part

/-- The text of a part under a naming. -/
def text (dialect : Dialect) (names : Naming) : Part → String
  | verbatim s => s
  | reference r => r.text dialect names

/-- The text of parts under a naming. -/
def spell (dialect : Dialect) (names : Naming) : List Part → String
  | [] => ""
  | p :: parts => p.text dialect names ++ spell dialect names parts

/-- The references among parts, in order. -/
def references (parts : List Part) : List Reference :=
  parts.filterMap fun
    | reference r => some r
    | verbatim _ => none

theorem spell_append (dialect : Dialect) (names : Naming) (parts parts' : List Part) :
    spell dialect names (parts ++ parts') =
      spell dialect names parts ++ spell dialect names parts' := by
  induction parts with
  | nil => exact String.empty_append.symm
  | cons p parts ih => rw [List.cons_append, spell, spell, ih, String.append_assoc]

theorem references_append (parts parts' : List Part) :
    references (parts ++ parts') = references parts ++ references parts' :=
  List.filterMap_append

end Part

/-! ### Fragments under any names -/

/-- The fragment, which depends on the names of columns, has the references: under any names it is
written of the same parts, and it leaves the same context behind, in the same dialect. -/
def Refers (refs : List Reference) (f : Naming → Fragment) : Prop :=
  ∀ c : Context, ∃ parts after, Part.references parts = refs ∧ after.dialect = c.dialect ∧
    ∀ names, (f names).write c = (Part.spell c.dialect names parts, after)

namespace Refers

variable {refs refs' : List Reference} {f g : Naming → Fragment}

theorem nil : Refers [] fun _ => [] := fun c => ⟨[], c, rfl, rfl, fun _ => rfl⟩

/-- Fragments one behind the other: first the references of the one, then those of the other. -/
theorem append (hf : Refers refs f) (hg : Refers refs' g) :
    Refers (refs ++ refs') fun names => f names ++ g names := by
  intro c
  obtain ⟨parts, c₁, hrefs, hdialect, first⟩ := hf c
  obtain ⟨parts', c₂, hrefs', hdialect', second⟩ := hg c₁
  refine ⟨parts ++ parts', c₂, ?_, hdialect'.trans hdialect, fun names => ?_⟩
  · rw [Part.references_append, hrefs, hrefs']
  · rw [Fragment.write_append, first, second, hdialect, Part.spell_append]

/-- A piece that does not depend on names. -/
theorem piece (p : Piece) : Refers [] fun _ => [p] := by
  intro c
  refine ⟨[.verbatim (p.write c).1], (p.write c).2, rfl, p.write_dialect c, fun names => ?_⟩
  rw [Fragment.write_cons]
  rfl

theorem cons (p : Piece) (hf : Refers refs f) : Refers refs fun names => p :: f names :=
  (piece p).append hf

/-- A fragment that does not depend on names.  It may bind values, which are numbered in the same
way under any names. -/
theorem const (f : Fragment) : Refers [] fun _ => f := by
  induction f with
  | nil => exact nil
  | cons p f ih => exact ih.cons p

/-- What stands behind a fragment need not refer to anything. -/
theorem append_const (hf : Refers refs f) (g : Fragment) :
    Refers refs fun names => f names ++ g := by
  have both := hf.append (const g)
  rwa [List.append_nil] at both

theorem concat (hf : Refers refs f) (p : Piece) : Refers refs fun names => f names ++ [p] :=
  hf.append_const [p]

/-- A name that the dialect quotes, of a column that is referred to for anything but sorting.  The
role says how a reference is written, so a quoted name cannot be one that rows are sorted by. -/
theorem name {role : Reference.Role} (quoted : role ≠ .sorted) (column : Column) :
    Refers [⟨role, column⟩] fun names => [.name (names column)] := by
  intro c
  refine ⟨[.reference ⟨role, column⟩], c, rfl, rfl, fun names => ?_⟩
  rw [Fragment.write_cons]
  cases role with
  | sorted => exact absurd rfl quoted
  | _ => rfl

/-- A bare name, of a column that rows are sorted by. -/
theorem bare (column : Column) : Refers [⟨.sorted, column⟩] fun names => [.sql (names column)] :=
  fun c => ⟨[.reference ⟨.sorted, column⟩], c, rfl, rfl, fun _ => rfl⟩

/-- A bare name with a text behind it, in one piece.  This is how a column is sorted by in
descending order. -/
theorem bare_append (column : Column) (s : String) :
    Refers [⟨.sorted, column⟩] fun names => [.sql (names column ++ s)] := by
  intro c
  refine ⟨[.reference ⟨.sorted, column⟩, .verbatim s], c, rfl, rfl, fun names => ?_⟩
  have text : names column ++ (s ++ "") = names column ++ s ++ "" := by
    rw [String.append_assoc]
  exact Prod.ext text.symm rfl

theorem parenthesized (hf : Refers refs f) : Refers refs fun names => (f names).parenthesized :=
  (hf.cons (.sql "(")).concat (.sql ")")

/-- An alias behind a fragment is verbatim text. -/
theorem withAlias (hf : Refers refs f) (separator : String) (alias? : Option String) :
    Refers refs fun names => (f names).withAlias separator alias? := by
  unfold Fragment.withAlias
  cases nonempty? alias? with
  | none => exact hf
  | some name => exact hf.concat (.sql (separator ++ name))

/-- Fragments one behind the other, each with references of its own. -/
theorem flatten {α : Type} {xs : List α} {g : α → Naming → Fragment} {own : α → List Reference}
    (h : ∀ x ∈ xs, Refers (own x) (g x)) :
    Refers (xs.flatMap own) fun names => (xs.map (g · names)).flatten := by
  induction xs with
  | nil => exact nil
  | cons x xs ih =>
      exact (h x List.mem_cons_self).append (ih fun x' mem => h x' (.tail _ mem))

/-- Fragments with a separator between them. -/
theorem joined (separator : String) {α : Type} {xs : List α} {g : α → Naming → Fragment}
    {own : α → List Reference} (h : ∀ x ∈ xs, Refers (own x) (g x)) :
    Refers (xs.flatMap own) fun names => Fragment.joined separator (xs.map (g · names)) := by
  induction xs with
  | nil => exact nil
  | cons x xs ih =>
      have first := h x List.mem_cons_self
      have rest := ih fun x' mem => h x' (.tail _ mem)
      cases xs with
      | nil =>
          rw [List.flatMap_cons, List.flatMap_nil, List.append_nil]
          exact first
      | cons y ys => exact first.append (rest.cons (.sql separator))

/-- A clause that lists fragments, or is left out. -/
theorem list (keyword : String) {α : Type} {xs : List α} {g : α → Naming → Fragment}
    {own : α → List Reference} (h : ∀ x ∈ xs, Refers (own x) (g x)) :
    Refers (xs.flatMap own) fun names => listFragment keyword (xs.map (g · names)) := by
  cases xs with
  | nil => exact nil
  | cons x xs => exact (joined ", " h).cons (.sql keyword)

end Refers

end BoundSql
