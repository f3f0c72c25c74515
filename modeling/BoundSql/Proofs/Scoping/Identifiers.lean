import BoundSql.Proofs.Clause
import BoundSql.Proofs.Placeholder.Spacing

/-!
# The identifiers of a text

Statement text can be read for its identifiers: the names that a dialect quotes, each with the
qualifier that stands in front of it.  An expression has at most one column in it, however deep it
is nested in functions, and a condition has the column of its expression and perhaps that of the
expression it compares with.  In the text of an expression, a condition or a list of criteria these
columns are all the identifiers there are.

## Reading without knowing the writer

A qualifier is no piece of its own.  It is verbatim text with a dot at its end, in front of a name,
and `Fragment.scan` recognizes it by nothing else.  This makes the reading independent of how
columns are written, but it means that the reading of a text depends on what stands before it:
verbatim text that happened to end in a dot would lend a qualifier to the first name behind it.
`Fragment.Reads` is therefore about texts that leave no qualifier behind, and the lemmas on putting
texts together ask that separators and keywords do not end in a dot.  That is checked where they are
used, for fixed texts.

* `Fragment.identifiers` : the identifiers of a text, from left to right.
* `Fragment.Reads` : what is read of a text that another one can follow.
* `Expression.reads_fragment`, `Condition.reads_fragment`, `Criterion.identifiers_clause?` : the
  identifiers are the columns, each behind its qualifier in the scope.
-/

namespace BoundSql

open Clause

/-! ### Reading identifiers -/

/-- An identifier with the qualifier that it stands behind. -/
structure Identifier where
  qualifier? : Option String
  name : String
deriving DecidableEq, Repr

/-- The qualifier that verbatim text is: what stands before a dot at its end. -/
def qualifierIn? (s : String) : Option String :=
  if s.toList.getLast? = some '.' then some (String.ofList s.toList.dropLast) else none

/-- The piece is neither an identifier nor a qualifier.  Literals and values are silent whatever is
in them, because they are pieces and not text. -/
def Piece.IsSilent : Piece → Prop
  | .sql s => qualifierIn? s = none
  | .name _ => False
  | .literal _ | .value _ | .parameter _ => True

@[simp] theorem Piece.isSilent_sql {s : String} :
    (Piece.sql s).IsSilent ↔ qualifierIn? s = none := Iff.rfl

@[simp] theorem Piece.isSilent_value (v : Value) : (Piece.value v).IsSilent := trivial

namespace Fragment

/-- Reads a text that follows the given qualifier: its identifiers, and the qualifier that it leaves
for an identifier behind it.  Any piece that is not verbatim text takes the qualifier away again. -/
def scan (before? : Option String) : Fragment → List Identifier × Option String
  | [] => ([], before?)
  | .sql s :: rest => scan (qualifierIn? s) rest
  | .name n :: rest => (⟨before?, n⟩ :: (scan none rest).1, (scan none rest).2)
  | .literal _ :: rest | .value _ :: rest | .parameter _ :: rest => scan none rest

/-- The identifiers of a text, from left to right. -/
def identifiers (f : Fragment) : List Identifier := (scan none f).1

/-- The identifiers of a text that leaves no qualifier behind. -/
def Reads (f : Fragment) (ids : List Identifier) : Prop := scan none f = (ids, none)

/-- Reading goes on behind a text with the qualifier that the text leaves. -/
theorem scan_append (before? : Option String) (f g : Fragment) :
    scan before? (f ++ g) =
      ((scan before? f).1 ++ (scan (scan before? f).2 g).1, (scan (scan before? f).2 g).2) := by
  induction f generalizing before? with
  | nil => rfl
  | cons p f ih =>
      cases p with
      | name n => rw [List.cons_append, scan, scan, ih]; rfl
      | _ => rw [List.cons_append, scan, scan, ih]

/-- Verbatim text that is no qualifier ends what stands before it. -/
theorem identifiers_append_sql {s : String} (plain : qualifierIn? s = none) (f g : Fragment) :
    identifiers (f ++ .sql s :: g) = identifiers f ++ identifiers g := by
  rw [identifiers, scan_append, scan, plain]
  rfl

theorem identifiers_sql {s : String} (plain : qualifierIn? s = none) (f : Fragment) :
    identifiers (.sql s :: f) = identifiers f :=
  identifiers_append_sql plain [] f

/-- The text is empty, or it begins with verbatim text that is no qualifier.  Clauses begin in this
way, with their keywords. -/
def Opens : Fragment → Prop
  | [] => True
  | .sql s :: _ => qualifierIn? s = none
  | _ => False

/-- What opens a text ends what stands before it.  About the text in front nothing has to be known,
not even that it leaves no qualifier. -/
theorem identifiers_append {g : Fragment} (opens : g.Opens) (f : Fragment) :
    identifiers (f ++ g) = identifiers f ++ identifiers g := by
  cases g with
  | nil => rw [List.append_nil]; exact (List.append_nil _).symm
  | cons p g =>
      cases p with
      | sql s => rw [identifiers_append_sql opens, identifiers_sql opens]
      | _ => exact opens.elim

/-- Verbatim text behind a text adds no identifier. -/
theorem identifiers_append_last (f : Fragment) (s : String) :
    identifiers (f ++ [.sql s]) = identifiers f := by
  rw [identifiers, scan_append]
  exact List.append_nil _

/-- An alias is no identifier. -/
theorem identifiers_withAlias (f : Fragment) (separator : String) (alias? : Option String) :
    identifiers (f.withAlias separator alias?) = identifiers f := by
  unfold withAlias
  split
  · exact identifiers_append_last f _
  · rfl

/-- The identifiers of texts in a row.  Only the separator must not end in a dot; each text is read
by itself. -/
theorem identifiers_joined {separator : String} (plain : qualifierIn? separator = none) :
    ∀ fs : List Fragment, identifiers (joined separator fs) = fs.flatMap identifiers
  | [] => rfl
  | [f] => (List.append_nil _).symm
  | f :: g :: rest => by
    rw [joined, identifiers_append_sql plain, identifiers_joined plain (g :: rest)]
    rfl

namespace Reads

variable {f g : Fragment} {ids more : List Identifier}

theorem identifiers_eq (h : f.Reads ids) : f.identifiers = ids := congrArg Prod.fst h

/-- Texts that leave no qualifier behind are read one after the other. -/
theorem append (hf : f.Reads ids) (hg : g.Reads more) : (f ++ g).Reads (ids ++ more) := by
  rw [Reads, scan_append, hf, hg]

/-- Nothing is read of pieces that are neither identifiers nor qualifiers. -/
theorem ofSilent {f : Fragment} (h : ∀ p ∈ f, p.IsSilent) : f.Reads [] := by
  induction f with
  | nil => rfl
  | cons p f ih =>
      have silent := h p List.mem_cons_self
      have rest : scan none f = _ := ih fun q mem => h q (.tail _ mem)
      cases p with
      | sql s =>
          have plain : qualifierIn? s = none := silent
          rw [Reads, scan, plain, rest]
      | name n => exact silent.elim
      | _ => rw [Reads, scan, rest]

/-- Nothing more is read if what follows is silent. -/
theorem append_silent (hf : f.Reads ids) (hg : ∀ p ∈ g, p.IsSilent) : (f ++ g).Reads ids := by
  have both := hf.append (ofSilent hg)
  rwa [List.append_nil] at both

/-- A keyword in front of a text changes nothing about what is read of it. -/
theorem sql_cons {s : String} (plain : qualifierIn? s = none) (hf : f.Reads ids) :
    Reads (.sql s :: f) ids := by
  rw [Reads, scan, plain, hf]

/-- What stands between two pieces of verbatim text. -/
theorem between {s t : String} (before : qualifierIn? s = none) (hf : f.Reads ids)
    (behind : qualifierIn? t = none) : Reads (.sql s :: f ++ [.sql t]) ids :=
  (hf.sql_cons before).append_silent (by simpa [Piece.IsSilent] using behind)

end Reads

end Fragment

/-! ### Verbatim text that is no qualifier -/

/-- The end of a text says whether it is a qualifier, so text that is followed by more of it need
not be looked at. -/
theorem qualifierIn?_append_eq_none {s t : String} (more : t ≠ "")
    (plain : qualifierIn? t = none) : qualifierIn? (s ++ t) = none := by
  have some : t.toList ≠ [] := fun none => more (String.toList_eq_nil_iff.mp none)
  unfold qualifierIn? at plain ⊢
  rw [String.toList_append, List.getLast?_append_of_ne_nil _ some]
  split at plain
  · cases plain
  next other => rw [if_neg other]

/-- A qualifier is written with a dot behind it. -/
theorem qualifierIn?_dot (qualifier : String) :
    qualifierIn? (qualifier ++ ".") = some qualifier := by
  have dot : (".".toList) = ['.'] := rfl
  unfold qualifierIn?
  rw [String.toList_append, dot, List.getLast?_concat, if_pos rfl, List.dropLast_concat,
    String.ofList_toList]

/-! ### Expressions -/

/-- The identifier that a column is written as in a scope. -/
def Column.identifier (scope : Scope) (c : Column) : Identifier :=
  ⟨nonempty? (c.scopedQualifier? scope), c.name⟩

/-- A column is written as its identifier, whether it has a qualifier or not. -/
theorem Column.reads_fragment (scope : Scope) (c : Column) :
    (c.fragment scope).Reads [c.identifier scope] := by
  unfold fragment Fragment.qualified identifier
  cases nonempty? (c.scopedQualifier? scope) with
  | none => rfl
  | some qualifier =>
      show Fragment.scan none [.sql (qualifier ++ "."), .name c.name] = _
      rw [Fragment.scan, qualifierIn?_dot]
      rfl

/-- The column that an expression is about, however deep it is nested in functions. -/
def Expression.column? : Expression → Option Column
  | column c => some c
  | apply _ argument _ => argument.column?
  | substring argument _ _ _ => argument.column?
  | count argument _ _ => argument.column?
  | all _ | countAll _ => none

/-- The identifiers of expressions, in order. -/
def Expression.identifiers (scope : Scope) (es : List Expression) : List Identifier :=
  (es.filterMap column?).map (Column.identifier scope)

/-- The only identifier of an expression is its column.  The induction is over the functions around
the column, each of which adds verbatim text on both sides. -/
theorem Expression.reads_fragment (scope : Scope) (e : Expression) :
    (e.fragment scope).Reads (identifiers scope [e]) := by
  induction e with
  | column c => exact c.reads_fragment scope
  | all _ => rfl
  | countAll _ => rfl
  | apply f argument _ ih =>
      refine Fragment.Reads.between ?_ ih (by decide)
      cases f <;> decide
  | substring argument offset length _ ih =>
      refine Fragment.Reads.between (by decide) ih ?_
      exact qualifierIn?_append_eq_none (by decide) (by decide)
  | count argument distinct _ ih =>
      refine Fragment.Reads.between ?_ ih (by decide)
      cases distinct <;> decide

theorem Expression.identifiers_append (scope : Scope) (es more : List Expression) :
    identifiers scope (es ++ more) = identifiers scope es ++ identifiers scope more := by
  unfold identifiers
  rw [List.filterMap_append, List.map_append]

/-- The identifiers of expressions are those of one after the other. -/
theorem Expression.flatMap_identifiers (scope : Scope) (es : List Expression) :
    (es.flatMap fun e => identifiers scope [e]) = identifiers scope es := by
  induction es with
  | nil => rfl
  | cons e es ih => rw [List.flatMap_cons, ih, ← identifiers_append, List.singleton_append]

/-! ### Conditions -/

/-- The expressions that a condition is about: its own, and the one that it compares with. -/
def Demand.expressions (d : Demand) : List Expression :=
  match d.condition with
  | .equalTo right => [d.expression, right]
  | _ => [d.expression]

/-- The columns of a condition are all its identifiers.  There is one case for each condition; in
all but one of them everything behind the expression is silent, and the one compares with another
expression. -/
theorem Condition.reads_fragment {scope : Scope} {d : Demand} {f : Fragment}
    (h : d.condition.fragment scope d.expression = .ok f) :
    f.Reads (Expression.identifiers scope d.expressions) := by
  obtain ⟨e, condition⟩ := d
  have own := e.reads_fragment scope
  -- behind the expression stand words, values and marks, or else a second expression
  have word : ∀ {s t : String}, t ≠ "" → qualifierIn? t = none → qualifierIn? (s ++ t) = none :=
    fun more plain => qualifierIn?_append_eq_none more plain
  cases condition with
  | null negated =>
      rw [← Except.ok.inj h]
      exact own.append_silent (by simpa using word (by decide) (by decide))
  | compare comparison value whenPresent =>
      simp only [fragment, bind_eq_ok_iff, pure_eq_ok_iff] at h
      obtain ⟨converted, -, rfl⟩ := h
      exact own.append_silent (by simpa using word (by decide) (by decide))
  | between negated low high =>
      simp only [fragment, bind_eq_ok_iff, pure_eq_ok_iff] at h
      obtain ⟨low', -, high', -, rfl⟩ := h
      have first : qualifierIn? (" " ++ negation negated ++ "BETWEEN ") = none :=
        word (by decide) (by decide)
      have second : qualifierIn? " AND " = none := by decide
      exact own.append_silent (by simp [first, second])
  | member negated values =>
      simp only [fragment, bind_eq_ok_iff, pure_eq_ok_iff] at h
      obtain ⟨converted, -, rfl⟩ := h
      have comma : qualifierIn? "," = none := by decide
      have silent : ∀ p ∈ Fragment.joined "," (converted.map fun v => [.value v]),
          p.IsSilent := by
        intro p mem
        rcases Fragment.mem_joined mem with rfl | ⟨f, hf, hp⟩
        · exact comma
        · obtain ⟨v, -, rfl⟩ := List.mem_map.mp hf
          rw [List.mem_singleton.mp hp]
          trivial
      rw [List.append_assoc]
      refine own.append_silent ?_
      simp only [List.cons_append, List.forall_mem_cons, List.forall_mem_append,
        Piece.isSilent_sql]
      have closing : qualifierIn? ")" = none := by decide
      exact ⟨word (by decide) (by decide), silent, closing, List.forall_mem_nil _⟩
  | equalTo right =>
      rw [← Except.ok.inj h]
      have equals : qualifierIn? " = " = none := by decide
      have both := own.append ((right.reads_fragment scope).sql_cons equals)
      rwa [← Expression.identifiers_append] at both

/-! ### Criteria -/

/-- The expressions of the conditions that do not decline, in order. -/
def Criterion.expressions (criteria : List Criterion) : List Expression :=
  ((listDemands criteria).filter (·.condition.renders)).flatMap Demand.expressions

/-- The identifiers of the text of tokens are those of their conditions.  Parentheses and connectors
are silent. -/
theorem Clause.reads_written {scope : Scope} {ts : List Token} {f : Fragment}
    (h : written scope ts = .ok f) :
    f.Reads (Expression.identifiers scope ((conditions ts).flatMap Demand.expressions)) := by
  induction ts generalizing f with
  | nil =>
      rw [← pure_eq_ok_iff.mp h]
      rfl
  | cons t ts ih =>
      rw [written_cons] at h
      simp only [bind_eq_ok_iff, pure_eq_ok_iff] at h
      obtain ⟨first, hfirst, rest, hrest, rfl⟩ := h
      have behind := ih hrest
      cases t with
      | demand d =>
          have both := (Condition.reads_fragment hfirst).append behind
          rwa [← Expression.identifiers_append] at both
      | connector k =>
          rw [← pure_eq_ok_iff.mp hfirst]
          exact behind.sql_cons (by cases k <;> decide)
      | opening =>
          rw [← pure_eq_ok_iff.mp hfirst]
          exact behind.sql_cons (by decide)
      | closing =>
          rw [← pure_eq_ok_iff.mp hfirst]
          exact behind.sql_cons (by decide)

/-- The identifiers of the clause of a list of criteria.  Where no clause is written, a text
without identifiers may stand instead. -/
theorem Criterion.identifiers_clause? {scope : Scope} {criteria : List Criterion}
    {text? : Option Fragment} (h : clause? scope criteria = .ok text?) {missing : Fragment}
    (word : missing.identifiers = []) :
    (text?.getD missing).identifiers = Expression.identifiers scope (expressions criteria) := by
  rw [clause?_eq] at h
  cases left : pruned? criteria with
  | none =>
      rw [left] at h
      rw [← pure_eq_ok_iff.mp h, expressions,
        List.filter_eq_nil_iff.mpr fun d mem => by simp [pruned?_eq_none_iff.mp left d mem]]
      exact word
  | some clause =>
      rw [left, Option.mapM_some, map_eq_ok_iff] at h
      obtain ⟨text, written, rfl⟩ := h
      rw [expressions, ← conditions_pruned? left]
      exact (reads_written written).identifiers_eq

end BoundSql
