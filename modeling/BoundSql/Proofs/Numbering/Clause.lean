import BoundSql.Proofs.Assoc
import BoundSql.Proofs.Numbering.Written

/-!
# What is written of conditions and criteria

The parts that all statements share: names, expressions, conditions, criteria with their groups, and
clauses.  Each is written of its sites, provided that its own texts and the aliases in scope have no
mark.

The aliases have to be mentioned because a column is written with the alias of its table, and the
alias is a text of some other part of the statement.  `Scope.Plain` says so of all aliases at once;
that it holds in a statement without marks is shown where the scope is made.

A criterion may write nothing, and then it has no sites (`Criterion.written_fragment?`).  Both are
said by one statement: what stands for a criterion that writes nothing is the empty fragment, and
that is written of no sites only.  Criteria and lists of criteria are treated together, as they are
defined; the terms of a list come with their connectors, which play no part here.

* `Condition.written_fragment` : conditions.
* `Criterion.written_fragment?`, `Criterion.written_survivors` : criteria and lists of them.
* `Criterion.continues_whereFragment` : a restriction behind what it restricts.
-/

namespace BoundSql

variable {c : Char}

/-! ### Names in scope -/

/-- No alias in scope has the character. -/
def Scope.Plain (c : Char) (scope : Scope) : Prop := ∀ entry ∈ scope, c ∉ entry.2.toList

theorem Scope.plain_nil (c : Char) : Scope.Plain c [] := by simp [Scope.Plain]

theorem Scope.Plain.register {scope : Scope} (plain : scope.Plain c) (table : Table)
    {alias? : Option String} (alias_plain : BoundSql.Plain c alias?.toList) :
    (scope.register table alias?).Plain c := by
  unfold Scope.register
  split
  case h_1 name h =>
    obtain ⟨rfl, -⟩ := Option.filter_eq_some_iff.mp h
    intro entry mem
    rcases Assoc.mem_put mem with mem | same
    · exact plain entry mem
    · rw [same]
      exact alias_plain name (by simp)
  case h_2 => exact plain

/-- A name behind its qualifier has the texts of both. -/
theorem Fragment.lacks_qualified {qualifier? : Option String} {name : String}
    (absent : c ∉ name.toList) (mark : Text.isMark c = true)
    (qualifier : Plain c qualifier?.toList) : (Fragment.qualified qualifier? name).Lacks c := by
  unfold Fragment.qualified
  split
  case h_1 q h =>
    obtain ⟨rfl, -⟩ := Option.filter_eq_some_iff.mp h
    simp only [Fragment.lacks_cons, Fragment.lacks_nil, Piece.Lacks, and_true,
      String.toList_append, List.mem_append, not_or]
    exact ⟨⟨qualifier q (by simp), Text.notMem_of_markFree mark (by decide)⟩, absent⟩
  case h_2 =>
    exact Fragment.lacks_cons.mpr ⟨absent, Fragment.lacks_nil c⟩

/-- A name binds nothing, with or without a qualifier. -/
theorem Fragment.slotFree_qualified (qualifier? : Option String) (name : String) :
    (Fragment.qualified qualifier? name).SlotFree := by
  unfold Fragment.qualified
  split <;> simp [Piece.isSlot]

/-- The name of a table is written with its schema, and both are among its texts. -/
theorem Table.lacks_fragment {t : Table} (mark : Text.isMark c = true) (plain : Plain c t.texts) :
    t.fragment.Lacks c := by
  rw [Table.texts, plain_cons] at plain
  exact Fragment.lacks_qualified plain.1 mark plain.2

theorem Table.slotFree_fragment (t : Table) : t.fragment.SlotFree :=
  Fragment.slotFree_qualified _ _

/-- A column is written with its own qualifier, or with an alias of its table from the scope. -/
theorem Column.lacks_fragment {column : Column} {scope : Scope} (mark : Text.isMark c = true)
    (plain : Plain c column.texts) (aliases : scope.Plain c) :
    (column.fragment scope).Lacks c := by
  simp only [Column.texts, plain_cons, plain_append] at plain
  refine Fragment.lacks_qualified plain.1 mark fun name mem => ?_
  rw [Option.mem_toList, Column.scopedQualifier?, Option.or_eq_some_iff] at mem
  rcases mem with explicit | ⟨-, aliased⟩
  · obtain ⟨own, -⟩ := Option.filter_eq_some_iff.mp explicit
    exact plain.2.2 name (by simp [own])
  · exact aliases _ (Assoc.mem_of_get? aliased)

/-! ### Expressions -/

/-- An expression binds nothing. -/
theorem Expression.slotFree_fragment (scope : Scope) (e : Expression) :
    (e.fragment scope).SlotFree := by
  induction e with
  | column c => exact Fragment.slotFree_qualified _ _
  | all table => simp [Expression.fragment, Piece.isSlot]
  | apply f argument alias? ih => simp [Expression.fragment, Piece.isSlot, ih]
  | substring argument offset length alias? ih => simp [Expression.fragment, Piece.isSlot, ih]
  | count argument distinct alias? ih => simp [Expression.fragment, Piece.isSlot, ih]
  | countAll alias? => simp [Expression.fragment, Piece.isSlot]

/-- A text between two pieces of SQL. -/
theorem Fragment.lacks_between {f : Fragment} {opening closing : String}
    (before : c ∉ opening.toList) (hf : f.Lacks c) (behind : c ∉ closing.toList) :
    Fragment.Lacks c (.sql opening :: f ++ [.sql closing]) := by
  rw [List.cons_append, Fragment.lacks_cons, Fragment.lacks_append, Fragment.lacks_cons]
  exact ⟨before, hf, behind, Fragment.lacks_nil c⟩

/-- An expression writes no mark that its texts and the aliases in scope do not have. -/
theorem Expression.lacks_fragment {scope : Scope} (mark : Text.isMark c = true)
    (aliases : scope.Plain c) {e : Expression} (plain : Plain c e.texts) :
    (e.fragment scope).Lacks c := by
  have free {s : String} (h : Text.markFree s = true) : c ∉ s.toList :=
    Text.notMem_of_markFree mark h
  have alone {s : String} (h : Text.markFree s = true) : Fragment.Lacks c [.sql s] :=
    Fragment.lacks_cons.mpr ⟨free h, Fragment.lacks_nil c⟩
  induction e with
  | column column => exact column.lacks_fragment mark plain aliases
  | all table => exact alone (by decide)
  | countAll alias? => exact alone (by decide)
  | apply f argument alias? ih =>
      rw [Expression.texts, plain_append] at plain
      have name : Text.markFree (f.name ++ "(") = true := by cases f <;> decide
      exact Fragment.lacks_between (free name) (ih plain.1) (free (by decide))
  | count argument distinct alias? ih =>
      rw [Expression.texts, plain_append] at plain
      have name : Text.markFree (if distinct then "COUNT(DISTINCT " else "COUNT(") = true := by
        cases distinct <;> decide
      exact Fragment.lacks_between (free name) (ih plain.1) (free (by decide))
  | substring argument offset length alias? ih =>
      rw [Expression.texts, plain_append] at plain
      refine Fragment.lacks_between (free (by decide)) (ih plain.1) ?_
      simp only [String.toList_append, List.mem_append, not_or]
      exact ⟨⟨⟨⟨free (by decide), Text.notMem_toString_int mark offset⟩, free (by decide)⟩,
        Text.notMem_toString_int mark length⟩, free (by decide)⟩

/-- What is known of expressions, in the terms in which it is known of conditions. -/
theorem Expression.written_fragment {scope : Scope} (mark : Text.isMark c = true)
    (aliases : scope.Plain c) {e : Expression} (plain : Plain c e.texts) :
    (e.fragment scope).Written c [] :=
  .ofSlotFree (e.slotFree_fragment scope) (e.lacks_fragment mark aliases plain)

/-! ### Conditions -/

/-- The site of a value that is compared with an expression. -/
private theorem written_site {e : Expression} {v w : Value} (h : e.convert v = .ok w) :
    Fragment.Written c [⟨some e, v⟩] [.value w] :=
  .value (Expression.supplies_of_convert h)

/-- **A condition is written of the values it supplies.**  The values of a list are separated by
delimiters as well, so the case of a membership is one of a list of parts. -/
theorem Condition.written_fragment {scope : Scope} (mark : Text.isMark c = true)
    (aliases : scope.Plain c) {e : Expression} (column_plain : Plain c e.texts)
    {condition : Condition} (plain : Plain c condition.texts) {f : Fragment}
    (h : condition.fragment scope e = .ok f) :
    f.Written c (condition.suppliedValues.map fun v => ⟨some e, v⟩) := by
  have column := Expression.written_fragment mark aliases column_plain
  cases condition with
  | null negated =>
      cases h
      exact column.concat_ending mark (by cases negated <;> decide)
  | compare comparison value whenPresent =>
      simp only [Condition.fragment, bind_eq_ok_iff, pure_eq_ok_iff] at h
      obtain ⟨w, hw, rfl⟩ := h
      exact column.append_delimiter mark (by cases comparison <;> decide) (written_site hw)
  | between negated low high =>
      simp only [Condition.fragment, bind_eq_ok_iff, pure_eq_ok_iff] at h
      obtain ⟨l, hl, w, hw, rfl⟩ := h
      refine column.append_delimiter mark (by cases negated <;> decide) ?_
      exact (written_site hl).append_delimiter mark (by decide) (written_site hw)
  | member negated values =>
      simp only [Condition.fragment, bind_eq_ok_iff, pure_eq_ok_iff, mapM_eq_ok_iff] at h
      obtain ⟨ws, hws, rfl⟩ := h
      have items : Fragment.PartsWritten c (values.flatMap fun v => [⟨some e, v⟩])
          (ws.map fun w => [.value w]) :=
        .ofEach (List.forall₂_map_right_iff.mpr (hws.imp fun v w hw => written_site hw))
      have listed := items.joined (s := ",") mark (by decide)
      rw [← List.map_eq_flatMap] at listed
      refine Fragment.Written.concat_ending ?_ mark (by decide)
      exact column.append_delimiter mark (by cases negated <;> decide) listed
  | equalTo right =>
      cases h
      exact column.append_delimiter mark (by decide)
        (Expression.written_fragment mark aliases plain)

/-! ### Criteria -/

namespace Criterion

/-- Terms are chained by delimiters.  The connector of the first term is not written. -/
theorem written_chain (mark : Text.isMark c = true) {sites : List BindingSite}
    {terms : List (Connector × Fragment)}
    (h : Fragment.PartsWritten c sites (terms.map Prod.snd)) : (chain terms).Written c sites := by
  obtain ⟨sitess, rfl, written⟩ := h
  cases terms with
  | nil =>
      rw [List.forall₂_nil_right_iff.mp written]
      exact .nil
  | cons first rest =>
      cases written with
      | @cons sites _ sitess _ hf others =>
          have continuing : List.Forall₂ (Fragment.Continues c) sitess
              (rest.map fun t => .sql (" " ++ t.1.word ++ " ") :: t.2) := by
            rw [List.forall₂_map_right_iff] at others ⊢
            refine others.imp fun sites t ht => ?_
            exact Fragment.Continues.ofDelimiter mark (by cases t.1 <;> decide) ht
          rw [List.flatten_cons, chain, List.flatMap_def]
          exact Fragment.Continues.flatten continuing _ _ hf

/-- Several terms are enclosed, and no term writes nothing. -/
theorem written_enclose? (mark : Text.isMark c = true) {sites : List BindingSite}
    {terms : List (Connector × Fragment)}
    (h : Fragment.PartsWritten c sites (terms.map Prod.snd)) :
    ((enclose? terms).getD []).Written c sites := by
  match terms with
  | [] => exact written_chain mark h
  | [(connector, f)] =>
      have alone := written_chain mark h
      rwa [chain, List.flatMap_nil, List.append_nil] at alone
  | first :: second :: rest => exact (written_chain mark h).parenthesized mark

variable {scope : Scope}

mutual

/-- **A criterion is written of its sites**, and so writes nothing only if it has none. -/
theorem written_fragment? (mark : Text.isMark c = true) (aliases : scope.Plain c) :
    ∀ (criterion : Criterion), Plain c criterion.texts → ∀ {f? : Option Fragment},
      fragment? scope criterion = .ok f? → (f?.getD []).Written c criterion.sites
  | .mk connector column condition group, plain, f?, h => by
    simp only [Criterion.texts, plain_append] at plain
    rw [fragment?] at h
    rw [Criterion.sites]
    cases renders : condition.renders with
    | true =>
        simp only [renders, if_true, bind_eq_ok_iff, map_eq_ok_iff, pure_eq_ok_iff] at h ⊢
        obtain ⟨_, ⟨f, hf, rfl⟩, rest, hrest, rfl⟩ := h
        have head := Condition.written_fragment mark aliases plain.1.1 plain.1.2 hf
        have others := written_survivors mark aliases group plain.2 hrest
        exact written_enclose? mark ((Fragment.PartsWritten.singleton head).append others)
    | false =>
        simp only [renders, Bool.false_eq_true, if_false, pure_bind, bind_eq_ok_iff,
          pure_eq_ok_iff] at h ⊢
        obtain ⟨rest, hrest, rfl⟩ := h
        have others := written_survivors mark aliases group plain.2 hrest
        exact written_enclose? mark others

/-- What is written of a list of criteria is written of the sites of the list. -/
theorem written_survivors (mark : Text.isMark c = true) (aliases : scope.Plain c) :
    ∀ (criteria : List Criterion), Plain c (listTexts criteria) →
      ∀ {terms : List (Connector × Fragment)}, survivors scope criteria = .ok terms →
        Fragment.PartsWritten c (listSites criteria) (terms.map Prod.snd)
  | [], _, terms, h => by
    cases h
    exact .nil
  | criterion :: criteria, plain, terms, h => by
    simp only [listTexts, plain_append] at plain
    simp only [survivors, bind_eq_ok_iff, pure_eq_ok_iff] at h
    obtain ⟨f?, hf, rest, hrest, rfl⟩ := h
    rw [listSites]
    have first := written_fragment? mark aliases criterion plain.1 hf
    have others := written_survivors mark aliases criteria plain.2 hrest
    have parts : ((f?.map fun f => (criterion.connector, f)).toList ++ rest).map Prod.snd =
        f?.toList ++ rest.map Prod.snd := by
      cases f? <;> rfl
    rw [parts]
    exact (Fragment.PartsWritten.ofOption first).append others

end

/-- A clause is written of the sites of its criteria, with anything without slots in its place when
it is missing.  A join writes a word there, and a restriction nothing. -/
theorem written_clause? (mark : Text.isMark c = true) (aliases : scope.Plain c)
    {criteria : List Criterion} (plain : Plain c (listTexts criteria)) {f? : Option Fragment}
    (h : clause? scope criteria = .ok f?) (missing : Fragment) (free : missing.Written c []) :
    (f?.getD missing).Written c (listSites criteria) := by
  simp only [clause?, bind_eq_ok_iff, pure_eq_ok_iff] at h
  obtain ⟨terms, hterms, rfl⟩ := h
  have written := written_survivors mark aliases criteria plain hterms
  cases terms with
  | nil =>
      obtain ⟨sitess, same, none⟩ := written
      rw [← same, List.forall₂_nil_right_iff.mp none]
      exact free
  | cons first rest => exact written_chain mark written

/-- A restriction may follow what it restricts. -/
theorem continues_whereFragment (mark : Text.isMark c = true) (aliases : scope.Plain c)
    {criteria : List Criterion} (plain : Plain c (listTexts criteria)) {f : Fragment}
    (h : whereFragment scope criteria = .ok f) : f.Continues c (listSites criteria) := by
  simp only [whereFragment, bind_eq_ok_iff, pure_eq_ok_iff] at h
  obtain ⟨f?, hf, rfl⟩ := h
  have written := written_clause? mark aliases plain hf [] .nil
  cases f? with
  | none =>
      rw [show listSites criteria = [] from List.forall₂_nil_right_iff.mp written.supplies]
      exact Fragment.Continues.nil
  | some f =>
      exact Fragment.Continues.ofDelimiter mark (by decide) written

end Criterion

end BoundSql
