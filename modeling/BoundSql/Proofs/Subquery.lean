import BoundSql.Proofs.Numbering
import BoundSql.Proofs.Placeholder.Renaming

/-!
# Subqueries in a shared context

A select statement can be written piece by piece into a context that other parts of a statement have
written into before: its tables' aliases are registered there, its values are bound under the next
names, and a subquery is written into a child of the context, which shares the names and the values
but none of the aliases.  Statements are put together before they are written, and the two ways come
to the same.

## Two descriptions of writing

`Select.fragment` puts a statement together without a context: a fragment is a list of pieces, and
nothing in it is numbered.  That is the form in which theorems about statements are proved.
`Select.writeIn` is the other description, in which a context is threaded through the clauses in the
order of the text, and every clause sees what the clauses before it have bound and registered.  In
it the questions can be asked that are about sharing.  Does a subquery see the aliases of the
statement around it?  Does it start its numbers again?  Do its values come before or behind those of
the statement?

`Select.writeIn_child` says that in a child of any context the two descriptions come to the same,
errors included.  The induction is over the levels.  What makes it go through is that a child
forgets the aliases and keeps everything else, so that the result of a nested statement depends on
its context by way of the bindings only.

## What is assumed

For the result about numbers the texts of the statement must have no colons.  To say that a subquery
is written as it is on its own, with its numbers raised, the numbers have to be found in its text,
and a colon that the builder supplied could be taken for one.

* `Select.writeIn` : the statement written piece by piece into a context.
* `Select.writeIn_child`, `Select.render_eq_writeIn` : in a child it is what is put together and
  then written, and in a fresh context it is the statement on its own.
* `Select.subquery_compositional` : what a subquery writes into a shared context is what it is on
  its own, under the next names.
-/

namespace BoundSql

/-! ### Writing into a context -/

/-- The text of an alias behind what it names. -/
def aliasText (alias? : Option String) : String := (nonempty? alias?).elim "" (" " ++ ·)

/-- Makes the tables of a statement known under their aliases. -/
def Select.register (q : Query) (c : Context) : Context :=
  let sources := (q.from?.map fun f => (f.source, f.alias?)).toList ++
    q.joins.map fun j => (j.source, j.alias?)
  sources.foldl (fun c s =>
    match Source.table? s.1 with
    | some t => c.register t s.2
    | none => c) c

mutual

/-- Writes a source into a context: a name, or a select statement in a child of the context. -/
def Source.writeIn : Source → Context → Except Error (String × Context)
  | .table t, c => .ok (t.fragment.write c)
  | .subquery q, c => do
    let (text, child) ← Source.selectIn q c.child
    return ("(" ++ text ++ ")", c.resume child)
  | .named schema? name, c => .ok (Fragment.write (.qualified schema? name) c)
  | .recurring, _ => .error .cyclicSources
  | .foreign owner lacking, _ => .error (.attributeMissing owner lacking)

/-- Writes a select statement into a context, clause by clause. -/
def Source.selectIn : Query → Context → Except Error (String × Context)
  | ⟨kind, distinct, columns, from?, joins, criteria, groupBy, orderBy, limit?, offset?⟩, c => do
    let q : Query :=
      ⟨kind, distinct, columns, from?, joins, criteria, groupBy, orderBy, limit?, offset?⟩
    q.check Source.isSelect
    let c := q.register c
    let (head, c) := (q.headFragment c.scope).write c
    let (source, c) ← Source.fromIn from? c
    let (joined, c) ← Source.joinsIn joins c
    let tail ← q.tailFragment c.scope
    let (rest, c) := tail.write c
    return (head ++ source ++ joined ++ rest, c)

/-- Writes what a statement draws from into a context. -/
def Source.fromIn : Option (From Source) → Context → Except Error (String × Context)
  | none, c => .ok ("", c)
  | some ⟨source, alias?⟩, c => do
    let (text, c) ← source.writeIn c
    return (text ++ aliasText alias?, c)

/-- Writes the joins of a statement into a context, in order. -/
def Source.joinsIn : List (Join Source) → Context → Except Error (String × Context)
  | [], c => .ok ("", c)
  | ⟨kind, source, alias?, criteria⟩ :: rest, c => do
    let (text, c) ← source.writeIn c
    let clause? ← Criterion.clause? c.scope criteria
    let (on, c) := Fragment.write (clause?.getD [.sql "None"]) c
    let (others, c) ← Source.joinsIn rest c
    return (" " ++ kind.keyword ++ " " ++ text ++ aliasText alias? ++ " ON " ++ on ++ others, c)

end

/-- Writes a select statement into a context, clause by clause. -/
def Select.writeIn (q : Query) (c : Context) : Except Error (String × Context) :=
  Source.selectIn q c

/-! ### Fragments in a row -/

namespace Fragment

/-- Two fragments in a row are written one after the other, the second into what the first has
left. -/
theorem write_append (f g : Fragment) (c : Context) :
    (f ++ g).write c =
      ((f.write c).1 ++ (g.write (f.write c).2).1, (g.write (f.write c).2).2) := by
  induction f generalizing c with
  | nil => simp [write_nil]
  | cons p f ih => simp only [List.cons_append, write_cons, ih, String.append_assoc]

/-- Writing a fragment binds values and registers nothing. -/
@[simp] theorem write_scope (f : Fragment) (c : Context) : (f.write c).2.scope = c.scope := by
  rw [write_context]

/-- The aliases of the context make no difference to what is written. -/
theorem write_withScope (f : Fragment) (c : Context) (scope : Scope) :
    f.write { c with scope } = ((f.write c).1, { (f.write c).2 with scope }) := by
  induction f generalizing c with
  | nil => rfl
  | cons p f ih =>
      have piece : p.write { c with scope } = ((p.write c).1, { (p.write c).2 with scope }) := by
        cases p <;> rfl
      rw [write_cons, write_cons, piece, ih]

/-- What a child has bound counts for the context, which keeps its aliases. -/
theorem resume_write (f : Fragment) (c : Context) (scope : Scope) :
    c.resume (f.write { c with scope }).2 = (f.write c).2 := by
  rw [write_withScope, write_context]
  rfl

theorem write_withAlias (f : Fragment) (alias? : Option String) (c : Context) :
    (f.withAlias " " alias?).write c = ((f.write c).1 ++ aliasText alias?, (f.write c).2) := by
  unfold withAlias aliasText
  cases nonempty? alias? with
  | none => simp
  | some name => rw [write_append]; simp [write_cons, Piece.write]

end Fragment

/-! ### One way and the other -/

/-- The statement is written in a child as it is put together.  The context is arbitrary: names and
values may have been bound in it, and aliases registered. -/
def Select.IsWrittenIn (q : Query) : Prop :=
  ∀ c : Context, q.writeIn c.child =
    (fun f : Fragment => f.write { c with scope := q.scope Source.table? }) <$> q.fragment

/-- A source is written as it is put together.  For a nested statement the aliases of the context
are put aside and restored, and they were not looked at. -/
theorem Source.writeIn_eq {s : Source} (nested : ∀ p, s = .subquery p → p.IsWrittenIn)
    (c : Context) : s.writeIn c = (fun f : Fragment => f.write c) <$> s.fragment := by
  cases s with
  | table t => rw [Source.writeIn.eq_def, Source.fragment.eq_def]; rfl
  | named schema? name => rw [Source.writeIn.eq_def, Source.fragment.eq_def]; rfl
  | recurring => rw [Source.writeIn.eq_def, Source.fragment.eq_def]; rfl
  | foreign owner lacking => rw [Source.writeIn.eq_def, Source.fragment.eq_def]; rfl
  | subquery p =>
      have inChild : Source.selectIn p c.child = _ := nested p rfl c
      rw [Source.writeIn.eq_def, Source.fragment_subquery]
      simp only [inChild, map_eq_pure_bind, bind_assoc, pure_bind]
      refine bind_congr fun f => congrArg pure ?_
      rw [Fragment.resume_write, Fragment.write_withScope, Fragment.parenthesized,
        List.cons_append, Fragment.write_cons, Fragment.write_append]
      simp [Piece.write, Fragment.write_cons, String.append_assoc]

theorem Source.fromIn_eq {from? : Option (From Source)}
    (nested : ∀ f, from? = some f → ∀ p, f.source = .subquery p → p.IsWrittenIn) (c : Context) :
    Source.fromIn from? c = (fun f : Fragment => f.write c) <$> Source.fromFragment from? := by
  cases from? with
  | none => rw [Source.fromIn.eq_def, Source.fromFragment.eq_def]; rfl
  | some f =>
      obtain ⟨source, alias?⟩ := f
      rw [Source.fromIn.eq_def, Source.fromFragment_some]
      simp only [Source.writeIn_eq (nested _ rfl), map_eq_pure_bind, bind_assoc, pure_bind,
        Fragment.write_withAlias]

/-- Joins are written as they are put together, each into what the joins before it have left. -/
theorem Source.joinsIn_eq {joins : List (Join Source)}
    (nested : ∀ j ∈ joins, ∀ p, j.source = .subquery p → p.IsWrittenIn) (c : Context) :
    Source.joinsIn joins c =
      (fun fs => Fragment.write fs.flatten c) <$> joins.mapM (Join.written c.scope) := by
  induction joins generalizing c with
  | nil => rw [Source.joinsIn.eq_def]; rfl
  | cons join joins ih =>
      have own := Source.writeIn_eq (nested join List.mem_cons_self)
      have others := ih fun j mem => nested j (.tail _ mem)
      obtain ⟨kind, source, alias?, criteria⟩ := join
      rw [Source.joinsIn.eq_def, List.mapM_cons]
      simp only [own, others, Join.written, Join.fragment, map_eq_pure_bind, bind_assoc, pure_bind,
        Fragment.write_scope]
      refine bind_congr fun f => bind_congr fun clause? => bind_congr fun fs => congrArg pure ?_
      simp only [List.flatten_cons, List.cons_append, Fragment.write_cons, Fragment.write_append,
        Fragment.write_withAlias, Piece.write, String.append_assoc]

namespace Select

theorem register_eq (q : Query) (c : Context) :
    q.register c.child = { c with scope := q.scope Source.table? } := by
  refine List.foldl_hom (fun scope => { c with scope }) fun scope s => ?_
  cases Source.table? s.1 <;> rfl

theorem writeIn_eq (q : Query) (c : Context) :
    q.writeIn c = do
      q.check Source.isSelect
      let c := q.register c
      let (head, c) := (q.headFragment c.scope).write c
      let (source, c) ← Source.fromIn q.from? c
      let (joined, c) ← Source.joinsIn q.joins c
      let tail ← q.tailFragment c.scope
      let (rest, c) := tail.write c
      return (head ++ source ++ joined ++ rest, c) := by
  rw [writeIn, Source.selectIn.eq_def]

/-- **Writing a statement into a child** is putting it together and then writing it. -/
theorem writeIn_child (q : Query) : q.IsWrittenIn := by
  induction q using nesting_induction with
  | level q nested =>
      intro c
      have source := Source.fromIn_eq fun f hf p hp => nested p (hp ▸ from_mem_sources hf)
      have joins := Source.joinsIn_eq fun j mem p hp => nested p (hp ▸ join_mem_sources mem)
      rw [writeIn_eq, fragment_eq]
      simp only [register_eq, source, joins, map_eq_pure_bind, bind_assoc, pure_bind,
        Fragment.write_scope]
      refine bind_congr fun _ => bind_congr fun f => bind_congr fun fs => bind_congr fun tail =>
        congrArg pure ?_
      simp only [Fragment.write_append, String.append_assoc]

/-- On its own a statement is what it writes into a fresh context. -/
theorem render_eq_writeIn (q : Query) (dialect : Dialect) :
    q.render dialect =
      (fun written => ⟨written.1, written.2.bindings.parameters⟩) <$> q.writeIn { dialect } := by
  have fresh : q.writeIn { dialect } = _ := q.writeIn_child { dialect }
  rw [fresh, render]
  simp only [map_eq_pure_bind, bind_assoc, pure_bind]
  refine bind_congr fun f => congrArg pure ?_
  rw [f.write_withScope { dialect }]
  rfl

end Select

/-! ### Values that were bound before -/

/-- The context of a statement in which a number of values has been bound.  The number is all that
matters of them: the next value is bound under the name behind it. -/
structure Context.Holds (c : Context) (k : Nat) : Prop where
  namer_eq : c.bindings.namer = { used := k }
  keys_eq : Assoc.keys c.bindings.parameters = numberedNames k

/-- The names behind the first `k` go on where these end. -/
theorem numberedNames_append (k n : Nat) :
    numberedNames k ++ ({ used := k } : Namer).take n = numberedNames (k + n) := by
  rw [Namer.take_eq_map, numberedNames, numberedNames, List.range_add, List.map_append,
    List.map_map]
  rfl

namespace Context.Holds

variable {c : Context} {k : Nat}

/-- What is written next is bound under the next names, behind what was bound before. -/
theorem write_context (h : c.Holds k) (f : Fragment) :
    (f.write c).2 = { c with bindings :=
      ⟨{ used := k + f.values.length }, c.bindings.parameters ++
        (({ used := k } : Namer).take f.values.length).zip f.values⟩ } := by
  have different : (Assoc.keys (c.bindings.parameters ++
      (({ used := k } : Namer).take f.values.length).zip f.values)).Nodup := by
    have old : c.bindings.parameters.map Prod.fst = numberedNames k := h.keys_eq
    rw [Assoc.keys, List.map_append, old, List.map_fst_zip (by simp), numberedNames_append,
      ← Namer.take_default]
    exact Namer.take_nodup {} _
  rw [Fragment.write_context, h.namer_eq, Assoc.putAll_of_nodup different]
  rfl

/-- What is written next is what it is on its own, with the numbers of its placeholders raised.
This is where the text is read back, and so where the texts of the statement must not have
colons. -/
theorem write_text (h : c.Holds k) {f : Fragment} {sites : List BindingSite}
    (written : f.Written ':' sites) :
    (f.write c).1 = renamePlaceholders (raisedName k) (f.render c.dialect).sql := by
  have word : ∀ name ∈ f.names {}, IsParameterName name := by
    rw [written.numbered.names_eq]
    exact fun name mem => Namer.isParameterName_of_mem_take Namer.isWordChar_of_mem_stem mem
  have raised : f.names c.bindings.namer = (f.names {}).map (raisedName k) := by
    rw [h.namer_eq, written.numbered.names_eq, written.numbered.names_eq, Namer.take_raised]
  have renamed : renamePlaceholders (raisedName k) (f.write { dialect := c.dialect }).1 =
      (f.write c).1 :=
    Fragment.renamePlaceholders_write rfl written.spaced written.lacks word raised
  exact renamed.symm

end Context.Holds

/-! ### Inserts of selected rows -/

/-- The text of an insert before its select statement. -/
def InsertSelect.header {σ : Type} (i : InsertSelect σ) (columns : List Column)
    (dialect : Dialect) : String :=
  ((insertSelectFragment i.table.fragment (columns.map (·.name)) []).render dialect).sql

/-- Nothing is bound before the select statement. -/
theorem values_insertSelectFragment (t : Table) (columns : List String) :
    (insertSelectFragment t.fragment columns []).values = [] := by
  refine Fragment.SlotFree.values_eq_nil ?_
  unfold insertSelectFragment
  split
  · simp [t.slotFree_fragment, Piece.isSlot]
  · simp [slotFree_insertHead, Piece.isSlot]

/-- A part that binds nothing may be written apart. -/
theorem Fragment.render_append {head : Fragment} (binds : head.values = []) (f : Fragment)
    (dialect : Dialect) :
    (head ++ f).render dialect =
      ⟨(head.render dialect).sql ++ (f.render dialect).sql, (f.render dialect).parameters⟩ := by
  have before : (head.write { dialect }).2 = { dialect } := by
    rw [Fragment.write_context, binds]
    rfl
  show (⟨((head ++ f).write { dialect }).1, ((head ++ f).write { dialect }).2.bindings.parameters⟩ :
    Rendered) = _
  rw [Fragment.write_append, before]
  rfl

/-- An insert of selected rows is its header with the select statement behind it. -/
theorem InsertSelect.render_eq {i : InsertSelect Query} {q : Query} (given : i.query? = some q)
    (dialect : Dialect) :
    i.render dialect = do
      let s ← q.render dialect
      let columns ← i.columns.mapM (Expression.asColumn "name")
      return ⟨i.header columns dialect ++ s.sql, s.parameters⟩ := by
  rw [InsertSelect.render, InsertSelect.fragment, given, Select.render]
  simp only [bind_assoc, pure_bind]
  refine bind_congr fun f => bind_congr fun columns => congrArg pure ?_
  rw [header, ← Fragment.render_append (values_insertSelectFragment _ _)]
  simp [insertSelectFragment]

/-! ### Main result -/

namespace Select

/-- **Subqueries are compositional.**  Let values be bound and aliases be registered in a context.
A select statement without colons in its texts fails in a child of the context as it fails on its
own.  Otherwise it writes there what it is on its own, with the numbers of its placeholders raised
by the number of values bound before; its values are bound behind those, in the same order, and the
aliases stay as they are.  An insert of selected rows is its header with the select statement as it
is on its own. -/
theorem subquery_compositional (q : Query) :
    (Plain ':' q.texts → ∀ (c : Context) (k : Nat), c.Holds k →
      (∀ e, q.render c.dialect = .error e → q.writeIn c.child = .error e) ∧
      ∀ r, q.render c.dialect = .ok r → ∃ child,
        q.writeIn c.child = .ok (renamePlaceholders (raisedName k) r.sql, child) ∧
        c.resume child = { c with bindings :=
          ⟨{ used := k + r.parameters.length }, c.bindings.parameters ++
            (({ used := k } : Namer).take r.parameters.length).zip
              (r.parameters.map Prod.snd)⟩ }) ∧
    ∀ (i : InsertSelect Query) (dialect : Dialect), i.query? = some q →
      i.render dialect = do
        let s ← q.render dialect
        let columns ← i.columns.mapM (Expression.asColumn "name")
        return ⟨i.header columns dialect ++ s.sql, s.parameters⟩ := by
  refine ⟨fun plain c k holds => ?_, fun i dialect given => i.render_eq given dialect⟩
  rw [writeIn_child, render]
  constructor
  · intro e failed
    cases hf : q.fragment with
    | ok f => rw [hf] at failed; cases failed
    | error e' =>
        rw [hf] at failed
        obtain rfl := Except.error.inj failed
        rfl
  · intro r rendered
    obtain ⟨f, hf, same⟩ := bind_eq_ok_iff.mp rendered
    obtain rfl := pure_eq_ok_iff.mp same
    -- the text depends on the namer only through the placeholders, which stand where the sites are
    have written := q.written_fragment (by decide) plain f hf
    have count : (numberedNames f.values.length).length = f.values.length := by
      rw [← Namer.take_default, Namer.length_take]
    refine ⟨_, map_eq_ok_iff.mpr ⟨f, hf, Prod.ext ?_ rfl⟩, ?_⟩
    · rw [Fragment.write_withScope]
      exact holds.write_text written
    · rw [Fragment.resume_write, holds.write_context, f.render_parameters, List.length_zip, count,
        Nat.min_self, List.map_snd_zip (Nat.le_of_eq count.symm)]

/-- A statement that draws from another one; each of them binds a value. -/
def layered : Query :=
  let users : Table := ⟨0, "users", none⟩
  let id : Expression := .column (.plain "id" users none)
  let inner : Query :=
    { kind := .select
      distinct := false
      columns := [id]
      from? := some ⟨.table users, none⟩
      criteria := [.mk .and id (.compare .greater (.int 3) false) []] }
  { kind := .select
    distinct := false
    columns := [id]
    from? := some ⟨.subquery inner, some "v"⟩
    criteria := [.mk .and id (.compare .equal (.int 5) false) []] }

/-- The statement on its own. -/
def layeredText : Rendered :=
  ⟨"SELECT id FROM (SELECT id FROM users WHERE id > :p1) v WHERE id = :p2",
    [("p1", .int 3), ("p2", .int 5)]⟩

/-- A context in which a value is bound and the table is known under an alias. -/
def occupied : Context :=
  { dialect := .generic
    bindings := ⟨{ used := 1 }, [("p1", .int 7)]⟩
    scope := [(0, "u")] }

/-- Behind one value the statement has the numbers two and three, and the alias does not count. -/
theorem subquery_compositional_sample :
    Plain ':' layered.texts ∧ occupied.Holds 1 ∧ layered.render .generic = .ok layeredText ∧
      renamePlaceholders (raisedName 1) layeredText.sql =
        "SELECT id FROM (SELECT id FROM users WHERE id > :p2) v WHERE id = :p3" ∧
      ∃ child,
        layered.writeIn occupied.child =
          .ok (renamePlaceholders (raisedName 1) layeredText.sql, child) ∧
        (occupied.resume child).bindings.parameters =
          [("p1", .int 7), ("p2", .int 3), ("p3", .int 5)] ∧
        (occupied.resume child).scope = [(0, "u")] := by
  have plain : Plain ':' layered.texts := by decide
  have holds : occupied.Holds 1 := ⟨rfl, rfl⟩
  have rendered : layered.render .generic = .ok layeredText := rfl
  obtain ⟨child, written, resumed⟩ :=
    ((subquery_compositional layered).1 plain occupied 1 holds).2 _ rendered
  refine ⟨plain, holds, rendered, by decide, child, written, ?_, ?_⟩
  · rw [resumed]
    rfl
  · rw [resumed]
    rfl

end Select

end BoundSql
