import BoundSql.Context
import BoundSql.Proofs.Assoc
import BoundSql.Proofs.Placeholder.Writing
import BoundSql.Proofs.Results

/-!
# A computation that follows another

`Follows R x y` says that `x` ends as `y` does: with the same error, or with a result that `R`
relates to that of `y`.  Only an error that the caller's own code raised may come in between.  The
relation is kept by everything that computations are built with, so that it is enough to know it of
the steps at which data is looked at.

It is not symmetric.  The first computation is that of a builder with data, whose conversions may
raise; the second is that of the blank builder, which converts nothing and goes on where the first
has stopped.  Two computations that follow one and the same agree where neither raises
(`Follows.agree`).

Fragments are compared by their *shape*, which has all of a fragment but the values that it binds.
What is written of a fragment, the names of the parameters included, depends on its shape alone
(`Fragment.Alike.render`).
-/

namespace BoundSql

/-! ### Following -/

/-- The first computation ends as the second one does, unless the caller's code raises. -/
inductive Follows {α β : Type} (R : α → β → Prop) : Except Error α → Except Error β → Prop
  | raised (e : Raised) (y : Except Error β) : Follows R (.error (.raised e)) y
  | error (e : Error) : Follows R (.error e) (.error e)
  | ok {a : α} {b : β} (related : R a b) : Follows R (.ok a) (.ok b)

namespace Follows

variable {α β γ δ : Type} {R : α → β → Prop} {S : γ → δ → Prop} {x : Except Error α}
  {y : Except Error β}

/-- A computation follows itself. -/
theorem refl {R : α → α → Prop} (related : ∀ a, R a a) (x : Except Error α) : Follows R x x := by
  cases x with
  | error e => exact .error e
  | ok a => exact .ok (related a)

/-- Equal computations follow each other. -/
theorem ofEq {x y : Except Error α} (same : x = y) : Follows Eq x y := by
  rw [same]
  exact refl (fun _ => rfl) y

/-- A computation follows its image. -/
theorem image (f : β → α) (y : Except Error β) : Follows (fun b a => a = f b) y (f <$> y) := by
  cases y with
  | error e => exact .error e
  | ok b => exact .ok rfl

/-- In a sequence the second steps are compared for results that are related, and only if the first
steps have come to any. -/
theorem bind {f : α → Except Error γ} {g : β → Except Error δ} (h : Follows R x y)
    (next : ∀ a b, R a b → Follows S (f a) (g b)) : Follows S (x >>= f) (y >>= g) := by
  cases h with
  | raised e y => exact .raised e _
  | error e => exact .error e
  | ok related => exact next _ _ related

theorem map {f : α → γ} {g : β → δ} (h : Follows R x y)
    (next : ∀ a b, R a b → S (f a) (g b)) : Follows S (f <$> x) (g <$> y) := by
  cases h with
  | raised e y => exact .raised e _
  | error e => exact .error e
  | ok related => exact .ok (next _ _ related)

theorem imp {R' : α → β → Prop} (h : Follows R x y) (weaken : ∀ a b, R a b → R' a b) :
    Follows R' x y := by
  cases h with
  | raised e y => exact .raised e y
  | error e => exact .error e
  | ok related => exact .ok (weaken _ _ related)

/-- A list is worked off as a changed list is, if its members are. -/
theorem mapM {f : α → Except Error γ} {g : β → Except Error δ} {change : α → β} {xs : List α}
    (h : ∀ a ∈ xs, Follows S (f a) (g (change a))) :
    Follows (List.Forall₂ S) (xs.mapM f) ((xs.map change).mapM g) := by
  induction xs with
  | nil => exact .ok .nil
  | cons a xs ih =>
      rw [List.map_cons, List.mapM_cons, List.mapM_cons]
      refine (h a List.mem_cons_self).bind fun c d related => ?_
      refine (ih fun b mem => h b (.tail _ mem)).bind fun cs ds others => ?_
      exact .ok (.cons related others)

/-- Two computations that follow a third one end alike, if neither raises.  What they have in common
is given by a function of their results, since the results themselves have their data in them. -/
theorem agree {s : α → γ} {x x' y : Except Error α} (h : Follows (fun a b => s a = s b) x y)
    (h' : Follows (fun a b => s a = s b) x' y) (calm : ∀ e, x ≠ .error (.raised e))
    (calm' : ∀ e, x' ≠ .error (.raised e)) : s <$> x = s <$> x' := by
  -- the third one says which error it is, or what the results look like
  cases h with
  | raised e y => exact absurd rfl (calm e)
  | error e =>
      cases h' with
      | raised e' => exact absurd rfl (calm' e')
      | error e' => rfl
  | ok related =>
      cases h' with
      | raised e' => exact absurd rfl (calm' e')
      | ok related' => exact congrArg Except.ok (related.trans related'.symm)

end Follows

/-! ### Shapes -/

/-- The piece without the value that it binds. -/
def Piece.shape : Piece → Piece
  | .value _ => .value .null
  | p => p

namespace Fragment

/-- The fragment without the values that it binds. -/
def shape (f : Fragment) : Fragment := f.map Piece.shape

/-- The fragments differ only in the values that they bind. -/
def Alike (f g : Fragment) : Prop := f.shape = g.shape

theorem shape_append (f g : Fragment) : shape (f ++ g) = f.shape ++ g.shape := List.map_append

theorem Alike.refl (f : Fragment) : Alike f f := rfl

theorem Alike.cons {f g : Fragment} (p : Piece) (h : Alike f g) :
    Alike (p :: f) (p :: g) :=
  congrArg (p.shape :: ·) h

theorem Alike.append {f g f' g' : Fragment} (h : Alike f g) (h' : Alike f' g') :
    Alike (f ++ f') (g ++ g') := by
  rw [Alike, shape_append, shape_append, h, h']

theorem Alike.value (v w : Value) : Alike [.value v] [.value w] := rfl

theorem Alike.parenthesized {f g : Fragment} (h : Alike f g) :
    Alike f.parenthesized g.parenthesized :=
  (h.append (Alike.refl _)).cons _

theorem Alike.withAlias {f g : Fragment} (h : Alike f g) (separator : String)
    (alias? : Option String) :
    Alike (f.withAlias separator alias?) (g.withAlias separator alias?) := by
  unfold Fragment.withAlias
  split
  · exact h.append (Alike.refl _)
  · exact h

/-- Lists of fragments that are alike one by one are joined alike. -/
theorem Alike.joined (separator : String) {fs gs : List Fragment}
    (h : List.Forall₂ Alike fs gs) : Alike (joined separator fs) (joined separator gs) := by
  induction h with
  | nil => exact Alike.refl _
  | @cons f g fs gs first rest ih =>
      cases rest with
      | nil => exact first
      | cons second rest => exact first.append (ih.cons (.sql separator))

theorem Alike.flatten {fs gs : List Fragment} (h : List.Forall₂ Alike fs gs) :
    Alike fs.flatten gs.flatten := by
  induction h with
  | nil => exact Alike.refl _
  | cons first rest ih => exact first.append ih

/-- The shape of a fragment binds as many values.  They are all null, but each of them takes a
name. -/
theorem length_values_shape (f : Fragment) : f.shape.values.length = f.values.length := by
  induction f with
  | nil => rfl
  | cons p f ih =>
      cases p with
      | value v => exact congrArg (· + 1) ih
      | sql s => exact ih
      | name s => exact ih
      | literal s => exact ih
      | parameter n => exact ih

end Fragment

/-! ### What is written of a shape -/

/-- What a reader of a statement sees without its data: the text, and the names of the
parameters. -/
def Rendered.shape (r : Rendered) : String × List String := (r.sql, Assoc.keys r.parameters)

namespace Fragment

/-- The text depends on the shape, the dialect and the names to come. -/
theorem write_shape (f : Fragment) {c c' : Context} (dialect : c.dialect = c'.dialect)
    (namer : c.bindings.namer = c'.bindings.namer) :
    (f.write c).1 = (f.shape.write c').1 := by
  induction f generalizing c c' with
  | nil => rfl
  | cons p f ih =>
      show (write (p :: f) c).1 = (write (p.shape :: shape f) c').1
      rw [write_cons, write_cons]
      cases p with
      | value v =>
          have next : (c.bind v).1 = (c'.bind .null).1 := by
            show placeholder c.bindings.namer.next.1 = placeholder c'.bindings.namer.next.1
            rw [namer]
          have after : (c.bind v).2.bindings.namer = (c'.bind .null).2.bindings.namer := by
            show c.bindings.namer.next.2 = c'.bindings.namer.next.2
            rw [namer]
          exact congrArg₂ (· ++ ·) next (ih dialect after)
      | sql s => exact congrArg (s ++ ·) (ih dialect namer)
      | name s =>
          refine congrArg₂ (· ++ ·) ?_ (ih dialect namer)
          show c.dialect.quote s = c'.dialect.quote s
          rw [dialect]
      | literal s => exact congrArg (_ ++ ·) (ih dialect namer)
      | parameter n => exact congrArg (_ ++ ·) (ih dialect namer)

/-- **What is rendered of a fragment, the data apart, depends on its shape.** -/
theorem Alike.render {f g : Fragment} (h : Alike f g) (dialect : Dialect) :
    (f.render dialect).shape = (g.render dialect).shape := by
  have text : ∀ f : Fragment, (f.render dialect).sql = (f.shape.render dialect).sql :=
    fun f => f.write_shape rfl rfl
  have names : ∀ f : Fragment, Assoc.keys (f.render dialect).parameters =
      Assoc.keys (f.shape.render dialect).parameters := by
    intro f
    show Assoc.keys (f.write { dialect }).2.bindings.parameters =
      Assoc.keys (f.shape.write { dialect }).2.bindings.parameters
    rw [write_context, write_context]
    refine Assoc.keys_putAll ?_ rfl
    rw [Assoc.keys, Assoc.keys, List.map_fst_zip (by simp), List.map_fst_zip (by simp),
      length_values_shape]
  rw [Rendered.shape, Rendered.shape, text f, text g, names f, names g, h]

end Fragment

end BoundSql
