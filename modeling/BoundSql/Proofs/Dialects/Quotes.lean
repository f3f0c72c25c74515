import BoundSql.Proofs.Numbering

/-!
# Text without identifier quotes

The dialects that quote identifiers enclose them in one character each.  Where the parts of a
fragment do not have this character, it stands in the text only where the dialect has put it, so
that leaving it out gives the text that the generic dialect writes.

The character is a double quote or a grave accent.  Leaving it out is done on the text as a whole,
without knowing where the identifiers are, so everything else in the text has to be free of it:
verbatim text and literals, and the references to parameters.  A running name, which is given to a
value, has a fixed stem and a number behind it, and is therefore free of it by itself; the names
that are settled before are a part of the hypothesis.

* `Text.without` : a text with one character left out.
* `Fragment.Unmarked` : no part of the fragment has the character.
* `Fragment.Unmarked.without_render` : the rendered text, with the quotes of the dialect left out.
-/

namespace BoundSql

/-! ### Leaving out a character -/

namespace Text

/-- The text with every occurrence of the character left out. -/
def without (q : Char) (s : String) : String := String.ofList (s.toList.filter (· ≠ q))

variable {q : Char}

theorem without_append (s t : String) : without q (s ++ t) = without q s ++ without q t := by
  simp [without]

theorem without_of_notMem {s : String} (absent : q ∉ s.toList) : without q s = s := by
  have all : s.toList.filter (· ≠ q) = s.toList := by
    refine List.filter_eq_self.mpr fun c mem => ?_
    exact decide_eq_true fun same => absent (same ▸ mem)
  rw [without, all, String.ofList_toList]

/-- Between quotes that are left out, a text stands as it is. -/
theorem without_enclosed {s : String} (absent : q ∉ s.toList) : without q (enclosed q s) = s := by
  have kept : (enclosed q s).toList.filter (· ≠ q) = s.toList.filter (· ≠ q) := by
    rw [toList_enclosed, doubled_of_notMem absent]
    simp
  rw [without, kept]
  exact without_of_notMem absent

end Text

namespace Dialect

variable {dialect : Dialect} {q : Char}

/-- The quotes of dialects are among the marks that no keyword and no made-up name contains. -/
theorem isMark_of_quoteChar? (quotes : dialect.quoteChar? = some q) : Text.isMark q = true := by
  cases dialect <;> cases quotes <;> decide

/-- A quote of a dialect is neither what a reference to a parameter begins with, nor the quote of
string literals. -/
theorem ne_of_quoteChar? (quotes : dialect.quoteChar? = some q) :
    q ≠ ':' ∧ q ≠ Text.singleQuote := by
  cases dialect <;> cases quotes <;> decide

/-- An identifier without the quote, with the quotes around it left out. -/
theorem without_quote (quotes : dialect.quoteChar? = some q) {s : String}
    (absent : q ∉ s.toList) : Text.without q (dialect.quote s) = s := by
  rw [quote, quotes]
  exact Text.without_enclosed absent

end Dialect

/-! ### Fragments -/

/-- What the piece takes over has not the character, and if its name is settled, the name has
not. -/
def Piece.Unmarked (q : Char) : Piece → Prop
  | sql s | name s | literal s | parameter s => q ∉ s.toList
  | value _ => True

/-- No part of the fragment has the character. -/
def Fragment.Unmarked (q : Char) (f : Fragment) : Prop := ∀ p ∈ f, p.Unmarked q

namespace Fragment.Unmarked

variable {q : Char} {f g : Fragment} {s : String}

theorem nil : Unmarked q [] := by simp [Unmarked]

theorem cons {p : Piece} (hp : p.Unmarked q) (hf : Unmarked q f) : Unmarked q (p :: f) :=
  List.forall_mem_cons.mpr ⟨hp, hf⟩

theorem append (hf : Unmarked q f) (hg : Unmarked q g) : Unmarked q (f ++ g) :=
  List.forall_mem_append.mpr ⟨hf, hg⟩

/-- What is written of sites has the character only in texts of the builder, and the sites are there
for just that. -/
theorem ofWritten {sites : List BindingSite} (written : f.Written q sites) : f.Unmarked q := by
  intro p mem
  have lacks := written.lacks p mem
  have numbered := written.numbered p mem
  cases p with
  | parameter name => cases numbered
  | _ => exact lacks

theorem parenthesized (mark : Text.isMark q = true) (hf : Unmarked q f) :
    f.parenthesized.Unmarked q := by
  refine .cons ?_ (hf.append (.cons ?_ .nil))
  · exact Text.notMem_of_markFree mark (s := "(") (by decide)
  · exact Text.notMem_of_markFree mark (s := ")") (by decide)

/-- Fragments with a separator between them have the character only if one of them has, or the
separator. -/
theorem joined (separator : q ∉ s.toList) {fs : List Fragment} (h : ∀ f ∈ fs, Unmarked q f) :
    (Fragment.joined s fs).Unmarked q := by
  intro p mem
  rcases mem_joined mem with rfl | ⟨f, hf, hp⟩
  · exact separator
  · exact h f hf p hp

end Fragment.Unmarked

/-! ### Rendered text -/

section

variable {dialect : Dialect} {q : Char}

/-- A reference to a parameter has no quote that the name has not. -/
theorem notMem_placeholder (quotes : dialect.quoteChar? = some q) {name : String}
    (absent : q ∉ name.toList) : q ∉ (placeholder name).toList := by
  rw [placeholder, String.toList_append, List.mem_append]
  rintro (colon | mem)
  · exact (Dialect.ne_of_quoteChar? quotes).1 (List.mem_singleton.mp colon)
  · exact absent mem

/-- A running name has no quote.  The stem is that of a statement by itself; a nested statement goes
on with the same one. -/
theorem Namer.notMem_next (quotes : dialect.quoteChar? = some q) {namer : Namer}
    (stem : namer.stem = ({} : Namer).stem) : q ∉ namer.next.1.toList := by
  have other := Text.isWordChar_of_isMark (Dialect.isMark_of_quoteChar? quotes)
  intro mem
  have word : Text.isWordChar q = true := by
    rw [next, stem, String.toList_append, List.mem_append] at mem
    exact mem.elim isWordChar_of_mem_stem isWordChar_of_mem_toString
  rw [other] at word
  cases word

end

namespace Fragment.Unmarked

variable {dialect : Dialect} {q : Char} {f : Fragment}

/-- **Writing without quotes**: with the quotes of its dialect left out, the text of a fragment is
the one that the generic dialect writes.  The induction is over the pieces; the bindings go on in
the same way in both dialects, because they do not look at the text. -/
theorem without_write (quotes : dialect.quoteChar? = some q) (unmarked : f.Unmarked q)
    {bindings : Bindings} (stem : bindings.namer.stem = ({} : Namer).stem) (scope : Scope) :
    Text.without q (f.write ⟨dialect, bindings, scope⟩).1 =
      (f.write ⟨.generic, bindings, scope⟩).1 := by
  induction f generalizing bindings with
  | nil => rfl
  | cons p f ih =>
      obtain ⟨hp, hf⟩ := List.forall_mem_cons.mp unmarked
      have continued {bindings : Bindings} (stem : bindings.namer.stem = ({} : Namer).stem) :=
        ih hf stem
      rw [write_cons, write_cons, Text.without_append]
      cases p with
      | sql s => exact congrArg₂ _ (Text.without_of_notMem hp) (continued stem)
      | name s => exact congrArg₂ _ (Dialect.without_quote quotes hp) (continued stem)
      | literal s =>
          -- the single quotes around a string constant stay, since no dialect quotes names with
          -- them
          refine congrArg₂ _ (Text.without_of_notMem fun mem => ?_) (continued stem)
          rcases Text.mem_enclosed.mp mem with same | mem
          · exact (Dialect.ne_of_quoteChar? quotes).2 same
          · exact hp mem
      | value v =>
          have absent := notMem_placeholder quotes (Namer.notMem_next quotes stem)
          exact congrArg₂ _ (Text.without_of_notMem absent) (continued stem)
      | parameter name =>
          have absent := notMem_placeholder quotes hp
          exact congrArg₂ _ (Text.without_of_notMem absent) (continued stem)

/-- The text of a whole statement, with the quotes of its dialect left out. -/
theorem without_render (quotes : dialect.quoteChar? = some q) (unmarked : f.Unmarked q) :
    Text.without q (f.render dialect).sql = (f.render .generic).sql :=
  unmarked.without_write quotes rfl []

end Fragment.Unmarked

end BoundSql
