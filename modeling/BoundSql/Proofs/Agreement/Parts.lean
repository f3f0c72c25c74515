import BoundSql.Proofs.Numbering.Written

/-!
# Texts with free string literals

A text may hold string literals that say anything.  Its other parts are as plain as they are without
them, and so the text is read as its slots together with what the literals look like from outside.

`Fragment.MadeOf` is weaker than `Fragment.Written` in one place and less specific in another.  It
admits literals, and it does not say which values are bound, because that is not in question here.
It has a flag for the names of the slots.  Either all of them are settled, as in the inserts of
records, or none of them is, as in all other statements; the two kinds are never mixed, and which it
is decides what the names are.

* `Fragment.MadeOf` : a text whose literals are free, closed under the ways in which texts are put
  together.
* `Rendered.Spells` : a statement and the text that it is written of.
* `Rendered.Spells.agree_iff` : when the placeholders of such a statement are its parameters.
-/

namespace BoundSql

/-- May the piece stand in a text with these string constants?  Nothing but a constant has a colon,
and either the names of all slots are settled or those of none. -/
def Piece.Admitted (constants : List String) (settled : Bool) : Piece → Prop
  | .sql s | .name s => ':' ∉ s.toList
  | .literal s => s ∈ constants ∨ ':' ∉ s.toList
  | .value _ => settled = false
  | .parameter _ => settled = true

/-- SQL without a mark may stand anywhere. -/
theorem Piece.Admitted.ofMarkFree {constants : List String} {settled : Bool} {s : String}
    (markFree : Text.markFree s = true) : (Piece.sql s).Admitted constants settled :=
  Text.notMem_of_markFree (by decide) markFree

namespace Fragment

/-- The fragment is a spaced text of pieces that may stand in it. -/
structure MadeOf (constants : List String) (settled : Bool) (f : Fragment) : Prop where
  spaced : f.Spaced
  pieces : ∀ p ∈ f, p.Admitted constants settled

variable {constants : List String} {settled : Bool} {f g : Fragment} {s : String}
  {sites : List BindingSite}

/-- What is written of sites has no literals to speak of. -/
theorem Written.madeOf (written : f.Written ':' sites) : f.MadeOf constants false := by
  refine ⟨written.spaced, fun p mem => ?_⟩
  have lacks := written.lacks p mem
  have numbered := written.numbered p mem
  cases p with
  | sql s => exact lacks
  | name s => exact lacks
  | literal s => exact .inr lacks
  | value v => rfl
  | parameter n => cases numbered

namespace MadeOf

/-- What is written of no sites has no slots either. -/
theorem ofWritten (written : f.Written ':' []) : f.MadeOf constants settled := by
  refine ⟨written.spaced, fun p mem => ?_⟩
  have lacks := written.lacks p mem
  have slot := written.slotFree p mem
  cases p with
  | sql s => exact lacks
  | name s => exact lacks
  | literal s => exact .inr lacks
  | value v => cases slot
  | parameter n => cases slot

theorem singleton {p : Piece} (admitted : p.Admitted constants settled) :
    MadeOf constants settled [p] :=
  ⟨spaced_singleton p, fun q mem => by rwa [List.mem_singleton.mp mem]⟩

theorem append_delimiter (hf : MadeOf constants settled f) (separator : separates s = true)
    (hg : MadeOf constants settled g) : MadeOf constants settled (f ++ .sql s :: g) := by
  obtain ⟨delimiter, markFree⟩ := Bool.and_eq_true_iff.mp separator
  refine ⟨hf.spaced.append_delimiter delimiter hg.spaced, fun p mem => ?_⟩
  rcases List.mem_append.mp mem with mem | mem
  · exact hf.pieces p mem
  · rcases List.mem_cons.mp mem with rfl | mem
    · exact .ofMarkFree markFree
    · exact hg.pieces p mem

theorem joined {fs : List Fragment} (separator : separates s = true)
    (h : ∀ f ∈ fs, MadeOf constants settled f) :
    MadeOf constants settled (Fragment.joined s fs) := by
  obtain ⟨delimiter, markFree⟩ := Bool.and_eq_true_iff.mp separator
  refine ⟨.joined delimiter fun f mem => (h f mem).spaced, fun p mem => ?_⟩
  rcases mem_joined mem with rfl | ⟨f, hf, hp⟩
  · exact .ofMarkFree markFree
  · exact (h f hf).pieces p hp

theorem parenthesized (hf : MadeOf constants settled f) :
    MadeOf constants settled f.parenthesized := by
  refine ⟨hf.spaced.parenthesized, fun p mem => ?_⟩
  simp only [Fragment.parenthesized, List.mem_append, List.mem_cons, List.not_mem_nil,
    or_false] at mem
  rcases mem with (rfl | mem) | rfl
  · exact .ofMarkFree (by decide)
  · exact hf.pieces p mem
  · exact .ofMarkFree (by decide)

/-- Nothing but a literal has a colon. -/
theorem clear (made : f.MadeOf constants settled) : f.Clear := by
  intro p mem
  have admitted := made.pieces p mem
  cases p with
  | sql s => exact admitted
  | name s => exact admitted
  | _ => trivial

/-- Values are numbered. -/
theorem names_eq (made : f.MadeOf constants false) :
    f.names {} = numberedNames f.values.length := by
  have numbered : f.IsNumbered := by
    intro p mem
    have admitted := made.pieces p mem
    cases p with
    | parameter n => cases admitted
    | _ => rfl
  rw [numbered.names_eq, Namer.take_default]

/-- Parameters whose names are settled have these names. -/
theorem mem_names_iff (made : f.MadeOf constants true) {namer : Namer} {name : String} :
    name ∈ f.names namer ↔ Piece.parameter name ∈ f := by
  obtain ⟨-, pieces⟩ := made
  induction f with
  | nil => simp [names]
  | cons p f ih =>
      have rest := ih fun q mem => pieces q (.tail _ mem)
      have admitted := pieces p List.mem_cons_self
      cases p with
      | value v => cases admitted
      | parameter n => simp [names, rest]
      | sql s => simpa [names] using rest
      | name s => simpa [names] using rest
      | literal s => simpa [names] using rest

end MadeOf

/-- What is read are the names of the slots, and what the literals are read as. -/
theorem mem_reads_iff {namer : Namer} {name : String} :
    name ∈ f.reads namer ↔
      name ∈ f.names namer ∨ ∃ text, Piece.literal text ∈ f ∧ name ∈ (Piece.literal text).read := by
  induction f generalizing namer with
  | nil => simp [reads, names]
  | cons p f ih =>
      cases p with
      | value v => simp [reads, names, ih, or_assoc]
      | parameter n => simp [reads, names, ih, or_assoc]
      | sql s => simpa [reads, names] using ih
      | name s => simpa [reads, names] using ih
      | literal s =>
          rw [reads, names, List.mem_append, ih, or_left_comm]
          simp [or_and_right, exists_or]

end Fragment

/-! ### Statements -/

namespace Rendered

/-- The statement is written of the fragment: it has the text of the fragment, its parameters are
the slots, and the string constants stand in it as literals.  The values of the parameters are left
out; they are not in the text. -/
structure Spells (s : Rendered) (constants : List String) (settled : Bool) (dialect : Dialect)
    (f : Fragment) : Prop where
  text_eq : s.sql = (f.render dialect).sql
  made : f.MadeOf constants settled
  literals : ∀ text ∈ constants, Piece.literal text ∈ f
  mem_keys_iff : ∀ name, name ∈ Assoc.keys s.parameters ↔ name ∈ f.names {}

/-- **The placeholders are the parameters** exactly if every placeholder that a string constant
looks like is a parameter, and every parameter is a name that can be read. -/
theorem Spells.agree_iff {s : Rendered} {constants : List String} {settled : Bool}
    {dialect : Dialect} {f : Fragment} (spells : s.Spells constants settled dialect f) :
    (∀ name, name ∈ placeholderNames s.sql ↔ name ∈ Assoc.keys s.parameters) ↔
      (∀ text ∈ constants, ∀ name ∈ placeholderNames (Text.enclosed Text.singleQuote text),
        name ∈ Assoc.keys s.parameters) ∧
      ∀ name ∈ Assoc.keys s.parameters, IsParameterName name := by
  -- What the scan reads off the text is what the fragment says only if every slot has a name that
  -- the scan takes whole, so this is asked for first and each direction supplies it.
  have read (named : ∀ name ∈ Assoc.keys s.parameters, IsParameterName name) :
      placeholderNames s.sql = f.reads {} := by
    rw [spells.text_eq]
    exact Fragment.placeholderNames_eq_reads (c := { dialect }) spells.made.spaced
      spells.made.clear fun name mem => named name ((spells.mem_keys_iff name).mpr mem)
  constructor
  · intro agree
    have named : ∀ name ∈ Assoc.keys s.parameters, IsParameterName name :=
      fun name mem => isParameterName_of_mem_placeholderNames ((agree name).mpr mem)
    refine ⟨fun text constant name mem => (agree name).mp ?_, named⟩
    rw [read named]
    exact Fragment.mem_reads_iff.mpr (.inr ⟨text, spells.literals text constant, mem⟩)
  · rintro ⟨literals, named⟩ name
    rw [read named, Fragment.mem_reads_iff, spells.mem_keys_iff]
    refine ⟨?_, .inl⟩
    rintro (slot | ⟨text, stands, mem⟩)
    · exact slot
    · rcases spells.made.pieces _ stands with constant | absent
      · exact (spells.mem_keys_iff name).mp (literals text constant name mem)
      · have lacks : (Piece.literal text).Lacks ':' := absent
        rw [Fragment.read_of_lacks lacks] at mem
        cases mem

end Rendered

end BoundSql
