import Mathlib.Data.List.Chain
import BoundSql.Context
import BoundSql.Proofs.Placeholder.Scan

/-!
# Placeholders that stand apart

In a finished text a placeholder is recognized by the characters around it, so a fragment is read
back as it was meant only if its slots stand apart: the text before a slot must end in a character
behind which a placeholder may begin, and the text behind it must not go on with a word character.
`Fragment.Spaced` says so of neighbouring pieces, before a dialect is chosen.

Fragments are put together at *delimiters*, pieces of SQL that begin and end in such a character
(`Spaced.append_delimiter`), which is why every statement is spaced.

The condition is one on pairs of neighbours, and a fragment is a chain with respect to it.  It is
asked of the pieces and not of the text, because names are written differently by the dialects: in a
spaced fragment a name is never next to a slot, whatever the name is.

There are two ways of saying that a text has no colons.  `Fragment.Lacks` is the stricter one, and
is for any character.  `Fragment.Clear` lets string literals have colons: the quotes around a
literal keep it apart from its surroundings, so what is found in it is found in it wherever it
stands.

What a spaced fragment is read as is said in `BoundSql.Proofs.Placeholder.Writing`.
-/

namespace BoundSql

/-! ### Pieces next to each other -/

namespace Piece

/-- Is the piece written as a placeholder? -/
def isSlot : Piece → Bool
  | value _ | parameter _ => true
  | _ => false

/-- May a placeholder begin right behind the piece? -/
def opens : Piece → Bool
  | sql s => s.toList.getLast?.any fun c => opensPlaceholder (some c)
  | _ => false

/-- May a placeholder end right before the piece? -/
def closes : Piece → Bool
  | sql s => s.toList.head?.any fun c => !Text.isWordChar c
  | _ => false

/-- The second piece may stand behind the first one: where one of them is a slot, the other
keeps it apart from its surroundings. -/
structure Fits (p q : Piece) : Prop where
  opens : q.isSlot = true → p.opens = true
  closes : p.isSlot = true → q.closes = true

/-- The text that the piece takes over from the builder has not the character. -/
def Lacks (c : Char) : Piece → Prop
  | sql s | name s | literal s => c ∉ s.toList
  | value _ | parameter _ => True

/-- The text that the piece takes over has no colon, unless it stands in a string literal. -/
def Clear : Piece → Prop
  | sql s | name s => ':' ∉ s.toList
  | literal _ | value _ | parameter _ => True

/-- Is the piece anything but a parameter whose name is settled? -/
def isNumbered : Piece → Bool
  | parameter _ => false
  | _ => true

end Piece

/-- SQL that keeps placeholders on both of its sides apart. -/
def delimits (s : String) : Bool := (Piece.sql s).opens && (Piece.sql s).closes

namespace Fragment

/-- Every slot of the fragment stands apart from its neighbours. -/
def Spaced (f : Fragment) : Prop := f.IsChain Piece.Fits

/-- The verbatim texts of the fragment have not the character. -/
def Lacks (c : Char) (f : Fragment) : Prop := ∀ p ∈ f, p.Lacks c

/-- The verbatim texts of the fragment have no colon, except for string literals. -/
def Clear (f : Fragment) : Prop := ∀ p ∈ f, p.Clear

/-- No piece is a slot. -/
def SlotFree (f : Fragment) : Prop := ∀ p ∈ f, p.isSlot = false

@[simp] theorem lacks_nil (c : Char) : Lacks c [] := by simp [Lacks]

@[simp] theorem lacks_cons {c : Char} {p : Piece} {f : Fragment} :
    Lacks c (p :: f) ↔ p.Lacks c ∧ Lacks c f := by
  simp [Lacks]

@[simp] theorem lacks_append {c : Char} {f g : Fragment} :
    Lacks c (f ++ g) ↔ Lacks c f ∧ Lacks c g := by
  simp [Lacks, or_imp, forall_and]

/-- What has no colon at all has none outside of literals. -/
theorem Lacks.clear {f : Fragment} (h : Lacks ':' f) : Clear f := by
  intro p mem
  have lacks := h p mem
  cases p with
  | sql s => exact lacks
  | name s => exact lacks
  | _ => trivial

@[simp] theorem slotFree_nil : SlotFree [] := by simp [SlotFree]

@[simp] theorem slotFree_cons {p : Piece} {f : Fragment} :
    SlotFree (p :: f) ↔ p.isSlot = false ∧ SlotFree f := by
  simp [SlotFree]

@[simp] theorem slotFree_append {f g : Fragment} :
    SlotFree (f ++ g) ↔ SlotFree f ∧ SlotFree g := by
  simp [SlotFree, or_imp, forall_and]

theorem spaced_nil : Spaced [] := List.IsChain.nil

theorem spaced_singleton (p : Piece) : Spaced [p] := List.isChain_singleton p

/-- Without slots there is nothing to keep apart. -/
theorem SlotFree.spaced {f : Fragment} (h : SlotFree f) : Spaced f := by
  induction f with
  | nil => exact spaced_nil
  | cons p f ih =>
      obtain ⟨hp, hf⟩ := slotFree_cons.mp h
      refine List.IsChain.cons (ih hf) fun q mem => ⟨fun slot => ?_, fun slot => ?_⟩
      · rw [hf q (List.mem_of_mem_head? mem)] at slot
        cases slot
      · rw [hp] at slot
        cases slot

/-- Two fragments may be put together at a delimiter.  Nothing has to be known of the end of the
first and the beginning of the second, which is the point of delimiters. -/
theorem Spaced.append_delimiter {f g : Fragment} {s : String} (hf : Spaced f)
    (delimiter : delimits s = true) (hg : Spaced g) : Spaced (f ++ .sql s :: g) := by
  simp only [delimits, Bool.and_eq_true] at delimiter
  refine List.IsChain.append hf (List.IsChain.cons hg fun q _ => ⟨fun _ => delimiter.1, ?_⟩) ?_
  · intro slot
    cases slot
  · intro p _ q mem
    rw [List.head?_cons, Option.mem_some_iff] at mem
    subst mem
    refine ⟨fun slot => ?_, fun _ => delimiter.2⟩
    cases slot

/-- A fragment may begin with a delimiter. -/
theorem Spaced.cons_delimiter {g : Fragment} {s : String} (delimiter : delimits s = true)
    (hg : Spaced g) : Spaced (.sql s :: g) :=
  spaced_nil.append_delimiter delimiter hg

/-- SQL that no placeholder runs into may end a fragment. -/
theorem Spaced.concat_closing {f : Fragment} {s : String} (hf : Spaced f)
    (closing : (Piece.sql s).closes = true) : Spaced (f ++ [.sql s]) := by
  refine List.IsChain.append hf (spaced_singleton _) fun p _ q mem => ?_
  rw [List.head?_cons, Option.mem_some_iff] at mem
  subst mem
  refine ⟨fun slot => ?_, fun _ => closing⟩
  cases slot

/-- Spaced fragments may be listed with a delimiter between neighbours. -/
theorem Spaced.joined {separator : String} (delimiter : delimits separator = true) :
    ∀ {fs : List Fragment}, (∀ f ∈ fs, Spaced f) → Spaced (joined separator fs)
  | [], _ => spaced_nil
  | [f], h => h f (by simp)
  | f :: g :: rest, h =>
      (h f (by simp)).append_delimiter delimiter
        (Spaced.joined delimiter fun x mem => h x (List.mem_cons_of_mem _ mem))

theorem Spaced.parenthesized {f : Fragment} (hf : Spaced f) : Spaced f.parenthesized :=
  .cons_delimiter (by decide) (hf.append_delimiter (by decide) spaced_nil)

/-! ### The pieces of a list -/

/-- A fragment of a list, or the separator, is where a piece of the list comes from. -/
theorem mem_joined {separator : String} {p : Piece} :
    ∀ {fs : List Fragment}, p ∈ joined separator fs → p = .sql separator ∨ ∃ f ∈ fs, p ∈ f
  | [], h => by simp [joined] at h
  | [f], h => .inr ⟨f, by simp, h⟩
  | f :: g :: rest, h => by
      rw [joined, List.mem_append, List.mem_cons] at h
      rcases h with h | rfl | h
      · exact .inr ⟨f, by simp, h⟩
      · exact .inl rfl
      · rcases mem_joined h with rfl | ⟨x, mem, hx⟩
        · exact .inl rfl
        · exact .inr ⟨x, List.mem_cons_of_mem _ mem, hx⟩

/-- The pieces of every fragment of a list are pieces of the list. -/
theorem mem_joined_of_mem {separator : String} {f : Fragment} {p : Piece} (hp : p ∈ f) :
    ∀ {fs : List Fragment}, f ∈ fs → p ∈ joined separator fs
  | [_], hf => by
      rw [List.mem_singleton] at hf
      rwa [joined, ← hf]
  | g :: h :: rest, hf => by
      rw [joined, List.mem_append]
      rcases List.mem_cons.mp hf with rfl | hf
      · exact .inl hp
      · exact .inr (.tail _ (mem_joined_of_mem hp hf))

theorem SlotFree.joined {separator : String} {fs : List Fragment}
    (h : ∀ f ∈ fs, SlotFree f) : SlotFree (joined separator fs) := by
  intro p mem
  rcases mem_joined mem with rfl | ⟨f, hf, hp⟩
  · rfl
  · exact h f hf p hp

end Fragment

end BoundSql
