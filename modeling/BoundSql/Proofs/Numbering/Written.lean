import BoundSql.Proofs.Numbering.Sites
import BoundSql.Proofs.Placeholder.Writing

/-!
# What is written of binding sites

`Fragment.Written` relates the text of a part of a builder to the binding sites of the part: the
text binds what the sites supply, in order, and can be read back.  The relation is closed under the
ways in which texts are put together, with the sites put together alike:

* `Fragment.Written.append_delimiter` : one part behind a delimiter.
* `Fragment.PartsWritten.joined` : a list of parts.
* `Fragment.Continues.flatten` : further parts, one behind the other.

The relation speaks of a *mark*, a character that means something to a reader of the statement: the
colon of placeholders and the quotes of the dialects.  No SQL that is written verbatim has one, so a
text has a mark only where the builder supplied it.

## Why the relation has four fields

The first field, `supplies`, is what is wanted in the end.  It is not enough as an induction
hypothesis.  Two texts can be fine on their own and not side by side, when one ends in a word and
the other begins with one, or when a colon of the first meets a name of the second.  So `spaced`
says that slots stand apart from their neighbours, and `lacks` that no mark stands anywhere but in
slots.  And `numbered` says that no slot has its name settled yet: only then does the number of a
slot depend on nothing but the slots before it.

That parts are put together at delimiters is what keeps `spaced` true.  A delimiter ends in a
character behind which a placeholder may begin and begins with one that ends it, so its neighbours
need not be known.

## Parts that may be missing

A criterion may write nothing, and so may a mapping.  `Fragment.PartsWritten` allows for this by
giving the sites in runs, one run for each part that is there; and `Fragment.Continues` says of a
clause that it may follow whatever is written before it, so that a clause that is missing is no
special case.
-/

namespace BoundSql

/-! ### Marks -/

namespace Text

/-- Is the character a mark, the colon or an identifier quote? -/
def isMark (c : Char) : Bool := c == ':' || c == doubleQuote || c == graveAccent

/-- No character of the text is a mark. -/
def markFree (s : String) : Bool := s.toList.all fun c => !isMark c

theorem notMem_of_markFree {c : Char} (mark : isMark c = true) {s : String}
    (free : markFree s = true) : c ∉ s.toList := by
  intro mem
  have := List.all_eq_true.mp free c mem
  rw [mark] at this
  cases this

/-- No mark is a word character, and so no name is cut at a mark. -/
theorem isWordChar_of_isMark {c : Char} (mark : isMark c = true) : isWordChar c = false := by
  simp only [isMark, Bool.or_eq_true, beq_iff_eq] at mark
  rcases mark with (rfl | rfl) | rfl <;> decide

/-- An integer is written with digits, behind a sign if it is negative. -/
theorem mem_toString_int {c : Char} {i : Int} (mem : c ∈ (toString i).toList) :
    c = '-' ∨ isWordChar c = true := by
  cases i with
  | ofNat n => exact .inr (Namer.isWordChar_of_mem_toString mem)
  | negSucc n =>
      have sign : c ∈ ("-" ++ toString (n + 1)).toList := mem
      rw [String.toList_append, List.mem_append] at sign
      exact sign.imp List.mem_singleton.mp Namer.isWordChar_of_mem_toString

/-- The digits of an integer have no mark. -/
theorem notMem_toString_int {c : Char} (mark : isMark c = true) (i : Int) :
    c ∉ (toString i).toList := by
  intro mem
  rcases mem_toString_int mem with rfl | word
  · exact absurd mark (by decide)
  · rw [isWordChar_of_isMark mark] at word
    cases word

end Text

/-- No text of the list has the character. -/
def Plain (c : Char) (texts : List String) : Prop := ∀ s ∈ texts, c ∉ s.toList

instance (c : Char) (texts : List String) : Decidable (Plain c texts) :=
  inferInstanceAs (Decidable (∀ s ∈ texts, c ∉ s.toList))

@[simp] theorem plain_nil (c : Char) : Plain c [] := by simp [Plain]

@[simp] theorem plain_cons {c : Char} {s : String} {texts : List String} :
    Plain c (s :: texts) ↔ c ∉ s.toList ∧ Plain c texts := by
  simp [Plain]

@[simp] theorem plain_append {c : Char} {texts more : List String} :
    Plain c (texts ++ more) ↔ Plain c texts ∧ Plain c more := by
  simp [Plain, or_imp, forall_and]

/-- The texts of a list lack a character when those of every member do. -/
theorem plain_flatMap {α : Type} {c : Char} {texts : α → List String} {xs : List α} :
    Plain c (xs.flatMap texts) ↔ ∀ x ∈ xs, Plain c (texts x) := by
  constructor
  · intro plain x mem s hs
    exact plain s (List.mem_flatMap.mpr ⟨x, mem, hs⟩)
  · intro plain s hs
    obtain ⟨x, mem, hs⟩ := List.mem_flatMap.mp hs
    exact plain x mem s hs

/-! ### The relation -/

namespace Fragment

/-- The fragment is what is written of the sites: it binds what they supply, in order, under
running names; it takes over no text with the character; and its slots stand apart. -/
structure Written (c : Char) (sites : List BindingSite) (f : Fragment) : Prop where
  supplies : List.Forall₂ BindingSite.Supplies sites f.values
  lacks : f.Lacks c
  numbered : f.IsNumbered
  spaced : f.Spaced

/-- Without slots nothing is bound. -/
theorem SlotFree.values_eq_nil {f : Fragment} (free : SlotFree f) : f.values = [] := by
  induction f with
  | nil => rfl
  | cons p f ih =>
      obtain ⟨hp, hf⟩ := slotFree_cons.mp free
      cases p with
      | value v => cases hp
      | sql s => exact ih hf
      | name s => exact ih hf
      | literal s => exact ih hf
      | parameter n => exact ih hf

/-- Without slots there is no name that could be settled. -/
theorem SlotFree.isNumbered {f : Fragment} (free : SlotFree f) : IsNumbered f := by
  intro p mem
  have slot := free p mem
  cases p with
  | parameter n => cases slot
  | _ => rfl

/-- May the text stand between any two parts?  It is a delimiter and holds no mark. -/
def separates (s : String) : Bool := delimits s && Text.markFree s

/-- May the text end any part?  No placeholder runs into it, and it holds no mark. -/
def ends (s : String) : Bool := (Piece.sql s).closes && Text.markFree s

variable {c : Char} {sites more : List BindingSite} {f g : Fragment} {s : String}

namespace Written

/-- A text without slots is written of no sites. -/
theorem ofSlotFree (free : f.SlotFree) (lacks : f.Lacks c) : Written c [] f where
  supplies := by rw [free.values_eq_nil]; exact .nil
  lacks := lacks
  numbered := free.isNumbered
  spaced := free.spaced

theorem nil : Written c [] [] := ofSlotFree slotFree_nil (lacks_nil c)

/-- A slot is written of one site. -/
theorem value {site : BindingSite} {v : Value} (h : site.Supplies v) :
    Written c [site] [.value v] where
  supplies := .cons h .nil
  lacks := by simp [Piece.Lacks]
  numbered := by simp [Piece.isNumbered]
  spaced := spaced_singleton _

/-- What is written of two parts, with a delimiter between them.  This is the one step that puts two
texts with slots next to each other, and the others are made of it. -/
theorem append_delimiter (hf : Written c sites f) (mark : Text.isMark c = true)
    (separator : separates s = true) (hg : Written c more g) :
    Written c (sites ++ more) (f ++ .sql s :: g) := by
  obtain ⟨delimiter, markFree⟩ := Bool.and_eq_true_iff.mp separator
  constructor
  case supplies =>
    rw [values_append, values_sql]
    exact List.rel_append hf.supplies hg.supplies
  case lacks =>
    have absent := Text.notMem_of_markFree mark markFree
    exact lacks_append.mpr ⟨hf.lacks, lacks_cons.mpr ⟨absent, hg.lacks⟩⟩
  case numbered =>
    exact isNumbered_append.mpr ⟨hf.numbered, isNumbered_cons.mpr ⟨rfl, hg.numbered⟩⟩
  case spaced => exact hf.spaced.append_delimiter delimiter hg.spaced

theorem cons_delimiter (mark : Text.isMark c = true) (separator : separates s = true)
    (hg : Written c more g) : Written c more (.sql s :: g) :=
  nil.append_delimiter mark separator hg

/-- SQL that no placeholder runs into may end what is written.  It need not be a delimiter, since
nothing follows it yet. -/
theorem concat_closing (hf : Written c sites f) (closing : (Piece.sql s).closes = true)
    (absent : c ∉ s.toList) : Written c sites (f ++ [.sql s]) where
  supplies := by
    rw [values_append, values_sql, values_nil, List.append_nil]
    exact hf.supplies
  lacks := lacks_append.mpr ⟨hf.lacks, lacks_cons.mpr ⟨absent, lacks_nil c⟩⟩
  numbered := isNumbered_append.mpr ⟨hf.numbered, isNumbered_cons.mpr ⟨rfl, isNumbered_nil⟩⟩
  spaced := hf.spaced.concat_closing closing

theorem concat_ending (hf : Written c sites f) (mark : Text.isMark c = true)
    (ending : ends s = true) : Written c sites (f ++ [.sql s]) := by
  obtain ⟨closing, markFree⟩ := Bool.and_eq_true_iff.mp ending
  exact hf.concat_closing closing (Text.notMem_of_markFree mark markFree)

/-- What is written of no sites has no slots: a slot would bind a value, and there is no site for
it. -/
theorem slotFree (hf : Written c [] f) : f.SlotFree := by
  have none := List.forall₂_nil_left_iff.mp hf.supplies
  have numbered := hf.numbered
  clear hf
  induction f with
  | nil => exact slotFree_nil
  | cons p f ih =>
      obtain ⟨hp, hf⟩ := isNumbered_cons.mp numbered
      -- a slot would need a site that supplies its value
      cases p with
      | value v => cases none
      | parameter n => cases hp
      | sql s => exact slotFree_cons.mpr ⟨rfl, ih none hf⟩
      | name s => exact slotFree_cons.mpr ⟨rfl, ih none hf⟩
      | literal s => exact slotFree_cons.mpr ⟨rfl, ih none hf⟩

/-- Any SQL may begin what has no sites. -/
theorem cons_opening (hf : Written c [] f) (mark : Text.isMark c = true)
    (markFree : Text.markFree s = true) : Written c [] (.sql s :: f) := by
  have absent := Text.notMem_of_markFree mark markFree
  exact ofSlotFree (slotFree_cons.mpr ⟨rfl, hf.slotFree⟩) (lacks_cons.mpr ⟨absent, hf.lacks⟩)

theorem parenthesized (mark : Text.isMark c = true) (hf : Written c sites f) :
    Written c sites f.parenthesized := by
  refine cons_delimiter mark (by decide) ?_
  exact hf.concat_ending mark (by decide)

/-- An alias behind what is written. -/
theorem withAlias (hf : Written c sites f) (mark : Text.isMark c = true)
    (ending : ends s = true) {alias? : Option String} (plain : Plain c alias?.toList) :
    Written c sites (f.withAlias s alias?) := by
  obtain ⟨closing, markFree⟩ := Bool.and_eq_true_iff.mp ending
  unfold Fragment.withAlias
  split
  case h_1 name h =>
    obtain ⟨rfl, -⟩ := Option.filter_eq_some_iff.mp h
    refine hf.concat_closing ?_ ?_
    · rw [Piece.closes, Option.any_eq_true] at closing ⊢
      -- the alias stands behind the text, whose first character stays the first
      obtain ⟨x, head, hx⟩ := closing
      exact ⟨x, by rw [String.toList_append, List.head?_append, head]; rfl, hx⟩
    · rw [String.toList_append, List.mem_append, not_or]
      exact ⟨Text.notMem_of_markFree mark markFree, plain name (by simp)⟩
  case h_2 => exact hf

end Written

/-- The members of a list are written, one by one, of the sites. -/
def PartsWritten (c : Char) (sites : List BindingSite) (fs : List Fragment) : Prop :=
  ∃ sitess : List (List BindingSite), sitess.flatten = sites ∧
    List.Forall₂ (Written c) sitess fs

namespace PartsWritten

variable {fs gs : List Fragment}

theorem nil : PartsWritten c [] [] := ⟨[], rfl, .nil⟩

theorem singleton (hf : Written c sites f) : PartsWritten c sites [f] :=
  ⟨[sites], by rw [List.flatten_cons, List.flatten_nil, List.append_nil], .cons hf .nil⟩

theorem append (hfs : PartsWritten c sites fs) (hgs : PartsWritten c more gs) :
    PartsWritten c (sites ++ more) (fs ++ gs) := by
  obtain ⟨sitess, rfl, written⟩ := hfs
  obtain ⟨sitess', rfl, written'⟩ := hgs
  exact ⟨sitess ++ sitess', List.flatten_append, List.rel_append written written'⟩

/-- What may be missing is a part if it is not. -/
theorem ofOption {f? : Option Fragment} (hf : Written c sites (f?.getD [])) :
    PartsWritten c sites f?.toList := by
  cases f? with
  | none =>
      rw [show sites = [] from List.forall₂_nil_right_iff.mp hf.supplies]
      exact nil
  | some f => exact singleton hf

/-- Parts that may be missing, each with sites of its own. -/
theorem ofOptions {α : Type} {xs : List α} {own : α → List BindingSite}
    {fs? : List (Option Fragment)}
    (h : List.Forall₂ (fun x f? => Written c (own x) (Option.getD f? [])) xs fs?) :
    PartsWritten c (xs.flatMap own) (fs?.filterMap id) := by
  induction h with
  | nil => exact nil
  | @cons x f? xs fs? hf _ ih =>
      have split : (f? :: fs?).filterMap id = f?.toList ++ fs?.filterMap id := by
        cases f? <;> rfl
      rw [split, List.flatMap_cons]
      exact (ofOption hf).append ih

/-- Parts of which none is missing. -/
theorem ofEach {α : Type} {xs : List α} {own : α → List BindingSite}
    (h : List.Forall₂ (fun x f => Written c (own x) f) xs fs) :
    PartsWritten c (xs.flatMap own) fs := by
  induction h with
  | nil => exact nil
  | cons hf _ ih => exact (singleton hf).append ih

/-- Parts without sites. -/
theorem ofItems (h : ∀ f ∈ fs, Written c [] f) : PartsWritten c [] fs := by
  have each : List.Forall₂ (fun f g => Written c [] g) fs fs := List.forall₂_same.mpr h
  have none : (fs.flatMap fun _ => ([] : List BindingSite)) = [] :=
    List.flatMap_eq_nil_iff.mpr fun _ _ => rfl
  have parts : PartsWritten c (fs.flatMap fun _ => []) fs := ofEach each
  rwa [none] at parts

/-- Parts may be listed with a delimiter between neighbours. -/
theorem joined (h : PartsWritten c sites fs) (mark : Text.isMark c = true)
    (separator : separates s = true) : Written c sites (joined s fs) := by
  obtain ⟨sitess, rfl, written⟩ := h
  induction written with
  | nil => exact .nil
  | @cons sites f sitess fs hf rest ih =>
      cases rest with
      | nil => rw [List.flatten_cons, List.flatten_nil, List.append_nil]; exact hf
      | cons hg rest => exact hf.append_delimiter mark separator ih

end PartsWritten

/-- The fragment may follow whatever is written before it.  Quantifying over what stands before
makes the empty fragment an instance, which beginning with a delimiter would not. -/
def Continues (c : Char) (more : List BindingSite) (g : Fragment) : Prop :=
  ∀ (sites : List BindingSite) (f : Fragment),
    Written c sites f → Written c (sites ++ more) (f ++ g)

namespace Continues

theorem nil : Continues c [] [] := by
  intro sites f hf
  rw [List.append_nil, List.append_nil]
  exact hf

/-- A part that begins with a delimiter may follow. -/
theorem ofDelimiter (mark : Text.isMark c = true) (separator : separates s = true)
    (hg : Written c more g) : Continues c more (.sql s :: g) :=
  fun _ _ hf => hf.append_delimiter mark separator hg

theorem append {sites' : List BindingSite} {g' : Fragment} (hg : Continues c more g)
    (hg' : Continues c sites' g') : Continues c (more ++ sites') (g ++ g') := by
  intro sites f hf
  rw [← List.append_assoc, ← List.append_assoc]
  exact hg' _ _ (hg _ _ hf)

/-- What may follow one by one may follow as a whole. -/
theorem flatten {sitess : List (List BindingSite)} {fs : List Fragment}
    (h : List.Forall₂ (Continues c) sitess fs) : Continues c sitess.flatten fs.flatten := by
  induction h with
  | nil => exact nil
  | cons hg _ ih => exact hg.append ih

end Continues

end Fragment

end BoundSql
