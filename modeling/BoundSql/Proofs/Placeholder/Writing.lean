import BoundSql.Proofs.Assoc
import BoundSql.Proofs.Placeholder.Spacing

/-!
# Writing a fragment

Writing a fragment into a context does two things at once: it makes the text, and it binds the
values of the fragment under the next names.  The two are taken apart here.

* `Fragment.names` are the names that the slots get, from left to right.
* `Fragment.write_context` says what is bound: the values, in order, under these names.
* `Fragment.placeholderNames_eq_reads` says what can be read back from the text: piece by piece the
  name of a slot, and from a string literal what it looks like on its own.
* `Fragment.placeholderNames_write` is the case of a fragment whose verbatim texts have no colon:
  what is read back are the names.

Both rest on names that are all different (`Namer.take_nodup`) and made of word characters
(`Namer.isParameterName_of_mem_take`).

## How a text is read back

The scan goes from left to right and remembers one character, so the induction is over the pieces,
with an arbitrary character before them (`Fragment.placeholderNamesAfter_write`).  At a slot the
induction needs two facts: that the text behind it does not go on with a word character, and that a
placeholder may begin where the slot stands.  The first is one on what follows and comes from the
spacing (`Fragment.Spaced.head_write`).  The second is one on what came before; it is passed along
as a hypothesis on the head of the fragment, and established behind every piece
(`Fragment.Spaced.opens_behind`).

String literals are the one kind of verbatim text that may contain anything, and what is found in
one of them is not a slot.  `Fragment.reads` lists both, so that the statement about texts with free
literals and the one about texts without colons have one proof.
-/

namespace BoundSql

/-! ### The names of a sequence -/

/-- The names `p1`, `p2`, … up to a number. -/
def numberedNames (count : Nat) : List String :=
  (List.range count).map fun i => "p" ++ toString (i + 1)

namespace Namer

/-- The sequence after some more names were used. -/
def skip (namer : Namer) (count : Nat) : Namer := { namer with used := namer.used + count }

theorem next_snd (namer : Namer) : namer.next.2 = namer.skip 1 := rfl

theorem skip_skip (namer : Namer) (m n : Nat) : (namer.skip m).skip n = namer.skip (m + n) := by
  simp [skip, Nat.add_assoc]

/-- The first name of a sequence, and the rest of it. -/
theorem take_succ (namer : Namer) (count : Nat) :
    namer.take (count + 1) = namer.next.1 :: (namer.skip 1).take count := rfl

/-- Every name is the stem with a number. -/
theorem take_eq_map (namer : Namer) (count : Nat) :
    namer.take count =
      (List.range count).map fun i => namer.stem ++ toString (namer.used + i + 1) := by
  induction count generalizing namer with
  | zero => rfl
  | succ count ih =>
      rw [take_succ, ih, List.range_succ_eq_map, List.map_cons, List.map_map]
      refine congrArg (_ :: ·) (List.map_congr_left fun i _ => ?_)
      show namer.stem ++ toString (namer.used + 1 + i + 1) =
        namer.stem ++ toString (namer.used + (i + 1) + 1)
      rw [Nat.add_right_comm namer.used 1 i, Nat.add_assoc namer.used i 1]

@[simp] theorem length_take (namer : Namer) (count : Nat) :
    (namer.take count).length = count := by
  simp [take_eq_map]

/-- A fresh sequence gives the names `p1`, `p2`, …. -/
theorem take_default (count : Nat) : ({} : Namer).take count = numberedNames count := by
  rw [take_eq_map, numberedNames]
  simp

/-- A number is read off its digits. -/
theorem ofDigitChars_toString (n : Nat) : Nat.ofDigitChars 10 (toString n).toList 0 = n := by
  rw [Nat.toString_eq_repr, Nat.repr_eq_ofList_toDigits, String.toList_ofList,
    Nat.ofDigitChars_ten_toDigits]

/-- No name comes twice: names of one stem are told apart by their numbers, and numbers by their
digits. -/
theorem take_nodup (namer : Namer) (count : Nat) : (namer.take count).Nodup := by
  rw [take_eq_map]
  refine List.Nodup.map (fun i j same => ?_) List.nodup_range
  have digits : toString (namer.used + i + 1) = toString (namer.used + j + 1) :=
    String.append_right_inj _ |>.mp same
  have numbers := congrArg (fun s => Nat.ofDigitChars 10 s.toList 0) digits
  simp only [ofDigitChars_toString] at numbers
  omega

/-- Numbers are written in ASCII digits. -/
theorem isDigit_of_mem_toString {n : Nat} {c : Char} (mem : c ∈ (toString n).toList) :
    c.isDigit = true ∧ c.toNat < 128 := by
  rw [Nat.toString_eq_repr, Nat.repr_eq_ofList_toDigits, String.toList_ofList] at mem
  have digit := Nat.isDigit_of_mem_toDigits (by decide) (by decide) mem
  refine ⟨digit, ?_⟩
  simp only [Char.isDigit, Bool.and_eq_true, decide_eq_true_eq] at digit
  have := UInt32.le_iff_toNat_le.mp digit.2
  exact Nat.lt_of_le_of_lt this (by decide)

/-- The digits of a number are word characters. -/
theorem isWordChar_of_mem_toString {n : Nat} {c : Char} (mem : c ∈ (toString n).toList) :
    Text.isWordChar c = true := by
  obtain ⟨digit, ascii⟩ := isDigit_of_mem_toString mem
  simp [Text.isWordChar, Text.inClass_of_ascii ascii, Char.isAlphanum, digit]

/-- The stem that is used unless another is asked for is a word character, so that a placeholder
with this stem can be read. -/
theorem isWordChar_of_mem_stem {c : Char} (mem : c ∈ ({} : Namer).stem.toList) :
    Text.isWordChar c = true := by
  obtain rfl : c = 'p' := List.mem_singleton.mp mem
  decide

/-- A stem of word characters makes names of word characters. -/
theorem isParameterName_of_mem_take {namer : Namer}
    (stem : ∀ {c}, c ∈ namer.stem.toList → Text.isWordChar c = true) {count : Nat} {name : String}
    (mem : name ∈ namer.take count) : IsParameterName name := by
  rw [take_eq_map, List.mem_map] at mem
  obtain ⟨i, -, rfl⟩ := mem
  refine ⟨fun empty => ?_, fun c hc => ?_⟩
  · have := congrArg String.toList empty
    simp at this
  · rw [String.toList_append, List.mem_append] at hc
    exact hc.elim stem isWordChar_of_mem_toString

end Namer

/-! ### Verbatim text -/

/-- Doubling a quote brings no new character. -/
theorem Text.mem_doubled {quote c : Char} {s : List Char} :
    c ∈ Text.doubled quote s ↔ c ∈ s := by
  induction s with
  | nil => rfl
  | cons d s ih => by_cases h : d = quote <;> simp [Text.doubled, h, ih]

/-- An enclosed text has the quote and its own characters. -/
theorem Text.mem_enclosed {quote c : Char} {s : String} :
    c ∈ (Text.enclosed quote s).toList ↔ c = quote ∨ c ∈ s.toList := by
  rw [Text.toList_enclosed, List.cons_append, List.mem_cons, List.mem_append,
    Text.mem_doubled, List.mem_singleton]
  tauto

/-- No dialect brings a colon into an identifier. -/
theorem Dialect.colon_notMem_quote (d : Dialect) {s : String} (h : ':' ∉ s.toList) :
    ':' ∉ (d.quote s).toList := by
  cases d with
  | generic => exact h
  | postgresql => exact fun mem => (Text.mem_enclosed.mp mem).elim (by decide) h
  | mysql => exact fun mem => (Text.mem_enclosed.mp mem).elim (by decide) h

/-- What a piece without a slot writes has no colon if the piece lacks it. -/
theorem Piece.colon_notMem_write {p : Piece} (slot : p.isSlot = false) (lacks : p.Lacks ':')
    (c : Context) : ':' ∉ (p.write c).1.toList := by
  cases p with
  | sql s => exact lacks
  | name s => exact c.dialect.colon_notMem_quote lacks
  | literal s => exact fun mem => (Text.mem_enclosed.mp mem).elim (by decide) lacks
  | value v => cases slot
  | parameter n => cases slot

/-- What a piece without a slot writes depends on nothing but the dialect. -/
theorem Piece.write_of_dialect {p : Piece} (slot : p.isSlot = false) {c c' : Context}
    (dialect : c'.dialect = c.dialect) : (p.write c').1 = (p.write c).1 := by
  cases p with
  | sql s => rfl
  | name s => exact congrArg (fun d : Dialect => d.quote s) dialect
  | literal s => rfl
  | value v => cases slot
  | parameter n => cases slot

/-- No piece changes the dialect. -/
theorem Piece.write_dialect (p : Piece) (c : Context) : (p.write c).2.dialect = c.dialect := by
  cases p <;> rfl

/-- What is read from a piece that is no slot: what stands in a string literal is read as if it
stood outside. -/
def Piece.read : Piece → List String
  | .literal s => placeholderNames (Text.enclosed Text.singleQuote s)
  | _ => []

/-! ### What is bound -/

namespace Fragment

/-- The names under which the slots are written, from left to right. -/
def names : Namer → Fragment → List String
  | _, [] => []
  | namer, .value _ :: rest => namer.next.1 :: names namer.next.2 rest
  | namer, .parameter name :: rest => name :: names namer rest
  | namer, .sql _ :: rest | namer, .name _ :: rest | namer, .literal _ :: rest =>
      names namer rest

/-- Every slot is a value that gets the next name.  In inserts of records no slot is one; the names
there are settled by the properties. -/
def IsNumbered (f : Fragment) : Prop := ∀ p ∈ f, p.isNumbered = true

@[simp] theorem isNumbered_nil : IsNumbered [] := by simp [IsNumbered]

@[simp] theorem isNumbered_cons {p : Piece} {f : Fragment} :
    IsNumbered (p :: f) ↔ p.isNumbered = true ∧ IsNumbered f := by
  simp [IsNumbered]

@[simp] theorem isNumbered_append {f g : Fragment} :
    IsNumbered (f ++ g) ↔ IsNumbered f ∧ IsNumbered g := by
  simp [IsNumbered, or_imp, forall_and]

@[simp] theorem values_sql (s : String) (f : Fragment) : values (.sql s :: f) = values f := rfl

@[simp] theorem values_name (s : String) (f : Fragment) : values (.name s :: f) = values f := rfl

@[simp] theorem values_literal (s : String) (f : Fragment) :
    values (.literal s :: f) = values f := rfl

@[simp] theorem values_parameter (s : String) (f : Fragment) :
    values (.parameter s :: f) = values f := rfl

@[simp] theorem values_value (v : Value) (f : Fragment) :
    values (.value v :: f) = v :: values f := rfl

/-- A numbered fragment uses as many names as it binds values. -/
theorem IsNumbered.names_eq {f : Fragment} (h : IsNumbered f) (namer : Namer) :
    f.names namer = namer.take f.values.length := by
  induction f generalizing namer with
  | nil => rfl
  | cons p f ih =>
      obtain ⟨hp, hf⟩ := isNumbered_cons.mp h
      cases p with
      | value v =>
          rw [names, ih hf, values_value, List.length_cons, Namer.take_succ, Namer.next_snd]
      | parameter n => cases hp
      | sql s => exact ih hf namer
      | name s => exact ih hf namer
      | literal s => exact ih hf namer

@[simp] theorem write_nil (c : Context) : write [] c = ("", c) := rfl

theorem write_cons (p : Piece) (f : Fragment) (c : Context) :
    write (p :: f) c =
      ((p.write c).1 ++ (write f (p.write c).2).1, (write f (p.write c).2).2) := rfl

/-- **What writing a fragment binds**: its values in order, under the next names.  Dialect and
aliases stay as they are. -/
theorem write_context (f : Fragment) (c : Context) :
    (f.write c).2 =
      { c with bindings :=
          ⟨c.bindings.namer.skip f.values.length,
            Assoc.putAll c.bindings.parameters
              ((c.bindings.namer.take f.values.length).zip f.values)⟩ } := by
  induction f generalizing c with
  | nil => rfl
  | cons p f ih =>
      rw [write_cons]
      cases p with
      | value v =>
          rw [ih, values_value, List.length_cons, Namer.take_succ, List.zip_cons_cons]
          simp only [Piece.write, Context.bind, Assoc.putAll, List.foldl_cons]
          rw [Namer.next_snd, Namer.skip_skip, Nat.add_comm 1]
      | sql s => exact ih c
      | name s => exact ih c
      | literal s => exact ih c
      | parameter n => exact ih c

/-- The parameters of a whole statement are its values in order, under the first names. -/
theorem render_parameters (f : Fragment) (dialect : Dialect) :
    (f.render dialect).parameters = (numberedNames f.values.length).zip f.values := by
  show (f.write { dialect }).2.bindings.parameters = _
  rw [write_context]
  show Assoc.putAll [] ((({} : Namer).take f.values.length).zip f.values) = _
  have different : (Assoc.keys ((({} : Namer).take f.values.length).zip f.values)).Nodup := by
    rw [Assoc.keys, List.map_fst_zip (by simp)]
    exact Namer.take_nodup {} f.values.length
  rw [Assoc.putAll_of_nodup different, List.nil_append, Namer.take_default]

/-! ### What is read back -/

/-- What stands behind a slot of a spaced fragment begins with no word character. -/
theorem Spaced.head_write {p : Piece} {f : Fragment} (spaced : Spaced (p :: f))
    (slot : p.isSlot = true) (c : Context) :
    ∀ x ∈ (f.write c).1.toList.head?, Text.isWordChar x = false := by
  intro x mem
  cases f with
  | nil => simp at mem
  | cons q f =>
      have closing := (List.isChain_cons_cons.mp spaced).1.closes slot
      cases q with
      | sql s =>
          rw [write_cons, String.toList_append] at mem
          simp only [Piece.write, Piece.closes] at mem closing
          cases h : s.toList with
          | nil => simp [h] at closing
          | cons y ys =>
              rw [h, List.cons_append, List.head?_cons, Option.mem_some_iff] at mem
              rw [h, List.head?_cons, Option.any_some, Bool.not_eq_true'] at closing
              rw [← mem]
              exact closing
      | name s => cases closing
      | literal s => cases closing
      | value v => cases closing
      | parameter n => cases closing

/-- Behind a piece without a slot, a slot may follow only if a placeholder may begin there. -/
theorem Spaced.opens_behind {p : Piece} {f : Fragment} (spaced : Spaced (p :: f))
    (slot : p.isSlot = false) (c : Context) (before? : Option Char) :
    ∀ q ∈ f.head?, q.isSlot = true →
      opensPlaceholder ((p.write c).1.toList.getLast?.or before?) = true := by
  intro q mem follows
  have opening := ((List.isChain_cons.mp spaced).1 q mem).opens follows
  cases p with
  | sql s =>
      simp only [Piece.opens, Option.any_eq_true] at opening
      obtain ⟨x, hx, hopen⟩ := opening
      simp only [Piece.write, hx]
      exact hopen
  | name s => cases opening
  | literal s => cases opening
  | value v => cases slot
  | parameter n => cases slot

/-- A slot of a spaced fragment is followed by no other slot. -/
theorem Spaced.head_not_slot {p : Piece} {f : Fragment} (spaced : Spaced (p :: f))
    (slot : p.isSlot = true) : ∀ q ∈ f.head?, q.isSlot = false := by
  intro q mem
  have closing := ((List.isChain_cons.mp spaced).1 q mem).closes slot
  cases q with
  | value v => cases closing
  | parameter n => cases closing
  | sql s => rfl
  | name s => rfl
  | literal s => rfl

/-- What is read from a fragment, piece by piece. -/
def reads : Namer → Fragment → List String
  | _, [] => []
  | namer, .value _ :: rest => namer.next.1 :: reads namer.next.2 rest
  | namer, .parameter name :: rest => name :: reads namer rest
  | namer, .literal s :: rest => (Piece.literal s).read ++ reads namer rest
  | namer, .sql _ :: rest | namer, .name _ :: rest => reads namer rest

/-- A slot is written as the placeholder of the first name. -/
theorem write_slot {p : Piece} (slot : p.isSlot = true) (f : Fragment) (c : Context) :
    ∃ name, (p.write c).1 = placeholder name ∧
      names c.bindings.namer (p :: f) = name :: names (p.write c).2.bindings.namer f ∧
      reads c.bindings.namer (p :: f) = name :: reads (p.write c).2.bindings.namer f := by
  cases p with
  | value v => exact ⟨_, rfl, rfl, rfl⟩
  | parameter n => exact ⟨_, rfl, rfl, rfl⟩
  | sql s => cases slot
  | name s => cases slot
  | literal s => cases slot

/-- Any other piece leaves the names as they are. -/
theorem write_of_not_slot {p : Piece} (slot : p.isSlot = false) (f : Fragment) (c : Context) :
    (p.write c).2 = c ∧ names c.bindings.namer (p :: f) = names c.bindings.namer f ∧
      reads c.bindings.namer (p :: f) = p.read ++ reads c.bindings.namer f := by
  cases p with
  | value v => cases slot
  | parameter n => cases slot
  | sql s => exact ⟨rfl, rfl, rfl⟩
  | name s => exact ⟨rfl, rfl, rfl⟩
  | literal s => exact ⟨rfl, rfl, rfl⟩

/-- A piece that is no slot is scanned on its own. -/
theorem placeholderNamesAfter_piece {p : Piece} (slot : p.isSlot = false) (clear : p.Clear)
    (c : Context) (t : List Char) (before? : Option Char) :
    placeholderNamesAfter before? ((p.write c).1.toList ++ t) =
      p.read.map String.toList ++
        placeholderNamesAfter ((p.write c).1.toList.getLast?.or before?) t := by
  cases p with
  | value v => cases slot
  | parameter n => cases slot
  | sql s => exact placeholderNamesAfter_append_of_notMem clear t before?
  | name s => exact placeholderNamesAfter_append_of_notMem (c.dialect.colon_notMem_quote clear) t _
  | literal s =>
      -- the quotes on both sides keep what stands between them apart
      have quote : Text.singleQuote ≠ ':' := by decide
      show placeholderNamesAfter before? ((Text.enclosed Text.singleQuote s).toList ++ t) =
        (placeholderNames (Text.enclosed Text.singleQuote s)).map String.toList ++
          placeholderNamesAfter ((Text.enclosed Text.singleQuote s).toList.getLast?.or before?) t
      rw [placeholderNames, List.map_map, Text.toList_enclosed, List.append_assoc,
        List.singleton_append, placeholderNamesAfter_append_closing quote (by decide),
        List.getLast?_concat, List.cons_append, placeholderNamesAfter_cons_of_ne quote,
        placeholderNamesAfter_cons_of_ne quote]
      simp

/-- Scanning what a fragment writes, behind any character that lets its first slot begin.  The
hypothesis on the names is about this fragment in this context: a settled name may be no name at
all, and then it cannot be read. -/
theorem placeholderNamesAfter_write {f : Fragment} {c : Context} {before? : Option Char}
    (spaced : f.Spaced) (clear : f.Clear)
    (named : ∀ name ∈ f.names c.bindings.namer, IsParameterName name)
    (start : ∀ p ∈ f.head?, p.isSlot = true → opensPlaceholder before? = true) :
    placeholderNamesAfter before? (f.write c).1.toList =
      (f.reads c.bindings.namer).map String.toList := by
  induction f generalizing c before? with
  | nil => simp [reads]
  | cons p f ih =>
      have hp : p.Clear := clear p List.mem_cons_self
      have hf : Clear f := fun q mem => clear q (.tail _ mem)
      have tail : Spaced f := (List.isChain_cons.mp spaced).2
      rw [write_cons, String.toList_append]
      cases slot : p.isSlot with
      | true =>
          -- a slot is one placeholder, and no other slot follows it
          obtain ⟨name, written, rest, found⟩ := write_slot slot f c
          rw [rest] at named
          have named' := named name List.mem_cons_self
          rw [written, found, List.map_cons, placeholder, String.toList_append,
            show ":".toList = [':'] from rfl, List.singleton_append,
            placeholderNamesAfter_placeholder named'.toList_ne_nil named'.2
              (spaced.head_write slot _) (start p rfl slot)]
          refine congrArg (_ :: ·) (ih tail hf (fun n mem => named n (.tail _ mem)) ?_)
          intro q mem follows
          rw [spaced.head_not_slot slot q mem] at follows
          cases follows
      | false =>
          obtain ⟨same, rest, found⟩ := write_of_not_slot slot f c
          rw [rest] at named
          rw [placeholderNamesAfter_piece slot hp, found, List.map_append, same]
          exact congrArg (_ ++ ·) (ih tail hf named (spaced.opens_behind slot c before?))

/-- **What is read back from a text**: the slots of a spaced fragment, and what the string literals
between them are read as, in order. -/
theorem placeholderNames_eq_reads {f : Fragment} {c : Context} (spaced : f.Spaced)
    (clear : f.Clear) (named : ∀ name ∈ f.names c.bindings.namer, IsParameterName name) :
    placeholderNames (f.write c).1 = f.reads c.bindings.namer := by
  rw [placeholderNames, placeholderNamesAfter_write spaced clear named fun _ _ _ => rfl,
    List.map_map]
  simp

/-- A literal without a colon is read as nothing. -/
theorem read_of_lacks {p : Piece} (lacks : p.Lacks ':') : p.read = [] := by
  cases p with
  | literal s =>
      have absent : ':' ∉ (Text.enclosed Text.singleQuote s).toList :=
        fun mem => (Text.mem_enclosed.mp mem).elim (by decide) lacks
      have scan := placeholderNamesAfter_append_of_notMem absent [] none
      rw [List.append_nil] at scan
      show (placeholderNamesAfter none _).map String.ofList = []
      rw [scan]
      rfl
  | _ => rfl

/-- Where no literal has a colon, what is read are the names of the slots. -/
theorem Lacks.reads_eq {f : Fragment} (lacks : f.Lacks ':') (namer : Namer) :
    f.reads namer = f.names namer := by
  induction f generalizing namer with
  | nil => rfl
  | cons p f ih =>
      obtain ⟨hp, hf⟩ := lacks_cons.mp lacks
      cases p with
      | value v => exact congrArg (_ :: ·) (ih hf _)
      | parameter n => exact congrArg (_ :: ·) (ih hf _)
      | sql s => exact ih hf namer
      | name s => exact ih hf namer
      | literal s =>
          show (Piece.literal s).read ++ reads namer f = names namer f
          rw [read_of_lacks hp, List.nil_append, ih hf]

/-- Where no literal has a colon, the slots are read, in order, and nothing else. -/
theorem placeholderNames_write {f : Fragment} {c : Context} (spaced : f.Spaced)
    (lacks : f.Lacks ':') (named : ∀ name ∈ f.names c.bindings.namer, IsParameterName name) :
    placeholderNames (f.write c).1 = f.names c.bindings.namer := by
  rw [placeholderNames_eq_reads spaced lacks.clear named, lacks.reads_eq]

end Fragment

end BoundSql
