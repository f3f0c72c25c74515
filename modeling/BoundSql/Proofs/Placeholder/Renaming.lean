import BoundSql.Proofs.Placeholder.Slot

/-!
# Renaming the placeholders of a text

A text can be given other parameters by renaming its placeholders where they stand: they are found
by the rule by which they are read, and all other characters stay.

The same fragment can be written into two contexts that differ in the names to come, and its texts
then differ in the placeholders only.  This is said here of the texts, without reference to the
fragment, because the question that it answers is one about texts: is what a subquery has written
into a statement the text that it would have on its own, but for the numbers?

The renaming is defined on characters, like the scan, with a flag for the rest of a name that has
been replaced.  It cannot be defined by taking a text apart at its placeholders and putting it
together again, because a new name could run into what follows; that it does not is part of what is
proved.

* `renamePlaceholders` : the text with its placeholders renamed.
* `raisedName` : a numbered name, its number raised.
* `Fragment.renamePlaceholders_write` : a fragment that is written under other numbers is the same
  text with its placeholders renamed.
-/

namespace BoundSql

/-- The text behind the character `before?` with its placeholders renamed.  The flag says that the
text goes on with the rest of a name that has been replaced. -/
def renamePlaceholdersAfter (rename : String → String) :
    Bool → Option Char → List Char → List Char
  | _, _, [] => []
  | inName, before?, c :: rest =>
    if inName && Text.isWordChar c then renamePlaceholdersAfter rename true (some c) rest
    else if c == ':' && opensPlaceholder before? then
      match rest.takeWhile Text.isWordChar with
      | [] => c :: renamePlaceholdersAfter rename false (some c) rest
      | name => c :: (rename (String.ofList name)).toList ++
          renamePlaceholdersAfter rename true (some c) rest
    else c :: renamePlaceholdersAfter rename false (some c) rest

/-- The text with its placeholders renamed. -/
def renamePlaceholders (rename : String → String) (sql : String) : String :=
  String.ofList (renamePlaceholdersAfter rename false none sql.toList)

section Scan

variable {rename : String → String} {before? : Option Char}

/-- Outside of names a character that is no colon stays. -/
theorem renamePlaceholdersAfter_cons_of_ne {c : Char} {rest : List Char} (h : c ≠ ':') :
    renamePlaceholdersAfter rename false before? (c :: rest) =
      c :: renamePlaceholdersAfter rename false (some c) rest := by
  simp [renamePlaceholdersAfter, h]

/-- A part without a colon stays; its last character is remembered. -/
theorem renamePlaceholdersAfter_append_of_notMem {s : List Char} (h : ':' ∉ s) (t : List Char) :
    renamePlaceholdersAfter rename false before? (s ++ t) =
      s ++ renamePlaceholdersAfter rename false (s.getLast?.or before?) t := by
  induction s generalizing before? with
  | nil => rfl
  | cons c s ih =>
      rw [List.mem_cons, not_or] at h
      rw [List.cons_append, renamePlaceholdersAfter_cons_of_ne (Ne.symm h.1), ih h.2,
        getLast?_cons_or, List.cons_append]

/-- The rest of a name that has been replaced is passed over. -/
theorem renamePlaceholdersAfter_name {name t : List Char}
    (word : ∀ c ∈ name, Text.isWordChar c = true)
    (ends : ∀ c ∈ t.head?, Text.isWordChar c = false) :
    renamePlaceholdersAfter rename true before? (name ++ t) =
      renamePlaceholdersAfter rename false (name.getLast?.or before?) t := by
  induction name generalizing before? with
  | nil =>
      cases t with
      | nil => rfl
      | cons c t => simp [renamePlaceholdersAfter, ends c rfl]
  | cons c name ih =>
      rw [List.cons_append, renamePlaceholdersAfter, word c List.mem_cons_self, Bool.and_true,
        if_pos rfl, ih fun d mem => word d (.tail _ mem), getLast?_cons_or]

/-- A placeholder that stands free on both sides is renamed. -/
theorem renamePlaceholdersAfter_placeholder {name : String} {t : List Char}
    (named : IsParameterName name) (ends : ∀ c ∈ t.head?, Text.isWordChar c = false)
    (opening : opensPlaceholder before? = true) :
    renamePlaceholdersAfter rename false before? (':' :: name.toList ++ t) =
      ':' :: (rename name).toList ++
        renamePlaceholdersAfter rename false name.toList.getLast? t := by
  have rest : renamePlaceholdersAfter rename true (some ':') (name.toList ++ t) =
      renamePlaceholdersAfter rename false name.toList.getLast? t := by
    rw [renamePlaceholdersAfter_name named.2 ends, getLast?_or_of_ne_nil named.toList_ne_nil]
  rw [List.cons_append, renamePlaceholdersAfter, takeWhile_name named.2 ends, rest, opening]
  cases letters : name.toList with
  | nil => exact absurd letters named.toList_ne_nil
  | cons c cs => simp [← letters]

end Scan

namespace Fragment

/-- Renaming the placeholders of what a fragment writes, behind any character that lets its first
slot begin.  The two contexts have one dialect, so that what is no slot is written alike in both. -/
theorem renamePlaceholdersAfter_write {rename : String → String} {f : Fragment} {c c' : Context}
    {before? : Option Char} (dialect : c'.dialect = c.dialect) (spaced : f.Spaced)
    (lacks : f.Lacks ':') (named : ∀ name ∈ f.names c.bindings.namer, IsParameterName name)
    (renamed : f.names c'.bindings.namer = (f.names c.bindings.namer).map rename)
    (start : ∀ p ∈ f.head?, p.isSlot = true → opensPlaceholder before? = true) :
    renamePlaceholdersAfter rename false before? (f.write c).1.toList = (f.write c').1.toList := by
  induction f generalizing c c' before? with
  | nil => rfl
  | cons p f ih =>
      obtain ⟨hp, hf⟩ := lacks_cons.mp lacks
      have tail : Spaced f := (List.isChain_cons.mp spaced).2
      rw [write_cons, write_cons, String.toList_append, String.toList_append]
      cases slot : p.isSlot with
      | true =>
          -- both write a placeholder here, and the second has the other name
          obtain ⟨name, written, rest, -⟩ := write_slot slot f c
          obtain ⟨name', written', rest', -⟩ := write_slot slot f c'
          rw [rest] at named renamed
          rw [rest', List.map_cons, List.cons.injEq] at renamed
          obtain ⟨rfl, renamed⟩ := renamed
          rw [written, written', placeholder, placeholder, String.toList_append,
            String.toList_append, show ":".toList = [':'] from rfl, List.singleton_append,
            renamePlaceholdersAfter_placeholder (named name List.mem_cons_self)
              (spaced.head_write slot _) (start p rfl slot)]
          refine congrArg (':' :: (rename name).toList ++ ·) (ih ?_ tail hf
            (fun n mem => named n (.tail _ mem)) renamed ?_)
          · rw [Piece.write_dialect, Piece.write_dialect, dialect]
          · intro q mem follows
            rw [spaced.head_not_slot slot q mem] at follows
            cases follows
      | false =>
          obtain ⟨same, rest, -⟩ := write_of_not_slot slot f c
          obtain ⟨same', rest', -⟩ := write_of_not_slot slot f c'
          rw [rest] at named renamed
          rw [rest'] at renamed
          rw [renamePlaceholdersAfter_append_of_notMem (p.colon_notMem_write slot hp c), same,
            same', p.write_of_dialect slot dialect]
          exact congrArg (_ ++ ·) (ih dialect tail hf named renamed
            (spaced.opens_behind slot c before?))

/-- **A fragment that is written under other names** is the same text with its placeholders
renamed. -/
theorem renamePlaceholders_write {rename : String → String} {f : Fragment} {c c' : Context}
    (dialect : c'.dialect = c.dialect) (spaced : f.Spaced) (lacks : f.Lacks ':')
    (named : ∀ name ∈ f.names c.bindings.namer, IsParameterName name)
    (renamed : f.names c'.bindings.namer = (f.names c.bindings.namer).map rename) :
    renamePlaceholders rename (f.write c).1 = (f.write c').1 := by
  rw [renamePlaceholders, renamePlaceholdersAfter_write dialect spaced lacks named renamed
    fun _ _ _ => rfl, String.ofList_toList]

end Fragment

/-! ### Raising numbers -/

/-- A numbered name with its number raised; any other name stays. -/
def raisedName (k : Nat) (name : String) : String :=
  let number := Text.digitsValue (name.toList.drop 1)
  if name = "p" ++ toString number then "p" ++ toString (k + number) else name

/-- A number is read off its digits, raised, and written again. -/
theorem raisedName_numbered (k n : Nat) :
    raisedName k ("p" ++ toString n) = "p" ++ toString (k + n) := by
  have digits : ("p" ++ toString n).toList.drop 1 = (toString n).toList := by
    rw [String.toList_append]
    rfl
  rw [raisedName, digits, Text.digitsValue_toString]
  exact if_pos rfl

/-- The names behind the first `k` are the first names, raised by `k`. -/
theorem Namer.take_raised (k count : Nat) :
    ({ used := k } : Namer).take count = (({} : Namer).take count).map (raisedName k) := by
  rw [take_eq_map, take_eq_map, List.map_map]
  refine List.map_congr_left fun i _ => ?_
  show "p" ++ toString (k + i + 1) = raisedName k ("p" ++ toString (0 + i + 1))
  rw [raisedName_numbered, Nat.zero_add, Nat.add_assoc]

end BoundSql
