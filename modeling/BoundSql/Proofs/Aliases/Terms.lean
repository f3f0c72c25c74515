import BoundSql.Text.Quoted

/-!
# Terms

A term is a part of a statement that goes on up to the first blank, comma or closing parenthesis
outside of quotes and parentheses: a word, a quoted identifier behind a qualifier, or a function
with its arguments.  What is said here of reading terms does not refer to the way in which
statements are written.

## Places

While a term is read it matters whether one is between quotes, and between which, and in how many
parentheses.  A quote inside a quoted text is written twice.  The reader does not have to know this:
the first of the two ends the text and the second begins it again, so that in the end it stands
where it should.  `SelectList.Place.after?` says where a text leads to, or that a term would end in
it; that a text is complete in itself then means that it leads from outside to outside
(`SelectList.IsTerm`).

With this reading a term becomes a statement about places, which composes: a text in front of
another leads to where the other one begins.  A text that is complete in itself may stand between
parentheses, since everything there happens as it does outside, only deeper
(`SelectList.Place.after?_deeper`).

* `SelectList.term?`, `SelectList.term?_eq_some_iff` : the term at the beginning of a text.
* `SelectList.IsTerm` : the text is complete in itself, so that it is read as one term whatever
  follows it.
* `SelectList.identifier?`, `SelectList.identifier?_eq_some_iff` : an identifier in double quotes;
  what is read as one is written as one.
* `SelectList.term?_between_iff` : a text that was put between double quotes as it is can be read
  exactly if it has no double quote.
-/

namespace BoundSql.SelectList

open Text (doubled doubleQuote enclosed graveAccent singleQuote)

/-! ### Terms -/

/-- Where a reader stands: between which quotes, if any, and in how many parentheses. -/
structure Place where
  quote? : Option Char := none
  depth : Nat := 0
deriving DecidableEq, Repr

/-- The characters that quoted texts are enclosed in. -/
def isQuote (c : Char) : Bool := c == doubleQuote || c == graveAccent || c == singleQuote

/-- The characters that end a term. -/
def isBreak (c : Char) : Bool := c == ' ' || c == ',' || c == ')'

namespace Place

/-- The place outside of quotes and parentheses. -/
def outside : Place := {}

/-- The place behind a character.  A quote that is written twice ends the quoted text and begins it
again. -/
def next (place : Place) (c : Char) : Place :=
  match place.quote? with
  | some quote => if c = quote then { place with quote? := none } else place
  | none =>
    if isQuote c then { place with quote? := some c }
    else if c = '(' then { place with depth := place.depth + 1 }
    else if c = ')' then { place with depth := place.depth - 1 }
    else place

/-- The place behind a text, if no term ends in it. -/
def after? : Place → List Char → Option Place
  | place, [] => some place
  | place, c :: rest =>
    if place = outside ∧ isBreak c = true then none else after? (place.next c) rest

/-- The place in some more parentheses. -/
def deeper (place : Place) (more : Nat) : Place := { place with depth := place.depth + more }

end Place

open Place (outside)

/-- The text is complete in itself: it closes its quotes and parentheses, and nothing in it ends
a term before. -/
def IsTerm (s : String) : Prop := outside.after? s.toList = some outside

instance (s : String) : Decidable (IsTerm s) :=
  inferInstanceAs (Decidable (outside.after? s.toList = some outside))

/-- The text up to the end of a term, and the text behind it. -/
def term? : Place → List Char → Option (List Char × List Char)
  | place, [] => if place = outside then some ([], []) else none
  | place, c :: rest =>
    if place = outside ∧ isBreak c = true then some ([], c :: rest)
    else (term? (place.next c) rest).map fun (term, rest) => (c :: term, rest)

/-- Nothing in front of the text is left open: it begins with what ends a term, or is empty. -/
def Breaks (text : List Char) : Prop := ∀ c ∈ text.head?, isBreak c = true

/-! ### Identifiers -/

/-- A text up to the double quote that ends it, with the quotes inside it written once.  Nothing
may follow the quote. -/
def body? : List Char → Option (List Char)
  | [] => none
  | [c] => if c = doubleQuote then some [] else none
  | c :: d :: rest =>
    if c ≠ doubleQuote then (body? (d :: rest)).map (c :: ·)
    else if d = doubleQuote then (body? rest).map (c :: ·)
    else none

/-- The identifier that a text between double quotes says. -/
def identifier? : List Char → Option String
  | [] => none
  | c :: rest => if c = doubleQuote then (body? rest).map String.ofList else none

/-! ### Reading terms -/

variable {place place' : Place} {text term rest : List Char} {c : Char}

/-- A text leads to where its second half leads from where its first half does. -/
theorem Place.after?_append (place : Place) (text rest : List Char) :
    place.after? (text ++ rest) = (place.after? text).bind (·.after? rest) := by
  induction text generalizing place with
  | nil => rfl
  | cons c text ih =>
      rw [List.cons_append, after?, after?]
      split
      · rfl
      · exact ih _

/-- A text that is complete in itself may stand in front of one that is. -/
theorem Place.after?_append_of_eq_some (read : place.after? text = some place') (rest : List Char) :
    place.after? (text ++ rest) = place'.after? rest := by
  rw [after?_append, read, Option.bind_some]

/-- **A term is read up to its end**: it is complete in itself, and behind it there is what ends a
term.  The two conditions determine the term, so that this says everything about the reader. -/
theorem term?_eq_some_iff :
    term? place text = some (term, rest) ↔
      place.after? term = some outside ∧ text = term ++ rest ∧ Breaks rest := by
  induction text generalizing place term with
  | nil =>
      rw [term?, eq_comm (a := []), List.append_eq_nil_iff]
      constructor
      · intro read
        obtain ⟨start, rfl, rfl⟩ : place = outside ∧ [] = term ∧ [] = rest := by simpa using read
        exact ⟨congrArg some start, ⟨rfl, rfl⟩, nofun⟩
      · rintro ⟨read, ⟨rfl, rfl⟩, -⟩
        rw [if_pos (Option.some.inj read)]
  | cons c text ih =>
      -- a break outside of quotes and brackets ends the term; any other character belongs to it and
      -- moves the place
      by_cases ends : place = outside ∧ isBreak c = true
      · rw [term?, if_pos ends]
        constructor
        · intro read
          obtain ⟨rfl, rfl⟩ := Prod.mk.inj (Option.some.inj read)
          exact ⟨congrArg some ends.1, rfl, fun d first => Option.some.inj first ▸ ends.2⟩
        · rintro ⟨read, same, -⟩
          cases term with
          | nil => rw [same, List.nil_append]
          | cons d term =>
              obtain ⟨rfl, -⟩ := List.cons.inj same
              rw [Place.after?, if_pos ends] at read
              cases read
      · rw [term?, if_neg ends]
        cases term with
        | nil =>
            refine iff_of_false (by simp) fun ⟨start, same, breaks⟩ => ends ⟨?_, ?_⟩
            · exact Option.some.inj start
            · rw [List.nil_append] at same
              exact breaks c (same ▸ rfl)
        | cons d term =>
            rw [Option.map_eq_some_iff, List.cons_append, List.cons.injEq]
            constructor
            · rintro ⟨⟨term', rest'⟩, read, whole⟩
              obtain ⟨same, rfl⟩ := Prod.mk.inj whole
              obtain ⟨rfl, rfl⟩ := List.cons.inj same
              obtain ⟨complete, split, breaks⟩ := ih.mp read
              exact ⟨by rw [Place.after?, if_neg ends, complete], ⟨rfl, split⟩, breaks⟩
            · rintro ⟨complete, ⟨rfl, split⟩, breaks⟩
              rw [Place.after?, if_neg ends] at complete
              exact ⟨_, ih.mpr ⟨complete, split, breaks⟩, rfl⟩

/-- A text is read up to what stands behind it exactly if it is complete in itself, and what stands
behind it ends a term. -/
theorem term?_append_iff {s : String} {tail : List Char} :
    term? outside (s.toList ++ tail) = some (s.toList, rest) ↔
      IsTerm s ∧ Breaks tail ∧ rest = tail := by
  rw [term?_eq_some_iff]
  constructor
  · rintro ⟨complete, same, breaks⟩
    obtain rfl := List.append_cancel_left same
    exact ⟨complete, breaks, rfl⟩
  · rintro ⟨complete, breaks, rfl⟩
    exact ⟨complete, rfl, breaks⟩

/-! ### Texts that are complete in themselves -/

/-- Between quotes a doubled text is read to the quote that ends it. -/
theorem Place.after?_doubled (quote : Char) (depth : Nat) (breaks : isBreak quote = false)
    (quotes : isQuote quote = true) (s : List Char) :
    (Place.mk (some quote) depth).after? (doubled quote s ++ [quote]) =
      some ⟨none, depth⟩ := by
  induction s with
  | nil => simp [after?, next, outside]
  | cons c s ih =>
      by_cases same : c = quote
      · subst same
        have closes : (Place.mk (some c) depth).next c = ⟨none, depth⟩ := by simp [next]
        have opens : (Place.mk none depth).next c = ⟨some c, depth⟩ := by simp [next, quotes]
        rw [doubled, if_pos rfl, List.cons_append, List.cons_append, after?,
          if_neg (by simp [outside]), closes, after?, if_neg (by simp [breaks]), opens, ih]
      · have stays : (Place.mk (some quote) depth).next c = ⟨some quote, depth⟩ := by
          simp [next, same]
        rw [doubled, if_neg same, List.cons_append, after?, if_neg (by simp [outside]), stays, ih]

/-- No quote ends a term. -/
theorem isBreak_of_isQuote (quotes : isQuote c = true) : isBreak c = false := by
  simp only [isQuote, Bool.or_eq_true, beq_iff_eq] at quotes
  rcases quotes with (rfl | rfl) | rfl <;> decide

/-- **A quoted text is complete in itself**, whatever it is. -/
theorem isTerm_enclosed {quote : Char} (quotes : isQuote quote = true) (s : String) :
    IsTerm (enclosed quote s) := by
  have breaks := isBreak_of_isQuote quotes
  have opens : outside.next quote = ⟨some quote, 0⟩ := by simp [Place.next, outside, quotes]
  rw [IsTerm, Text.toList_enclosed, List.cons_append, Place.after?, if_neg (by simp [breaks]),
    opens]
  exact Place.after?_doubled quote 0 breaks quotes s.toList

/-- Texts that are complete in themselves are so together: the second begins where the first has led
to, which is outside of all quotes and parentheses. -/
theorem IsTerm.append {s t : String} (hs : IsTerm s) (ht : IsTerm t) : IsTerm (s ++ t) := by
  rw [IsTerm, String.toList_append, Place.after?_append_of_eq_some hs]
  exact ht

/-- A character that ends no term has the same effect in more parentheses.  A closing parenthesis
outside of all others does end one, and is excluded for that reason. -/
theorem Place.next_deeper (goesOn : ¬ (place = outside ∧ isBreak c = true)) (more : Nat) :
    (place.deeper more).next c = (place.next c).deeper more := by
  obtain ⟨quote?, depth⟩ := place
  cases quote? with
  | some quote => by_cases closes : c = quote <;> simp [next, deeper, closes]
  | none =>
      by_cases quotes : isQuote c = true
      · simp [next, deeper, quotes]
      · by_cases opening : c = '('
        · subst opening
          simp [next, deeper, quotes, Nat.add_right_comm]
        · by_cases closing : c = ')'
          · -- outside of parentheses this one would end the term
            subst closing
            have inside : depth ≠ 0 := by
              rintro rfl
              exact goesOn ⟨rfl, rfl⟩
            have order : depth + more - 1 = depth - 1 + more := by omega
            simp [next, deeper, quotes, order]
          · simp [next, deeper, quotes, opening, closing]

/-- **A part of a term is read in parentheses as it is read without them.**  In more parentheses
fewer characters end a term, so what is read without them is read there all the more. -/
theorem Place.after?_deeper (read : place.after? text = some place') (more : Nat) :
    (place.deeper more).after? text = some (place'.deeper more) := by
  induction text generalizing place with
  | nil => exact congrArg (some <| ·.deeper more) (Option.some.inj read)
  | cons c text ih =>
      rw [after?] at read
      split at read
      case isTrue => cases read
      case isFalse goesOn =>
        have inner : ¬ (place.deeper more = outside ∧ isBreak c = true) := by
          rintro ⟨same, ends⟩
          obtain ⟨quote?, depth⟩ := place
          obtain ⟨rfl, sum⟩ := Place.mk.inj same
          obtain rfl : depth = 0 := Nat.eq_zero_of_add_eq_zero_right sum
          exact goesOn ⟨rfl, ends⟩
        rw [after?, if_neg inner, next_deeper goesOn]
        exact ih read

/-- Is the character a quote or a parenthesis? -/
def isBracket (c : Char) : Bool := isQuote c || c == '(' || c == ')'

/-- In parentheses a text without quotes and parentheses makes no difference. -/
theorem Place.after?_of_isBracket {depth : Nat} (free : ∀ c ∈ text, isBracket c = false) :
    (Place.mk none (depth + 1)).after? text = some ⟨none, depth + 1⟩ := by
  induction text with
  | nil => rfl
  | cons c text ih =>
      obtain ⟨first, others⟩ := List.forall_mem_cons.mp free
      have stays : (Place.mk none (depth + 1)).next c = ⟨none, depth + 1⟩ := by
        simp only [isBracket, Bool.or_eq_false_iff, beq_eq_false_iff_ne] at first
        simp [next, first]
      rw [after?, if_neg (by simp [outside]), stays, ih others]

/-- A text that is complete in itself may stand in parentheses, behind and in front of more. -/
theorem IsTerm.wrapped {before s behind : String} (hs : IsTerm s)
    (opens : outside.after? before.toList = some ⟨none, 1⟩)
    (closes : (Place.mk none 1).after? behind.toList = some outside) :
    IsTerm (before ++ s ++ behind) := by
  have inner : (Place.mk none 1).after? s.toList = some ⟨none, 1⟩ := Place.after?_deeper hs 1
  rw [IsTerm, String.toList_append, String.toList_append, List.append_assoc,
    Place.after?_append_of_eq_some opens, Place.after?_append_of_eq_some inner, closes]

/-! ### Reading identifiers -/

theorem body?_cons_of_ne (other : c ≠ doubleQuote) (present : text ≠ []) :
    body? (c :: text) = (body? text).map (c :: ·) := by
  obtain ⟨d, text, rfl⟩ := List.exists_cons_of_ne_nil present
  rw [body?, if_pos other]

/-- A body is a text whose quotes are doubled, with a quote at its end. -/
theorem body?_eq_some_iff {s : List Char} :
    body? text = some s ↔ text = doubled doubleQuote s ++ [doubleQuote] := by
  constructor
  · intro read
    -- the reader tells its own cases apart one way, the name written tells them apart the other way
    fun_induction body? text generalizing s with
    | case1 => cases read
    | case2 => rw [← Option.some.inj read]; rfl
    | case3 => cases read
    | case4 c d rest other ih =>
        obtain ⟨s', inner, rfl⟩ := Option.map_eq_some_iff.mp read
        rw [doubled, if_neg other, ih inner, List.cons_append]
    | case5 c rest same ih =>
        obtain ⟨s', inner, rfl⟩ := Option.map_eq_some_iff.mp read
        have quotes : c = doubleQuote := Decidable.not_not.mp same
        rw [doubled, if_pos quotes, ih inner, quotes]
        rfl
    | case6 => cases read
  · rintro rfl
    induction s with
    | nil => rfl
    | cons c s ih =>
        by_cases same : c = doubleQuote
        · subst same
          rw [doubled, if_pos rfl, List.cons_append, List.cons_append, body?, if_neg (by simp),
            if_pos rfl, ih]
          rfl
        · rw [doubled, if_neg same, List.cons_append, body?_cons_of_ne same (by simp), ih]
          rfl

/-- **What is read as an identifier is written as one**, and the other way round.  So identifiers in
quotes are in correspondence with texts. -/
theorem identifier?_eq_some_iff {s : String} :
    identifier? text = some s ↔ text = (enclosed doubleQuote s).toList := by
  rw [Text.toList_enclosed]
  cases text with
  | nil => exact iff_of_false nofun nofun
  | cons c text =>
      rw [identifier?, List.cons_append, List.cons.injEq]
      split
      case isTrue same =>
        rw [Option.map_eq_some_iff, and_iff_right same]
        constructor
        · rintro ⟨s, inner, rfl⟩
          rw [body?_eq_some_iff.mp inner, String.toList_ofList]
        · intro inner
          exact ⟨s.toList, body?_eq_some_iff.mpr inner, String.ofList_toList⟩
      case isFalse other => exact iff_of_false nofun fun both => other both.1

/-! ### Texts between quotes as they are -/

/-- Behind more quotes than it has at its beginning, the doubled text goes on with quotes.  The
induction is over the text, with the number of quotes that the doubled text is behind: each quote in
the text adds one more to it, and nothing takes one away. -/
theorem head?_of_append_eq {s tail : List Char} (more : Nat)
    (same : s ++ doubleQuote :: tail =
      List.replicate (more + 1) doubleQuote ++ (doubled doubleQuote s ++ doubleQuote :: rest)) :
    tail.head? = some doubleQuote := by
  induction s generalizing more with
  | nil =>
      obtain ⟨-, same⟩ := List.cons.inj same
      rw [same]
      cases more <;> rfl
  | cons c s ih =>
      obtain ⟨rfl, same⟩ := List.cons.inj same
      refine ih (more + 1) (Eq.trans same ?_)
      rw [doubled, if_pos rfl, List.replicate_succ', List.replicate_succ']
      simp

/-- A text that stands between quotes as it is, and is read as what it is, has no quote.  What
follows the quote at the end must not be a quote; otherwise the two would be read as one that is
doubled. -/
theorem notMem_of_append_eq {s tail : List Char}
    (same : s ++ doubleQuote :: tail = doubled doubleQuote s ++ doubleQuote :: rest)
    (apart : tail.head? ≠ some doubleQuote) : doubleQuote ∉ s := by
  induction s with
  | nil => exact List.not_mem_nil
  | cons c s ih =>
      by_cases quotes : c = doubleQuote
      · subst quotes
        rw [doubled, if_pos rfl, List.cons_append, List.cons_append] at same
        exact absurd (head?_of_append_eq 0 (List.cons.inj same).2) apart
      · rw [doubled, if_neg quotes] at same
        exact List.not_mem_cons_of_ne_of_not_mem (Ne.symm quotes) (ih (List.cons.inj same).2)

/-- **A text between double quotes is an identifier that reads as the text** exactly if it has no
double quote.  With one in it, it may be an identifier still, but then it is another. -/
theorem identifier?_between_iff (s : String) :
    identifier? ("\"" ++ s ++ "\"").toList = some s ↔ doubleQuote ∉ s.toList := by
  have text : ("\"" ++ s ++ "\"").toList = doubleQuote :: (s.toList ++ [doubleQuote]) := by
    simp [doubleQuote]
  rw [identifier?_eq_some_iff, text, Text.toList_enclosed, List.cons_append]
  constructor
  · intro same
    exact notMem_of_append_eq (List.cons.inj same).2 nofun
  · intro absent
    rw [Text.doubled_of_notMem absent]

/-- The same with something behind it.  Then it is also possible that the quotes in the text make
the term end earlier, or go on behind it; neither gives the text as an identifier. -/
theorem term?_between_iff (s : String) {tail : List Char} (breaks : Breaks tail)
    (rest : List Char) :
    (∃ key, term? outside (("\"" ++ s ++ "\"").toList ++ tail) = some (key, rest) ∧
        identifier? key = some s) ↔
      doubleQuote ∉ s.toList ∧ rest = tail := by
  have text : ("\"" ++ s ++ "\"").toList ++ tail =
      doubleQuote :: (s.toList ++ doubleQuote :: tail) := by
    simp [doubleQuote]
  rw [text]
  constructor
  · rintro ⟨key, read, named⟩
    obtain ⟨-, split, -⟩ := term?_eq_some_iff.mp read
    rw [identifier?_eq_some_iff.mp named, Text.toList_enclosed, List.cons_append, List.cons_append,
      List.append_assoc] at split
    have same := (List.cons.inj split).2
    -- The quote that ends the name could only be half of a doubled one if the text behind it began
    -- with a quote, and no break is one.
    have apart : tail.head? ≠ some doubleQuote := by
      intro first
      have quote := breaks _ first
      cases quote
    have absent := notMem_of_append_eq same apart
    rw [Text.doubled_of_notMem absent] at same
    exact ⟨absent, (List.cons.inj (List.append_cancel_left same)).2.symm⟩
  · rintro ⟨absent, rfl⟩
    refine ⟨(enclosed doubleQuote s).toList, term?_eq_some_iff.mpr ?_,
      identifier?_eq_some_iff.mpr rfl⟩
    refine ⟨isTerm_enclosed rfl s, ?_, breaks⟩
    rw [Text.toList_enclosed, Text.doubled_of_notMem absent]
    simp

end BoundSql.SelectList
