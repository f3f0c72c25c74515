/-!
# Quoted text

SQL encloses an identifier or a string literal in a quote character and writes that character
twice wherever it occurs inside.  Everything else stands as it is.

## Main definitions

* `doubled` : a text with every occurrence of the quote written twice.
* `enclosed` : the doubled text between two quotes.

## Main statements

* `doubled_of_notMem` : a text without the quote is unchanged.
-/

namespace BoundSql.Text

/-- The quote around a string literal. -/
def singleQuote : Char := '\x27'

/-- The quote around an identifier in standard SQL. -/
def doubleQuote : Char := '\x22'

/-- The other identifier quote, the grave accent. -/
def graveAccent : Char := '\x60'

/-- The text with every occurrence of `quote` written twice. -/
def doubled (quote : Char) : List Char → List Char
  | [] => []
  | c :: rest => if c = quote then c :: c :: doubled quote rest else c :: doubled quote rest

/-- The text between two quotes, with the quotes inside it doubled. -/
def enclosed (quote : Char) (s : String) : String :=
  String.ofList (quote :: doubled quote s.toList ++ [quote])

@[simp] theorem doubled_nil (quote : Char) : doubled quote [] = [] := rfl

theorem doubled_of_notMem {quote : Char} {s : List Char} (h : quote ∉ s) :
    doubled quote s = s := by
  induction s with
  | nil => rfl
  | cons c s ih =>
    rw [List.mem_cons, not_or] at h
    simp [doubled, Ne.symm h.1, ih h.2]

@[simp] theorem toList_enclosed (quote : Char) (s : String) :
    (enclosed quote s).toList = quote :: doubled quote s.toList ++ [quote] := by
  simp [enclosed]

end BoundSql.Text
