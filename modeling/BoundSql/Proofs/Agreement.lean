import BoundSql.Proofs.Agreement.Record

/-!
# Texts and their parameters

An executor reads the placeholders of a statement from its text, and quotes make no difference to
it.  For builders of every kind, whose texts have no colon apart from their string constants, this
module says when it reads the parameters of the statement.

There are two ways in which it can fail to.  A string constant can look like a placeholder, and
there is no parameter for that.  And a parameter can have a name that the reader does not read to
its end: an identifier may contain characters that are none of a word, and the reader stops at the
first of them.  `Builder.placeholders_agree_iff` says that there is no third way, and that each of
the two does occur is shown by a sample.

String constants are free here, which is what makes the theorem an equivalence; other verbatim texts
are not.  A name with a colon in it can make the reader see anything, and nothing of interest would
be left to say.

* `Builder.exists_spells` : every statement is written of a text whose slots are its parameters.
* `Builder.placeholders_agree_iff` : the placeholders of a statement are its parameters exactly if
  string constants look like no others and every parameter has a name that can be read.
-/

namespace BoundSql.Builder

/-- The string constants of a builder. -/
def stringConstants : Builder → List String
  | numbered b => b.stringConstants
  | insertRow i => (RecordInsert.row i).stringConstants
  | insertBatch i => (RecordInsert.batch i).stringConstants
  | insertMultiple i => (RecordInsert.multiple i).stringConstants

/-- The texts that a builder takes over, string constants apart.  Columns that are inferred from a
record are not among them. -/
def verbatim : Builder → List String
  | numbered b => b.verbatim
  | insertRow i => (RecordInsert.row i).verbatim
  | insertBatch i => (RecordInsert.batch i).verbatim
  | insertMultiple i => (RecordInsert.multiple i).verbatim

variable {catalog : Catalog} {dialect : Dialect} {b : Builder} {statements : List Rendered}
  {s : Rendered}

/-- **Every statement is written of a text whose slots are its parameters**, and in which the
string constants are free. -/
theorem exists_spells (plain : Plain ':' b.verbatim)
    (h : b.statements catalog dialect = .ok statements) (mem : s ∈ statements) :
    ∃ settled f, s.Spells b.stringConstants settled dialect f := by
  cases b with
  | numbered b =>
      obtain ⟨product, rendered, h⟩ := bind_eq_ok_iff.mp h
      obtain ⟨r, hr, rfl⟩ := map_eq_ok_iff.mp rendered
      obtain rfl := Except.ok.inj h
      rw [List.mem_singleton.mp mem]
      exact ⟨false, NumberedBuilder.exists_spells plain hr⟩
  | insertRow i => exact ⟨true, RecordInsert.exists_spells (b := .row i) plain h mem⟩
  | insertBatch i => exact ⟨true, RecordInsert.exists_spells (b := .batch i) plain h mem⟩
  | insertMultiple i => exact ⟨true, RecordInsert.exists_spells (b := .multiple i) plain h mem⟩

/-- **When texts and parameters agree.**  Let a builder have no colon in its texts, apart from its
string constants.  The placeholders of each of its statements are the parameters of the statement
exactly if every placeholder that a string constant looks like is one of them, and all of them are
runs of word characters. -/
theorem placeholders_agree_iff (plain : Plain ':' b.verbatim)
    (h : b.statements catalog dialect = .ok statements) (mem : s ∈ statements) :
    (∀ name, name ∈ placeholderNames s.sql ↔ name ∈ Assoc.keys s.parameters) ↔
      (∀ text ∈ b.stringConstants,
        ∀ name ∈ placeholderNames (Text.enclosed Text.singleQuote text),
          name ∈ Assoc.keys s.parameters) ∧
      ∀ name ∈ Assoc.keys s.parameters, IsParameterName name := by
  obtain ⟨settled, f, spells⟩ := exists_spells plain h mem
  exact spells.agree_iff

/-- An insert of a string constant that looks like a placeholder. -/
def timed : Builder :=
  let notes : Table := ⟨0, "notes", none⟩
  .numbered (.insertValues
    ⟨notes, [⟨.column (.plain "text" notes none), .stringConstant "at :noon"⟩]⟩)

/-- An insert of a property whose name is an identifier, but no run of word characters. -/
def tied : Builder :=
  let notes : Table := ⟨0, "notes", none⟩
  .insertRow ⟨⟨some notes, [⟨.column (.plain "text" notes none), .property "a\u00b7b"⟩]⟩,
    .mapping [(.text "a\u00b7b", .int 1)]⟩

/-- The first insert has a placeholder without a parameter, and the second has a parameter without
a placeholder. -/
theorem placeholders_agree_iff_sample :
    timed.statements {} .generic = .ok [⟨"INSERT INTO notes (text) VALUES ('at :noon')", []⟩] ∧
    (¬ ∀ name, name ∈ placeholderNames "INSERT INTO notes (text) VALUES ('at :noon')" ↔
      name ∈ Assoc.keys ([] : Parameters)) ∧
    tied.statements {} .generic =
      .ok [⟨"INSERT INTO notes (text) VALUES (:a\u00b7b)", [("a\u00b7b", .int 1)]⟩] ∧
    ¬ ∀ name, name ∈ placeholderNames "INSERT INTO notes (text) VALUES (:a\u00b7b)" ↔
      name ∈ Assoc.keys ([("a\u00b7b", .int 1)] : Parameters) := by
  have first : timed.statements {} .generic =
      .ok [⟨"INSERT INTO notes (text) VALUES ('at :noon')", []⟩] := rfl
  have second : tied.statements {} .generic =
      .ok [⟨"INSERT INTO notes (text) VALUES (:a\u00b7b)", [("a\u00b7b", .int 1)]⟩] := rfl
  refine ⟨first, fun agree => ?_, second, fun agree => ?_⟩
  · have plain : Plain ':' timed.verbatim := by decide
    have reads : "noon" ∈ placeholderNames (Text.enclosed Text.singleQuote "at :noon") := by decide
    cases ((placeholders_agree_iff plain first List.mem_cons_self).mp agree).1 "at :noon"
      List.mem_cons_self "noon" reads
  · have plain : Plain ':' tied.verbatim := by decide
    have named := ((placeholders_agree_iff plain second List.mem_cons_self).mp agree).2
      "a\u00b7b" List.mem_cons_self
    exact absurd (named.2 '\u00b7' (by decide)) (by decide +kernel)

end BoundSql.Builder
