import BoundSql.Proofs.Redaction

/-!
# What redaction leaves alone

Redaction replaces in place.  Every dictionary that can be reached under keys that are not found out
keeps its keys in order, what stands under a key that is found out gives way to the mark as a whole,
and every other value stays.  So a second redaction finds nothing to do.

A place is given by positions and not by keys, because a dictionary here is a list of fields, and
positions say that their order is kept as well.  `Value.at?` gives with each value the keys on the
way to it, which decide what becomes of it.

`Redaction.at?_redactValue` says everything about one place by a function of the keys and the value
(`Redaction.remains`).  What is promised of a payload is a list of special cases of this: the way is
open, or it ends at the first key that is found out.  Behind such a key nothing is left, so that
redaction adds no places.

Lists, tuples and sets are values like any others here.  Nothing inside them is a place, since
redaction does not look into them.

* `Value.at?` : what stands at a place of a value, at any depth.
* `Redaction.at?_redactValue` : what redaction leaves there.
* `Redaction.ReplacedInPlace` : what is promised of a redacted payload, place by place.
* `Redaction.redact_in_place` : the promise is kept, and redaction is idempotent.
-/

namespace BoundSql

/-- What stands at a place of a value, with the keys on the way there.  A place is given by the
positions of the fields that lead from one dictionary into the next. -/
def Value.at? : Value → List Nat → Option (List String × Value)
  | v, [] => some ([], v)
  | .object fields, i :: place =>
      fields[i]?.bind fun field =>
        (field.2.at? place).map fun found => (field.1 :: found.1, found.2)
  | _, _ :: _ => none

/-- There is one key for every step. -/
theorem Value.length_of_at? {v : Value} {place : List Nat} {found : List String × Value}
    (h : v.at? place = some found) : found.1.length = place.length := by
  induction place generalizing v found with
  | nil => cases v <;> rw [← Option.some.inj h] <;> rfl
  | cons i place ih =>
      cases v with
      | object fields =>
          obtain ⟨field, -, h⟩ := Option.bind_eq_some_iff.mp h
          obtain ⟨inner, hinner, rfl⟩ := Option.map_eq_some_iff.mp h
          exact congrArg Nat.succ (ih hinner)
      | _ => cases h

namespace Redaction

/-! ### A second redaction -/

mutual

/-- The mark is a text, which redaction leaves as it is. -/
theorem redact_redact : ∀ p : List (String × Value), redact (redact p) = redact p
  | [] => rfl
  | (key, v) :: rest => by
      rw [redact_cons, redact_cons, redact_redact rest]
      cases found : isSensitive key with
      | true => rw [redactUnder_of_isSensitive found, redactUnder_of_isSensitive found]
      | false =>
          rw [redactUnder_of_not_isSensitive found, redactUnder_of_not_isSensitive found,
            redactValue_redactValue v]

theorem redactValue_redactValue : ∀ v : Value, redactValue (redactValue v) = redactValue v
  | .object fields => congrArg Value.object (redact_redact fields)
  | .null | .bool _ | .int _ | .text _ | .list _ | .tuple _ | .set _ => rfl

end

/-! ### Places -/

/-- None of the keys on the trail is found out. -/
def IsOpen (trail : List String) : Prop := ∀ key ∈ trail, isSensitive key = false

instance (trail : List String) : Decidable (IsOpen trail) :=
  inferInstanceAs (Decidable (∀ key ∈ trail, isSensitive key = false))

/-- What is left of a value that stands at the end of a trail, if anything: nothing is left inside
what is replaced as a whole. -/
def remains : List String → Value → Option (List String × Value)
  | [], v => some ([], redactValue v)
  | key :: trail, v =>
      if isSensitive key then if trail.isEmpty then some ([key], mark) else none
      else (remains trail v).map fun left => (key :: left.1, left.2)

/-- At the end of an open trail the value is redacted in itself. -/
theorem remains_of_isOpen {trail : List String} (shown : IsOpen trail) (v : Value) :
    remains trail v = some (trail, redactValue v) := by
  induction trail with
  | nil => rfl
  | cons key trail ih =>
      obtain ⟨first, others⟩ := List.forall_mem_cons.mp shown
      rw [remains, first, ih others]
      rfl

/-- At the end of a trail whose last key is the first that is found out stands the mark. -/
theorem remains_of_isSensitive {trail : List String} {key : String} (shown : IsOpen trail)
    (found : isSensitive key = true) (v : Value) :
    remains (trail ++ [key]) v = some (trail ++ [key], mark) := by
  induction trail with
  | nil => simp [remains, found]
  | cons first trail ih =>
      obtain ⟨own, others⟩ := List.forall_mem_cons.mp shown
      rw [List.cons_append, remains, own, ih others]
      rfl

/-- What is left stands behind the same keys. -/
theorem fst_of_remains {trail : List String} {v : Value} {left : List String × Value}
    (h : remains trail v = some left) : left.1 = trail := by
  induction trail generalizing left with
  | nil => rw [← Option.some.inj h]
  | cons key trail ih =>
      rw [remains] at h
      split at h
      · split at h
        case isTrue last =>
          rw [← Option.some.inj h, List.isEmpty_iff.mp last]
        case isFalse => cases h
      · obtain ⟨inner, hinner, rfl⟩ := Option.map_eq_some_iff.mp h
        rw [ih hinner]

/-- Redaction works field by field, so it keeps positions. -/
theorem redact_eq_map (p : List (String × Value)) :
    redact p = p.map fun field => (field.1, redactUnder field.1 field.2) := by
  induction p with
  | nil => rfl
  | cons field rest ih => rw [redact_cons, List.map_cons, ih]

/-- **What redaction leaves at a place.**  The induction is over the place, in an arbitrary
value. -/
theorem at?_redactValue (v : Value) (place : List Nat) :
    (redactValue v).at? place = (v.at? place).bind fun found => remains found.1 found.2 := by
  induction place generalizing v with
  | nil => cases v <;> rfl
  | cons i place ih =>
      cases v with
      | object fields =>
          rw [redactValue, Value.at?, Value.at?, redact_eq_map, List.getElem?_map]
          cases fields[i]? with
          | none => rfl
          | some field =>
              obtain ⟨key, w⟩ := field
              simp only [Option.map_some, Option.bind_some, Option.bind_map, Function.comp_def,
                remains]
              cases found : isSensitive key with
              | false =>
                  simp only [redactUnder_of_not_isSensitive found, ih, Option.map_bind,
                    Function.comp_def, Bool.false_eq_true, if_false]
              | true =>
                  rw [redactUnder_of_isSensitive found]
                  -- the mark has no fields, so a place inside it is nowhere
                  cases place with
                  | nil => cases w <;> rfl
                  | cons j place =>
                      refine (Option.bind_eq_none_iff.mpr fun inner hinner => ?_).symm
                      have deeper : inner.1 ≠ [] :=
                        List.ne_nil_of_length_eq_add_one (Value.length_of_at? hinner)
                      simp [deeper]
      | _ => rfl

/-! ### Payloads -/

/-- What is promised of a redacted payload, place by place. -/
structure ReplacedInPlace (p q : List (String × Value)) : Prop where
  /-- A dictionary that is reached keeps its keys in order, and is redacted as the payload is. -/
  dictionaries : ∀ place trail fields, (Value.object p).at? place = some (trail, .object fields) →
    IsOpen trail → (Value.object q).at? place = some (trail, .object (redact fields)) ∧
      Assoc.keys (redact fields) = Assoc.keys fields
  /-- Any other value that is reached stays. -/
  others : ∀ place trail v, (Value.object p).at? place = some (trail, v) → IsOpen trail →
    (∀ fields, v ≠ .object fields) → (Value.object q).at? place = some (trail, v)
  /-- What stands under the first key that is found out gives way to the mark as a whole. -/
  secrets : ∀ place trail key v, (Value.object p).at? place = some (trail ++ [key], v) →
    IsOpen trail → isSensitive key = true →
    (Value.object q).at? place = some (trail ++ [key], mark)
  /-- Nothing is added. -/
  places : ∀ place trail w, (Value.object q).at? place = some (trail, w) →
    ∃ v, (Value.object p).at? place = some (trail, v)

/-- **Redaction replaces in place, and once is enough.**  Sensitive values give way to the mark,
dictionaries keep their keys in order, everything else stays, and a second redaction changes
nothing. -/
theorem redact_in_place (p : List (String × Value)) :
    ReplacedInPlace p (redact p) ∧ redact (redact p) = redact p := by
  -- what is left at a place is decided by the keys on the way to it and by what stood there
  have left (place : List Nat) : (Value.object (redact p)).at? place =
      ((Value.object p).at? place).bind fun found => remains found.1 found.2 :=
    at?_redactValue (.object p) place
  refine ⟨⟨?dictionaries, ?others, ?secrets, ?places⟩, redact_redact p⟩
  case dictionaries =>
    intro place trail fields stands shown
    refine ⟨?_, keys_redact fields⟩
    rw [left, stands]
    exact remains_of_isOpen shown _
  case others =>
    intro place trail v stands shown other
    have same : redactValue v = v := by
      cases v with
      | object fields => exact absurd rfl (other fields)
      | _ => rfl
    rw [left, stands]
    exact (remains_of_isOpen shown v).trans (by rw [same])
  case secrets =>
    intro place trail key v stands shown found
    rw [left, stands]
    exact remains_of_isSensitive shown found v
  case places =>
    intro place trail w stands
    rw [left] at stands
    obtain ⟨⟨trail', v⟩, found, kept⟩ := Option.bind_eq_some_iff.mp stands
    obtain rfl : trail = trail' := fst_of_remains kept
    exact ⟨v, found⟩

/-- A login with a password among the fields of a dictionary, and with a dictionary for a token. -/
def login : List (String × Value) :=
  [("user", .text "ann"), ("auth", .object [("Password", .text "hunter2"), ("tries", .int 1)]),
    ("TOKEN", .object [("kind", .text "jwt")])]

/-- The password and the token give way to the mark, and the number of tries stays. -/
theorem redact_in_place_sample :
    (Value.object login).at? [1] =
      some (["auth"], .object [("Password", .text "hunter2"), ("tries", .int 1)]) ∧
    (Value.object (redact login)).at? [1] =
      some (["auth"], .object [("Password", mark), ("tries", .int 1)]) ∧
    (Value.object (redact login)).at? [1, 0] = some (["auth", "Password"], mark) ∧
    (Value.object (redact login)).at? [1, 1] = some (["auth", "tries"], .int 1) ∧
    (Value.object (redact login)).at? [2] = some (["TOKEN"], mark) ∧
    redact (redact login) = redact login := by
  obtain ⟨replaced, idempotent⟩ := redact_in_place login
  have shown : IsOpen ["auth"] := by decide
  exact ⟨rfl, (replaced.dictionaries [1] _ _ rfl shown).1,
    replaced.secrets [1, 0] ["auth"] "Password" _ rfl shown (by decide),
    replaced.others [1, 1] _ _ rfl (by decide) nofun,
    replaced.secrets [2] [] "TOKEN" _ rfl (by decide) (by decide), idempotent⟩

end Redaction

end BoundSql
