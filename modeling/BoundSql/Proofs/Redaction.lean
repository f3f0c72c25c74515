import BoundSql.Log.Event
import BoundSql.Proofs.Assoc
import BoundSql.Proofs.Redaction.Keys

/-!
# What redaction conceals

Two payloads that are alike differ in nothing but what stands under secret keys, at any depth.
Redaction does not follow a payload into a list, and it finds out no secret key whose word stands
behind a line feed, so alike payloads can look different in the log.

## What it means to conceal

That a secret is concealed cannot be read off a single event: a value may look like a mark, and a
mark like a value.  It is said by comparing payloads.  A payload is concealed if nothing that is
logged tells it from those that are alike to it, be it the redacted payload itself, an event made of
it, or an error that a logger raises on account of it (`Redaction.Indistinct`).

The other side of the equivalence is about the payload alone (`Redaction.Concealed`): each secret
stands under a key that is found out, and there are only dictionaries around it.  Both parts of this
are needed, as the sample shows.  Which secret keys are found out is a question of its own, and
answered in the same theorem by a condition on the text of the key.

## The shape of the proof

That concealed payloads look alike is an induction over the payload.  For the converse one has to
find, for a secret that is not concealed, a payload that is alike and looks different.  The
induction goes through the structure again: if a value is redacted as every alike one is, then so
are its parts, since a change in a part is a change of the whole.  At a secret key it ends, because
no value is redacted as every other is.

* `Redaction.Alike` : the payloads that differ in secrets only.
* `Redaction.Concealed` : the payloads all of whose secrets are concealed.
* `Redaction.indistinct_iff_concealed` : these are the payloads that cannot be told from any that is
  alike, neither when they are redacted nor by what a logger makes of them.
-/

namespace BoundSql

namespace Redaction

/-! ### Redaction field by field -/

/-- What a value is redacted to that stands under a key. -/
def redactUnder (key : String) (v : Value) : Value :=
  if isSensitive key then mark else redactValue v

/-- Under a key that is found out only the mark is left. -/
theorem redactUnder_of_isSensitive {key : String} (found : isSensitive key = true) (v : Value) :
    redactUnder key v = mark := if_pos found

/-- Under any other key the value is redacted in itself. -/
theorem redactUnder_of_not_isSensitive {key : String} (passes : isSensitive key = false)
    (v : Value) : redactUnder key v = redactValue v := if_neg (Bool.eq_false_iff.mp passes)

/-- Redaction goes through the fields one by one. -/
theorem redact_cons (key : String) (v : Value) (rest : List (String × Value)) :
    redact ((key, v) :: rest) = (key, redactUnder key v) :: redact rest := rfl

/-- Keys are not redacted. -/
theorem keys_redact : ∀ p : List (String × Value), Assoc.keys (redact p) = Assoc.keys p
  | [] => rfl
  | (key, _) :: rest => congrArg (key :: ·) (keys_redact rest)

/-- Writing a field and redacting may be interchanged, as what a field is redacted to depends on its
key only. -/
theorem redact_put (key : String) (v : Value) (p : List (String × Value)) :
    redact (Assoc.put key v p) = Assoc.put key (redactUnder key v) (redact p) := by
  induction p with
  | nil => rfl
  | cons field rest ih =>
      obtain ⟨own, w⟩ := field
      rw [Assoc.put, redact_cons, Assoc.put]
      by_cases same : own = key
      · simp [same, redact_cons]
      · simp [same, redact_cons, ih]

/-- So may writing several fields. -/
theorem redact_putAll (more p : List (String × Value)) :
    redact (Assoc.putAll p more) = Assoc.putAll (redact p) (redact more) := by
  induction more generalizing p with
  | nil => rfl
  | cons field more ih =>
      show redact (Assoc.putAll (Assoc.put field.1 field.2 p) more) = _
      rw [ih, redact_put]
      rfl

/-- So may leaving one out. -/
theorem redact_erase (key : String) (p : List (String × Value)) :
    redact (Assoc.erase key p) = Assoc.erase key (redact p) := by
  unfold Assoc.erase
  induction p with
  | nil => rfl
  | cons field rest ih =>
      obtain ⟨own, w⟩ := field
      rw [redact_cons, List.filter_cons, List.filter_cons]
      by_cases same : own = key
      · simp [same, ih]
      · simp [same, redact_cons, ih]

/-- What is found under a key is what was found there, redacted under this key. -/
theorem get?_redact (key : String) (p : List (String × Value)) :
    Assoc.get? key (redact p) = (Assoc.get? key p).map (redactUnder key) := by
  induction p with
  | nil => rfl
  | cons field rest ih =>
      obtain ⟨own, w⟩ := field
      rw [redact_cons, Assoc.get?, Assoc.get?]
      by_cases same : own = key
      · simp [same]
      · simp [same, ih]

/-- Redaction changes neither what kind of value a value is nor whether it is null. -/
theorem typeName_redactValue (v : Value) : (redactValue v).typeName = v.typeName := by
  cases v <;> rfl

theorem isNull_redactValue (v : Value) : (redactValue v).isNull = v.isNull := by
  cases v <;> rfl

/-! ### Payloads that are alike -/

mutual

/-- The values are the same, apart from what stands under secret keys.  Lists, tuples and sets are
compared item by item, so that a secret anywhere in them may differ. -/
inductive AlikeValue : Value → Value → Prop
  | same (v : Value) : AlikeValue v v
  | list {vs ws : List Value} : AlikeItems vs ws → AlikeValue (.list vs) (.list ws)
  | tuple {vs ws : List Value} : AlikeItems vs ws → AlikeValue (.tuple vs) (.tuple ws)
  | set {vs ws : List Value} : AlikeItems vs ws → AlikeValue (.set vs) (.set ws)
  | object {p q : List (String × Value)} : Alike p q → AlikeValue (.object p) (.object q)

/-- The items are the same one by one, apart from what stands under secret keys. -/
inductive AlikeItems : List Value → List Value → Prop
  | nil : AlikeItems [] []
  | cons {v w : Value} {vs ws : List Value} :
      AlikeValue v w → AlikeItems vs ws → AlikeItems (v :: vs) (w :: ws)

/-- The payloads are the same, apart from what stands under secret keys at any depth. -/
inductive Alike : List (String × Value) → List (String × Value) → Prop
  | nil : Alike [] []
  | secret {key : String} (v w : Value) {p q : List (String × Value)} :
      IsSecret key → Alike p q → Alike ((key, v) :: p) ((key, w) :: q)
  | shown (key : String) {v w : Value} {p q : List (String × Value)} :
      AlikeValue v w → Alike p q → Alike ((key, v) :: p) ((key, w) :: q)

end

/-- Every payload is alike to itself. -/
theorem Alike.refl : ∀ p : List (String × Value), Alike p p
  | [] => .nil
  | (key, v) :: rest => .shown key (.same v) (refl rest)

theorem AlikeItems.refl : ∀ vs : List Value, AlikeItems vs vs
  | [] => .nil
  | v :: rest => .cons (.same v) (refl rest)

/-! ### Secrets that are concealed -/

mutual

/-- Does no key in the value have a secret? -/
def SecretFree : Value → Prop
  | .list items | .tuple items | .set items => SecretFreeItems items
  | .object fields => SecretFreeFields fields
  | .null | .bool _ | .int _ | .text _ => True

/-- Does no key in the items have a secret? -/
def SecretFreeItems : List Value → Prop
  | [] => True
  | v :: rest => SecretFree v ∧ SecretFreeItems rest

/-- Does no key in the fields have a secret? -/
def SecretFreeFields : List (String × Value) → Prop
  | [] => True
  | (key, v) :: rest => (¬ IsSecret key ∧ SecretFree v) ∧ SecretFreeFields rest

end

mutual

/-- Are the secrets of the payload concealed?  Each of them stands under a key that is found out,
and nothing but dictionaries lies around it. -/
def Concealed : List (String × Value) → Prop
  | [] => True
  | (key, v) :: rest =>
      (isSensitive key = true ∨ ¬ IsSecret key ∧ ConcealedValue v) ∧ Concealed rest

/-- Are the secrets of the value concealed?  What is no dictionary must not have any. -/
def ConcealedValue : Value → Prop
  | .object fields => Concealed fields
  | v => SecretFree v

end

/-! ### Concealed payloads look alike -/

mutual

/-- Without secrets, to be alike is to be the same. -/
theorem SecretFree.eq : ∀ {v w : Value}, SecretFree v → AlikeValue v w → v = w
  | _, _, _, .same _ => rfl
  | .list _, _, free, .list alike => congrArg _ (SecretFreeItems.eq free alike)
  | .tuple _, _, free, .tuple alike => congrArg _ (SecretFreeItems.eq free alike)
  | .set _, _, free, .set alike => congrArg _ (SecretFreeItems.eq free alike)
  | .object _, _, free, .object alike => congrArg _ (SecretFreeFields.eq free alike)

theorem SecretFreeItems.eq : ∀ {vs ws : List Value},
    SecretFreeItems vs → AlikeItems vs ws → vs = ws
  | [], _, _, .nil => rfl
  | _ :: _, _, ⟨free, rest⟩, .cons alike more => by
      rw [SecretFree.eq free alike, SecretFreeItems.eq rest more]

theorem SecretFreeFields.eq : ∀ {p q : List (String × Value)},
    SecretFreeFields p → Alike p q → p = q
  | [], _, _, .nil => rfl
  | (_, _) :: _, _, ⟨⟨free, _⟩, _⟩, .secret _ _ secret _ => absurd secret free
  | (key, _) :: _, _, ⟨⟨_, free⟩, rest⟩, .shown _ alike more => by
      rw [SecretFree.eq free alike, SecretFreeFields.eq rest more]

end

mutual

/-- Concealed payloads are redacted as all that are alike to them. -/
theorem Concealed.redact_eq : ∀ {p q : List (String × Value)},
    Concealed p → Alike p q → redact p = redact q
  | [], _, _, .nil => rfl
  | (key, _) :: _, _, ⟨concealed, rest⟩, .secret _ _ secret more => by
      have found : isSensitive key = true := concealed.resolve_right fun free => free.1 secret
      rw [redact_cons, redact_cons, Concealed.redact_eq rest more, redactUnder_of_isSensitive found,
        redactUnder_of_isSensitive found]
  | (key, _) :: _, _, ⟨concealed, rest⟩, .shown _ alike more => by
      rw [redact_cons, redact_cons, Concealed.redact_eq rest more]
      obtain found | ⟨-, concealed⟩ := concealed
      · rw [redactUnder_of_isSensitive found, redactUnder_of_isSensitive found]
      · rw [redactUnder, redactUnder, ConcealedValue.redactValue_eq concealed alike]

theorem ConcealedValue.redactValue_eq : ∀ {v w : Value},
    ConcealedValue v → AlikeValue v w → redactValue v = redactValue w
  | _, _, _, .same _ => rfl
  | .object _, _, concealed, .object alike =>
      congrArg Value.object (Concealed.redact_eq concealed alike)
  | .list _, _, free, .list alike => congrArg redactValue (SecretFree.eq free (.list alike))
  | .tuple _, _, free, .tuple alike => congrArg redactValue (SecretFree.eq free (.tuple alike))
  | .set _, _, free, .set alike => congrArg redactValue (SecretFree.eq free (.set alike))

end

/-! ### Nothing else does -/

/-- No value is redacted as every other is.  So a secret whose key is not found out can be told from
some other one. -/
theorem exists_redactValue_ne (v : Value) : ∃ w, redactValue v ≠ redactValue w := by
  by_cases null : redactValue v = .null
  · exact ⟨.bool true, by rw [null]; rintro ⟨⟩⟩
  · exact ⟨.null, null⟩

mutual

/-- A value that is alike to itself alone has no secrets: what stands under a secret key could be
exchanged. -/
theorem secretFree_of_forall : ∀ {v : Value}, (∀ w, AlikeValue v w → v = w) → SecretFree v
  | .null, _ | .bool _, _ | .int _, _ | .text _, _ => trivial
  | .list _, only => secretFreeItems_of_forall fun _ alike => Value.list.inj (only _ (.list alike))
  | .tuple _, only =>
      secretFreeItems_of_forall fun _ alike => Value.tuple.inj (only _ (.tuple alike))
  | .set _, only => secretFreeItems_of_forall fun _ alike => Value.set.inj (only _ (.set alike))
  | .object _, only =>
      secretFreeFields_of_forall fun _ alike => Value.object.inj (only _ (.object alike))

theorem secretFreeItems_of_forall : ∀ {vs : List Value},
    (∀ ws, AlikeItems vs ws → vs = ws) → SecretFreeItems vs
  | [], _ => trivial
  | v :: rest, only =>
      ⟨secretFree_of_forall fun _ alike => (List.cons.inj (only _ (.cons alike (.refl rest)))).1,
        secretFreeItems_of_forall fun _ alike =>
          (List.cons.inj (only _ (.cons (.same v) alike))).2⟩

theorem secretFreeFields_of_forall : ∀ {p : List (String × Value)},
    (∀ q, Alike p q → p = q) → SecretFreeFields p
  | [], _ => trivial
  | (key, v) :: rest, only => by
      have head {w : Value} (alike : Alike ((key, v) :: rest) ((key, w) :: rest)) : v = w :=
        (Prod.mk.inj (List.cons.inj (only _ alike)).1).2
      refine ⟨⟨fun secret => ?_, secretFree_of_forall fun w alike =>
          head (.shown key alike (.refl rest))⟩,
        secretFreeFields_of_forall fun _ alike =>
          (List.cons.inj (only _ (.shown key (.same v) alike))).2⟩
      obtain ⟨w, other⟩ := exists_redactValue_ne v
      exact other (congrArg redactValue (head (.secret v w secret (.refl rest))))

end

mutual

/-- A payload that is redacted as every other that is alike has its secrets concealed.  For each of
its fields the others are kept, so that the hypothesis on the payload becomes one on the field. -/
theorem concealed_of_forall : ∀ {p : List (String × Value)},
    (∀ q, Alike p q → redact p = redact q) → Concealed p
  | [], _ => trivial
  | (key, v) :: rest, same => by
      have head {w : Value} (alike : Alike ((key, v) :: rest) ((key, w) :: rest)) :
          redactUnder key v = redactUnder key w :=
        (Prod.mk.inj (List.cons.inj (same _ alike)).1).2
      refine ⟨?_, concealed_of_forall fun _ alike =>
        (List.cons.inj (same _ (.shown key (.same v) alike))).2⟩
      cases found : isSensitive key with
      | true => exact .inl rfl
      | false =>
          simp only [redactUnder, found, Bool.false_eq_true, if_false] at head
          refine .inr ⟨fun secret => ?_, concealedValue_of_forall fun w alike =>
            head (.shown key alike (.refl rest))⟩
          obtain ⟨w, other⟩ := exists_redactValue_ne v
          exact other (head (.secret v w secret (.refl rest)))

theorem concealedValue_of_forall : ∀ {v : Value},
    (∀ w, AlikeValue v w → redactValue v = redactValue w) → ConcealedValue v
  | .object _, same =>
      concealed_of_forall fun _ alike => Value.object.inj (same _ (.object alike))
  | .list _, same => secretFreeItems_of_forall fun _ alike => Value.list.inj (same _ (.list alike))
  | .tuple _, same =>
      secretFreeItems_of_forall fun _ alike => Value.tuple.inj (same _ (.tuple alike))
  | .set _, same => secretFreeItems_of_forall fun _ alike => Value.set.inj (same _ (.set alike))
  | .null, _ | .bool _, _ | .int _, _ | .text _, _ => trivial

end

end Redaction

/-! ### Loggers -/

namespace Logger

open Redaction

variable {n : String} {bound bound' p q : List (String × Value)}

/-- Whether a field clashes with an argument of a call depends on the keys. -/
theorem clash?_congr (same : redact p = redact q) (call : String) (names : List String) :
    clash? call p names = clash? call q names := by
  rw [clash?, clash?, ← keys_redact p, same, keys_redact]

/-- An event shows of its fields what they are redacted to. -/
theorem event_congr (hbound : redact bound = redact bound') (same : redact p = redact q)
    (level : LogLevel) (name? : Option String) :
    event ⟨n, bound⟩ level name? p = event ⟨n, bound'⟩ level name? q := by
  cases name? <;>
    simp only [event, instructions, List.foldr_cons, List.foldr_nil, redact_put, redact_erase,
      redact_putAll, hbound, same]

/-- What is said of a record is known from the redacted fields. -/
theorem record?_congr (hbound : redact bound = redact bound') (same : redact p = redact q) :
    (record? ⟨n, bound⟩ p).map redactValue = (record? ⟨n, bound'⟩ q).map redactValue := by
  have shown : redactUnder "_record" = redactValue := funext fun v => rfl
  rw [record?, record?, ← shown, ← get?_redact, ← get?_redact, redact_putAll, redact_putAll, hbound,
    same]

/-- What a call complains of in a record is known from what the record is redacted to. -/
theorem complaint_congr {r r' : Option Value} (same : r.map redactValue = r'.map redactValue) :
    (r.filter (!·.isNull)).map Value.typeName = (r'.filter (!·.isNull)).map Value.typeName := by
  match r, r', same with
  | none, none, _ => rfl
  | some v, some w, same =>
      have shown : redactValue v = redactValue w := Option.some.inj same
      have null : v.isNull = w.isNull := by
        rw [← isNull_redactValue, shown, isNull_redactValue]
      have type : v.typeName = w.typeName := by
        rw [← typeName_redactValue, shown, typeName_redactValue]
      cases h : w.isNull <;> simp [Option.filter, null, h, type]

/-- **A call on a logger shows of the fields what they are redacted to**, whether it makes an event
or fails.  Fields may be bound to the logger or given to the call. -/
theorem log_congr (hbound : redact bound = redact bound') (same : redact p = redact q)
    (call : String) (name? : Option String) :
    log ⟨n, bound⟩ call name? p = log ⟨n, bound'⟩ call name? q := by
  have complaint := complaint_congr (record?_congr (n := n) hbound same)
  unfold log
  simp only [clash?_congr same, event_congr hbound same]
  generalize (record? ⟨n, bound⟩ p).filter (!·.isNull) = r at complaint ⊢
  generalize (record? ⟨n, bound'⟩ q).filter (!·.isNull) = r' at complaint ⊢
  match r, r', complaint with
  | none, none, _ => rfl
  | some v, some w, complaint =>
      have type : v.typeName = w.typeName := Option.some.inj complaint
      simp only [type]

end Logger

/-! ### What can be told apart -/

namespace Redaction

/-- Nothing that is logged tells the payloads apart: they are redacted to the same, and where one
of them is logged, or bound to a logger, the other makes the same events and the same errors. -/
structure Indistinct (p q : List (String × Value)) : Prop where
  redact_eq : redact p = redact q
  log_eq : ∀ name call name?,
    (Logger.named name).log call name? p = (Logger.named name).log call name? q
  bind_eq : ∀ {fields fields' : List (String × Value)}, redact fields = redact fields' →
    ∀ call name?, ((Logger.withContext p) >>= fun logger => logger.log call name? fields) =
      (Logger.withContext q) >>= fun logger => logger.log call name? fields'

/-- It is enough that the payloads are redacted to the same. -/
theorem Indistinct.of_redact_eq {p q : List (String × Value)} (same : redact p = redact q) :
    Indistinct p q where
  redact_eq := same
  log_eq := fun _ => Logger.log_congr rfl same
  bind_eq := by
    intro fields fields' fields_eq call name?
    rw [Logger.withContext, Logger.withContext, Logger.clash?_congr same]
    cases Logger.clash? "BoundLoggerLazyProxy.bind" q ["self"] with
    | some e => rfl
    | none => exact Logger.log_congr same fields_eq call name?

/-- **What the log conceals.**  A payload cannot be told from those that differ from it in secrets
only, at any depth, exactly if each of its secrets stands under a key that is found out and within
dictionaries only.  Of the secret keys, those are found out that are one line or have one of the
words in their first line. -/
theorem indistinct_iff_concealed (p : List (String × Value)) :
    ((∀ q, Alike p q → Indistinct p q) ↔ Concealed p) ∧
      ∀ key, IsSecret key → (isSensitive key = true ↔
        '\n' ∉ key.toList ∨ ∃ word ∈ sensitiveWords, word.toList <:+: firstLine key) :=
  ⟨⟨fun same => concealed_of_forall fun q alike => (same q alike).redact_eq,
    fun concealed _ alike => .of_redact_eq (concealed.redact_eq alike)⟩,
    fun _ => isSensitive_iff_of_isSecret⟩

/-- Users in a list, each with a password. -/
def users (passwords : List String) : List (String × Value) :=
  [("users", .list (passwords.map fun password => .object [("password", .text password)]))]

/-- The passwords in a list can be told from others, and so can what stands under a key whose
second line has the word. -/
theorem indistinct_iff_concealed_sample :
    Alike (users ["hunter2"]) (users ["swordfish"]) ∧
      redact (users ["hunter2"]) = users ["hunter2"] ∧
      ¬ (∀ q, Alike (users ["hunter2"]) q → Indistinct (users ["hunter2"]) q) ∧
      IsSecret "a\npassword" ∧ ¬ isSensitive "a\npassword" = true := by
  have secret : IsSecret "password" := .inl ⟨"password", by decide, ⟨[], [], rfl⟩⟩
  have second : IsSecret "a\npassword" := .inl ⟨"password", by decide, ⟨['a', '\n'], [], rfl⟩⟩
  refine ⟨.shown _ (.list (.cons (.object (.secret _ _ secret .nil)) .nil)) .nil, rfl, ?_, second,
    ?_⟩
  · rw [(indistinct_iff_concealed _).1]
    rintro ⟨found | ⟨-, free, -⟩, -⟩
    · exact absurd found (by decide)
    · exact free.1.1 secret
  · rw [(indistinct_iff_concealed []).2 _ second]
    decide

end Redaction

end BoundSql
