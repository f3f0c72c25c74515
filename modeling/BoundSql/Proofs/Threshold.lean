import BoundSql.Log.Event
import BoundSql.Proofs.Assoc
import BoundSql.Proofs.UpperCase

/-!
# The level in force

The level in force is that of the settings, and where these cannot be read, that of the variable
`LOG_LEVEL`.  The settings cannot be read when a setting of this library's own is given a value that
is none of its, and such a value should cost no more than itself: the same level should be in force.
The two ways of reading the level differ, though.  The settings know the variable in any letter
case, and what stands in for them knows it in capitals only.

## What is compared

Two environments agree elsewhere if they differ in nothing but the library's own settings
(`Environment.AgreeElsewhere`).  Among the environments that agree with a given one, there are
always some with which settings can be read, for instance the one without any of the library's own,
and some with which they cannot.  So the level is the same in all of them exactly if the two ways of
reading it give the same (`Environment.agrees_iff_levels`), and the library's own settings drop out
of the question.

## What is assumed

A variable may be given under several spellings at once, and then even the order of the environment
plays a role.  The main result is about environments that give the level under at most one spelling.
There it is exact: the level is the same if the spelling is in capitals, or if the value means what
is meant without one, and else it is not.

No environment file is looked at.  It would be read together with the settings, and not at all by
what stands in for them.

* `Environment.AgreeElsewhere` : environments that differ in the library's own settings only.
* `Environment.readable_iff` : the values with which settings can be read.
* `Environment.inForce_of_readable`, `Environment.inForce_of_not_readable` : the two ways.
* `Environment.inForce_agrees_iff` : where both ways agree.
-/

namespace BoundSql.Environment

open Settings Text

/-! ### Variables -/

/-- Does a variable bear the name of a setting, in any letter case? -/
def bears (name : String) (v : String × String) : Bool := v.1.toLower == name.toLower

/-- The variables for the settings of this library's own. -/
def ownNames : List String := ["DSQL_DIALECT", "DSQL_LOG_STATEMENTS", "DSQL_SQL_ECHO"]

/-- Is a variable one for the library's own settings? -/
def isOwn (v : String × String) : Bool := ownNames.any (bears · v)

/-- The environments differ in the library's own settings only: in which of them there are, under
which spelling, where, and with which values. -/
def AgreeElsewhere (e e' : Environment) : Prop := e.filter (!isOwn ·) = e'.filter (!isOwn ·)

/-- The variables that give the level, under whatever spelling. -/
def spellings (e : Environment) : List (String × String) := e.filter (bears "LOG_LEVEL")

variable {e e' : Environment} {name : String} {v : String × String}

/-- The level is no setting of the library's own, so it is never among what may differ. -/
theorem isOwn_of_bears (named : bears name v = true) (level : name.toLower = "log_level") :
    isOwn v = false := by
  have apart : ∀ own ∈ ownNames, ("log_level" == own.toLower) = false := by decide +kernel
  simp only [bears, beq_iff_eq] at named
  simpa [isOwn, bears, named, level] using apart

/-- Leaving out the library's own settings leaves the level as it is given. -/
theorem spellings_filter (e : Environment) : spellings (e.filter (!isOwn ·)) = spellings e := by
  rw [spellings, List.filter_filter]
  refine List.filter_congr fun v _ => ?_
  have small : "LOG_LEVEL".toLower = "log_level" :=
    String.toList_inj.mp ((toList_toLower _).trans (by decide))
  by_cases level : bears "LOG_LEVEL" v = true
  · simp [level, isOwn_of_bears level small]
  · simp [level]

theorem AgreeElsewhere.spellings_eq (agree : AgreeElsewhere e e') : spellings e = spellings e' := by
  rw [← spellings_filter e, agree, spellings_filter]

/-- A variable is read as the last one that bears its name in any letter case.  This is how settings
are read. -/
theorem lookup?_eq_getLast? (name : String) (e : Environment) :
    lookup? name e = (e.filter (bears name)).getLast?.map (·.2) := by
  rw [lookup?, named?, ← List.head?_filter, List.filter_reverse, List.head?_reverse]
  rfl

/-- A variable is read as the first one that bears its very name.  This is how it is read without
settings. -/
theorem get?_eq_find? (name : String) (e : Environment) :
    Assoc.get? name e = ((e.filter (bears name)).find? (·.1 == name)).map (·.2) := by
  rw [List.find?_filter]
  induction e with
  | nil => rfl
  | cons v e ih =>
    by_cases found : v.1 = name
    · simp [Assoc.get?, bears, found]
    · simp [Assoc.get?, found, ih]

/-! ### Readable settings -/

/-- The settings can be read from an environment, where there is no environment file. -/
def Readable (e : Environment) : Prop := ∃ s, Settings.load { environment := e } = .ok s

/-- Without a file a setting has the value of its variable. -/
theorem value?_environment (name envName : String) (e : Environment) :
    Sources.value? { environment := e } name envName = (lookup? envName e).map .text := by
  have absent : EnvFile.assigned e "" = [] := rfl
  simp [Sources.value?, absent, named?, lookup?]

theorem setting_readText (name envName default : String) (e : Environment) :
    setting { environment := e } name envName default readText =
      .ok ((lookup? envName e).getD default) := by
  rw [setting, value?_environment]
  cases lookup? envName e <;> rfl

/-- A setting is accepted when it has a value of its kind or none. -/
theorem exists_setting_iff {α : Type} (name envName : String) (default : α)
    (read : Value → Except SettingFault α) (e : Environment) :
    (∃ a, setting { environment := e } name envName default read = .ok a) ↔
      ∀ s ∈ lookup? envName e, ∃ a, read (.text s) = .ok a := by
  rw [setting, value?_environment]
  cases lookup? envName e with
  | none => simp
  | some s => cases accepted : read (.text s) <;> simp [accepted, Except.mapError]

/-- **Settings can be read** when each of the library's own has a value of its kind or none.  The
level is not among the conditions, since any text is accepted for it. -/
theorem readable_iff :
    Readable e ↔
      (∀ s ∈ lookup? "DSQL_DIALECT" e, ∃ d, readDialect (.text s) = .ok d) ∧
      (∀ s ∈ lookup? "DSQL_LOG_STATEMENTS" e, ∃ b, readBool (.text s) = .ok b) ∧
      (∀ s ∈ lookup? "DSQL_SQL_ECHO" e, ∃ b, readBool (.text s) = .ok b) := by
  rw [← exists_setting_iff "dialect" _ Dialect.generic,
    ← exists_setting_iff "log_statements" _ false, ← exists_setting_iff "sql_echo" _ false,
    Readable, load, setting_readText, setting_readText]
  generalize setting _ "dialect" _ _ _ = dialect
  generalize setting _ "log_statements" _ _ _ = logged
  generalize setting _ "sql_echo" _ _ _ = echoed
  cases dialect <;> cases logged <;> cases echoed <;> simp

/-! ### The level in force -/

/-- The level in force in an environment, where there is no environment file. -/
def inForce (e : Environment) : Threshold := threshold (Settings.load { environment := e }) e

theorem level_of_load {s : Settings} (loaded : Settings.load { environment := e } = .ok s) :
    s.logLevel = upperCase ((lookup? "LOG_LEVEL" e).getD "INFO") := by
  rw [load, setting_readText] at loaded
  split at loaded
  next level _ _ _ _ given _ _ _ _ =>
    cases loaded
    exact (Except.ok.inj given).symm
  next => cases loaded

/-- With readable settings the level is the last one given, under whatever spelling. -/
theorem inForce_of_readable (readable : Readable e) :
    inForce e = .ofName (upperCase ((lookup? "LOG_LEVEL" e).getD "INFO")) := by
  obtain ⟨s, loaded⟩ := readable
  rw [inForce, loaded, threshold, level_of_load loaded, upperCase_upperCase]

/-- Without them it is the one that is given in capitals. -/
theorem inForce_of_not_readable (unreadable : ¬ Readable e) :
    inForce e = .ofName (upperCase ((Assoc.get? "LOG_LEVEL" e).getD "INFO")) := by
  rw [inForce]
  cases loaded : Settings.load { environment := e } with
  | ok s => exact absurd ⟨s, loaded⟩ unreadable
  | error e => rfl

/-! ### Where both ways agree -/

theorem AgreeElsewhere.lookup?_eq (agree : AgreeElsewhere e e') :
    lookup? "LOG_LEVEL" e' = lookup? "LOG_LEVEL" e := by
  rw [lookup?_eq_getLast?, lookup?_eq_getLast?, ← spellings, ← spellings, agree.spellings_eq]

theorem AgreeElsewhere.get?_eq (agree : AgreeElsewhere e e') :
    Assoc.get? "LOG_LEVEL" e' = Assoc.get? "LOG_LEVEL" e := by
  rw [get?_eq_find?, get?_eq_find?, ← spellings, ← spellings, agree.spellings_eq]

/-- Without the library's own settings an environment is readable, because each of them has a
default. -/
theorem readable_filter (e : Environment) : Readable (e.filter (!isOwn ·)) := by
  have dropped : ∀ name ∈ ownNames, lookup? name (e.filter (!isOwn ·)) = none := by
    intro name own
    rw [lookup?_eq_getLast?, List.filter_filter, List.filter_eq_nil_iff.mpr]
    · rfl
    · intro v _ kept
      obtain ⟨named, foreign⟩ := Bool.and_eq_true_iff.mp kept
      rw [isOwn, List.any_eq_true.mpr ⟨name, own, named⟩] at foreign
      cases foreign
  rw [readable_iff, dropped _ (by decide), dropped _ (by decide), dropped _ (by decide)]
  simp

/-- With a dialect that is none an environment is not readable. -/
theorem not_readable_append (e : Environment) : ¬ Readable (e ++ [("DSQL_DIALECT", "oracle")]) := by
  intro readable
  have given : lookup? "DSQL_DIALECT" (e ++ [("DSQL_DIALECT", "oracle")]) = some "oracle" := by
    simp [lookup?_eq_getLast?, bears]
  obtain ⟨d, read⟩ := (readable_iff.mp readable).1 _ given
  have refused : readDialect (.text "oracle") = .error .notADialect := rfl
  rw [refused] at read
  cases read

theorem agreeElsewhere_filter (e : Environment) : AgreeElsewhere e (e.filter (!isOwn ·)) := by
  rw [AgreeElsewhere, List.filter_filter]
  simp

theorem agreeElsewhere_append (own : isOwn v = true) : AgreeElsewhere e (e ++ [v]) := by
  simp [AgreeElsewhere, own]

/-- The own settings make no difference just when both ways of reading the level agree: every
environment has variants that are read either way. -/
theorem agrees_iff_levels :
    (∀ e₁ e₂, AgreeElsewhere e e₁ → AgreeElsewhere e e₂ → inForce e₁ = inForce e₂) ↔
      Threshold.ofName (upperCase ((lookup? "LOG_LEVEL" e).getD "INFO")) =
        .ofName (upperCase ((Assoc.get? "LOG_LEVEL" e).getD "INFO")) := by
  constructor
  · intro agrees
    have valid := agreeElsewhere_filter e
    have invalid : AgreeElsewhere e (e ++ [("DSQL_DIALECT", "oracle")]) :=
      agreeElsewhere_append (by simp [isOwn, ownNames, bears])
    have same := agrees _ _ valid invalid
    rwa [inForce_of_readable (readable_filter e), valid.lookup?_eq,
      inForce_of_not_readable (not_readable_append e), invalid.get?_eq] at same
  · intro same
    have level : ∀ e', AgreeElsewhere e e' →
        inForce e' = .ofName (upperCase ((lookup? "LOG_LEVEL" e).getD "INFO")) := by
      intro e' agree
      by_cases readable : Readable e'
      · rw [inForce_of_readable readable, agree.lookup?_eq]
      · rw [inForce_of_not_readable readable, agree.get?_eq, same]
    intro e₁ e₂ agree₁ agree₂
    rw [level e₁ agree₁, level e₂ agree₂]

/-- **Where both ways of reading the level agree.**  When the level is given under at most one
spelling, the library's own settings make no difference to the level in force just when that
spelling is in capitals or the value means what no value means.  Readable settings have the value
under whatever spelling, and otherwise it counts under the spelling in capitals only. -/
theorem inForce_agrees_iff (once : (spellings e).length ≤ 1) :
    ((∀ e₁ e₂, AgreeElsewhere e e₁ → AgreeElsewhere e e₂ → inForce e₁ = inForce e₂) ↔
      ∀ v ∈ spellings e, v.1 = "LOG_LEVEL" ∨
        Threshold.ofName (upperCase v.2) = Threshold.ofName "INFO") ∧
    ∀ e', AgreeElsewhere e e' →
      (Readable e' → inForce e' = Threshold.ofName
        (upperCase (((spellings e).head?.map (·.2)).getD "INFO"))) ∧
      (¬ Readable e' → inForce e' = Threshold.ofName
        (upperCase ((((spellings e).find? (·.1 == "LOG_LEVEL")).map (·.2)).getD "INFO"))) := by
  have bySettings : lookup? "LOG_LEVEL" e = (spellings e).head?.map (·.2) := by
    rw [lookup?_eq_getLast?, ← spellings]
    generalize spellings e = found at once
    match found, once with
    | [], _ | [v], _ => rfl
  have byFallback : Assoc.get? "LOG_LEVEL" e =
      ((spellings e).find? (·.1 == "LOG_LEVEL")).map (·.2) := get?_eq_find? _ e
  have capitals : upperCase "INFO" = "INFO" := rfl
  refine ⟨?_, fun e' agree => ⟨fun readable => ?_, fun unreadable => ?_⟩⟩
  · rw [agrees_iff_levels, bySettings, byFallback]
    generalize spellings e = found at once
    match found, once with
    | [], _ => simp
    | [v], _ => by_cases exact : v.1 = "LOG_LEVEL" <;> simp [exact, capitals]
  · rw [inForce_of_readable readable, agree.lookup?_eq, bySettings]
  · rw [inForce_of_not_readable unreadable, agree.get?_eq, byFallback]

/-- In small letters the variable is lost on what stands in for the settings. -/
theorem inForce_agrees_iff_sample :
    (spellings [("log_level", "debug")]).length ≤ 1 ∧
      ¬ (∀ e₁ e₂, AgreeElsewhere [("log_level", "debug")] e₁ →
        AgreeElsewhere [("log_level", "debug")] e₂ → inForce e₁ = inForce e₂) := by
  have same : "log_level".toLower = "LOG_LEVEL".toLower := toLower_eq_iff.mpr (by decide)
  have spelled : spellings [("log_level", "debug")] = [("log_level", "debug")] := by
    simp [spellings, bears, same]
  have once : (spellings [("log_level", "debug")]).length ≤ 1 := by rw [spelled]; decide
  refine ⟨once, fun agrees => ?_⟩
  have means := (inForce_agrees_iff once).1.mp agrees ("log_level", "debug") (by simp [spelled])
  revert means
  decide +kernel

end BoundSql.Environment
