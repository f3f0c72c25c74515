import Mathlib.Data.List.Induction
import Mathlib.Data.List.Nodup
import BoundSql.Assoc

/-!
# What ordered dictionaries hold

Laws of writing and reading dictionaries that the theorems about parameters need: what a write can
bring in, what a look-up can find, and what a run of writes leaves behind.

A dictionary is a list of entries, and the order of its entries is that of the first writes.  Two
questions have to be kept apart therefore.  What is found under a key is decided by the last write
of it (`Assoc.get?_putAll`); where the key stands is decided by the first (`Assoc.keys_putAll`).  A
theorem that compares two ways of filling a dictionary, one entry at a time and in runs for example,
needs both.

Where no key is written twice the two questions fall together, and a run of writes is the list that
it was given (`Assoc.putAll_of_nodup`).  That is the case for numbered parameters; it is not for
parameters that are named by property, and this is where the theorems about those begin to be about
more than order.

* `Assoc.get?_putAll`, `Assoc.get?_foldl_putAll` : of several writes of a key the last counts.
* `Assoc.keys_putAll`, `Assoc.keys_foldl_putAll` : the keys depend on the keys written only.
* `Assoc.putAll_of_nodup` : where every key is new, writing is appending.
-/

namespace BoundSql.Assoc

variable {κ ν : Type} [BEq κ]

/-- A write brings in the value written, and nothing else.  The key is not said to be the one
written, because an entry that is found keeps the key it has. -/
theorem mem_put {key : κ} {value : ν} {entry : κ × ν} {entries : Assoc κ ν}
    (mem : entry ∈ put key value entries) : entry ∈ entries ∨ entry.2 = value := by
  induction entries with
  | nil =>
      rw [put, List.mem_singleton] at mem
      exact .inr (congrArg Prod.snd mem)
  | cons first rest ih =>
      rw [put] at mem
      split at mem
      · rcases List.mem_cons.mp mem with rfl | mem
        · exact .inr rfl
        · exact .inl (.tail _ mem)
      · rcases List.mem_cons.mp mem with rfl | mem
        · exact .inl List.mem_cons_self
        · exact (ih mem).imp_left (.tail _)

/-- Of entries in a row, the first under a key is found. -/
theorem get?_append (key : κ) (entries more : Assoc κ ν) :
    get? key (entries ++ more) = (get? key entries).or (get? key more) := by
  induction entries with
  | nil => rfl
  | cons first rest ih =>
      rw [List.cons_append, get?, get?, ih]
      split <;> rfl

variable [LawfulBEq κ]

/-- What is found stands in the dictionary under its key. -/
theorem mem_of_get? {key : κ} {value : ν} {entries : Assoc κ ν}
    (found : get? key entries = some value) : (key, value) ∈ entries := by
  induction entries with
  | nil => cases found
  | cons first rest ih =>
      rw [get?] at found
      split at found
      next same =>
        rw [← Option.some.inj found, ← eq_of_beq same]
        exact List.mem_cons_self
      next => exact .tail _ (ih found)

/-- A key is among the keys exactly when something is found under it. -/
theorem mem_keys_iff {key : κ} {entries : Assoc κ ν} :
    key ∈ keys entries ↔ ∃ value, get? key entries = some value := by
  induction entries with
  | nil => simp [keys, get?]
  | cons first rest ih =>
      simp only [keys] at ih
      rw [keys, List.map_cons, List.mem_cons, ih, get?]
      by_cases same : first.1 = key
      · simp [same]
      · simp [same, Ne.symm same]

/-- **Of several writes of a key the last counts**, and without one the key is left as it was.  The
writes are searched backwards, since a look-up finds the first entry. -/
theorem get?_putAll (key : κ) (entries more : Assoc κ ν) :
    get? key (putAll entries more) = (get? key more.reverse).or (get? key entries) := by
  induction more generalizing entries with
  | nil => rfl
  | cons entry more ih =>
      -- the first write counts only if none of the others writes its key
      show get? key (putAll (put entry.1 entry.2 entries) more) = _
      rw [ih, List.reverse_cons, get?_append, Option.or_assoc]
      congr 1
      by_cases same : entry.1 = key
      · rw [← same, get?_put_self]
        simp [get?]
      · rw [get?_put_of_ne (Ne.symm same)]
        simp [get?, same]

/-- Under different keys the order of the entries makes no difference. -/
theorem get?_reverse {entries : Assoc κ ν} (different : (keys entries).Nodup) (key : κ) :
    get? key entries.reverse = get? key entries := by
  induction entries with
  | nil => rfl
  | cons first rest ih =>
      rw [keys, List.map_cons, List.nodup_cons] at different
      rw [List.reverse_cons, get?_append, ih different.2, get?]
      by_cases same : first.1 = key
      · have absent : get? key rest = none := by
          rw [Option.eq_none_iff_forall_ne_some]
          rintro value found
          exact different.1 (same ▸ mem_keys_iff.mpr ⟨value, found⟩)
        simp [same, absent, get?]
      · simp [same, get?]

/-- Writing the same keys leaves the same keys, whatever the values are. -/
theorem keys_putAll {more more' : Assoc κ ν}
    (same : keys more = keys more') : ∀ {entries entries' : Assoc κ ν},
      keys entries = keys entries' → keys (putAll entries more) = keys (putAll entries' more') := by
  induction more generalizing more' with
  | nil =>
      intro entries entries' before
      rw [show more' = [] from List.map_eq_nil_iff.mp same.symm]
      exact before
  | cons entry more ih =>
      intro entries entries' before
      cases more' with
      | nil => cases same
      | cons entry' more' =>
          obtain ⟨first, rest⟩ := List.cons.inj same
          refine ih rest ?_
          rw [keys_put, keys_put, first, before]

/-- Writing never makes a second entry of a key. -/
theorem nodup_keys_putAll {entries : Assoc κ ν} (different : (keys entries).Nodup)
    (more : Assoc κ ν) : (keys (putAll entries more)).Nodup := by
  induction more generalizing entries with
  | nil => exact different
  | cons entry more ih =>
      refine ih (?_ : (keys (put entry.1 entry.2 entries)).Nodup)
      rw [keys_put]
      split
      next => exact different
      next new =>
        refine List.nodup_append.mpr ⟨different, List.nodup_singleton _, ?_⟩
        intro other mem added hadded same
        rw [List.mem_singleton.mp hadded] at same
        exact new (same ▸ mem)

/-- The keys are those that were there and those that are written. -/
theorem mem_keys_putAll {key : κ} {entries more : Assoc κ ν} :
    key ∈ keys (putAll entries more) ↔ key ∈ keys entries ∨ key ∈ keys more := by
  induction more generalizing entries with
  | nil => exact (or_iff_left List.not_mem_nil).symm
  | cons entry more ih =>
      show key ∈ keys (putAll (put entry.1 entry.2 entries) more) ↔ _
      rw [ih, keys_put, keys, keys, keys, List.map_cons, List.mem_cons, ← or_assoc]
      refine or_congr_left ?_
      split
      next old => exact ⟨.inl, fun mem => mem.elim id fun same => same ▸ old⟩
      next => rw [List.mem_append, List.mem_singleton]

/-- The keys of several runs of writes. -/
theorem mem_keys_foldl_putAll {key : κ} {runs : List (Assoc κ ν)} {entries : Assoc κ ν} :
    key ∈ keys (runs.foldl putAll entries) ↔
      key ∈ keys entries ∨ ∃ run ∈ runs, key ∈ keys run := by
  induction runs generalizing entries with
  | nil => simp
  | cons run runs ih =>
      rw [List.foldl_cons, ih, mem_keys_putAll, or_assoc]
      simp [List.mem_cons]

/-- Of several runs of writes, the last one that writes a key counts.  Within a run no key may be
written twice: then the run can be searched as a dictionary. -/
theorem get?_foldl_putAll (key : κ) {runs : List (Assoc κ ν)}
    (different : ∀ run ∈ runs, (keys run).Nodup) (entries : Assoc κ ν) :
    get? key (runs.foldl putAll entries) =
      (runs.reverse.findSome? (get? key)).or (get? key entries) := by
  induction runs generalizing entries with
  | nil => rfl
  | cons run runs ih =>
      rw [List.foldl_cons, ih fun run mem => different run (.tail _ mem), get?_putAll,
        get?_reverse (different run List.mem_cons_self), List.reverse_cons,
        List.findSome?_append, Option.or_assoc]
      simp

/-- A new key is written behind the others. -/
theorem put_of_notMem {key : κ} {value : ν} {entries : Assoc κ ν} (new : key ∉ keys entries) :
    put key value entries = entries ++ [(key, value)] := by
  induction entries with
  | nil => rfl
  | cons first rest ih =>
      simp only [keys, List.map_cons, List.mem_cons, not_or] at new
      have other : (first.1 == key) = false := beq_eq_false_iff_ne.mpr (Ne.symm new.1)
      rw [put, other, if_neg Bool.false_ne_true, ih new.2, List.cons_append]

/-- Writing entries with new and different keys appends them. -/
theorem putAll_of_nodup {entries more : Assoc κ ν} (different : (keys (entries ++ more)).Nodup) :
    putAll entries more = entries ++ more := by
  induction more generalizing entries with
  | nil => rw [List.append_nil]; rfl
  | cons entry more ih =>
      have new : entry.1 ∉ keys entries := by
        intro mem
        rw [keys, List.map_append, List.nodup_append] at different
        exact different.2.2 _ mem _ (by simp) rfl
      rw [List.append_cons] at different
      show putAll (put entry.1 entry.2 entries) more = _
      rw [put_of_notMem new, ih different, ← List.append_cons]

/-- Writing what a run of writes has made leaves the same keys as the run does. -/
theorem keys_putAll_putAll (entries more : Assoc κ ν) :
    keys (putAll entries (putAll [] more)) = keys (putAll entries more) := by
  have snoc (before run : Assoc κ ν) (last : κ × ν) :
      putAll before (run ++ [last]) = put last.1 last.2 (putAll before run) :=
    List.foldl_append ..
  induction more using List.reverseRecOn with
  | nil => rfl
  | append_singleton more last ih =>
      rw [snoc, snoc]
      by_cases old : last.1 ∈ keys (putAll [] more)
      · have same : keys (put last.1 last.2 (putAll [] more)) = keys (putAll [] more) := by
          rw [keys_put, if_pos old]
        have known : last.1 ∈ keys (putAll entries more) :=
          ih ▸ mem_keys_putAll.mpr (.inr old)
        rw [keys_putAll same rfl, ih, keys_put, if_pos known]
      · rw [put_of_notMem old, snoc, keys_put, keys_put, ih]

/-- The keys of several runs of writes are those of one run. -/
theorem keys_foldl_putAll {runs made : List (Assoc κ ν)}
    (h : List.Forall₂ (fun run entries => run = putAll [] entries) runs made)
    {entries entries' : Assoc κ ν} (same : keys entries = keys entries') :
    keys (runs.foldl putAll entries) = keys (putAll entries' made.flatten) := by
  induction h generalizing entries entries' with
  | nil => exact same
  | cons first _ ih =>
      rw [List.foldl_cons, first, ih ((keys_putAll_putAll ..).trans (keys_putAll rfl same)),
        List.flatten_cons]
      exact congrArg keys (List.foldl_append ..).symm

end BoundSql.Assoc
