import BoundSql.Executor
import BoundSql.Proofs.Action
import BoundSql.Proofs.Assoc

/-!
# Writing records

Writing a property of a record changes this property and nothing else: what can be read of the
record besides, its kind, what it declares and the order of its entries stay as they are.  Records
are held by reference, and writing one of them leaves the others alone.

That a write changes nothing else is said by taking the property away on both sides,
`Record.without`, and not by saying for every other property that it is read as before.  The second
would leave out what cannot be read as a property: a mapping can have keys that are no texts, and an
object declares properties that it does not have.

A loop that writes keys into records is described once, for all of its uses, by
`Records.forM_write`.  What a round does is a relation between the record before and after it.  The
records that the rounds write have to be different ones; otherwise a round would find a record that
an earlier round has changed, and the relation would have to be followed from round to round.

* `Record.without` : a record without one of its properties.
* `Record.get_of_set`, `Record.without_of_set` : what a write changes, and what it does not.
* `Records.forM_write` : what a loop does that writes different records.
-/

namespace BoundSql

namespace Assoc

variable {κ ν : Type} [BEq κ]

/-- A write changes nothing but the entry of its key. -/
theorem erase_put [ReflBEq κ] (key : κ) (value : ν) (entries : Assoc κ ν) :
    erase key (put key value entries) = erase key entries := by
  induction entries with
  | nil => simp [put, erase]
  | cons entry rest ih =>
      unfold erase at ih ⊢
      rw [put, List.filter_cons]
      by_cases h : entry.1 == key
      · simp [h]
      · simp [h, ih]

/-- What is removed under one key is not found under another.  Keys count as the same by their own
comparison, which need not be that of their forms, and so the difference is asked for in its
terms. -/
theorem get?_erase {key other : κ} (different : ∀ k : κ, k == key → ¬ k == other)
    (entries : Assoc κ ν) : get? other (erase key entries) = get? other entries := by
  induction entries with
  | nil => rfl
  | cons entry rest ih =>
      unfold erase at ih ⊢
      rw [List.filter_cons]
      by_cases h : entry.1 == key
      · simp [h, get?, different _ h, ih]
      · simp [h, get?, ih]

end Assoc

namespace Key

instance : ReflBEq Key := ⟨fun {k} => beq_self_eq_true k.atom⟩

/-- A text key counts as no other key.  Of numbers this is not so: a truth value and the number that
it counts as are one key. -/
theorem eq_of_beq_text {k : Key} {name : String} (same : k == text name) : k = text name := by
  have same : (k.atom == Atom.text name) = true := same
  have atoms : k.atom = .text name := eq_of_beq same
  cases k <;> simp_all [atom]

end Key

namespace Record

variable {r r' : Record} {name : String} {v : Value}

/-- A record without one of its properties. -/
def without (name : String) : Record → Record
  | mapping entries => mapping (Assoc.erase (.text name) entries)
  | object kind declared attributes => object kind declared (Assoc.erase name attributes)
  | bare v => bare v

/-- A property that is written is read back, wherever it was before: in the entries of a mapping, or
among the attributes of an object. -/
theorem get_of_set (written : r.set name v = .ok r') : r'.get name = .ok v := by
  cases r with
  | mapping entries =>
      obtain rfl := Except.ok.inj written
      simp only [get, Assoc.get?_put_self]
  | object kind declared attributes =>
      rw [set] at written
      split at written
      · cases written
      · obtain rfl := Except.ok.inj written
        simp only [get, Assoc.get?_put_self]
  | bare w => cases written

/-- A write changes nothing but the property. -/
theorem without_of_set (written : r.set name v = .ok r') : r'.without name = r.without name := by
  cases r with
  | mapping entries =>
      obtain rfl := Except.ok.inj written
      rw [without, without, Assoc.erase_put]
  | object kind declared attributes =>
      rw [set] at written
      split at written
      · cases written
      · obtain rfl := Except.ok.inj written
        rw [without, without, Assoc.erase_put]
  | bare w => cases written

/-- The other properties of a record are read without the one. -/
theorem get_without {other : String} (different : other ≠ name) (r : Record) :
    (r.without name).get other = r.get other := by
  cases r with
  | mapping entries =>
      have apart (k : Key) (same : k == .text name) : ¬ k == .text other := fun same' =>
        different (Key.text.inj ((Key.eq_of_beq_text same').symm.trans (Key.eq_of_beq_text same)))
      simp only [without, get, Assoc.get?_erase apart]
  | object kind declared attributes =>
      have apart (k : String) (same : k == name) : ¬ k == other := fun same' =>
        different ((eq_of_beq same').symm.trans (eq_of_beq same))
      simp only [without, get, Assoc.get?_erase apart]
      rfl
  | bare w => rfl

end Record

namespace Records

variable {records : Records} {id : RecordId}

/-- The record that is written is found in its place.  A place that is none of the records cannot be
written. -/
theorem at_set_self (known : id < records.length) (r : Record) :
    Records.at (records.set id r) id = r := by
  rw [Records.at, List.getElem?_set_self known]
  rfl

theorem at_set_of_ne {other : RecordId} (different : other ≠ id) (r : Record) :
    Records.at (records.set id r) other = records.at other := by
  rw [Records.at, Records.at, List.getElem?_set_ne (Ne.symm different)]

/-- Records of the same number that are the same at every place are the same. -/
theorem ext_at {records' : Records} (length : records'.length = records.length)
    (same : ∀ id < records.length, records'.at id = records.at id) : records' = records := by
  refine List.ext_getElem length fun id before known => ?_
  have here := same id known
  rw [Records.at, Records.at, List.getElem?_eq_getElem before,
    List.getElem?_eq_getElem known] at here
  exact here

/-- **A loop that writes different records**: each round writes one record, as a relation between
the record before and after it says, and this is what has become of the record in the end.  The
other records stay as they are. -/
theorem forM_write {α : Type} {f : α → Action Site Unit} (place : α → RecordId)
    (Writes : α → Record → Record → Prop)
    (round : ∀ a (s : Site) written, Writes a (s.records.at (place a)) written →
      (f a).outcome s = (.ok (), { s with records := s.records.set (place a) written }))
    {xs : List α} {s : Site} (distinct : (xs.map place).Nodup)
    (known : ∀ a ∈ xs, place a < s.records.length)
    (writable : ∀ a ∈ xs, ∃ written, Writes a (s.records.at (place a)) written) :
    ∃ records : Records, (xs.forM f).outcome s = (.ok (), { s with records }) ∧
      records.length = s.records.length ∧
      (∀ a ∈ xs, Writes a (s.records.at (place a)) (records.at (place a))) ∧
      ∀ id ∉ xs.map place, records.at id = s.records.at id := by
  induction xs generalizing s with
  | nil => exact ⟨s.records, rfl, rfl, List.forall_mem_nil _, fun _ _ => rfl⟩
  | cons a xs ih =>
      rw [List.map_cons, List.nodup_cons] at distinct
      obtain ⟨new, distinct⟩ := distinct
      obtain ⟨⟨written, own⟩, others⟩ := List.forall_mem_cons.mp writable
      obtain ⟨here, later⟩ := List.forall_mem_cons.mp known
      -- the places differ, so what is written for one of them leaves the records of the others as
      -- they were
      have apart : ∀ other, other ≠ place a →
          Records.at (s.records.set (place a) written) other = s.records.at other :=
        fun other different => at_set_of_ne different written
      have elsewhere (b : α) (mem : b ∈ xs) : place b ≠ place a :=
        ne_of_mem_of_not_mem (List.mem_map_of_mem mem) new
      obtain ⟨records, outcome, length, given, rest⟩ :=
        ih (s := { s with records := s.records.set (place a) written }) distinct
          (fun b mem => by rw [List.length_set]; exact later b mem)
          (fun b mem => by rw [apart _ (elsewhere b mem)]; exact others b mem)
      refine ⟨records, (Action.outcome_bind_of_ok (round a s written own)).trans outcome,
        length.trans List.length_set, List.forall_mem_cons.mpr ⟨?_, fun b mem => ?_⟩,
        fun other absent => ?_⟩
      · -- the first record is not written again
        rw [rest _ new, at_set_self here]
        exact own
      · have later := given b mem
        rwa [apart _ (elsewhere b mem)] at later
      · rw [List.map_cons] at absent
        obtain ⟨different, absent⟩ := not_or.mp (mt List.mem_cons.mpr absent)
        rw [rest other absent, apart other different]

end Records

end BoundSql
