/-!
# Ordered dictionaries

Bind parameters, record fields and log fields are dictionaries that remember the order in which
their keys were first written.  Writing a key again replaces its value and leaves it where it
stands.

## Main definitions

* `Assoc.put` : write a key.
* `Assoc.get?` : the value under a key.
* `Assoc.putAll` : write several keys in turn.

## Main statements

* `Assoc.get?_put_self`, `Assoc.get?_put_of_ne` : what is read back after a write.
* `Assoc.keys_put` : a write changes the keys only when the key is new, and then appends it.
-/

namespace BoundSql

/-- A dictionary as the list of its entries, in order of first write. -/
abbrev Assoc (κ : Type) (ν : Type) := List (κ × ν)

namespace Assoc

variable {κ ν : Type}

/-- Replaces the value under the key where it stands, or appends a new entry. -/
def put [BEq κ] (key : κ) (value : ν) : Assoc κ ν → Assoc κ ν
  | [] => [(key, value)]
  | entry :: rest =>
    if entry.1 == key then (entry.1, value) :: rest else entry :: put key value rest

/-- The value under a key. -/
def get? [BEq κ] (key : κ) : Assoc κ ν → Option ν
  | [] => none
  | entry :: rest => if entry.1 == key then some entry.2 else get? key rest

/-- Writes the entries of `more` in turn. -/
def putAll [BEq κ] (entries more : Assoc κ ν) : Assoc κ ν :=
  more.foldl (fun acc entry => put entry.1 entry.2 acc) entries

/-- Removes the entry of a key. -/
def erase [BEq κ] (key : κ) (entries : Assoc κ ν) : Assoc κ ν :=
  entries.filter fun entry => !(entry.1 == key)

/-- The keys, in order. -/
def keys (entries : Assoc κ ν) : List κ := entries.map Prod.fst

@[simp] theorem get?_put_self [BEq κ] [ReflBEq κ] (key : κ) (value : ν) (entries : Assoc κ ν) :
    get? key (put key value entries) = some value := by
  induction entries with
  | nil => simp [put, get?]
  | cons entry rest ih => by_cases h : entry.1 == key <;> simp [put, get?, h, ih]

theorem get?_put_of_ne [BEq κ] [LawfulBEq κ] {key other : κ} (h : other ≠ key) (value : ν)
    (entries : Assoc κ ν) : get? other (put key value entries) = get? other entries := by
  induction entries with
  | nil => simp [put, get?, Ne.symm h]
  | cons entry rest ih =>
    by_cases hk : entry.1 == key
    · have : entry.1 = key := by simpa using hk
      simp [put, get?, this, Ne.symm h]
    · simp [put, get?, hk, ih]

theorem keys_put [BEq κ] [LawfulBEq κ] (key : κ) (value : ν) (entries : Assoc κ ν) :
    keys (put key value entries) =
      if key ∈ keys entries then keys entries else keys entries ++ [key] := by
  induction entries with
  | nil => simp [put, keys]
  | cons entry rest ih =>
    by_cases hk : entry.1 == key
    · have : entry.1 = key := by simpa using hk
      simp [put, keys, this]
    · have hne : ¬ key = entry.1 := fun h => hk (by simp [h])
      simp only [keys] at ih
      simp only [put, hk, keys, List.map_cons, List.mem_cons, hne, false_or]
      by_cases hm : key ∈ List.map Prod.fst rest <;> simp [ih, hm]

end Assoc

end BoundSql
