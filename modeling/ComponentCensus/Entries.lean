/-!
# Ordered tables

A table is a list of keys with values, in the order in which the keys were first written.  Writing
to a key that is present replaces its value in place, and a new key goes to the end.  `keep` writes
only when the key is absent, so that the first value wins.
-/

namespace ComponentCensus

/-- A table in the order in which its keys were first written. -/
abbrev Entries (κ : Type) (α : Type) := List (κ × α)

namespace Entries

variable {κ α : Type} [BEq κ]

/-- The value of a key. -/
def get? (key : κ) : Entries κ α → Option α
  | [] => none
  | (k, value) :: rest => if k == key then some value else get? key rest

/-- Whether a key is present. -/
def has (key : κ) (table : Entries κ α) : Bool :=
  (table.get? key).isSome

/-- The keys in order. -/
def keys (table : Entries κ α) : List κ :=
  table.map (·.1)

/-- The values in the order of their keys. -/
def values (table : Entries κ α) : List α :=
  table.map (·.2)

/-- Writes a value: in place when the key is present, at the end otherwise. -/
def put (key : κ) (value : α) : Entries κ α → Entries κ α
  | [] => [(key, value)]
  | (k, old) :: rest => if k == key then (k, value) :: rest else (k, old) :: put key value rest

/-- Writes a value unless the key is present. -/
def keep (key : κ) (value : α) (table : Entries κ α) : Entries κ α :=
  if table.has key then table else table ++ [(key, value)]

/-- The table obtained by writing pairs one after the other: the last value of a key stands where
the key came first. -/
def ofPairs (pairs : List (κ × α)) : Entries κ α :=
  pairs.foldl (fun table pair => table.put pair.1 pair.2) []

/-- Keeps all pairs of another table whose keys are absent. -/
def keepAll (table : Entries κ α) (others : List (κ × α)) : Entries κ α :=
  others.foldl (fun table pair => table.keep pair.1 pair.2) table

section Laws

variable [LawfulBEq κ]

theorem get?_put_self (key : κ) (value : α) (table : Entries κ α) :
    (table.put key value).get? key = some value := by
  induction table with
  | nil => simp [put, get?]
  | cons entry rest ih =>
    obtain ⟨k, old⟩ := entry
    rw [put]
    split
    · next hk => simp [get?, hk]
    · next hk => simp [get?, hk, ih]

theorem get?_put_other {key other : κ} (value : α) (table : Entries κ α) (hne : other ≠ key) :
    (table.put key value).get? other = table.get? other := by
  induction table with
  | nil =>
    have : (key == other) = false := by simpa using fun h => hne h.symm
    simp [put, get?, this]
  | cons entry rest ih =>
    obtain ⟨k, old⟩ := entry
    rw [put]
    split
    · next hk =>
      have hkey : k = key := eq_of_beq hk
      have : (k == other) = false := by
        rw [hkey]
        simpa using fun h => hne h.symm
      simp [get?, this]
    · simp only [get?]
      split
      · rfl
      · exact ih

end Laws

end Entries

end ComponentCensus
