/-!
# Keyed lists

Lists of entries under distinct keys, in the order in which the keys first came.  Putting a value
under a key that occurs replaces the value and keeps the place.
-/

namespace SchemaDelta.Keyed

variable {κ α : Type} [BEq κ]

/-- The entries with a value put under a key. -/
def put
    (key : κ)
    (value : α) : List (κ × α) → List (κ × α)
  | [] => [(key, value)]
  | entry :: entries =>
    if entry.1 == key then (entry.1, value) :: entries
    else entry :: put key value entries

/-- Entries put one after the other, so that the last value of a key counts. -/
def ofList
    (entries : List (κ × α)) : List (κ × α) :=
  entries.foldl (fun kept entry => put entry.1 entry.2 kept) []

/-- The items in front of which no item with the same key stands. -/
def firstByKey
    (key : α → κ) : List α → List α :=
  fun items => go [] items
where
  /-- The first items among those whose key is not yet known. -/
  go (known : List κ) : List α → List α
    | [] => []
    | item :: items =>
      if known.contains (key item) then go known items
      else item :: go (key item :: known) items

end SchemaDelta.Keyed
