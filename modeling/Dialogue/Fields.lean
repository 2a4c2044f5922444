/-!
# Fields

A dictionary from names to values, kept as a list of pairs in strictly ascending
order of names, so that two dictionaries with the same entries are the same
list.  Names are compared by code points.
-/

namespace Dialogue

/-- Named values in ascending order of their names. -/
abbrev Fields (α : Type) := List (String × α)

namespace Fields

variable {α : Type}

/-- The value under a name. -/
def get? (fields : Fields α) (name : String) : Option α := fields.lookup name

/-- Whether a name has a value. -/
def has (fields : Fields α) (name : String) : Bool := (fields.get? name).isSome

/-- Sets the value under a name, replacing the one it had. -/
def insert (name : String) (value : α) : Fields α → Fields α
  | [] => [(name, value)]
  | (key, old) :: rest =>
    if name < key then (name, value) :: (key, old) :: rest
    else if name = key then (name, value) :: rest
    else (key, old) :: insert name value rest

/-- The dictionary of a list of pairs; the last value given for a name stays. -/
def ofList (pairs : List (String × α)) : Fields α :=
  pairs.foldl (fun fields (name, value) => insert name value fields) []

/-- The entries of both, those of `winner` where both have the name. -/
def union (winner base : Fields α) : Fields α :=
  winner.foldl (fun fields (name, value) => insert name value fields) base

/-- The names in ascending order. -/
def names (fields : Fields α) : List String := fields.map Prod.fst

/-- Names strictly ascend, as every operation keeps them. -/
def Ascending (fields : Fields α) : Prop := fields.Pairwise fun a b => a.1 < b.1

end Fields

end Dialogue
