/-!
# Tables

A table keeps values under keys, in the order in which the keys were first written.  Writing a key
again replaces its value and keeps its place.
-/

namespace ThreadStacks

/-- Values under keys, in the order of the first writes. -/
abbrev Table (Key Value : Type) := List (Key × Value)

namespace Table

variable {Key Value : Type} [DecidableEq Key]

def get? (key : Key) : Table Key Value → Option Value
  | [] => none
  | (other, value) :: rest => if other = key then some value else get? key rest

/-- Write a value under a key. -/
def put (key : Key) (value : Value) : Table Key Value → Table Key Value
  | [] => [(key, value)]
  | (other, old) :: rest =>
      if other = key then (other, value) :: rest else (other, old) :: put key value rest

/-- Whether there is a value under a key. -/
def has (key : Key) (table : Table Key Value) : Bool := (get? key table).isSome

/-- The table of pairs, where the last pair of a key counts. -/
def ofPairs (pairs : List (Key × Value)) : Table Key Value :=
  pairs.foldl (fun table pair => put pair.1 pair.2 table) []

/-- A value that was written is found. -/
@[simp] theorem get?_put_same (key : Key) (value : Value) (table : Table Key Value) :
    get? key (put key value table) = some value := by
  induction table with
  | nil => simp [put, get?]
  | cons entry rest ih =>
      unfold put
      split
      next same => simp [get?, same]
      next different => simp [get?, different, ih]

/-- Writing under a key changes no other value. -/
theorem get?_put_other {key other : Key} (different : other ≠ key) (value : Value)
    (table : Table Key Value) : get? other (put key value table) = get? other table := by
  induction table with
  | nil => simp [put, get?, different.symm]
  | cons entry rest ih =>
      unfold put
      split
      next same => simp [get?, same, different.symm]
      next => simp [get?, ih]

end Table

end ThreadStacks
