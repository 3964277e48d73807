import Mathlib.Data.List.Dedup
import ThreadStacks.Table

/-!
# Tables filled from pairs

Pairs are written into a table one after the other.  The last pair with a key counts, and a key
that none of them has keeps its value.
-/

namespace ThreadStacks.Table

variable {Key Value : Type} [DecidableEq Key]

/-- A table after pairs have been written into it. -/
def putAll (pairs : List (Key × Value)) (table : Table Key Value) : Table Key Value :=
  pairs.foldl (fun table pair => put pair.1 pair.2 table) table

@[simp] theorem putAll_nil (table : Table Key Value) : putAll [] table = table := rfl

@[simp] theorem putAll_cons (pair : Key × Value) (pairs : List (Key × Value))
    (table : Table Key Value) :
    putAll (pair :: pairs) table = putAll pairs (put pair.1 pair.2 table) := rfl

theorem putAll_append (front back : List (Key × Value)) (table : Table Key Value) :
    putAll (front ++ back) table = putAll back (putAll front table) :=
  List.foldl_append

/-- Pairs with other keys change no value. -/
theorem get?_putAll_of_not_mem {key : Key} {pairs : List (Key × Value)}
    (missing : key ∉ pairs.map Prod.fst) (table : Table Key Value) :
    get? key (putAll pairs table) = get? key table := by
  induction pairs generalizing table with
  | nil => rfl
  | cons pair pairs ih =>
      rw [List.map_cons, List.mem_cons, not_or] at missing
      rw [putAll_cons, ih missing.2, get?_put_other missing.1]

/-- A value under a key that has none is written behind all others. -/
theorem put_eq_append {key : Key} {table : Table Key Value} (missing : get? key table = none)
    (value : Value) : put key value table = table ++ [(key, value)] := by
  induction table with
  | nil => rfl
  | cons entry rest ih =>
      rw [get?] at missing
      split at missing
      next => contradiction
      next different => rw [put, if_neg different, ih missing, List.cons_append]

/-- The last pair with a key counts, and the table's own value only if there is none. -/
theorem get?_putAll (key : Key) (pairs : List (Key × Value)) (table : Table Key Value) :
    get? key (putAll pairs table) = (pairs.reverse.lookup key).or (get? key table) := by
  induction pairs generalizing table with
  | nil => rfl
  | cons pair pairs ih =>
      obtain ⟨other, value⟩ := pair
      rw [putAll_cons, ih, List.reverse_cons, List.lookup_append, Option.or_assoc]
      congr 1
      by_cases same : key = other
      · simp [same]
      · simp [List.lookup_cons, get?_put_other same, beq_eq_false_iff_ne.2 same]

/-! ## Keys -/

@[simp] theorem mem_keys_put_iff {key other : Key} {value : Value} {table : Table Key Value} :
    other ∈ (put key value table).map Prod.fst ↔ other = key ∨ other ∈ table.map Prod.fst := by
  induction table with
  | nil => simp [put]
  | cons entry rest ih =>
      simp only [put]
      split
      next same => simp [same]
      next => simp only [List.map_cons, List.mem_cons, ih, or_left_comm]

/-- Writing keeps every key once. -/
theorem nodup_keys_put {table : Table Key Value} (nodup : (table.map Prod.fst).Nodup) (key : Key)
    (value : Value) : ((put key value table).map Prod.fst).Nodup := by
  induction table with
  | nil => simp [put]
  | cons entry rest ih =>
      simp only [put]
      rw [List.map_cons, List.nodup_cons] at nodup
      split
      next => simpa using nodup
      next different =>
        rw [List.map_cons, List.nodup_cons, mem_keys_put_iff, not_or]
        exact ⟨⟨different, nodup.1⟩, ih nodup.2⟩

theorem mem_keys_putAll_iff {key : Key} {pairs : List (Key × Value)} {table : Table Key Value} :
    key ∈ (putAll pairs table).map Prod.fst ↔
      key ∈ pairs.map Prod.fst ∨ key ∈ table.map Prod.fst := by
  induction pairs generalizing table with
  | nil => simp
  | cons pair pairs ih =>
      rw [putAll_cons, ih, mem_keys_put_iff, List.map_cons, List.mem_cons, or_assoc, or_left_comm]

theorem nodup_keys_putAll {table : Table Key Value} (nodup : (table.map Prod.fst).Nodup)
    (pairs : List (Key × Value)) : ((putAll pairs table).map Prod.fst).Nodup := by
  induction pairs generalizing table with
  | nil => exact nodup
  | cons pair pairs ih => exact ih (nodup_keys_put nodup pair.1 pair.2)

/-- A table that is filled from pairs has an entry for each key among them. -/
theorem length_putAll_nil (pairs : List (Key × Value)) :
    (putAll pairs []).length = (pairs.map Prod.fst).dedup.length := by
  have sameKeys : ((putAll pairs []).map Prod.fst).Perm (pairs.map Prod.fst).dedup := by
    have noKeys : (([] : Table Key Value).map Prod.fst).Nodup := List.nodup_nil
    rw [List.perm_ext_iff_of_nodup (nodup_keys_putAll noKeys pairs) (List.nodup_dedup _)]
    intro key
    simp [mem_keys_putAll_iff]
  simpa using sameKeys.length_eq

end ThreadStacks.Table
