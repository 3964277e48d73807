import Mathlib.Order.Bounds.Basic
import ThreadStacks.Proofs.Thread.Registry

/-!
# The shortest beginning that covers the ids

A scan that waits for ids never compares beginnings of the objects with each other: it crosses off
one id after the other.  Still it reads the shortest beginning in which all of them are found, as
if there were no objects behind it; and where there is no such beginning, it is the scan of all
objects.
-/

namespace ThreadStacks.ThreadRegistry

variable {typeKey : Text} {fieldNames after : FieldNames} {ids : List Int} {object : Document}
  {objects : List Document} {count : Nat}

/-- Whether so many of the objects, at least one, can be read and have all of the ids. -/
structure Covers (typeKey : Text) (ids : List Int) (objects : List Document)
    (fieldNames : FieldNames) (count : Nat) : Prop where
  positive : 1 ≤ count
  present : count ≤ objects.length
  covered : ∃ read, entries typeKey (objects.take count) fieldNames = .ok read ∧
    ids ⊆ read.map Prod.fst

/-! ## One object -/

theorem entries_cons_of_read {entry : Int × Document}
    (isRead : (readObject typeKey object).run fieldNames = (.ok entry, after)) :
    entries typeKey (object :: objects) fieldNames =
      (entries typeKey objects after).map (entry :: ·) := by
  rw [entries, isRead]

theorem subset_cons_iff_filter_subset {id : Int} {others : List Int} :
    ids ⊆ id :: others ↔ ids.filter (· != id) ⊆ others := by
  simp only [List.subset_def, List.mem_filter, bne_iff_ne, List.mem_cons, or_iff_not_imp_left,
    and_imp]

/-- Behind an object that can be read, the other objects have to cover the ids that are not its
own. -/
theorem covers_succ_iff {id : Int} {name : Document}
    (isRead : (readObject typeKey object).run fieldNames = (.ok (id, name), after)) :
    Covers typeKey ids (object :: objects) fieldNames (count + 1) ↔
      (count = 0 ∧ ids.filter (· != id) = []) ∨
        Covers typeKey (ids.filter (· != id)) objects after count := by
  constructor
  · rintro ⟨-, present, read, readable, covers⟩
    rw [List.take_succ_cons] at readable
    obtain ⟨_, _, _, others, sameRead, readable, rfl⟩ := entries_cons_eq_ok readable
    cases isRead.symm.trans sameRead
    rw [List.map_cons, subset_cons_iff_filter_subset] at covers
    cases count with
    | zero =>
        cases readable
        exact .inl ⟨rfl, List.subset_nil.1 covers⟩
    | succ count => exact .inr ⟨by omega, by simpa using present, others, readable, covers⟩
  · rintro (⟨rfl, noneLeft⟩ | ⟨-, present, others, readable, covers⟩)
    · refine ⟨by omega, by simp, [(id, name)], ?_, ?_⟩
      · rw [List.take_succ_cons, entries_cons_of_read isRead]
        rfl
      · rw [List.map_cons, subset_cons_iff_filter_subset, noneLeft]
        exact List.nil_subset _
    · refine ⟨by omega, by simpa using present, (id, name) :: others, ?_, ?_⟩
      · rw [List.take_succ_cons, entries_cons_of_read isRead, readable]
        rfl
      · rw [List.map_cons, subset_cons_iff_filter_subset]
        exact covers

/-! ## Where a scan stops -/

/-- A scan that waits for ids is the scan of the shortest beginning that covers them. -/
theorem scanFrom_of_isLeast
    (least : IsLeast {count | Covers typeKey ids objects fieldNames count} count)
    (names : ThreadNames) :
    scanFrom typeKey (some ids) objects names fieldNames =
      scanFrom typeKey none (objects.take count) names fieldNames := by
  induction objects generalizing ids names fieldNames count with
  | nil =>
      have positive := least.1.positive
      have present := least.1.present
      rw [List.length_nil] at present
      omega
  | cons object objects ih =>
      cases count with
      | zero => exact absurd least.1.positive (by decide)
      | succ count =>
          obtain ⟨read, readable, -⟩ := least.1.covered
          rw [List.take_succ_cons] at readable ⊢
          obtain ⟨id, name, after, others, isRead, readable, rfl⟩ := entries_cons_eq_ok readable
          rw [scanFrom, scanFrom, isRead]
          simp only [Option.map_some, Option.map_none, Option.some.injEq, reduceCtorEq, if_false]
          split
          next noneLeft =>
            have first : Covers typeKey ids (object :: objects) fieldNames (0 + 1) :=
              (covers_succ_iff isRead).2 (.inl ⟨rfl, noneLeft⟩)
            have isZero : count = 0 := Nat.le_zero.1 (Nat.le_of_succ_le_succ (least.2 first))
            rw [isZero, List.take_zero, scanFrom]
          next someLeft =>
            have leastLater :
                IsLeast {count | Covers typeKey (ids.filter (· != id)) objects after count}
                  count := by
              constructor
              · exact ((covers_succ_iff isRead).1 least.1).resolve_left fun first =>
                  someLeft first.2
              · intro other covers
                exact Nat.le_of_succ_le_succ (least.2 ((covers_succ_iff isRead).2 (.inr covers)))
            rw [ih leastLater]

/-- Where no beginning covers the ids, a scan that waits for them is the scan of all objects. -/
theorem scanFrom_of_not_covers
    (uncovered : ∀ count, ¬Covers typeKey ids objects fieldNames count) (names : ThreadNames) :
    scanFrom typeKey (some ids) objects names fieldNames =
      scanFrom typeKey none objects names fieldNames := by
  induction objects generalizing ids names fieldNames with
  | nil => rfl
  | cons object objects ih =>
      rw [scanFrom, scanFrom]
      rcases isRead : (readObject typeKey object).run fieldNames with ⟨fault | ⟨id, name⟩, after⟩
      · rfl
      · have someLeft : ids.filter (· != id) ≠ [] := fun noneLeft =>
          uncovered 1 ((covers_succ_iff isRead).2 (.inl ⟨rfl, noneLeft⟩))
        have uncoveredLater :
            ∀ count, ¬Covers typeKey (ids.filter (· != id)) objects after count :=
          fun count covers => uncovered (count + 1) ((covers_succ_iff isRead).2 (.inr covers))
        simp only [Option.map_some, Option.map_none, Option.some.injEq, if_neg someLeft,
          reduceCtorEq, if_false]
        rw [ih uncoveredLater]

/-- The objects behind a beginning do not count for whether it is the shortest one. -/
theorem isLeast_covers_append
    (least : IsLeast {count | Covers typeKey ids objects fieldNames count} count)
    (later : List Document) :
    IsLeast {other | Covers typeKey ids (objects.take count ++ later) fieldNames other} count := by
  have sameTake : ∀ other ≤ count,
      (objects.take count ++ later).take other = objects.take other := by
    intro other shorter
    rw [List.take_append_of_le_length, List.take_take, Nat.min_eq_left shorter]
    rw [List.length_take, Nat.min_eq_left least.1.present]
    exact shorter
  constructor
  · refine ⟨least.1.positive, ?_, ?_⟩
    · rw [List.length_append, List.length_take, Nat.min_eq_left least.1.present]
      exact Nat.le_add_right _ _
    · rw [sameTake count (Nat.le_refl count)]
      exact least.1.covered
  · intro other covers
    rcases Nat.lt_or_ge other count with shorter | longer
    · obtain ⟨positive, -, covered⟩ := covers
      rw [sameTake other (Nat.le_of_lt shorter)] at covered
      exact least.2 ⟨positive, Nat.le_trans (Nat.le_of_lt shorter) least.1.present, covered⟩
    · exact longer

/-! ## All objects -/

theorem consumed_scanFrom_none {read : List (Int × Document)}
    (readable : entries typeKey objects fieldNames = .ok read) (names : ThreadNames) :
    (scanFrom typeKey none objects names fieldNames).consumed = objects.length := by
  induction objects generalizing read names fieldNames with
  | nil => rfl
  | cons object objects ih =>
      obtain ⟨id, name, after, others, isRead, readable, -⟩ := entries_cons_eq_ok readable
      rw [scanFrom, isRead]
      simp only [Option.map_none, reduceCtorEq, if_false, List.length_cons]
      rw [ih readable]

/-- A scan that fails has taken the object that it fails at last, and has read all objects before
it. -/
theorem exists_of_names_eq_error {awaited : Option (List Int)} {names : ThreadNames} {fault : Fault}
    (failed : (scanFrom typeKey awaited objects names fieldNames).names = .error fault) :
    ∃ front object back read, objects = front ++ object :: back ∧
      (scanFrom typeKey awaited objects names fieldNames).consumed = front.length + 1 ∧
      entries typeKey front fieldNames = .ok read ∧
      (readObject typeKey object).run (scanFrom typeKey none front names fieldNames).fieldNames =
        (.error fault, (scanFrom typeKey awaited objects names fieldNames).fieldNames) := by
  induction objects generalizing awaited names fieldNames with
  | nil => contradiction
  | cons object objects ih =>
      rw [scanFrom] at failed ⊢
      rcases isRead : (readObject typeKey object).run fieldNames with ⟨other | ⟨id, name⟩, after⟩
      · rw [isRead] at failed
        cases failed
        exact ⟨[], object, objects, [], rfl, rfl, rfl, isRead⟩
      · rw [isRead] at failed
        simp only at failed ⊢
        split at failed
        next => contradiction
        next waits =>
          obtain ⟨front, last, back, read, rfl, consumed, readable, isLast⟩ := ih failed
          refine ⟨object :: front, last, back, (id, name) :: read, rfl, ?_, ?_, ?_⟩
          · rw [if_neg waits, consumed, List.length_cons]
          · rw [entries_cons_of_read isRead, readable]
            rfl
          · rw [if_neg waits, scanFrom, isRead]
            simpa using isLast

/-- The names in objects that can be read: each id has the last name among them. -/
theorem exists_names_scan_none {read : List (Int × Document)}
    (readable : entries typeKey objects fieldNames = .ok read) :
    ∃ names, (scan typeKey none objects fieldNames).names = .ok names ∧
      (∀ id, Table.get? id names = read.reverse.lookup id) ∧
      names.length = (read.map Prod.fst).dedup.length := by
  refine ⟨Table.putAll read [], ?_, ?_, Table.length_putAll_nil read⟩
  · rw [scan, names_scanFrom_none, readable]
    rfl
  · intro id
    rw [Table.get?_putAll, Table.get?, Option.or_none]

/-- A scan that waits for ids takes exactly the objects of the shortest beginning that covers them.
It gives the names that these objects give, the last one for each id, and leaves the field names
that they leave, whatever objects follow.  Without such a beginning it is the scan of all objects in
every respect.  Where it fails, it has read all objects but the last one that it took. -/
theorem scan_eq_scan_shortestCover (typeKey : Text) (liveIds : Option (List Int))
    (objects : List Document) (fieldNames : FieldNames) :
    let scanned := scan typeKey liveIds objects fieldNames
    (∀ ids count, liveIds = some ids →
        IsLeast {count | Covers typeKey ids objects fieldNames count} count →
        scanned.consumed = count ∧
          scanned = scan typeKey none (objects.take count) fieldNames ∧
          (∀ later, scan typeKey liveIds (objects.take count ++ later) fieldNames = scanned) ∧
          ∃ read names, entries typeKey (objects.take count) fieldNames = .ok read ∧
            scanned.names = .ok names ∧
            (∀ id, Table.get? id names = read.reverse.lookup id) ∧
            names.length = (read.map Prod.fst).dedup.length) ∧
      ((∀ ids count, liveIds = some ids → ¬Covers typeKey ids objects fieldNames count) →
        scanned = scan typeKey none objects fieldNames) ∧
      ∀ fault, scanned.names = .error fault →
        ∃ front object back read, objects = front ++ object :: back ∧
          scanned.consumed = front.length + 1 ∧
          entries typeKey front fieldNames = .ok read ∧
          (readObject typeKey object).run (scan typeKey none front fieldNames).fieldNames =
            (.error fault, scanned.fieldNames) := by
  intro scanned
  refine ⟨?_, ?_, fun fault failed => exists_of_names_eq_error failed⟩
  · rintro ids count rfl least
    have stops : scanned = scan typeKey none (objects.take count) fieldNames :=
      scanFrom_of_isLeast least []
    obtain ⟨read, readable, -⟩ := least.1.covered
    obtain ⟨names, given, lastNames, size⟩ := exists_names_scan_none readable
    refine ⟨?_, stops, ?_, read, names, readable, ?_, lastNames, size⟩
    · rw [stops, scan, consumed_scanFrom_none readable, List.length_take,
        Nat.min_eq_left least.1.present]
    · intro later
      have sameTake : (objects.take count ++ later).take count = objects.take count :=
        List.take_left' (List.length_take_of_le least.1.present)
      rw [stops, scan, scanFrom_of_isLeast (isLeast_covers_append least later), sameTake]
      rfl
    · rw [stops, given]
  · intro uncovered
    cases liveIds with
    | none => rfl
    | some ids => exact scanFrom_of_not_covers (fun count => uncovered ids count rfl) []

/-- The first id is read twice before the second one is found; what follows is not an object. -/
theorem scan_eq_scan_shortestCover_renamed :
    let threadObject (id : Int) (name : String) : Document :=
      .object [("_name".toText, .text name.toText), ("_managedThreadId".toText, .integer id)]
    let read := [threadObject 2 "Old", threadObject 2 "New", threadObject 1 "Main"]
    let ids := [1, 2]
    let objects := read ++ [.null]
    let scanned := scan threadType (some ids) objects []
    IsLeast {count | Covers threadType ids objects [] count} 3 ∧ scanned.consumed = 3 ∧
      scanned = scan threadType none read [] ∧
      scan threadType (some ids) (read ++ [threadObject 1 "Late"]) [] = scanned ∧
      ∃ names, scanned.names = .ok names ∧ Table.get? 2 names = some (.text "New".toText) ∧
        names.length = 2 := by
  intro threadObject read ids objects scanned
  have least : IsLeast {count | Covers threadType ids objects [] count} 3 := by
    refine ⟨⟨by decide, by decide, _, rfl, by decide⟩, ?_⟩
    rintro count ⟨positive, -, seen, readable, covers⟩
    by_contra shorter
    have onlySecond : seen.map Prod.fst ⊆ [2] := by
      obtain rfl | rfl : count = 1 ∨ count = 2 := by omega
      · cases readable
        decide
      · cases readable
        decide
    exact absurd (onlySecond (covers List.mem_cons_self)) (by decide)
  obtain ⟨consumed, stops, independent, seen, names, readable, given, lastNames, size⟩ :=
    (scan_eq_scan_shortestCover threadType (some ids) objects []).1 ids 3 rfl least
  cases readable
  exact ⟨least, consumed, stops, independent _, names, given, lastNames 2, size⟩

end ThreadStacks.ThreadRegistry
