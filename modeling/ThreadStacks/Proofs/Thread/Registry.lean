import ThreadStacks.Proofs.Table
import ThreadStacks.Thread.Registry

/-!
# Where a scan of thread objects may stop

A scan that waits for the ids of live threads reads the first objects only.  What it has read by
then is a beginning of what all objects say, and it stops before the end only if no id that matters
is missing from it.  So, where no two objects have one id, a name that matters is the same as after
all objects.
-/

namespace ThreadStacks.ThreadRegistry

/-- The managed ids and the names in thread objects, read from the first one to the last. -/
def entries (typeKey : Text) : List Document → FieldNames → Except Fault (List (Int × Document))
  | [], _ => .ok []
  | object :: objects, fieldNames =>
      match (readObject typeKey object).run fieldNames with
      | (.error fault, _) => .error fault
      | (.ok entry, fieldNames) => (entries typeKey objects fieldNames).map (entry :: ·)

variable {typeKey : Text} {fieldNames : FieldNames} {objects : List Document}

/-- Without ids to wait for, the names are those of all objects. -/
theorem names_scanFrom_none (typeKey : Text) (objects : List Document) (names : ThreadNames)
    (fieldNames : FieldNames) :
    (scanFrom typeKey none objects names fieldNames).names =
      (entries typeKey objects fieldNames).map fun read => Table.putAll read names := by
  induction objects generalizing names fieldNames with
  | nil => rfl
  | cons object objects ih =>
      rw [scanFrom, entries]
      rcases (readObject typeKey object).run fieldNames with ⟨fault | entry, after⟩
      · rfl
      · simp only [Option.map_none, reduceCtorEq, if_false]
        rw [ih]
        cases entries typeKey objects after with
        | error fault => rfl
        | ok read => rfl

/-- What can be read of some objects says what their first one says, and what the others say. -/
theorem entries_cons_eq_ok {object : Document} {all : List (Int × Document)}
    (readable : entries typeKey (object :: objects) fieldNames = .ok all) :
    ∃ id name after others, (readObject typeKey object).run fieldNames = (.ok (id, name), after) ∧
      entries typeKey objects after = .ok others ∧ all = (id, name) :: others := by
  rw [entries] at readable
  rcases isRead : (readObject typeKey object).run fieldNames with ⟨fault | ⟨id, name⟩, after⟩
  · rw [isRead] at readable
    contradiction
  · rw [isRead] at readable
    cases rest : entries typeKey objects after with
    | error fault =>
        simp only [rest] at readable
        contradiction
    | ok others =>
        simp only [rest] at readable
        cases readable
        exact ⟨id, name, after, others, rfl, rest, rfl⟩

/-- A scan that waits for ids ends with the names of a beginning of the objects: of all of them,
unless none of the ids is missing. -/
theorem names_scanFrom_some {all : List (Int × Document)}
    (readable : entries typeKey objects fieldNames = .ok all) (ids : List Int)
    (names : ThreadNames) :
    ∃ seen unseen, all = seen ++ unseen ∧
      (scanFrom typeKey (some ids) objects names fieldNames).names =
        .ok (Table.putAll seen names) ∧
      (unseen = [] ∨ ∀ id ∈ ids, id ∈ seen.map Prod.fst) := by
  induction objects generalizing all ids names fieldNames with
  | nil =>
      cases readable
      exact ⟨[], [], rfl, rfl, .inl rfl⟩
  | cons object objects ih =>
      obtain ⟨id, name, after, others, isRead, rest, rfl⟩ := entries_cons_eq_ok readable
      have awaits {wanted : Int} (member : wanted ∈ ids) :
          wanted = id ∨ wanted ∈ ids.filter (· != id) := by
        rw [List.mem_filter, bne_iff_ne]
        exact (Decidable.em (wanted = id)).imp_right fun different => ⟨member, different⟩
      rw [scanFrom, isRead]
      simp only [Option.map_some, Option.some.injEq]
      split
      next noneAwaited =>
        refine ⟨[(id, name)], others, rfl, rfl, .inr ?_⟩
        intro wanted member
        rcases awaits member with same | awaited
        · exact same ▸ List.mem_cons_self
        · rw [noneAwaited] at awaited
          contradiction
      next =>
        obtain ⟨seen, unseen, rfl, scanned, covered⟩ :=
          ih rest (ids.filter (· != id)) (Table.put id name names)
        refine ⟨(id, name) :: seen, unseen, rfl, scanned, covered.imp_right ?_⟩
        intro allSeen wanted member
        rcases awaits member with same | awaited
        · exact same ▸ List.mem_cons_self
        · exact List.mem_cons_of_mem _ (allSeen wanted awaited)

/-- Where no two objects have one id, the scan that waits for ids gives each of these the name that
it has after all objects. -/
theorem exists_names_scan {all : List (Int × Document)}
    (readable : entries typeKey objects fieldNames = .ok all)
    (distinct : (all.map Prod.fst).Nodup) (ids : List Int) :
    ∃ names, (scan typeKey (some ids) objects fieldNames).names = .ok names ∧
      ∀ id ∈ ids, Table.get? id names = Table.get? id (Table.putAll all []) := by
  obtain ⟨seen, unseen, rfl, scanned, covered⟩ := names_scanFrom_some readable ids []
  refine ⟨Table.putAll seen [], scanned, ?_⟩
  intro id wanted
  rw [Table.putAll_append]
  rcases covered with nothingLeft | allSeen
  · rw [nothingLeft, Table.putAll_nil]
  · rw [List.map_append, List.nodup_append] at distinct
    have unseenId : id ∉ unseen.map Prod.fst := fun again =>
      distinct.2.2 id (allSeen id wanted) id again rfl
    rw [Table.get?_putAll_of_not_mem unseenId]

end ThreadStacks.ThreadRegistry
