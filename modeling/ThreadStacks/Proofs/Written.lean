import ThreadStacks.Written

/-!
# Outcomes of work

Work for many items, one after the other, ends with the first fault in the order of the items, or
with all results.
-/

namespace ThreadStacks.Written

variable {Failure Output Result Next Item : Type}

/-- The fault of an outcome, if it is one. -/
def faultOf? : Except Failure Result → Option Failure
  | .error fault => some fault
  | .ok _ => none

/-- The first fault of outcomes, or all results. -/
def firstFaultOrAll (outcomes : List (Except Failure Result)) : Except Failure (List Result) :=
  match outcomes.findSome? faultOf? with
  | some fault => .error fault
  | none => .ok (outcomes.filterMap Except.toOption)

/-! ## Outcomes -/

/-- Work that goes on after a result ends well if and only if both parts do. -/
theorem bind_eq_ok_iff {outcome : Except Failure Result} {next : Result → Except Failure Next}
    {last : Next} :
    outcome >>= next = .ok last ↔ ∃ result, outcome = .ok result ∧ next result = .ok last := by
  cases outcome with
  | error fault => exact ⟨nofun, nofun⟩
  | ok result =>
      constructor
      · intro ends
        exact ⟨result, rfl, ends⟩
      · intro ends
        obtain ⟨other, same, ends⟩ := ends
        cases same
        exact ends

/-- Work that goes on after a result ends with a fault of either part. -/
theorem bind_eq_error_iff {outcome : Except Failure Result} {next : Result → Except Failure Next}
    {last : Failure} :
    outcome >>= next = .error last ↔
      outcome = .error last ∨ ∃ result, outcome = .ok result ∧ next result = .error last := by
  cases outcome with
  | error fault =>
      constructor
      · intro ends
        exact .inl (congrArg Except.error (Except.error.inj ends))
      · intro ends
        rcases ends with same | ⟨result, same, -⟩
        · exact congrArg Except.error (Except.error.inj same)
        · contradiction
  | ok result =>
      constructor
      · intro ends
        exact .inr ⟨result, rfl, ends⟩
      · intro ends
        rcases ends with same | ⟨other, same, ends⟩
        · contradiction
        · cases same
          exact ends

/-- Another form of a fault is no other result. -/
theorem mapError_eq_ok_iff {Other : Type} {change : Failure → Other}
    {outcome : Except Failure Result} {result : Result} :
    outcome.mapError change = .ok result ↔ outcome = .ok result := by
  cases outcome with
  | error fault => exact ⟨nofun, nofun⟩
  | ok other =>
      constructor
      · intro same
        cases same
        rfl
      · intro same
        cases same
        rfl

theorem mapError_eq_error_iff {Other : Type} {change : Failure → Other}
    {outcome : Except Failure Result} {last : Other} :
    outcome.mapError change = .error last ↔
      ∃ fault, outcome = .error fault ∧ change fault = last := by
  cases outcome with
  | error fault =>
      constructor
      · intro same
        exact ⟨fault, rfl, Except.error.inj same⟩
      · intro given
        obtain ⟨other, same, changed⟩ := given
        cases same
        exact congrArg Except.error changed
  | ok result =>
      constructor
      · intro same
        contradiction
      · intro given
        obtain ⟨fault, same, -⟩ := given
        contradiction

theorem map_eq_error_iff {change : Result → Next} {outcome : Except Failure Result}
    {fault : Failure} : outcome.map change = .error fault ↔ outcome = .error fault := by
  cases outcome with
  | error other =>
      constructor
      · intro same
        cases same
        rfl
      · intro same
        cases same
        rfl
  | ok result => exact ⟨nofun, nofun⟩

theorem map_mapError {Other : Type} (change : Result → Next) (changeFault : Failure → Other)
    (outcome : Except Failure Result) :
    (outcome.mapError changeFault).map change = (outcome.map change).mapError changeFault := by
  cases outcome with
  | error fault => rfl
  | ok result => rfl

/-- Outcomes with the same view go on to outcomes with the same view, if that is so for results. -/
theorem map_bind_congr {View NextView : Type} {view : Result → View} {nextView : Next → NextView}
    {outcome other : Except Failure Result} {next : Result → Except Failure Next}
    (same : outcome.map view = other.map view)
    (respects : ∀ first second, view first = view second →
      (next first).map nextView = (next second).map nextView) :
    (outcome >>= next).map nextView = (other >>= next).map nextView := by
  cases outcome with
  | error fault =>
      cases other with
      | error otherFault =>
          cases same
          rfl
      | ok => contradiction
  | ok first =>
      cases other with
      | error => contradiction
      | ok second => exact respects first second (Except.ok.inj same)

/-! ## The outcome of work -/

@[simp] theorem outcome_pure (result : Result) :
    (pure result : Written Failure Output Result).outcome = .ok result := rfl

@[simp] theorem outcome_ofExcept (outcome : Except Failure Result) :
    (ofExcept outcome : Written Failure Output Result).outcome = outcome := rfl

@[simp] theorem outcome_bind (work : Written Failure Output Result)
    (next : Result → Written Failure Output Next) :
    (work >>= next).outcome = work.outcome >>= fun result => (next result).outcome := by
  obtain ⟨output, outcome⟩ := work
  cases outcome with
  | error fault => rfl
  | ok result => rfl

/-- What work goes on with counts only for the result that it has. -/
theorem bind_congr_of_outcome {work : Written Failure Output Result}
    {next other : Result → Written Failure Output Next}
    (same : ∀ result, work.outcome = .ok result → next result = other result) :
    work >>= next = work >>= other := by
  obtain ⟨output, outcome⟩ := work
  cases outcome with
  | error fault => rfl
  | ok result =>
      change andThen _ _ = andThen _ _
      simp only [andThen, same result rfl]

/-! ## Output -/

instance : LawfulMonad (Written Failure Output) := by
  refine LawfulMonad.mk' _ ?_ ?_ ?_
  · intro Result work
    obtain ⟨output, outcome⟩ := work
    cases outcome with
    | error fault => rfl
    | ok result => exact congrArg (Written.mk · (.ok result)) (List.append_nil output)
  · intro Result Next result next
    rfl
  · intro Result Next Last work next last
    obtain ⟨output, outcome⟩ := work
    cases outcome with
    | error fault => rfl
    | ok result =>
        generalize given : next result = second
        obtain ⟨secondOutput, outcome⟩ := second
        change andThen ⟨output ++ (next result).output, (next result).outcome⟩ last =
          ⟨output ++ (andThen (next result) last).output, (andThen (next result) last).outcome⟩
        rw [given]
        cases outcome with
        | error fault => rfl
        | ok last => exact congrArg (Written.mk · _) (List.append_assoc ..)

/-- What is given first stands in front of what follows. -/
theorem tell_bind (output : List Output) (next : Unit → Written Failure Output Result) :
    tell output >>= next = ⟨output ++ (next ()).output, (next ()).outcome⟩ := rfl

@[simp] theorem tell_bind_tell (first second : List Output) :
    (tell first >>= fun _ => tell second : Written Failure Output Unit) = tell (first ++ second) :=
  rfl

@[simp] theorem ofExcept_ok (result : Result) :
    (ofExcept (.ok result) : Written Failure Output Result) = pure result := rfl

/-! ## Work for many items -/

theorem firstFaultOrAll_cons (outcome : Except Failure Result)
    (outcomes : List (Except Failure Result)) :
    firstFaultOrAll (outcome :: outcomes) =
      (do
        let result ← outcome
        let results ← firstFaultOrAll outcomes
        pure (result :: results)) := by
  cases outcome with
  | error fault => rfl
  | ok result =>
      simp only [firstFaultOrAll, List.findSome?_cons, faultOf?]
      cases outcomes.findSome? faultOf? with
      | some fault => rfl
      | none => rfl

/-- All results are there if and only if nothing failed. -/
theorem firstFaultOrAll_eq_ok_iff {outcomes : List (Except Failure Result)}
    {results : List Result} :
    firstFaultOrAll outcomes = .ok results ↔ outcomes = results.map .ok := by
  induction outcomes generalizing results with
  | nil =>
      cases results with
      | nil => exact ⟨fun _ => rfl, fun _ => rfl⟩
      | cons result results => exact ⟨nofun, nofun⟩
  | cons outcome outcomes ih =>
      rw [firstFaultOrAll_cons]
      simp only [bind_eq_ok_iff, ih]
      constructor
      · intro ends
        obtain ⟨result, rfl, others, rfl, ends⟩ := ends
        cases ends
        rfl
      · intro same
        cases results with
        | nil => contradiction
        | cons result results =>
            obtain ⟨rfl, rest⟩ := List.cons.inj same
            exact ⟨result, rfl, results, rest, rfl⟩

/-- Results may be changed one by one before they are collected. -/
theorem map_firstFaultOrAll (change : Result → Next) (outcomes : List (Except Failure Result)) :
    (firstFaultOrAll outcomes).map (List.map change) =
      firstFaultOrAll (outcomes.map (Except.map change)) := by
  induction outcomes with
  | nil => rfl
  | cons outcome outcomes ih =>
      rw [List.map_cons, firstFaultOrAll_cons, firstFaultOrAll_cons, ← ih]
      cases outcome with
      | error fault => rfl
      | ok result => cases firstFaultOrAll outcomes <;> rfl

/-- There are results for all items if and only if there is one for each. -/
theorem exists_firstFaultOrAll_eq_ok_iff {work : Item → Except Failure Result}
    {items : List Item} :
    (∃ results, firstFaultOrAll (items.map work) = .ok results) ↔
      ∀ item ∈ items, ∃ result, work item = .ok result := by
  induction items with
  | nil => exact ⟨fun _ => nofun, fun _ => ⟨[], rfl⟩⟩
  | cons item items ih =>
      rw [List.map_cons, List.forall_mem_cons, ← ih]
      simp only [firstFaultOrAll_cons, bind_eq_ok_iff]
      constructor
      · intro ends
        obtain ⟨_, result, worked, results, others, -⟩ := ends
        exact ⟨⟨result, worked⟩, results, others⟩
      · intro ends
        obtain ⟨⟨result, worked⟩, results, others⟩ := ends
        exact ⟨result :: results, result, worked, results, others, rfl⟩

theorem outcome_collect (work : Item → Written Failure Output Result) (items : List Item) :
    (collect work items).outcome = firstFaultOrAll (items.map fun item => (work item).outcome) := by
  induction items with
  | nil => rfl
  | cons item items ih =>
      rw [collect, List.map_cons, firstFaultOrAll_cons, ← ih]
      simp only [outcome_bind, outcome_pure]
      rfl

theorem each_append (work : Item → Written Failure Output Unit) (front back : List Item) :
    each work (front ++ back) = (do each work front; each work back) := by
  induction front with
  | nil => rfl
  | cons item front ih => rw [List.cons_append, each, each, ih, bind_assoc]

theorem each_singleton (work : Item → Written Failure Output Unit) (item : Item) :
    each work [item] = work item :=
  bind_pure (work item)

/-- Work that always gives output and nothing else gives it item by item. -/
theorem each_tell {work : Item → Written Failure Output Unit} {given : Item → List Output}
    {items : List Item} (tells : ∀ item ∈ items, work item = tell (given item)) :
    each work items = tell (items.flatMap given) := by
  induction items with
  | nil => rfl
  | cons item items ih =>
      rw [each, tells item List.mem_cons_self,
        ih fun item member => tells item (List.mem_cons_of_mem _ member), List.flatMap_cons]
      rfl

theorem each_map {Other : Type} (work : Other → Written Failure Output Unit)
    (change : Item → Other) (items : List Item) :
    each work (items.map change) = each (fun item => work (change item)) items := by
  induction items with
  | nil => rfl
  | cons item items ih => rw [List.map_cons, each, each, ih]

theorem collect_congr {work other : Item → Written Failure Output Result} {items : List Item}
    (same : ∀ item ∈ items, work item = other item) : collect work items = collect other items := by
  induction items with
  | nil => rfl
  | cons item items ih =>
      rw [collect, collect, same item List.mem_cons_self,
        ih fun item member => same item (List.mem_cons_of_mem _ member)]

/-! ## Possible faults -/

/-- Whether an outcome is a result, or a fault that is allowed. -/
def FailsWithin (allowed : Failure → Prop) (outcome : Except Failure Result) : Prop :=
  ∀ fault, outcome = .error fault → allowed fault

namespace FailsWithin

variable {allowed : Failure → Prop} {outcome : Except Failure Result}

theorem ok (result : Result) : FailsWithin allowed (.ok result) := nofun

theorem error {fault : Failure} (isAllowed : allowed fault) :
    FailsWithin allowed (.error fault : Except Failure Result) := by
  intro other same
  cases same
  exact isAllowed

theorem mono {other : Failure → Prop} (fails : FailsWithin allowed outcome)
    (wider : ∀ fault, allowed fault → other fault) : FailsWithin other outcome := by
  intro fault same
  exact wider fault (fails fault same)

/-- Work that goes on after a result fails with what either part fails with. -/
theorem bind {next : Result → Except Failure Next} (first : FailsWithin allowed outcome)
    (second : ∀ result, FailsWithin allowed (next result)) :
    FailsWithin allowed (outcome >>= next) := by
  intro fault same
  rcases bind_eq_error_iff.1 same with isFirst | ⟨result, -, isSecond⟩
  · exact first fault isFirst
  · exact second result fault isSecond

theorem map {change : Result → Next} (fails : FailsWithin allowed outcome) :
    FailsWithin allowed (outcome.map change) := by
  intro fault same
  exact fails fault (map_eq_error_iff.1 same)

theorem firstFaultOrAll {outcomes : List (Except Failure Result)}
    (each : ∀ outcome ∈ outcomes, FailsWithin allowed outcome) :
    FailsWithin allowed (firstFaultOrAll outcomes) := by
  induction outcomes with
  | nil => exact ok []
  | cons outcome outcomes ih =>
      rw [firstFaultOrAll_cons]
      refine (each outcome List.mem_cons_self).bind fun result => ?_
      have later := ih fun outcome member => each outcome (List.mem_cons_of_mem _ member)
      exact later.bind fun results => ok (result :: results)

theorem foldlM {State : Type} {step : State → Item → Except Failure State} {items : List Item}
    (start : State)
    (each : ∀ state, ∀ item ∈ items, FailsWithin allowed (step state item)) :
    FailsWithin allowed (items.foldlM step start) := by
  induction items generalizing start with
  | nil => exact ok start
  | cons item items ih =>
      rw [List.foldlM_cons]
      refine (each start item List.mem_cons_self).bind fun next => ?_
      exact ih next fun state item member => each state item (List.mem_cons_of_mem _ member)

end FailsWithin

end ThreadStacks.Written
