/-!
# Output before a fault

Some work gives output as it goes on and may fail in the middle: the output given until then
stays.  `Written` pairs the output with the result or the fault.
-/

namespace ThreadStacks

/-- Output, and the result or the fault that the work ended with. -/
structure Written (Failure Output Result : Type) where
  output : List Output
  outcome : Except Failure Result

namespace Written

variable {Failure Output Result Next : Type}

/-- Give pieces of output. -/
def tell (output : List Output) : Written Failure Output Unit := ⟨output, .ok ()⟩

/-- End with a fault. -/
def fail (fault : Failure) : Written Failure Output Result := ⟨[], .error fault⟩

/-- Work that gives no output. -/
def ofExcept (outcome : Except Failure Result) : Written Failure Output Result := ⟨[], outcome⟩

/-- Go on after a result; a fault ends the work. -/
def andThen (work : Written Failure Output Result) (next : Result → Written Failure Output Next) :
    Written Failure Output Next :=
  match work.outcome with
  | .error fault => ⟨work.output, .error fault⟩
  | .ok result =>
      let rest := next result
      ⟨work.output ++ rest.output, rest.outcome⟩

instance : Monad (Written Failure Output) where
  pure result := ⟨[], .ok result⟩
  bind := andThen

/-- Give the fault of some work another form. -/
def mapFault {Other : Type} (change : Failure → Other) (work : Written Failure Output Result) :
    Written Other Output Result :=
  ⟨work.output, work.outcome.mapError change⟩

/-- Do a piece of work for every item, in order. -/
def each {Item : Type} (work : Item → Written Failure Output Unit) :
    List Item → Written Failure Output Unit
  | [] => pure ()
  | item :: items => do
      work item
      each work items

/-- Work for every item, in order, with all results. -/
def collect {Item : Type} (work : Item → Written Failure Output Result) :
    List Item → Written Failure Output (List Result)
  | [] => pure []
  | item :: items => do
      let result ← work item
      let results ← collect work items
      pure (result :: results)

end Written

end ThreadStacks
