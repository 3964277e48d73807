import ThreadStacks.Proofs.Frame.PlainSignature
import ThreadStacks.Proofs.Name.Ends

/-!
# Signatures joined from their parts

The type and the method of a frame are cut from the readable signature, which was put together
before.  Put together again they give the signature, unless the cut was at one of its ends: a dot
without a type or a method at its side is lost.
-/

namespace ThreadStacks.StackFrame

open Name

/-- The signature that the type, the method and the arguments of a frame give. -/
def joined (frame : StackFrame) : Text :=
  joinMethod frame.type frame.method ++ .char '(' :: (frame.arguments ++ [.char ')'])

/-- A raw signature in front of its argument list; empty if there is none. -/
def rawBody (raw : Text) : Text := ((splitSignature? raw).map fun parts => parts.1).getD []

/-- A frame with an argument list has the signature that its parts give if and only if the readable
signature is not cut at one of its ends, as is the case where no rule can write a dot there. -/
theorem signature_demangle_eq_joined_iff (raw : Text) (listed : .char '(' ∈ raw) :
    ((demangle raw).signature = (demangle raw).joined ↔
        ¬HasOuterCut (displaySignature (rawBody raw))) ∧
      (KeepsEnds (rawBody raw) → (demangle raw).signature = (demangle raw).joined) := by
  obtain ⟨body, list, cut⟩ := exists_cutAtLast? listed
  have split : splitSignature? raw = some (body, dropClosing list) := by
    rw [splitSignature?, cut]
    rfl
  have isBody : rawBody raw = body := by
    rw [rawBody, split]
    rfl
  have isExact : (demangle raw).signature = (demangle raw).joined ↔
      ¬HasOuterCut (displaySignature body) := by
    rw [← joinMethod_splitFullName_eq_iff, joined, demangle, split]
    exact List.append_left_inj _ |>.trans eq_comm
  rw [isBody]
  refine ⟨isExact, ?_⟩
  intro keeps
  exact isExact.2 keeps.not_hasOuterCut

/-- The name of a generated method keeps its dot away from the start of the signature. -/
theorem signature_demangle_eq_joined_lambda :
    let raw := "<Main>b__0(Int32)".toText
    (.char '(') ∈ raw ∧ KeepsEnds (rawBody raw) ∧
      (demangle raw).signature = (demangle raw).joined := by
  intro raw
  have listed : .char '(' ∈ raw := by decide
  have keeps : KeepsEnds (rawBody raw) := by decide
  exact ⟨listed, keeps, (signature_demangle_eq_joined_iff raw listed).2 keeps⟩

/-- The mark of a generated method without a name is a dot at the start. -/
theorem not_forall_signature_demangle_eq_joined :
    ¬∀ raw : Text, .char '(' ∈ raw → (demangle raw).signature = (demangle raw).joined := by
  intro joins
  have same := joins "<>b__0()".toText (by decide)
  revert same
  decide

end ThreadStacks.StackFrame
