import ThreadStacks.Render.View

/-!
# Drawing step by step

What can be asked of a renderer, one operation at a time.  A renderer keeps nothing between two
operations, so a sequence of operations writes the texts of its operations one after the other.
-/

namespace ThreadStacks

/-- What can be asked of a renderer. -/
inductive RenderOperation where
  | fragment (fragment : Fragment)
  | newLine
  | separatorLine
  | line (fragments : List Fragment)
  | centered (kind : FragmentKind) (text : Text)
  | group (group : ThreadGroup)
  | table (threads : ParallelThreads) (limit : Option Int)

namespace RenderOperation

/-- Draw an operation that answers nothing. -/
def silently (drawn : Drawn Unit) : Drawn (Option Nat) := do
  drawn
  pure none

/-- Draw one operation.  Only a fragment has an answer, its width. -/
def perform (renderer : Renderer) : RenderOperation → Drawn (Option Nat)
  | .fragment drawn => do
      let width ← renderer.writeFragment drawn
      pure (some width)
  | .newLine => silently Renderer.writeNewLine
  | .separatorLine => silently renderer.writeSeparatorLine
  | .line fragments => silently (renderer.writeLine fragments)
  | .centered kind text => silently (renderer.writeCentered kind text)
  | .group drawn => silently (renderer.writeGroup drawn)
  | .table threads limit => silently (renderer.writeTable threads limit)

/-- Draw operations one after the other. -/
def performAll (renderer : Renderer) (operations : List RenderOperation) :
    Drawn (List (Option Nat)) :=
  Written.collect (perform renderer) operations

end RenderOperation

end ThreadStacks
