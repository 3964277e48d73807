import ThreadStacks.Text.LowerCase.Table

/-!
# Lower case

Full lower-casing of a text.  Every character becomes at least one character.  Two characters
need more than a table of single letters: the capital I with a dot becomes two characters, and
a capital sigma at the end of a word becomes the final form of the letter.
-/

namespace ThreadStacks.Text

/-- Whether a character is looked through when the case of a neighbour matters. -/
def isCaseTransparent (character : CodePoint) : Bool := inRanges caseTransparentRanges character

/-- Whether a character is a letter with a case that is not looked through. -/
def isCased (character : CodePoint) : Bool := inRanges casedRanges character

/-- Whether the first character that is not looked through is a letter with a case. -/
def startsCased : Text → Bool
  | [] => false
  | character :: rest => if isCaseTransparent character then startsCased rest else isCased character

/-- The lower-case form of a character outside ASCII, if it is a capital with a single one. -/
def loweredByRun? (character : CodePoint) : Option CodePoint :=
  (capitalRuns.find? fun run =>
      run.first ≤ character.toNat && character.toNat ≤ run.last &&
        (character.toNat - run.first) % run.step == 0).map
    fun run => .ofNat (Int.toNat (run.distance + character.toNat))

/-- The lower-case form of a character of ASCII. -/
def lowerAscii (character : CodePoint) : CodePoint :=
  if 'A'.toNat ≤ character.toNat && character.toNat ≤ 'Z'.toNat then .ofNat (character.toNat + 32)
  else character

/-- The lower-case form of one character whose neighbours do not matter. -/
def lowerCharacter (character : CodePoint) : Text :=
  if character.toNat < 0x80 then [lowerAscii character]
  else if character = .char '\u0130' then [.char 'i', .char '\u0307']
  else [(loweredByRun? character).getD character]

/-- The capital letter with two lower-case forms. -/
def capitalSigma : CodePoint := .char '\u03a3'

/-- The lower-case sigma at the end of a word, or elsewhere. -/
def sigmaFor (atEnd : Bool) : CodePoint := if atEnd then .char '\u03c2' else .char '\u03c3'

/-- Lower-case a text that follows a letter with a case, or does not. -/
def lowerAfter : (afterCased : Bool) → Text → Text
  | _, [] => []
  | afterCased, character :: rest =>
      let nowCased := if isCaseTransparent character then afterCased else isCased character
      let lowered :=
        if character = capitalSigma then [sigmaFor (afterCased && !startsCased rest)]
        else lowerCharacter character
      lowered ++ lowerAfter nowCased rest

def lower (text : Text) : Text := lowerAfter false text

/-- Lower-casing never shortens a text. -/
theorem length_le_length_lowerAfter (afterCased : Bool) (text : Text) :
    text.length ≤ (lowerAfter afterCased text).length := by
  induction text generalizing afterCased with
  | nil => exact Nat.zero_le _
  | cons character rest ih =>
      have one : 1 ≤ (if character = capitalSigma then
          [sigmaFor (afterCased && !startsCased rest)]
        else lowerCharacter character).length := by
        unfold lowerCharacter
        repeat' split
        all_goals simp
      have others := ih
        (if isCaseTransparent character then afterCased else isCased character)
      simp only [lowerAfter, List.length_append, List.length_cons]
      omega

end ThreadStacks.Text
