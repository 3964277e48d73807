import Mathlib.Data.List.Chain
import ThreadStacks.Proofs.Token.Text
import ThreadStacks.Token.Cursor

/-!
# Tokenizations of names

What makes tokens the tokens of a name can be said without a scan: they show the name, a separator
is a token of its own, and no word is empty, holds a separator or touches another word.  There is
exactly one list of such tokens.
-/

namespace ThreadStacks.Token

variable {separators name word back : Text} {character : CodePoint} {tokens : List Token}

/-- What a token of a name can be: one of the separators, or a word that holds none of them. -/
inductive IsNameToken (separators : Text) : Token → Prop where
  | separator {character : CodePoint} (listed : character ∈ separators) :
      IsNameToken separators (Token.separator character)
  | word {text : Text} (nonempty : text ≠ [])
      (ordinary : ∀ character ∈ text, character ∉ separators) :
      IsNameToken separators ⟨.word, text⟩

theorem IsNameToken.text_ne_nil {token : Token} (isToken : IsNameToken separators token) :
    token.text ≠ [] := by
  cases isToken with
  | separator => exact List.cons_ne_nil _ _
  | word nonempty => exact nonempty

theorem IsNameToken.kind_ne_modifier {token : Token} (isToken : IsNameToken separators token) :
    token.kind ≠ .modifier := by
  cases isToken with
  | separator => exact nofun
  | word => exact nofun

/-- Whether tokens cut a name at its separators: nothing of it is lost, and of two neighbours one is
a separator, so that every word is as long as it can be. -/
structure IsTokenization (separators name : Text) (tokens : List Token) : Prop where
  whole : shown tokens = name
  valid : ∀ token ∈ tokens, IsNameToken separators token
  apart : tokens.IsChain fun first second =>
    first.kind = .separator ∨ second.kind = .separator

/-! ## The scan gives a tokenization -/

namespace IsTokenization

theorem cons_separator (cut : IsTokenization separators name tokens)
    (listed : character ∈ separators) :
    IsTokenization separators (character :: name) (separator character :: tokens) where
  whole := congrArg (character :: ·) cut.whole
  valid := List.forall_mem_cons.2 ⟨.separator listed, cut.valid⟩
  apart := cut.apart.cons fun _ _ => .inl rfl

/-- A character that is no separator lengthens the word that it touches, or is a word by itself. -/
theorem cons_ordinary (cut : IsTokenization separators name tokens)
    (ordinary : character ∉ separators) :
    IsTokenization separators (character :: name) (consCharacter character tokens) := by
  have alone : IsNameToken separators ⟨.word, [character]⟩ :=
    .word (by simp) (by simpa using ordinary)
  obtain ⟨rfl, valid, apart⟩ := cut
  cases tokens with
  | nil => exact ⟨rfl, by simpa [consCharacter] using alone, .singleton _⟩
  | cons token tokens =>
      rw [List.forall_mem_cons] at valid
      rcases valid with ⟨⟨listed⟩ | ⟨nonempty, others⟩, validLater⟩
      · refine ⟨rfl, ?_, ?_⟩
        · exact List.forall_mem_cons.2
            ⟨alone, List.forall_mem_cons.2 ⟨.separator listed, validLater⟩⟩
        · exact .cons_cons (.inr rfl) apart
      · refine ⟨rfl, ?_, ?_⟩
        · refine List.forall_mem_cons.2 ⟨.word (by simp) ?_, validLater⟩
          exact List.forall_mem_cons.2 ⟨ordinary, others⟩
        · exact apart.tail.cons fun next isNext => apart.rel_head? isNext

end IsTokenization

theorem isTokenization_ofName (separators name : Text) :
    IsTokenization separators name (ofName separators name) := by
  induction name with
  | nil => exact ⟨rfl, by simp [ofName], .nil⟩
  | cons character name ih =>
      rw [ofName]
      split
      next separating => exact ih.cons_separator (List.contains_iff_mem.1 separating)
      next ordinary => exact ih.cons_ordinary (mt List.contains_iff_mem.2 ordinary)

theorem isNameToken_of_mem_ofName {token : Token} (listed : token ∈ ofName separators name) :
    IsNameToken separators token :=
  (isTokenization_ofName separators name).valid token listed

/-- No token of a name is a modifier. -/
theorem kind_ne_modifier_of_mem_ofName {token : Token} (listed : token ∈ ofName separators name) :
    token.kind ≠ .modifier :=
  (isNameToken_of_mem_ofName listed).kind_ne_modifier

/-! ## No other list is one -/

theorem ofName_separator (listed : character ∈ separators) :
    ofName separators (character :: back) = separator character :: ofName separators back := by
  rw [ofName, if_pos (List.contains_iff_mem.2 listed)]

/-- A word is a token if a separator or nothing follows it. -/
theorem ofName_word (nonempty : word ≠ []) (ordinary : ∀ character ∈ word, character ∉ separators)
    (ends : ∀ character ∈ back.head?, character ∈ separators) :
    ofName separators (word ++ back) = ⟨.word, word⟩ :: ofName separators back := by
  cases word with
  | nil => contradiction
  | cons first word =>
      have notListed : ∀ character ∈ first :: word, separators.contains character = false := by
        simpa using ordinary
      have inWord : ∀ character ∈ word, (!separators.contains character) = true := by
        intro character member
        rw [notListed character (List.mem_cons_of_mem _ member)]
        rfl
      rw [List.cons_append,
        Cursor.ofName_cons_ordinary separators (notListed first List.mem_cons_self),
        List.takeWhile_append_of_pos inWord, List.dropWhile_append_of_pos inWord]
      cases back with
      | nil => simp
      | cons next back =>
          have listed : next ∈ separators := ends next rfl
          simp [listed]

theorem IsTokenization.eq_ofName (cut : IsTokenization separators name tokens) :
    tokens = ofName separators name := by
  obtain ⟨rfl, valid, apart⟩ := cut
  induction tokens with
  | nil => rfl
  | cons token tokens ih =>
      rw [List.forall_mem_cons] at valid
      have later : tokens = ofName separators (shown tokens) := ih valid.2 apart.tail
      have split : shown (token :: tokens) = token.text ++ shown tokens := List.flatMap_cons
      rw [split]
      rcases valid with ⟨⟨listed⟩ | ⟨nonempty, ordinary⟩, validLater⟩
      · exact (congrArg (_ :: ·) later).trans (ofName_separator listed).symm
      · have ends : ∀ character ∈ (shown tokens).head?, character ∈ separators := by
          cases tokens with
          | nil => simp [shown]
          | cons next tokens =>
              have isSeparator : next.kind = .separator :=
                (apart.rel_head? rfl).resolve_left (by simp)
              rcases validLater next List.mem_cons_self with ⟨listed⟩ | _
              · intro character isFirst
                cases isFirst
                exact listed
              · contradiction
        exact (congrArg (_ :: ·) later).trans (ofName_word nonempty ordinary ends).symm

/-- The tokens of a name are its tokenization, and it has no other one. -/
theorem isTokenization_iff (separators name : Text) (tokens : List Token) :
    IsTokenization separators name tokens ↔ tokens = ofName separators name := by
  constructor
  · exact IsTokenization.eq_ofName
  · rintro rfl
    exact isTokenization_ofName separators name

example : ofName "|".toText "|a.b||c".toText =
    [separator (.char '|'), ⟨.word, "a.b".toText⟩, separator (.char '|'), separator (.char '|'),
      ⟨.word, "c".toText⟩] := by
  decide

end ThreadStacks.Token
