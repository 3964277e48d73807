import ThreadStacks.Document.Display
import ThreadStacks.Document.Printer
import ThreadStacks.Proofs.Stream
import ThreadStacks.Proofs.Text.Trim

/-!
# Halves in documents

A document is written to a file as it is, so it can be encoded if and only if none of its texts and
keys has a half.  Inside a line a value that is no text is written with its texts quoted, and quoted
text shows a half as an escape.
-/

namespace ThreadStacks

namespace Text

variable {text other : Text}

theorem isEncodable_of_subset (within : text ⊆ other) (encodable : other.isEncodable = true) :
    text.isEncodable = true :=
  isEncodable_iff.2 fun code member => isEncodable_iff.1 encodable code (within member)

theorem isEncodable_ite {condition : Prop} [Decidable condition]
    (encodable : text.isEncodable = true) (otherEncodable : other.isEncodable = true) :
    Text.isEncodable (if condition then text else other) = true := by
  split
  next => exact encodable
  next => exact otherEncodable

theorem isEncodable_ofNat (number : Nat) : (ofNat number).isEncodable = true :=
  isEncodable_map_char _

theorem isEncodable_ofInt (number : Int) : (ofInt number).isEncodable = true := by
  cases number with
  | ofNat number => exact isEncodable_ofNat number
  | negSucc number => exact isEncodable_ofNat (number + 1)

theorem isEncodable_replicate (count : Nat) (character : Char) :
    isEncodable (List.replicate count (.char character)) = true := by
  rw [← List.map_replicate]
  exact isEncodable_map_char _

theorem isEncodable_hexadecimal (width number : Nat) :
    (hexadecimal width number).isEncodable = true := by
  rw [hexadecimal, isEncodable_append, isEncodable_replicate, isEncodable_map_char]
  rfl

theorem isEncodable_intercalate {separator : Text} {pieces : List Text}
    (joins : separator.isEncodable = true) (encodable : pieces.all isEncodable = true) :
    isEncodable (separator.intercalate pieces) = true := by
  rw [List.intercalate, isEncodable_flatten]
  refine List.all_eq_true.2 fun piece listed => ?_
  induction pieces with
  | nil => contradiction
  | cons first pieces ih =>
      rw [List.all_cons, Bool.and_eq_true] at encodable
      cases pieces with
      | nil =>
          obtain rfl := List.mem_singleton.1 listed
          exact encodable.1
      | cons second pieces =>
          rcases List.mem_cons.1 listed with rfl | later
          · exact encodable.1
          · rcases List.mem_cons.1 later with rfl | later
            · exact joins
            · exact ih encodable.2 later

/-! ## Quoted text -/

theorem toNat_half (offset : Fin 0x800) :
    0xD800 ≤ (CodePoint.half offset).toNat ∧ (CodePoint.half offset).toNat < 0xE000 := by
  have isHalf : (CodePoint.half offset).toNat = 0xD800 + offset := rfl
  omega

theorem isPrintable_half (offset : Fin 0x800) : isPrintable (.half offset) = false := by
  obtain ⟨first, last⟩ := toNat_half offset
  have invisible : inRanges invisibleRanges (.half offset) = true := by
    refine List.any_eq_true.2 ⟨(0xD7FC, 0xF8FF), by decide, Bool.and_eq_true_iff.2 ⟨?_, ?_⟩⟩
    · exact decide_eq_true (by omega)
    · exact decide_eq_true (by omega)
  rw [isPrintable, if_neg (by omega), invisible]
  rfl

theorem isCharacter_quoteFor (text : Text) : (quoteFor text).isCharacter = true := by
  rw [quoteFor]
  split
  next => rfl
  next => rfl

/-- A half is quoted as an escape, and so is every character that has no visible form. -/
theorem isEncodable_quotedCharacter {quote : CodePoint} (isCharacter : quote.isCharacter = true)
    (code : CodePoint) : (quotedCharacter quote code).isEncodable = true := by
  have escaped (mark : Char) (width : Nat) :
      isEncodable (.char '\\' :: .char mark :: hexadecimal width code.toNat) = true :=
    isEncodable_hexadecimal width code.toNat
  have standsForItself (kept : code.isCharacter = true) : isEncodable [code] = true := by
    rw [isEncodable, List.all_cons, kept]
    rfl
  unfold quotedCharacter
  split
  next marked =>
    rw [Bool.or_eq_true, decide_eq_true_iff, decide_eq_true_iff] at marked
    have kept : code.isCharacter = true := by
      rcases marked with rfl | rfl
      · exact isCharacter
      · rfl
    exact standsForItself kept
  next =>
    refine isEncodable_ite rfl (isEncodable_ite rfl (isEncodable_ite rfl ?_))
    split
    next printable =>
      cases code with
      | char character => rfl
      | half offset =>
          rw [isPrintable_half] at printable
          contradiction
    next => exact isEncodable_ite (escaped 'x' 2) (isEncodable_ite (escaped 'u' 4) (escaped 'U' 8))

theorem isEncodable_quoted (text : Text) : (quoted text).isEncodable = true := by
  have isQuote := isCharacter_quoteFor text
  have inside : isEncodable (text.flatMap (quotedCharacter (quoteFor text))) = true := by
    rw [List.flatMap_def, isEncodable_flatten, List.all_map]
    exact List.all_eq_true.2 fun code _ => isEncodable_quotedCharacter isQuote code
  have behind : isEncodable [quoteFor text] = true := by
    rw [isEncodable, List.all_cons, isQuote]
    rfl
  rw [quoted, isEncodable, List.all_cons, isQuote, Bool.true_and, ← isEncodable,
    isEncodable_append, inside, behind]
  rfl

end Text

/-! ## Numbers -/

open Text

theorem Binary64.isEncodable_exponentText (exponent : Int) :
    (exponentText exponent).isEncodable = true := by
  have digits : isEncodable (List.replicate (layout.exponentDigits -
      (Text.ofNat exponent.natAbs).length) (.char '0') ++ Text.ofNat exponent.natAbs) = true := by
    rw [isEncodable_append, isEncodable_replicate, isEncodable_ofNat]
    rfl
  rw [exponentText]
  split
  next => exact digits
  next => exact digits

theorem Binary64.isEncodable_layOut {digits : Text} (encodable : digits.isEncodable = true)
    (point : Int) : (layOut digits point).isEncodable = true := by
  have take (count : Nat) : isEncodable (digits.take count) = true :=
    isEncodable_of_subset (List.take_subset count digits) encodable
  have drop (count : Nat) : isEncodable (digits.drop count) = true :=
    isEncodable_of_subset (List.drop_subset count digits) encodable
  have cons (character : Char) (text : Text) :
      isEncodable (.char character :: text) = text.isEncodable := rfl
  have orZero (text : Text) (encodable : text.isEncodable = true) :
      Text.isEncodable (if text.isEmpty then [.char '0'] else text) = true :=
    isEncodable_ite rfl encodable
  unfold layOut
  split
  next =>
    split
    next position _ =>
      have whole : isEncodable (digits.take position ++
          List.replicate (position - digits.length) (.char '0')) = true := by
        rw [isEncodable_append, take, isEncodable_replicate]
        rfl
      rw [isEncodable_append, cons, orZero _ whole, orZero _ (drop position)]
      rfl
    next zeros _ =>
      rw [isEncodable_append, isEncodable_append, isEncodable_replicate, encodable]
      rfl
  next =>
    have fraction : isEncodable
        (if (digits.drop 1).isEmpty then [] else .char '.' :: digits.drop 1) = true :=
      isEncodable_ite rfl (drop 1)
    rw [isEncodable_append, isEncodable_append, cons, take, fraction, isEncodable_exponentText]
    rfl

theorem Binary64.isEncodable_text (value : Binary64) : value.text.isEncodable = true := by
  cases value with
  | infinite negative => cases negative <;> rfl
  | notANumber => rfl
  | finite negative mantissa exponent =>
      have sign : isEncodable (if negative then [.char '-'] else []) = true := by
        cases negative <;> rfl
      rw [text, finiteText]
      split
      next => rw [isEncodable_append, sign]; rfl
      next =>
        rw [isEncodable_append, sign, isEncodable_layOut]
        · rfl
        · exact isEncodable_of_subset (Text.dropEndWhile_prefix _ _).subset (isEncodable_ofNat _)

/-! ## Values in a line -/

namespace Document

theorem isEncodable_comma : Text.isEncodable ", ".toText = true := rfl

mutual

theorem isEncodable_inlineText : ∀ document : Document, document.inlineText.isEncodable = true
  | .null => rfl
  | .bool true => rfl
  | .bool false => rfl
  | .integer value => isEncodable_ofInt value
  | .float value => value.isEncodable_text
  | .text value => isEncodable_quoted value
  | .list items => by
      have inside := isEncodable_intercalate isEncodable_comma (all_isEncodable_inlineItems items)
      exact (Text.isEncodable_append _ [.char ']']).trans (congrArg (· && _) inside)
  | .object fields => by
      have inside := isEncodable_intercalate isEncodable_comma (all_isEncodable_inlineFields fields)
      exact (Text.isEncodable_append _ [.char '\x7d']).trans (congrArg (· && _) inside)

theorem all_isEncodable_inlineItems :
    ∀ items : List Document, (inlineItems items).all Text.isEncodable = true
  | [] => rfl
  | item :: items => by
      rw [inlineItems, List.all_cons, isEncodable_inlineText item,
        all_isEncodable_inlineItems items]
      rfl

theorem all_isEncodable_inlineFields :
    ∀ fields : Fields, (inlineFields fields).all Text.isEncodable = true
  | [] => rfl
  | (key, value) :: rest => by
      rw [inlineFields, List.all_cons, isEncodable_append, isEncodable_append,
        isEncodable_quoted key, isEncodable_inlineText value, all_isEncodable_inlineFields rest]
      rfl

end

/-! ## Documents on file -/

mutual

/-- Whether no text and no key of a document has a half in it. -/
def isWhole : Document → Bool
  | .text value => value.isEncodable
  | .list items => itemsAreWhole items
  | .object fields => fieldsAreWhole fields
  | .null | .bool _ | .integer _ | .float _ => true

def itemsAreWhole : List Document → Bool
  | [] => true
  | item :: items => item.isWhole && itemsAreWhole items

def fieldsAreWhole : Fields → Bool
  | [] => true
  | (key, value) :: rest => key.isEncodable && (value.isWhole && fieldsAreWhole rest)

end

theorem isEncodable_cons (character : Char) (text : Text) :
    Text.isEncodable (.char character :: text) = text.isEncodable := rfl

theorem isEncodable_writtenCharacter (code : CodePoint) :
    (writtenCharacter code).isEncodable = code.isCharacter := by
  cases code with
  | half offset =>
      have notControl : ¬(CodePoint.half offset).toNat < 0x20 := by
        have high := (Text.toNat_half offset).1
        omega
      simp only [writtenCharacter, reduceCtorEq, if_false, if_neg notControl]
      rfl
  | char character =>
      have escaped : ("\\u".toText ++ hexadecimal 4 character.toNat).isEncodable = true :=
        isEncodable_hexadecimal 4 character.toNat
      exact isEncodable_ite rfl (isEncodable_ite rfl (isEncodable_ite rfl (isEncodable_ite rfl
        (isEncodable_ite rfl (isEncodable_ite rfl (isEncodable_ite rfl
          (isEncodable_ite escaped rfl)))))))

theorem isEncodable_writtenText (text : Text) :
    (writtenText text).isEncodable = text.isEncodable := by
  have inside : Text.isEncodable (text.flatMap writtenCharacter) = text.isEncodable := by
    rw [List.flatMap_def, Text.isEncodable_flatten, List.all_map]
    simp only [Function.comp_def, isEncodable_writtenCharacter]
    rfl
  rw [writtenText, isEncodable_cons, Text.isEncodable_append, inside]
  exact Bool.and_true _

theorem isEncodable_writtenFloat (value : Binary64) :
    (writtenFloat value).isEncodable = true := by
  cases value with
  | infinite negative => cases negative <;> rfl
  | notANumber => rfl
  | finite negative mantissa exponent =>
      exact Binary64.isEncodable_text (.finite negative mantissa exponent)

theorem isEncodable_newLine (level : Nat) : (newLine level).isEncodable = true :=
  isEncodable_replicate (2 * level) ' '

theorem all_isEncodable_lead (lead shown : Text) :
    [lead ++ shown].all Text.isEncodable = (lead.isEncodable && shown.isEncodable) := by
  rw [List.all_cons, Text.isEncodable_append]
  exact Bool.and_true _

mutual

theorem all_isEncodable_piecesAt (lead : Text) (level : Nat) :
    ∀ document : Document, (piecesAt lead level document).all Text.isEncodable =
      (lead.isEncodable && document.isWhole)
  | .null => all_isEncodable_lead lead _
  | .bool true => all_isEncodable_lead lead _
  | .bool false => all_isEncodable_lead lead _
  | .integer value => by
      rw [piecesAt, all_isEncodable_lead, isEncodable_ofInt]
      rfl
  | .float value => by
      rw [piecesAt, all_isEncodable_lead, isEncodable_writtenFloat]
      rfl
  | .text value => by
      rw [piecesAt, all_isEncodable_lead, isEncodable_writtenText]
      rfl
  | .list items => by
      have opening : Text.isEncodable (.char '[' :: newLine (level + 1)) = true :=
        isEncodable_newLine (level + 1)
      have inside := all_isEncodable_itemPieces opening (level + 1) items
      rw [piecesAt, isWhole]
      split
      next empty =>
        rw [List.isEmpty_iff.1 empty]
        rfl
      next =>
        rw [List.cons_append, List.all_cons, List.all_append, inside, List.all_cons,
          isEncodable_newLine]
        exact congrArg (lead.isEncodable && ·) (Bool.and_true _)
  | .object fields => by
      have inside :=
        all_isEncodable_fieldPieces (isEncodable_newLine (level + 1)) (level + 1) fields
      rw [piecesAt, isWhole]
      split
      next empty =>
        rw [List.isEmpty_iff.1 empty]
        rfl
      next =>
        rw [List.cons_append, List.all_cons, List.cons_append, List.all_cons, List.all_append,
          inside, List.all_cons, isEncodable_newLine]
        exact congrArg (lead.isEncodable && ·) (Bool.and_true _)

theorem all_isEncodable_itemPieces {lead : Text} (encodable : lead.isEncodable = true)
    (level : Nat) : ∀ items : List Document,
      (itemPieces lead level items).all Text.isEncodable = itemsAreWhole items
  | [] => rfl
  | item :: items => by
      have comma : Text.isEncodable (.char ',' :: newLine level) = true := isEncodable_newLine level
      rw [itemPieces, List.all_append, all_isEncodable_piecesAt lead level item, encodable,
        all_isEncodable_itemPieces comma level items]
      rfl

theorem all_isEncodable_fieldPieces {lead : Text} (encodable : lead.isEncodable = true)
    (level : Nat) : ∀ fields : Fields,
      (fieldPieces lead level fields).all Text.isEncodable = fieldsAreWhole fields
  | [] => rfl
  | (key, value) :: rest => by
      have colon : Text.isEncodable ": ".toText = true := rfl
      have comma : Text.isEncodable (.char ',' :: newLine level) = true := isEncodable_newLine level
      rw [fieldPieces, List.cons_append, List.all_cons, List.cons_append, List.all_cons,
        List.cons_append, List.all_cons, List.all_append, encodable, isEncodable_writtenText,
        colon, all_isEncodable_piecesAt [] level value,
        all_isEncodable_fieldPieces comma level rest]
      rfl

end

end Document

end ThreadStacks
