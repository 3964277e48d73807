import Mathlib.Data.List.TakeWhile
import ThreadStacks.Proofs.Written
import ThreadStacks.Stream

/-!
# What gets through an encoding

A stream is encoded piece by piece, so work on an encoded stream is its parts on that stream.  It
ends as the work itself does unless the work writes a half, and the first half or fault on the way
decides how.
-/

namespace ThreadStacks

namespace Text

variable {text other : Text} {pieces : List Text}

theorem isEncodable_iff : text.isEncodable = true ↔ ∀ code ∈ text, code.isCharacter = true :=
  List.all_eq_true

theorem not_mem_of_isEncodable {code : CodePoint} (isHalf : code.isCharacter = false)
    (encodable : text.isEncodable = true) : code ∉ text := by
  intro member
  rw [isEncodable_iff.1 encodable code member] at isHalf
  contradiction

theorem isEncodable_of_not_mem (noHalf : ∀ code, code.isCharacter = false → code ∉ text) :
    text.isEncodable = true := by
  refine isEncodable_iff.2 fun code member => ?_
  cases isHalf : code.isCharacter with
  | true => rfl
  | false => exact absurd member (noHalf code isHalf)

theorem isEncodable_append (front back : Text) :
    Text.isEncodable (front ++ back) = (front.isEncodable && back.isEncodable) :=
  List.all_append

theorem isEncodable_flatten (pieces : List Text) :
    Text.isEncodable pieces.flatten = pieces.all isEncodable :=
  List.all_flatten

/-- Texts with the same halves are encodable alike. -/
theorem isEncodable_congr
    (sameHalves : ∀ code, code.isCharacter = false → (code ∈ text ↔ code ∈ other)) :
    text.isEncodable = other.isEncodable := by
  rw [Bool.eq_iff_iff, isEncodable_iff, isEncodable_iff]
  refine forall_congr' fun code => ?_
  cases isHalf : code.isCharacter with
  | true => exact iff_of_true (fun _ => rfl) fun _ => rfl
  | false => rw [sameHalves code isHalf]

/-- A text of characters only. -/
theorem isEncodable_map_char (characters : List Char) :
    Text.isEncodable (characters.map .char) = true := by
  rw [isEncodable, List.all_map]
  exact List.all_eq_true.2 fun _ _ => rfl

/-- The fault of writing a text to an encoded stream. -/
def encodingFault? (text : Text) : Option Fault :=
  if text.isEncodable then none else some .notEncodable

theorem encodingFault?_congr (same : text.isEncodable = other.isEncodable) :
    text.encodingFault? = other.encodingFault? := by
  rw [encodingFault?, encodingFault?, same]

theorem encodingFault?_eq_none (encodable : text.isEncodable = true) :
    text.encodingFault? = none :=
  if_pos encodable

end Text

namespace Written

variable {Result Next Item : Type} {work : Drawn Result}

@[simp] theorem text_tell (pieces : List Text) :
    (Written.tell pieces : Drawn Unit).text = pieces.flatten := rfl

theorem encoded_of_isEncodable (encodable : work.output.all Text.isEncodable = true) :
    work.encoded = work := by
  rw [encoded, List.takeWhile_eq_self_iff.2 (List.all_eq_true.1 encodable), if_pos encodable]

theorem encoded_tell_of_isEncodable {pieces : List Text}
    (encodable : pieces.all Text.isEncodable = true) :
    (Written.tell pieces : Drawn Unit).encoded = Written.tell pieces :=
  encoded_of_isEncodable encodable

theorem outcome_encoded_of_not_isEncodable (broken : work.output.all Text.isEncodable = false) :
    work.encoded.outcome = .error .notEncodable :=
  if_neg (Bool.eq_false_iff.1 broken)

/-- Nothing gets through behind a piece that does not. -/
theorem takeWhile_append_of_not_isEncodable {pieces : List Text}
    (broken : pieces.all Text.isEncodable = false) (later : List Text) :
    (pieces ++ later).takeWhile Text.isEncodable = pieces.takeWhile Text.isEncodable := by
  rw [List.takeWhile_append, if_neg]
  intro sameLength
  have takesAll := (List.takeWhile_prefix Text.isEncodable).eq_of_length sameLength
  have encodable := List.all_takeWhile (p := Text.isEncodable) (l := pieces)
  rw [takesAll, broken] at encodable
  contradiction

/-- An encoded stream is written to step by step. -/
theorem encoded_bind (work : Drawn Result) (next : Result → Drawn Next) :
    (work >>= next).encoded = work.encoded >>= fun result => (next result).encoded := by
  obtain ⟨output, outcome⟩ := work
  cases encodable : output.all Text.isEncodable with
  | true =>
      have goesThrough : (⟨output, outcome⟩ : Drawn Result).encoded = ⟨output, outcome⟩ :=
        encoded_of_isEncodable encodable
      rw [goesThrough]
      cases outcome with
      | error fault => exact encoded_of_isEncodable encodable
      | ok result =>
          change encoded ⟨output ++ (next result).output, (next result).outcome⟩ =
            ⟨output ++ (next result).encoded.output, (next result).encoded.outcome⟩
          simp only [encoded, List.all_append, encodable, Bool.true_and,
            List.takeWhile_append_of_pos (List.all_eq_true.1 encodable)]
  | false =>
      have stops : (⟨output, outcome⟩ : Drawn Result).encoded =
          ⟨output.takeWhile Text.isEncodable, .error .notEncodable⟩ :=
        congrArg (Written.mk _) (if_neg (Bool.eq_false_iff.1 encodable))
      rw [stops]
      cases outcome with
      | error fault => exact congrArg (Written.mk _) (if_neg (Bool.eq_false_iff.1 encodable))
      | ok result =>
          change encoded ⟨output ++ (next result).output, (next result).outcome⟩ =
            ⟨output.takeWhile Text.isEncodable, .error .notEncodable⟩
          simp only [encoded, List.all_append, encodable, Bool.false_and, Bool.false_eq_true,
            if_false, takeWhile_append_of_not_isEncodable encodable]

/-- The fault that work on an encoded stream ends with, if it does not end well. -/
def EndsWith (fault? : Option Fault) (work : Drawn Result) : Prop := work.encoded.fault? = fault?

namespace EndsWith

variable {fault? later? : Option Fault} {next : Result → Drawn Next}

theorem pure (result : Result) : EndsWith none (Pure.pure result : Drawn Result) := rfl

theorem ofExcept (outcome : Except Fault Result) :
    EndsWith (Written.ofExcept outcome).fault? (Written.ofExcept outcome) := rfl

theorem tell (pieces : List Text) :
    EndsWith (Text.encodingFault? pieces.flatten) (Written.tell pieces : Drawn Unit) := by
  rw [Text.encodingFault?, Text.isEncodable_flatten, EndsWith]
  cases encodable : pieces.all Text.isEncodable with
  | true => exact congrArg Written.fault? (encoded_tell_of_isEncodable encodable)
  | false =>
      have broken : (Written.tell pieces : Drawn Unit).encoded.outcome = .error .notEncodable :=
        outcome_encoded_of_not_isEncodable encodable
      rw [Written.fault?, broken]
      rfl

/-- Work that goes on ends with its first fault. -/
theorem bind (first : EndsWith fault? work) (second : ∀ result, EndsWith later? (next result)) :
    EndsWith (fault?.or later?) (work >>= next) := by
  rw [EndsWith, Written.fault?] at first
  rw [EndsWith, Written.fault?, encoded_bind, outcome_bind]
  cases ends : work.encoded.outcome with
  | error fault =>
      rw [ends] at first
      exact congrArg (Option.or · later?) first
  | ok result =>
      rw [ends] at first
      rw [← first]
      exact second result

theorem findSome?_cons_eq_or {test : Item → Option Fault} {item : Item} {items : List Item} :
    (item :: items).findSome? test = (test item).or (items.findSome? test) := by
  rw [List.findSome?_cons]
  cases test item with
  | none => rfl
  | some fault => rfl

theorem each {itemFault? : Item → Option Fault} {work : Item → Drawn Unit} {items : List Item}
    (ends : ∀ item, EndsWith (itemFault? item) (work item)) :
    EndsWith (items.findSome? itemFault?) (Written.each work items) := by
  induction items with
  | nil => exact pure ()
  | cons item items ih =>
      rw [findSome?_cons_eq_or]
      exact (ends item).bind fun _ => ih

end EndsWith

end Written

end ThreadStacks
