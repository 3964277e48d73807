import ThreadStacks.Name.TypeName
import ThreadStacks.Proofs.Text.Pieces

/-!
# Arities

An arity is the mark for it with a digit behind.  Dropping the arities of a name leaves none.
-/

namespace ThreadStacks.Name

/-- Whether a name holds an arity. -/
def hasArity : Text → Bool
  | [] => false
  | character :: rest => character == arityMark && startsWithDigit rest || hasArity rest

variable {name : Text}

theorem startsWithDigit_iff :
    startsWithDigit name = true ↔ ∃ digit, Text.isDecimalDigit digit = true ∧ [digit] <+: name := by
  cases name with
  | nil => simp [startsWithDigit]
  | cons first rest => simp [startsWithDigit]

theorem hasArity_iff :
    hasArity name = true ↔
      ∃ digit, Text.isDecimalDigit digit = true ∧ [arityMark, digit] <:+: name := by
  induction name with
  | nil => simp [hasArity]
  | cons character rest ih =>
      rw [hasArity, Bool.or_eq_true, Bool.and_eq_true, beq_iff_eq, ih, startsWithDigit_iff]
      simp only [List.infix_cons_iff, List.cons_prefix_cons (a := arityMark)]
      constructor
      · rintro (⟨rfl, digit, isDigit, behind⟩ | ⟨digit, isDigit, later⟩)
        · exact ⟨digit, isDigit, .inl ⟨rfl, behind⟩⟩
        · exact ⟨digit, isDigit, .inr later⟩
      · rintro ⟨digit, isDigit, ⟨rfl, behind⟩ | later⟩
        · exact .inl ⟨rfl, digit, isDigit, behind⟩
        · exact .inr ⟨digit, isDigit, later⟩

theorem hasArity_eq_false_of_infix {part : Text} (occurs : part <:+: name)
    (none : hasArity name = false) : hasArity part = false := by
  rw [← Bool.not_eq_true, hasArity_iff] at none ⊢
  rintro ⟨digit, isDigit, inPart⟩
  exact none ⟨digit, isDigit, inPart.trans occurs⟩

theorem hasArity_eq_false_of_not_mem (absent : arityMark ∉ name) : hasArity name = false := by
  rw [← Bool.not_eq_true, hasArity_iff]
  rintro ⟨digit, -, occurs⟩
  exact absent (occurs.subset List.mem_cons_self)

/-- A digit is not among characters that are none. -/
theorem digit_not_mem {digit : CodePoint} (isDigit : Text.isDecimalDigit digit = true)
    {others : Text}
    (noDigit : others.all (fun other => !Text.isDecimalDigit other) = true) : digit ∉ others := by
  intro member
  have notDigit := List.all_eq_true.1 noDigit digit member
  rw [isDigit] at notDigit
  contradiction

/-! ## Dropping arities -/

theorem dropArities_sublist (inArity : Bool) (name : Text) :
    (dropArities inArity name).Sublist name := by
  induction name generalizing inArity with
  | nil => exact .slnil
  | cons character rest ih =>
      rw [dropArities]
      split
      next => exact (ih true).cons _
      next =>
        split
        next => exact (ih true).cons _
        next => exact (ih false).cons_cons _

/-- Nothing that follows an arity is a digit. -/
theorem startsWithDigit_dropArities_true (name : Text) :
    startsWithDigit (dropArities true name) = false := by
  induction name with
  | nil => rfl
  | cons character rest ih =>
      rw [dropArities]
      split
      next => exact ih
      next notDigit =>
        split
        next => exact ih
        next => simpa [startsWithDigit] using notDigit

theorem startsWithDigit_dropArities_false (none : startsWithDigit name = false) :
    startsWithDigit (dropArities false name) = false := by
  cases name with
  | nil => rfl
  | cons character rest =>
      rw [dropArities]
      rw [if_neg (by simp)]
      split
      next => exact startsWithDigit_dropArities_true rest
      next => exact none

theorem hasArity_dropArities (inArity : Bool) (name : Text) :
    hasArity (dropArities inArity name) = false := by
  induction name generalizing inArity with
  | nil => rfl
  | cons character rest ih =>
      rw [dropArities]
      split
      next => exact ih true
      next =>
        split
        next => exact ih true
        next notArity =>
          rw [hasArity, ih false, Bool.or_false]
          by_cases isMark : character = arityMark
          · have none : startsWithDigit rest = false := by simpa [isMark] using notArity
            rw [startsWithDigit_dropArities_false none, Bool.and_false]
          · rw [beq_eq_false_iff_ne.2 isMark, Bool.false_and]

/-! ### Arities in a longer name -/

theorem dropArities_append {front back : Text} (absent : arityMark ∉ front) :
    dropArities false (front ++ back) = front ++ dropArities false back := by
  induction front with
  | nil => rfl
  | cons character front ih =>
      rw [List.mem_cons, not_or] at absent
      have notMark : ¬(character = arityMark && startsWithDigit (front ++ back)) = true := by
        simp [Ne.symm absent.1]
      rw [List.cons_append, dropArities, if_neg (by simp), if_neg notMark, ih absent.2,
        List.cons_append]

/-- Behind the digits of an arity, the rest is read as if there had been none. -/
theorem dropArities_digits {digits back : Text}
    (areDigits : digits.all Text.isDecimalDigit = true) (behind : startsWithDigit back = false) :
    dropArities true (digits ++ back) = dropArities false back := by
  induction digits with
  | nil =>
      cases back with
      | nil => rfl
      | cons character back =>
          have notDigit : Text.isDecimalDigit character = false := by
            simpa [startsWithDigit] using behind
          rw [List.nil_append, dropArities, dropArities, notDigit]
          rfl
  | cons digit digits ih =>
      rw [List.all_cons, Bool.and_eq_true] at areDigits
      rw [List.cons_append, dropArities, if_pos (by simp [areDigits.1]), ih areDigits.2]

theorem dropArities_mark {digits back : Text} (nonempty : digits ≠ [])
    (areDigits : digits.all Text.isDecimalDigit = true) (behind : startsWithDigit back = false) :
    dropArities false (arityMark :: (digits ++ back)) = dropArities false back := by
  obtain ⟨digit, others, rfl⟩ := List.exists_cons_of_ne_nil nonempty
  have isDigit := List.all_eq_true.1 areDigits digit List.mem_cons_self
  have isArity : (arityMark = arityMark && startsWithDigit (digit :: others ++ back)) = true := by
    simp [startsWithDigit, isDigit]
  rw [dropArities, if_neg (by simp), if_pos isArity, dropArities_digits areDigits behind]

theorem dropArities_eq_self (none : hasArity name = false) : dropArities false name = name := by
  induction name with
  | nil => rfl
  | cons character rest ih =>
      rw [hasArity, Bool.or_eq_false_iff] at none
      rw [dropArities, if_neg (by simp), if_neg (by simpa using none.1), ih none.2]

end ThreadStacks.Name
