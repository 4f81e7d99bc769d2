import KeyedBatching.Text.Numeral

/-!
# Numerals

The value of the digits that are read so far never exceeds the value of all of
them.  So testing the bound at every digit refuses exactly what a test at the end
would refuse, and however many zeros stand in front.  Since no sign and no digit is
blank, trimming keeps a numeral whole: a text is read as a word exactly if it denotes
that word, as the decimal digits of the word do.
-/

namespace KeyedBatching.Text

theorem digitValue?_eq_some_iff {character : Char} {digit : Nat} :
    digitValue? character = some digit ↔
      character.isDigit = true ∧ digit = character.toNat - 48 := by
  have ascii : ('0' ≤ character ∧ character ≤ '9') ↔ character.isDigit = true := by
    simp [Char.isDigit, Char.le_def]
  simp only [digitValue?, ascii, Option.ite_none_right_eq_some, Option.some.injEq]
  exact and_congr_right fun _ => eq_comm

theorem isBlank_of_isDigit {character : Char} (digit : character.isDigit = true) :
    isBlank character = false := by
  obtain ⟨lower, upper⟩ : 48 ≤ character.toNat ∧ character.toNat ≤ 57 :=
    Char.isDigit_iff_toNat.mp digit
  simp only [isBlank, inRanges, blankRanges, List.any_cons, List.any_nil, Bool.or_eq_false_iff,
    Bool.and_eq_false_iff, decide_eq_false_iff_not, and_true]
  omega

/-! ## Reading -/

theorem le_ofDigitChars (value : Nat) (text : List Char) :
    value ≤ Nat.ofDigitChars 10 text value := by
  rw [Nat.ofDigitChars_eq_ofDigitChars_zero]
  exact Nat.le_add_right_of_le (Nat.le_mul_of_pos_left value (Nat.pow_pos (by decide)))

/-- The test at every digit comes to a test of the whole, since the beginning of a numeral is
never worth more than all of it. -/
theorem readDigits_eq_some_iff {bound value number : Nat} {text : List Char}
    (below : value < bound) :
    readDigits bound value text = some number ↔
      (∀ character ∈ text, character.isDigit = true) ∧
        number = Nat.ofDigitChars 10 text value ∧ number < bound := by
  induction text generalizing value with
  | nil =>
      simp only [readDigits, Option.some.injEq, List.not_mem_nil, Nat.ofDigitChars_nil]
      constructor
      · rintro rfl
        exact ⟨by simp, rfl, below⟩
      · rintro ⟨_, rfl, _⟩
        rfl
  | cons character rest ih =>
      rw [readDigits, Nat.ofDigitChars_cons, List.forall_mem_cons]
      cases found : digitValue? character with
      | none =>
          have other : ¬character.isDigit = true := fun digit =>
            Option.some_ne_none _ ((digitValue?_eq_some_iff.mpr ⟨digit, rfl⟩).symm.trans found)
          simp [other]
      | some digit =>
          obtain ⟨isDigit, rfl⟩ := digitValue?_eq_some_iff.mp found
          have shifted : value * 10 + (character.toNat - 48) =
              10 * value + (character.toNat - '0'.toNat) := by
            rw [Nat.mul_comm]
            rfl
          simp only [isDigit, true_and, shifted]
          split
          · exact ih ‹_›
          · -- What is too great already stays too great.
            have grows := le_ofDigitChars (10 * value + (character.toNat - '0'.toNat)) rest
            constructor
            · intro read
              simp at read
            · rintro ⟨_, rfl, small⟩
              omega

theorem readUnsigned_eq_some_iff {bound number : Nat} {text : List Char} (positive : 0 < bound) :
    readUnsigned bound text = some number ↔
      text ≠ [] ∧ (∀ character ∈ text, character.isDigit = true) ∧
        number = Nat.ofDigitChars 10 text 0 ∧ number < bound := by
  cases text with
  | nil => simp [readUnsigned]
  | cons character rest =>
      simp only [readUnsigned, List.isEmpty_cons, Bool.false_eq_true, if_false,
        readDigits_eq_some_iff positive, ne_eq, reduceCtorEq, not_false_eq_true, true_and]

/-- At most one plus sign and at least one digit, which together have the given value. -/
def IsNumeral (text : List Char) (number : Nat) : Prop :=
  ∃ digits, (text = digits ∨ text = '+' :: digits) ∧ digits ≠ [] ∧
    (∀ character ∈ digits, character.isDigit = true) ∧ number = Nat.ofDigitChars 10 digits 0

theorem readNumeral_eq_some_iff {bound number : Nat} {text : List Char} (positive : 0 < bound) :
    readNumeral bound text = some number ↔ IsNumeral text number ∧ number < bound := by
  unfold readNumeral
  split
  next rest =>
    rw [readUnsigned_eq_some_iff positive]
    constructor
    · rintro ⟨filled, ascii, worth, below⟩
      exact ⟨⟨rest, .inr rfl, filled, ascii, worth⟩, below⟩
    · rintro ⟨⟨digits, rfl | signed, filled, ascii, worth⟩, below⟩
      · exact absurd (ascii '+' List.mem_cons_self) (by decide)
      · obtain rfl := (List.cons.inj signed).2
        exact ⟨filled, ascii, worth, below⟩
  next unsigned =>
    rw [readUnsigned_eq_some_iff positive]
    constructor
    · rintro ⟨filled, ascii, worth, below⟩
      exact ⟨⟨text, .inl rfl, filled, ascii, worth⟩, below⟩
    · rintro ⟨⟨digits, rfl | signed, filled, ascii, worth⟩, below⟩
      · exact ⟨filled, ascii, worth, below⟩
      · exact absurd signed (unsigned digits)

/-! ## Words between blanks -/

/-- The numeral of a word, with any blanks around it. -/
def DenotesWord (text : String) (number : Nat) : Prop :=
  number < wordLimit ∧
    ∃ front core back, text.toList = front ++ core ++ back ∧
      (∀ character ∈ front, isBlank character = true) ∧
      (∀ character ∈ back, isBlank character = true) ∧ IsNumeral core number

theorem IsNumeral.not_isBlank {text : List Char} {number : Nat} (numeral : IsNumeral text number) :
    ∀ character ∈ text, isBlank character = false := by
  obtain ⟨digits, spelled, _, ascii, _⟩ := numeral
  intro character member
  obtain rfl | rfl := spelled
  · exact isBlank_of_isDigit (ascii character member)
  · obtain rfl | member := List.mem_cons.mp member
    · decide
    · exact isBlank_of_isDigit (ascii character member)

/-- Nothing in a numeral is blank, so trimming takes away what stands around it and no more. -/
theorem IsNumeral.trimBlank_eq_iff {text core : List Char} {number : Nat}
    (numeral : IsNumeral core number) :
    trimBlank text = core ↔
      ∃ front back, text = front ++ core ++ back ∧
        (∀ character ∈ front, isBlank character = true) ∧
        (∀ character ∈ back, isBlank character = true) :=
  Text.trimBlank_eq_iff
    (fun character first => numeral.not_isBlank character (List.mem_of_mem_head? first))
    (fun character last => numeral.not_isBlank character (List.mem_of_getLast? last))

/-- Exactly the texts that denote a word are read, and as that word. -/
theorem readWord_eq_some_iff {text : String} {number : Nat} :
    readWord text = some number ↔ DenotesWord text number := by
  rw [readWord, readNumeral_eq_some_iff (by decide)]
  constructor
  · rintro ⟨numeral, below⟩
    obtain ⟨front, back, textEq, leading, trailing⟩ := numeral.trimBlank_eq_iff.mp rfl
    exact ⟨below, front, _, back, textEq, leading, trailing, numeral⟩
  · rintro ⟨below, front, core, back, textEq, leading, trailing, numeral⟩
    have trimmed := numeral.trimBlank_eq_iff.mpr ⟨front, back, textEq, leading, trailing⟩
    rw [trimmed]
    exact ⟨numeral, below⟩

/-- Zeros in front count for nothing; a lone sign, a digit of another script and `2 ^ 64` are not
read. -/
example :
    ["\t+0018446744073709551615\u3000", "18446744073709551616", "+", "-1", "1 2", "\u0661"].map
      readWord = [some 18446744073709551615, none, none, none, none, none] := by
  decide +kernel

theorem readWord_lt {text : String} {number : Nat} (read : readWord text = some number) :
    number < wordLimit :=
  (readWord_eq_some_iff.mp read).1

/-- The decimal digits of a word are read as the word. -/
theorem readWord_toString {number : Nat} (below : number < wordLimit) :
    readWord (toString number) = some number := by
  have numeral : IsNumeral (Nat.toDigits 10 number) number := by
    refine ⟨_, .inl rfl, Nat.toDigits_ne_nil, ?_, Nat.ofDigitChars_ten_toDigits.symm⟩
    intro character member
    exact Nat.isDigit_of_mem_toDigits (by decide) (by decide) member
  refine readWord_eq_some_iff.mpr ⟨below, [], _, [], ?_, by simp, by simp, numeral⟩
  rw [Nat.toString_eq_repr, Nat.toList_repr, List.nil_append, List.append_nil]

end KeyedBatching.Text
