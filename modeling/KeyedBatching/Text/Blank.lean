/-!
# Blank characters

The characters with the `White_Space` property, and texts without the blank
characters at their two ends: what trimming leaves, with blanks around it, is the
whole text (`trimBlank_eq_iff`).
-/

namespace KeyedBatching.Text

/-- The code points with the `White_Space` property, as ranges in ascending order. -/
def blankRanges : List (Nat × Nat) :=
  [(0x09, 0x0D), (0x20, 0x20), (0x85, 0x85), (0xA0, 0xA0), (0x1680, 0x1680), (0x2000, 0x200A),
   (0x2028, 0x2029), (0x202F, 0x202F), (0x205F, 0x205F), (0x3000, 0x3000)]

/-- A code point lies in one of the ranges. -/
def inRanges (ranges : List (Nat × Nat)) (codePoint : Nat) : Bool :=
  ranges.any fun range => range.1 ≤ codePoint && codePoint ≤ range.2

/-- A character with the `White_Space` property. -/
def isBlank (character : Char) : Bool :=
  inRanges blankRanges character.toNat

/-- A text without the blank characters at its start and its end. -/
def trimBlank (text : List Char) : List Char :=
  ((text.dropWhile isBlank).reverse.dropWhile isBlank).reverse

/-- The property has 25 code points. -/
theorem blankRanges_count :
    blankRanges.foldl (fun total range => total + (range.2 + 1 - range.1)) 0 = 25 := rfl

theorem dropWhile_isBlank_append {front text : List Char}
    (leading : ∀ character ∈ front, isBlank character = true)
    (starts : ∀ character ∈ text.head?, isBlank character = false) :
    (front ++ text).dropWhile isBlank = text := by
  rw [List.dropWhile_append_of_pos leading]
  cases text with
  | nil => rfl
  | cons first rest => simp [List.dropWhile, starts first (by simp)]

/-- Trimming removes nothing but blanks. -/
theorem exists_eq_append_trimBlank (text : List Char) :
    ∃ front back, text = front ++ trimBlank text ++ back ∧
      (∀ character ∈ front, isBlank character = true) ∧
      (∀ character ∈ back, isBlank character = true) := by
  have endCut : text.dropWhile isBlank =
      trimBlank text ++ ((text.dropWhile isBlank).reverse.takeWhile isBlank).reverse := by
    rw [trimBlank, ← List.reverse_append, List.takeWhile_append_dropWhile, List.reverse_reverse]
  refine ⟨text.takeWhile isBlank, ((text.dropWhile isBlank).reverse.takeWhile isBlank).reverse,
    ?_, ?_, ?_⟩
  · rw [List.append_assoc, ← endCut, List.takeWhile_append_dropWhile]
  · intro character member
    exact List.all_eq_true.mp List.all_takeWhile character member
  · intro character member
    exact List.all_eq_true.mp List.all_takeWhile character (List.mem_reverse.mp member)

/-- Trimming removes all blanks before and behind a text that has none at its own ends. -/
theorem trimBlank_append {front core back : List Char}
    (leading : ∀ character ∈ front, isBlank character = true)
    (trailing : ∀ character ∈ back, isBlank character = true)
    (starts : ∀ character ∈ core.head?, isBlank character = false)
    (ends : ∀ character ∈ core.getLast?, isBlank character = false) :
    trimBlank (front ++ core ++ back) = core := by
  cases core with
  | nil =>
      have blank : ∀ character ∈ front ++ back, isBlank character = true := by
        intro character member
        exact (List.mem_append.mp member).elim (leading character) (trailing character)
      have nothing : (front ++ back ++ []).dropWhile isBlank = [] :=
        dropWhile_isBlank_append blank (by simp)
      rw [List.append_nil] at nothing
      rw [trimBlank, List.append_nil, nothing]
      rfl
  | cons first rest =>
      -- The core is not empty, so its own ends are the first characters that stay.
      have startCut :
          (front ++ first :: rest ++ back).dropWhile isBlank = first :: rest ++ back := by
        rw [List.append_assoc]
        exact dropWhile_isBlank_append leading starts
      have endCut :
          (first :: rest ++ back).reverse.dropWhile isBlank = (first :: rest).reverse := by
        rw [List.reverse_append]
        refine dropWhile_isBlank_append ?_ ?_
        · intro character member
          exact trailing character (List.mem_reverse.mp member)
        · rw [List.head?_reverse]
          exact ends
      rw [trimBlank, startCut, endCut, List.reverse_reverse]

/-- Trimming gives a core without blanks at its own ends exactly from that core between blanks. -/
theorem trimBlank_eq_iff {text core : List Char}
    (starts : ∀ character ∈ core.head?, isBlank character = false)
    (ends : ∀ character ∈ core.getLast?, isBlank character = false) :
    trimBlank text = core ↔
      ∃ front back, text = front ++ core ++ back ∧
        (∀ character ∈ front, isBlank character = true) ∧
        (∀ character ∈ back, isBlank character = true) := by
  constructor
  · rintro rfl
    exact exists_eq_append_trimBlank text
  · rintro ⟨front, back, rfl, leading, trailing⟩
    exact trimBlank_append leading trailing starts ends

end KeyedBatching.Text
