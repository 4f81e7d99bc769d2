/-!
# Cuts at bytes

A text is cut at byte offsets of its UTF-8 form. A cut exists exactly between two
characters, never inside one (`splitBytes?_eq_some_iff`).
-/

namespace KeyedBatching.Text

/-- The number of bytes of a text. -/
def byteSize : List Char → Nat
  | [] => 0
  | character :: rest => character.utf8Size + byteSize rest

/-- A text cut in two behind a number of bytes. -/
def splitBytes? : Nat → List Char → Option (List Char × List Char)
  | 0, text => some ([], text)
  | _ + 1, [] => none
  | count + 1, character :: rest =>
      if character.utf8Size ≤ count + 1 then
        (splitBytes? (count + 1 - character.utf8Size) rest).map fun (front, back) =>
          (character :: front, back)
      else none

/-- A text without its first bytes. -/
def dropBytes? (count : Nat) (text : List Char) : Option (List Char) :=
  (splitBytes? count text).map Prod.snd

/-- The part of a text from one byte offset up to another one. -/
def cut? (text : List Char) (start stop : Nat) : Option (List Char) :=
  ((dropBytes? start text).bind (splitBytes? (stop - start))).map Prod.fst

/-- A text can be cut behind each of its fronts. -/
theorem splitBytes?_byteSize (front back : List Char) :
    splitBytes? (byteSize front) (front ++ back) = some (front, back) := by
  induction front with
  | nil => rw [byteSize, splitBytes?, List.nil_append]
  | cons character front ih =>
      obtain ⟨size, sizeEq⟩ : ∃ size, character.utf8Size = size + 1 :=
        ⟨character.utf8Size - 1, by have := character.utf8Size_pos; omega⟩
      have bytes : byteSize (character :: front) = size + byteSize front + 1 := by
        rw [byteSize, sizeEq]
        omega
      have further : size + byteSize front + 1 - (size + 1) = byteSize front := by omega
      rw [bytes, List.cons_append, splitBytes?, sizeEq, if_pos (by omega), further, ih]
      rfl

/-- A cut leaves everything in its place, with the given number of bytes in front. -/
theorem splitBytes?_eq_some_iff {count : Nat} {text front back : List Char} :
    splitBytes? count text = some (front, back) ↔
      text = front ++ back ∧ byteSize front = count := by
  constructor
  · intro cutEq
    induction text generalizing count front with
    | nil =>
        cases count with
        | zero =>
            rw [splitBytes?] at cutEq
            cases cutEq
            exact ⟨rfl, rfl⟩
        | succ count =>
            rw [splitBytes?] at cutEq
            cases cutEq
    | cons character rest ih =>
        cases count with
        | zero =>
            rw [splitBytes?] at cutEq
            cases cutEq
            exact ⟨rfl, rfl⟩
        | succ count =>
            rw [splitBytes?] at cutEq
            split at cutEq
            · obtain ⟨⟨front, back⟩, restEq, pairEq⟩ := Option.map_eq_some_iff.1 cutEq
              cases pairEq
              obtain ⟨textEq, sizeEq⟩ := ih restEq
              refine ⟨by rw [textEq, List.cons_append], ?_⟩
              rw [byteSize, sizeEq]
              omega
            · cases cutEq
  · rintro ⟨rfl, rfl⟩
    exact splitBytes?_byteSize front back

end KeyedBatching.Text
