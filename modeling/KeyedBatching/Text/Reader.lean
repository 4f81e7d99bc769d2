/-!
# Readers

A reader takes the front of a text and leaves the rest, or refuses the text.
-/

namespace KeyedBatching

/-- A step of reading: a result and the characters that follow it. -/
abbrev Reader (α : Type) := List Char → Option (α × List Char)

end KeyedBatching
