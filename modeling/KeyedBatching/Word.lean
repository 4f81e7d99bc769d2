/-!
# Words

Counts and lengths of time reach other programs as unsigned words of 64 bits.
-/

namespace KeyedBatching

/-- The first number that no word holds, `2 ^ 64`. -/
def wordLimit : Nat := 18446744073709551616

end KeyedBatching
