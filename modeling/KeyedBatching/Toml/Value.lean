import KeyedBatching.Decimal.Binary64
import KeyedBatching.Text.Reader

/-!
# Values of a TOML document

A document is a list of pairs at its top level, in the order in which they are
defined. Date-times are kept as the text that they were written with.
-/

namespace KeyedBatching.Toml

/-- A value of a document. -/
inductive Value where
  | string (text : String)
  | integer (value : Int)
  | float (value : Decimal.Binary64)
  | boolean (value : Bool)
  | moment (text : String)
  | array (items : List Value)
  | table (entries : List (String × Value))

end KeyedBatching.Toml
