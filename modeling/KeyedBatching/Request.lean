import KeyedBatching.Priority

/-!
# Requests

A unit of pending work: its key decides what it must not run beside, its
priority decides when it stops waiting, and its payload is handed back untouched.
-/

namespace KeyedBatching

/-- A unit of pending work with its key and its priority. -/
structure Request (K P : Type) where
  key : K
  priority : Priority
  payload : P
deriving DecidableEq

/-- Things that carry a priority. -/
class Prioritized (α : Type) where
  priority : α → Priority

instance {K P : Type} : Prioritized (Request K P) :=
  ⟨Request.priority⟩

namespace Request

variable {K P : Type}

/-- A request without preference. -/
def unordered (key : K) (payload : P) : Request K P :=
  ⟨key, Priority.least, payload⟩

/-- The key and the payload. -/
def parts (request : Request K P) : K × P :=
  (request.key, request.payload)

/-- The description of a request, which leaves the payload out. -/
def describe (keyText : K → String) (request : Request K P) : String :=
  "AsyncRequest \x7b key: " ++ keyText request.key ++ ", priority: " ++
    request.priority.describe ++ " \x7d"

end Request

end KeyedBatching
