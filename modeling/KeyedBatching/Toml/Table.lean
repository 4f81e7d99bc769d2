import KeyedBatching.Toml.Value

/-!
# Tables under construction

A table that is being put together remembers how it came to be: by a header of
its own, as the parent of another, or by a dotted key. A table is defined once:
a header may complete a parent that no dotted key has opened, and a dotted key
goes only through tables that have no header.
-/

namespace KeyedBatching.Toml

/-- What stands under a key while a document is read. -/
inductive Node where
  | leaf (value : Value)
  | table (implicit dotted : Bool) (entries : List (String × Node))
  | tables (items : List (List (String × Node)))

/-- The pairs of a table, in order. -/
abbrev Entries := List (String × Node)

/-- A table with its history. -/
structure Table where
  /-- The table has no header of its own. -/
  implicit : Bool := false
  /-- The table was opened by a dotted key. -/
  dotted : Bool := false
  entries : Entries := []

namespace Table

/-- The node of a key. -/
def find? (entries : Entries) (key : String) : Option Node :=
  (entries.find? fun entry => entry.1 = key).map Prod.snd

/-- The pairs with the node of one key replaced where it stands, or added at the end. -/
def put (entries : Entries) (key : String) (node : Node) : Entries :=
  if entries.any fun entry => entry.1 = key then
    entries.map fun entry => if entry.1 = key then (key, node) else entry
  else entries ++ [(key, node)]

/-- The pairs without one key. -/
def erase (entries : Entries) (key : String) : Entries :=
  entries.filter fun entry => entry.1 ≠ key

/-- The node of a table. -/
def toNode (table : Table) : Node :=
  .table table.implicit table.dotted table.entries

/-- Changes the table at the end of a path, and opens the tables on the way to it. -/
def updateAt (dotted : Bool) (update : Table → Option Table) : List String → Table → Option Table
  | [], table => update table
  | key :: path, table => do
      let node ←
        match find? table.entries key with
        | none =>
            (updateAt dotted update path { implicit := true, dotted }).map toNode
        | some (.leaf _) => none
        | some (.table implicit wasDotted entries) =>
            if dotted && !implicit then none
            else (updateAt dotted update path ⟨implicit, wasDotted, entries⟩).map toNode
        | some (.tables items) =>
            match items.getLast? with
            | none => none
            | some last =>
                (updateAt dotted update path { entries := last }).map fun changed =>
                  .tables (items.dropLast ++ [changed.entries])
      some { table with entries := put table.entries key node }

/-- Adds a pair whose key has the given path in front of it. -/
def insert (path : List String) (key : String) (node : Node) (table : Table) : Option Table :=
  updateAt (!path.isEmpty)
    (fun target =>
      if target.dotted = path.isEmpty then none
      else if (find? target.entries key).isSome then none
      else some { target with entries := put target.entries key node })
    path table

end Table

mutual

/-- The finished value of a node. -/
def Node.toValue : Node → Value
  | .leaf value => value
  | .table _ _ entries => .table (Node.toPairs entries)
  | .tables items => .array (Node.toTables items)

/-- The finished values of some pairs. -/
def Node.toPairs : List (String × Node) → List (String × Value)
  | [] => []
  | (key, node) :: rest => (key, node.toValue) :: Node.toPairs rest

/-- The finished values of the tables of an array. -/
def Node.toTables : List (List (String × Node)) → List Value
  | [] => []
  | entries :: rest => .table (Node.toPairs entries) :: Node.toTables rest

end

end KeyedBatching.Toml
