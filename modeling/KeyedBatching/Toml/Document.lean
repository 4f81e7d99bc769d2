import KeyedBatching.Toml.Expression

/-!
# TOML documents

A document is read expression by expression: pairs go into the table whose
header stands above them. A table takes its place among the pairs of its parent
when the next header or the end of the document is reached.

This is the reader with which a program runs. What is proved about configurations
holds with any reader that is lawful.
-/

namespace KeyedBatching.Toml

/-- A document while it is read: what is finished, and the table in progress. -/
structure Draft where
  /-- The root table with all finished tables. -/
  root : Table := {}
  /-- The table to which pairs go. -/
  current : Table := {}
  /-- The key of the table in progress; empty for the root. -/
  path : List String := []
  /-- The table in progress belongs to an array of tables. -/
  inArray : Bool := false

namespace Draft

/-- Puts the table in progress into place. -/
def finish (draft : Draft) : Option Table :=
  match draft.path.getLast? with
  | none => some draft.current
  | some key =>
      Table.updateAt false
        (fun parent =>
          match Table.find? parent.entries key, draft.inArray with
          | none, true =>
              some { parent with
                entries := Table.put parent.entries key (.tables [draft.current.entries]) }
          | some (.tables items), true =>
              some { parent with
                entries :=
                  Table.put parent.entries key (.tables (items ++ [draft.current.entries])) }
          | none, false =>
              some { parent with
                entries := Table.put parent.entries key draft.current.toNode }
          | _, _ => none)
        draft.path.dropLast draft.root

/-- A header may start its key's table: nothing is there, or a parent that no dotted key opened. -/
def mayStart (entries : Entries) (key : String) : Bool :=
  match Table.find? entries key with
  | none => true
  | some (.table implicit dotted _) => implicit && !dotted
  | some _ => false

/-- What the table of a header holds before its first pair. -/
def inherited (entries : Entries) (key : String) : Entries :=
  match Table.find? entries key with
  | some (.table _ _ found) => found
  | _ => []

/-- The table at a path, through the last tables of arrays. -/
def entriesAt (entries : Entries) : List String → Entries
  | [] => entries
  | key :: path =>
      match Table.find? entries key with
      | some (.table _ _ found) => entriesAt found path
      | some (.tables items) => entriesAt (items.getLast?.getD []) path
      | _ => []

/-- Starts the table of a header, which leaves its place until it is finished. -/
def startTable (names : List String) (draft : Draft) : Option Draft := do
  let key ← names.getLast?
  let root ← draft.finish
  let parents := names.dropLast
  let cleared ←
    Table.updateAt false
      (fun parent =>
        if mayStart parent.entries key then
          some { parent with entries := Table.erase parent.entries key }
        else none)
      parents root
  some
    { root := cleared
      current := { entries := inherited (entriesAt root.entries parents) key }
      path := names }

/-- Starts one more table of an array. -/
def startArrayTable (names : List String) (draft : Draft) : Option Draft := do
  let key ← names.getLast?
  let root ← draft.finish
  let opened ←
    Table.updateAt false
      (fun parent =>
        match Table.find? parent.entries key with
        | none => some { parent with entries := Table.put parent.entries key (.tables []) }
        | some (.tables _) => some parent
        | some _ => none)
      names.dropLast root
  some { root := opened, path := names, inArray := true }

/-- Adds a pair to the table in progress. -/
def addPair (path : List String) (key : String) (value : Value) (draft : Draft) :
    Option Draft := do
  let current ← draft.current.insert path key (.leaf value)
  some { draft with current }

end Draft

/-- Reads the header of a table, after its first bracket, up to the end of the line. -/
def readHeader (draft : Draft) (text : List Char) : Option (Draft × List Char) :=
  match text with
  | '[' :: text => do
      let (names, rest) ← readKeyParts (nestingLimit - 1) text
      let rest ← skipCharacter ']' rest
      let rest ← skipCharacter ']' rest
      let rest ← skipLineEnd false rest
      let draft ← draft.startArrayTable names
      some (draft, rest)
  | _ => do
      let (names, rest) ← readKeyParts (nestingLimit - 1) text
      let rest ← skipCharacter ']' rest
      let rest ← skipLineEnd false rest
      let draft ← draft.startTable names
      some (draft, rest)

/-- Reads a pair up to the end of the line. -/
def readPair (draft : Draft) (text : List Char) : Option (Draft × List Char) := do
  let ((path, key), rest) ← readKey text
  let rest ← skipCharacter '=' rest
  let (value, rest) ← readValue (nestingLimit - 1) (skipSpaces rest)
  let rest ← skipLineEnd false rest
  let draft ← draft.addPair path key value
  some (draft, rest)

/-- Reads the expressions of a document; each takes at least one character. -/
def readExpressions : Nat → Draft → List Char → Option Draft
  | 0, _, _ => none
  | budget + 1, draft, text => do
      match ← skipTrivia false text with
      | [] => some draft
      | '[' :: rest =>
          let (draft, rest) ← readHeader draft rest
          readExpressions budget draft rest
      | rest =>
          let (draft, rest) ← readPair draft rest
          readExpressions budget draft rest

/-- A byte order mark in front of a document does not count. -/
def skipByteOrderMark : List Char → List Char
  | '\ufeff' :: rest => rest
  | text => text

/-- Reads the pairs at the top level of a document, in the order of their definition. -/
def readDocument (text : String) : Option (List (String × Value)) := do
  let characters := unifyLineEnds (skipByteOrderMark text.toList)
  let draft ← readExpressions (characters.length + 1) {} characters
  let root ← draft.finish
  some (Node.toPairs root.entries)

end KeyedBatching.Toml
