import JobRelay.Data.Toml.Scalar

/-! # Reading TOML

A configuration file is read line by line into a tree of tables. A table may be opened by its own
header once, come into being because a longer header or a dotted key leads through it, or be one of
a sequence of tables under one name. Values, lists and tables written in a line are closed.
-/

namespace JobRelay.Toml

/-- How a table came into being. -/
inductive Origin where
  /-- By its own header. -/
  | header
  /-- By a longer header that leads through it. -/
  | passage
  /-- By a dotted key. -/
  | dotted
deriving DecidableEq, Repr

/-- What stands under a key. -/
inductive Node where
  | value (d : Datum)
  | table (origin : Origin) (entries : List (String × Node))
  /-- Tables in sequence, the last one first; only that one is open. -/
  | sequence (tables : List (List (String × Node)))
deriving Inhabited

/-- The entries of a table. -/
abbrev Entries := List (String × Node)

mutual

/-- The value of what stands under a key. -/
def Node.datum : Node → Datum
  | .value d => d
  | .table _ entries => .record (entriesData entries)
  | .sequence tables => .list (tablesData tables).reverse

def entriesData : List (String × Node) → List (String × Datum)
  | [] => []
  | (name, node) :: entries => (name, node.datum) :: entriesData entries

def tablesData : List (List (String × Node)) → List Datum
  | [] => []
  | entries :: tables => .record (entriesData entries) :: tablesData tables

end

def find? (entries : Entries) (name : String) : Option Node :=
  (entries.find? (·.1 == name)).map (·.2)

def replace (entries : Entries) (name : String) (node : Node) : Entries :=
  entries.map fun entry => if entry.1 = name then (name, node) else entry

/-- Changes the table at the end of a path, making the tables on the way. A dotted key does not
lead into a table that has its own header. -/
def within (dotted : Bool) : List String → (Entries → Option Entries) → Entries → Option Entries
  | [], change, entries => change entries
  | name :: path, change, entries =>
    match find? entries name with
    | none => do
      let inner ← within dotted path change []
      return entries ++ [(name, .table (if dotted then .dotted else .passage) inner)]
    | some (.table origin inner) => do
      if dotted && origin == .header then none
      else
        let inner ← within dotted path change inner
        return replace entries name (.table origin inner)
    | some (.sequence (inner :: older)) => do
      if dotted then none
      else
        let inner ← within dotted path change inner
        return replace entries name (.sequence (inner :: older))
    | some _ => none

/-- The path to a key and its last part. -/
def splitKey (key : List String) : List String × String :=
  (key.dropLast, key.getLast?.getD "")

/-- Adds a value under a key that is not taken. -/
def addValue (key : List String) (d : Datum) (entries : Entries) : Option Entries :=
  let (path, name) := splitKey key
  within true path (fun table =>
    if (find? table name).isSome then none else some (table ++ [(name, .value d)])) entries

def openTable (key : List String) (entries : Entries) : Option Entries :=
  let (path, name) := splitKey key
  within false path (fun table =>
    match find? table name with
    | none => some (table ++ [(name, .table .header [])])
    | some (.table .passage inner) => some (replace table name (.table .header inner))
    | some _ => none) entries

/-- Opens one more table in a sequence. -/
def openSequence (key : List String) (entries : Entries) : Option Entries :=
  let (path, name) := splitKey key
  within false path (fun table =>
    match find? table name with
    | none => some (table ++ [(name, .sequence [[]])])
    | some (.sequence tables) => some (replace table name (.sequence ([] :: tables)))
    | some _ => none) entries

/-- Changes the table that a header has opened. -/
def inOpenTable (key : List String) (change : Entries → Option Entries) (entries : Entries) :
    Option Entries :=
  within false key change entries

/-- Lists and tables written in a line are nested at most this deep. -/
def maxDepth : Nat := 80

mutual

/-- A value and what follows it, with lists and tables nested at most `depth` deep. -/
def value? (fuel depth : Nat) (cs : List Char) : Option (Datum × List Char) :=
  match fuel with
  | 0 => none
  | fuel + 1 =>
    match cs, depth with
    | '"' :: _, _ | '\'' :: _, _ => (text? cs).map fun (s, rest) => (.text s, rest)
    | '[' :: rest, depth + 1 => do
      let cs ← skipLines rest.length rest
      let (items, rest) ← listItems? fuel depth cs
      return (.list items, rest)
    | '\x7b' :: rest, depth + 1 => do
      let cs ← skipLines rest.length rest
      let (entries, rest) ← recordEntries? fuel depth [] cs
      return (.record (entriesData entries), rest)
    | _, _ => scalar? cs

/-- The items of a list up to its bracket; a comma may stand after the last one. -/
def listItems? (fuel depth : Nat) (cs : List Char) : Option (List Datum × List Char) :=
  match fuel with
  | 0 => none
  | fuel + 1 =>
    match cs with
    | ']' :: rest => some ([], rest)
    | _ => do
      let (item, rest) ← value? fuel depth cs
      let rest ← skipLines rest.length rest
      match rest with
      | ']' :: rest => return ([item], rest)
      | ',' :: rest =>
        let rest ← skipLines rest.length rest
        let (items, rest) ← listItems? fuel depth rest
        return (item :: items, rest)
      | _ => none

/-- The entries of a table written in a line, up to its brace. -/
def recordEntries? (fuel depth : Nat) (entries : Entries) (cs : List Char) :
    Option (Entries × List Char) :=
  match fuel with
  | 0 => none
  | fuel + 1 =>
    match cs with
    | '\x7d' :: rest => some (entries, rest)
    | _ => do
      let (key, rest) ← key? (cs.length + 1) cs
      match rest with
      | '=' :: rest =>
        let (d, rest) ← value? fuel depth (skipBlanks rest)
        let entries ← addValue key d entries
        let rest ← skipLines rest.length rest
        match rest with
        | '\x7d' :: rest => return (entries, rest)
        | ',' :: rest =>
          let rest ← skipLines rest.length rest
          recordEntries? fuel depth entries rest
        | _ => none
      | _ => none

end

/-- What has been read: the tree, and the key of the header that is open. -/
structure Progress where
  entries : Entries
  header : List String

/-- One line with something on it. -/
def line? (p : Progress) (cs : List Char) : Option (Progress × List Char) :=
  match cs with
  | '[' :: '[' :: rest => do
    let (key, rest) ← key? (rest.length + 1) rest
    let rest ← Text.dropPrefix? [']', ']'] rest
    let rest ← endOfLine? rest
    return (⟨← openSequence key p.entries, key⟩, rest)
  | '[' :: rest => do
    let (key, rest) ← key? (rest.length + 1) rest
    let rest ← Text.dropPrefix? [']'] rest
    let rest ← endOfLine? rest
    return (⟨← openTable key p.entries, key⟩, rest)
  | _ => do
    let (key, rest) ← key? (cs.length + 1) cs
    match rest with
    | '=' :: rest =>
      let (d, rest) ← value? (rest.length + 1) maxDepth (skipBlanks rest)
      let rest ← endOfLine? rest
      return (⟨← inOpenTable p.header (addValue key d) p.entries, p.header⟩, rest)
    | _ => none

def lines? (fuel : Nat) (p : Progress) (cs : List Char) : Option Entries :=
  match fuel with
  | 0 => none
  | fuel + 1 =>
    match skipLines cs.length cs with
    | none => none
    | some [] => some p.entries
    | some cs =>
      match line? p cs with
      | some (p, rest) => lines? fuel p rest
      | none => none

/-- The record that a configuration text stands for. A byte order mark in front is skipped. -/
def read? (text : String) : Option Datum :=
  let cs :=
    match text.toList with
    | '\ufeff' :: rest => rest
    | cs => cs
  (lines? (cs.length + 1) ⟨[], []⟩ cs).map fun entries => .record (entriesData entries)

end JobRelay.Toml
