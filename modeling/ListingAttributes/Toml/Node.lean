import ListingAttributes.Json.Members
import ListingAttributes.Toml.Value

/-!
# Tables under construction

The statements of a TOML text build one tree.  A table of the tree remembers how it came to be,
for that decides who may add to it: a table with a header of its own is never opened by a second
header, a table that only dotted keys made is extended by dotted keys alone, and a table that a
longer header implied may still get a header.  A value, an inline table included, is complete as
it stands.
-/

namespace ListingAttributes.Toml

/-- How a table came to be. -/
inductive Origin where
  /-- By a header, or as the table that holds all others. -/
  | header
  /-- As a part of the path of a header. -/
  | implied
  /-- As a part of a dotted key. -/
  | dotted
  deriving DecidableEq, Repr

/-- A place of the tree. -/
inductive Node where
  | value (value : Toml)
  | table (origin : Origin) (entries : List (String × Node))
  /-- The tables of an array of tables, last one first. -/
  | tables (newestFirst : List (List (String × Node)))

/-- The entries of a table under construction, newest first. -/
abbrev Entries := List (String × Node)

/-- Replaces the entry of a key that is present, or adds one. -/
def setEntry (key : String) (node : Node) : Entries → Entries
  | [] => [(key, node)]
  | (k, n) :: entries =>
    if k = key then (k, node) :: entries else (k, n) :: setEntry key node entries

/-- Edits the table at the end of a path.  Tables that are missing on the way are made, of the
given origin; the newest table of an array stands for the array.  A dotted key passes through no
table that has a header.  The edit is told how the table that it is about came to be. -/
def editAt (origin : Origin) (edit : Origin → Entries → Option Entries) :
    List String → Origin → Entries → Option Entries
  | [], here, entries => edit here entries
  | key :: path, _, entries =>
    match Json.lookup key entries with
    | none => do
      let inner ← editAt origin edit path origin []
      return setEntry key (.table origin inner) entries
    | some (.value _) => none
    | some (.table existing inner) =>
      if origin = .dotted ∧ existing = .header then none
      else do
        let inner ← editAt origin edit path existing inner
        return setEntry key (.table existing inner) entries
    | some (.tables []) => none
    | some (.tables (newest :: earlier)) => do
      let newest ← editAt origin edit path .header newest
      return setEntry key (.tables (newest :: earlier)) entries

/-- A path apart from its last key. -/
def splitLast? : List String → Option (List String × String)
  | [] => none
  | [key] => some ([], key)
  | key :: path => (splitLast? path).map fun (front, last) => (key :: front, last)

/-- Writes a value under a dotted key of a table.  A single key may not write to a table that
dotted keys made, nor a dotted key to one that they did not. -/
def addValue (path : List String) (value : Toml) (here : Origin) (entries : Entries) :
    Option Entries := do
  let (front, key) ← splitLast? path
  let add (here : Origin) (entries : Entries) : Option Entries :=
    if (here = .dotted) ↔ (front = []) then none
    else
      match Json.lookup key entries with
      | some _ => none
      | none => some (setEntry key (.value value) entries)
  editAt .dotted add front here entries

/-- Opens the table of a header. -/
def openTable (path : List String) (root : Entries) : Option Entries := do
  let (front, key) ← splitLast? path
  let add (_ : Origin) (entries : Entries) : Option Entries :=
    match Json.lookup key entries with
    | none => some (setEntry key (.table .header []) entries)
    | some (.table .implied inner) => some (setEntry key (.table .header inner) entries)
    | some _ => none
  editAt .implied add front .header root

/-- Opens a further table of the array of a header. -/
def openArrayTable (path : List String) (root : Entries) : Option Entries := do
  let (front, key) ← splitLast? path
  let add (_ : Origin) (entries : Entries) : Option Entries :=
    match Json.lookup key entries with
    | none => some (setEntry key (.tables [[]]) entries)
    | some (.tables earlier) => some (setEntry key (.tables ([] :: earlier)) entries)
    | some _ => none
  editAt .implied add front .header root

mutual

/-- The value of a place. -/
def Node.toToml : Node → Toml
  | .value v => v
  | .table _ entries => .table (tableOf entries)
  | .tables newestFirst => .array (tablesOf newestFirst).reverse

/-- The table of entries. -/
def tableOf : List (String × Node) → Table
  | [] => []
  | (key, node) :: entries => (key, node.toToml) :: tableOf entries

/-- The tables of lists of entries. -/
def tablesOf : List (List (String × Node)) → List Toml
  | [] => []
  | entries :: rest => .table (tableOf entries) :: tablesOf rest

end

/-- The table that key and value pairs make, as an inline table has them. -/
def inlineTable? (pairs : List (List String × Toml)) : Option Toml := do
  let entries ← pairs.foldlM (fun entries pair => addValue pair.1 pair.2 .header entries) []
  return .table (tableOf entries)

/-! ## Statements -/

/-- A line of a TOML text that states something. -/
inductive Statement where
  | header (path : List String)
  | arrayHeader (path : List String)
  | keyValue (path : List String) (value : Toml)

/-- The tree so far, and the path of the table that key and value lines write to. -/
structure Assembly where
  root : Entries
  current : List String

namespace Assembly

/-- The tree without any statement. -/
def empty : Assembly := ⟨[], []⟩

/-- The tree after a further statement. -/
def add (assembly : Assembly) : Statement → Option Assembly
  | .header path => do return ⟨← openTable path assembly.root, path⟩
  | .arrayHeader path => do return ⟨← openArrayTable path assembly.root, path⟩
  | .keyValue path value => do
    let root ← editAt .implied (addValue path value) assembly.current .header assembly.root
    return { assembly with root }

/-- The table that a list of statements makes. -/
def table? (statements : List Statement) : Option Table := do
  let assembly ← statements.foldlM add empty
  return tableOf assembly.root

end Assembly

end ListingAttributes.Toml
