import ReviewFeed.Toml.Value

/-!
# Building TOML tables

A document is a list of lines that bind keys and of headers that open tables.  A
table is defined once: a header may complete a table that longer headers only
named, and dotted keys may extend a table made by dotted keys, but nothing else.
-/

namespace ReviewFeed.Toml

/-- Whether a table may be entered, by a dotted key or by a header. -/
def TableOrigin.isOpen (dotted : Bool) : TableOrigin → Bool
  | .header => !dotted
  | .implied | .dotted => true
  | .inline => false

/-- Changes the entries of the table under a path, making the tables on the way
that are not there yet.  An array of tables is entered at its last one. -/
def modifyAt (dotted : Bool) (change : TableOrigin → Entries → Option Entries) :
    List String → TableOrigin → Entries → Option Entries
  | [], origin, entries => change origin entries
  | key :: path, _, entries =>
      match entries.lookup key with
      | none => do
          let origin := if dotted then TableOrigin.dotted else .implied
          let inner ← modifyAt dotted change path origin []
          some (entries ++ [(key, .table origin inner)])
      | some (.table origin inner) =>
          if TableOrigin.isOpen dotted origin then do
            let inner ← modifyAt dotted change path origin inner
            some (replace key (.table origin inner) entries)
          else none
      | some (.tables items) =>
          match items.getLast? with
          | some (.table origin inner) => do
              let inner ← modifyAt dotted change path origin inner
              some (replace key (.tables (items.dropLast ++ [.table origin inner])) entries)
          | _ => none
      | some _ => none

/-- A line that binds a dotted key: the path before its last part, that part and
the value. -/
structure Binding where
  path : List String
  key : String
  value : Toml

/-- Binds a key that is not bound yet.  Behind a path the table has to be one that
dotted keys made. -/
def bind (entries : Entries) (line : Binding) : Option Entries :=
  let change (origin : TableOrigin) (entries : Entries) : Option Entries :=
    if !line.path.isEmpty && origin != .dotted then none
    else if (entries.lookup line.key).isSome then none
    else some (entries ++ [(line.key, line.value)])
  modifyAt true change line.path .header entries

def bindAll (entries : Entries) (lines : List Binding) : Option Entries :=
  lines.foldlM bind entries

/-- A table opened by a header, with the lines below it. -/
structure Part where
  path : List String
  key : String
  isArray : Bool
  lines : List Binding

/-- Adds the table of a header to the document. -/
def addPart (root : Entries) (part : Part) : Option Entries :=
  let change (_ : TableOrigin) (parent : Entries) : Option Entries :=
    match parent.lookup part.key with
    | none => do
        let entries ← bindAll [] part.lines
        let table : Toml := .table .header entries
        some (parent ++ [(part.key, if part.isArray then .tables [table] else table)])
    | some (.tables items) =>
        if part.isArray then do
          let entries ← bindAll [] part.lines
          some (replace part.key (.tables (items ++ [.table .header entries])) parent)
        else none
    | some (.table .implied inner) =>
        if part.isArray then none
        else do
          let entries ← bindAll inner part.lines
          some (replace part.key (.table .header entries) parent)
    | some _ => none
  modifyAt false change part.path .header root

/-- The entries of a document: the lines above the first header, and the tables
of the headers. -/
def document (lines : List Binding) (parts : List Part) : Option Entries := do
  let root ← bindAll [] lines
  parts.foldlM addPart root

end ReviewFeed.Toml
