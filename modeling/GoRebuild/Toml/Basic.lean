/-!
# TOML documents

* `Toml`, `Toml.Table` : a value and the entries of a table; tables remember how they came to be, since
  that decides what may still be added to them;
* `Toml.Table.addDotted` : a value under a dotted key;
* `Toml.Table.atPath` : a change below a path, its parents made where there are none;
* `Toml.Section`, `Toml.Table.ofSections` : a document from its headers and what stands below them.

A table is written once: under a header, by dotted keys, or in braces. A table that only a longer header
implied can still get a header of its own.
-/

namespace GoRebuild

/-- How a table came to be. -/
inductive Toml.Origin where
  /-- a header of its own, or the document -/
  | header
  /-- the header of a table inside it -/
  | parent
  /-- a dotted key -/
  | dotted
  /-- braces around all of it -/
  | braces
  deriving DecidableEq, Repr

/-- A TOML value. Numbers with a fraction and dates are not told apart. -/
inductive Toml where
  | text (s : String)
  | int (n : Int)
  | float
  | bool (b : Bool)
  | moment
  | array (items : List Toml)
  | table (origin : Toml.Origin) (entries : List (String × Toml))
  /-- the tables under headers in double brackets -/
  | tables (items : List Toml)

namespace Toml

/-- The entries of a table. -/
abbrev Table := List (String × Toml)

namespace Table

/-- The table with a value under a key. -/
def set (t : Table) (k : String) (v : Toml) : Table :=
  if (t.lookup k).isSome then t.map fun e => if e.1 = k then (k, v) else e
  else t ++ [(k, v)]

/-- Adds a value below the dotted keys in front of its own. Tables on the way must not have been written
in full; the table that gets the value comes from dotted keys itself, unless there are none. -/
def addBelow (k : String) (v : Toml) (below dotted : Bool) : List String → Table → Option Table
  | [], t => if dotted = below ∧ (t.lookup k).isNone then some (t.set k v) else none
  | p :: ps, t =>
    match t.lookup p with
    | none => (addBelow k v true true ps []).map fun s => t.set p (.table .dotted s)
    | some (.table .dotted s) => (addBelow k v true true ps s).map fun s => t.set p (.table .dotted s)
    | some (.table .parent s) => (addBelow k v true false ps s).map fun s => t.set p (.table .parent s)
    | some (.tables items) =>
      match items.getLast? with
      | some (.table origin s) =>
        (addBelow k v true false ps s).map fun s =>
          t.set p (.tables (items.dropLast ++ [.table origin s]))
      | _ => none
    | some _ => none

/-- Adds a value under a key, which may be dotted. -/
def addDotted (t : Table) (path : List String) (k : String) (v : Toml) : Option Table :=
  addBelow k v false false path t

/-- Changes the table at a path. Of tables in double brackets the last is meant. -/
def atPath (f : Table → Option Table) : List String → Table → Option Table
  | [], t => f t
  | p :: ps, t =>
    match t.lookup p with
    | none => (atPath f ps []).map fun s => t.set p (.table .parent s)
    | some (.table .braces _) => none
    | some (.table origin s) => (atPath f ps s).map fun s => t.set p (.table origin s)
    | some (.tables items) =>
      match items.getLast? with
      | some (.table origin s) =>
        (atPath f ps s).map fun s => t.set p (.tables (items.dropLast ++ [.table origin s]))
      | _ => none
    | some _ => none

end Table

/-- A key, with the dotted keys in front of it, and its value. -/
structure Entry where
  path : List String
  key : String
  value : Toml

/-- Adds entries in order. -/
def Table.addEntries (t : Table) (es : List Entry) : Option Table :=
  es.foldlM (fun t e => t.addDotted e.path e.key e.value) t

/-- A header and the entries below it. -/
structure Section where
  /-- Whether the header has double brackets. -/
  repeated : Bool
  path : List String
  key : String
  entries : List Entry

namespace Table

/-- Opens the table of a header below its parent and fills it. -/
def addUnder (s : Section) (parent : Table) : Option Table :=
  if s.repeated then
    match parent.lookup s.key with
    | none => (addEntries [] s.entries).map fun t => parent.set s.key (.tables [.table .header t])
    | some (.tables items) =>
      (addEntries [] s.entries).map fun t => parent.set s.key (.tables (items ++ [.table .header t]))
    | some _ => none
  else
    match parent.lookup s.key with
    | none => (addEntries [] s.entries).map fun t => parent.set s.key (.table .header t)
    | some (.table .parent old) =>
      (addEntries old s.entries).map fun t => parent.set s.key (.table .header t)
    | some _ => none

/-- The document with some entries before the first header and some sections. -/
def ofSections (top : List Entry) (sections : List Section) : Option Table := do
  let t ← addEntries [] top
  sections.foldlM (fun t s => t.atPath (addUnder s) s.path) t

end Table

end Toml

end GoRebuild
