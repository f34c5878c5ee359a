import Stencil.Value.Basic

/-! Tables of TOML while a document is read. A table is explicit if a header or braces define it,
implied if it only lies on the way to one that a header defines, and dotted if a dotted key made
it. What is defined can not be defined again. -/
namespace Stencil.Document.Toml

inductive TableKind where
  | explicit | implied | dotted
deriving DecidableEq, Repr

inductive Item where
  | value (value : Value)
  | table (kind : TableKind) (entries : List (String × Item))
  | tables (tables : List (List (String × Item)))

/-- A table that can still be changed. -/
structure Table where
  kind : TableKind
  entries : List (String × Item)

namespace Table

def empty (kind : TableKind) : Table := ⟨kind, []⟩

def get? (table : Table) (key : String) : Option Item := table.entries.lookup key

def set (table : Table) (key : String) (item : Item) : Table :=
  { table with entries := put key item table.entries }

def erase (table : Table) (key : String) : Table :=
  { table with entries := table.entries.filter (·.1 ≠ key) }

/-- Changes the table that a path leads to, with a result of the change. Tables that are missing on
the way are made; a dotted path may not go through an explicit table. -/
def change {β : Type} (dotted : Bool) (edit : Table → Option (β × Table)) :
    List String → Table → Option (β × Table)
  | [], table => edit table
  | key :: rest, table =>
    match table.get? key with
    | none => do
      let (result, made) ← change dotted edit rest (.empty (if dotted then .dotted else .implied))
      return (result, table.set key (.table made.kind made.entries))
    | some (.table kind entries) =>
      if dotted ∧ kind = .explicit then none
      else do
        let (result, changed) ← change dotted edit rest ⟨kind, entries⟩
        return (result, table.set key (.table changed.kind changed.entries))
    | some (.tables tables) => do
      let last ← tables.getLast?
      let (result, changed) ← change dotted edit rest ⟨.explicit, last⟩
      return (result, table.set key (.tables (tables.dropLast ++ [changed.entries])))
    | some (.value _) => none

/-- Adds a value under a key that may not be present. Below a dotted path the table has to be
dotted, and otherwise it may not be. -/
def insertAt (path : List String) (key : String) (value : Value) (table : Table) : Option Table := do
  let add (parent : Table) : Option (Unit × Table) :=
    if (parent.kind = .dotted) = (path = []) then none
    else if (parent.get? key).isSome then none
    else some ((), parent.set key (.value value))
  let (_, table) ← table.change true add path
  return table

end Table

mutual
def Item.toValue : Item → Value
  | .value content => content
  | .table _ entries => .map (entryValues entries)
  | .tables tables => .list (tableValues tables)

def entryValues : List (String × Item) → Entries
  | [] => []
  | (key, item) :: rest => (key, item.toValue) :: entryValues rest

def tableValues : List (List (String × Item)) → List Value
  | [] => []
  | entries :: rest => .map (entryValues entries) :: tableValues rest
end

def splitKey (key : List String) : Option (List String × String) :=
  key.getLast?.map fun last => (key.dropLast, last)

def Table.insert (key : List String) (value : Value) (table : Table) : Option Table := do
  let (path, last) ← splitKey key
  table.insertAt path last value

def inlineTable (pairs : List (List String × Value)) : Option Value := do
  let table ← pairs.foldlM (fun table (key, value) => table.insert key value) (Table.empty .explicit)
  return .map (entryValues table.entries)

/-- A line of a document that says something. -/
inductive Line where
  | header (key : List String)
  | arrayHeader (key : List String)
  | pair (key : List String) (value : Value)

/-- Where the table that is being read belongs. -/
inductive Destiny where
  | root
  | single (path : List String) (key : String)
  | member (path : List String) (key : String)

/-- A document that has been read so far: the tables that are complete, and the one to which pairs
are added. -/
structure Progress where
  root : Table
  current : Table
  destiny : Destiny

namespace Progress

def start : Progress := ⟨.empty .explicit, .empty .explicit, .root⟩

def close (progress : Progress) : Option Table :=
  let entries := progress.current.entries
  match progress.destiny with
  | .root => some progress.current
  | .single path key => do
    let add (parent : Table) : Option (Unit × Table) :=
      if (parent.get? key).isSome then none
      else some ((), parent.set key (.table .explicit entries))
    let (_, root) ← progress.root.change false add path
    return root
  | .member path key => do
    let add (parent : Table) : Option (Unit × Table) :=
      match parent.get? key with
      | some (.tables tables) => some ((), parent.set key (.tables (tables ++ [entries])))
      | _ => none
    let (_, root) ← progress.root.change false add path
    return root

/-- Starts a table. What an implied table already holds is taken over, and the table moves behind
its neighbours. -/
def openTable (path : List String) (key : String) (root : Table) : Option Progress := do
  let take (parent : Table) : Option (List (String × Item) × Table) :=
    match parent.get? key with
    | none => some ([], parent)
    | some (.table .implied entries) => some (entries, parent.erase key)
    | some _ => none
  let (entries, root) ← root.change false take path
  return ⟨root, ⟨.explicit, entries⟩, .single path key⟩

def openMember (path : List String) (key : String) (root : Table) : Option Progress := do
  let claim (parent : Table) : Option (Unit × Table) :=
    match parent.get? key with
    | none => some ((), parent.set key (.tables []))
    | some (.tables _) => some ((), parent)
    | some _ => none
  let (_, root) ← root.change false claim path
  return ⟨root, .empty .explicit, .member path key⟩

def read (progress : Progress) : Line → Option Progress
  | .header key => do
    let (path, last) ← splitKey key
    openTable path last (← progress.close)
  | .arrayHeader key => do
    let (path, last) ← splitKey key
    openMember path last (← progress.close)
  | .pair key value => do
    return { progress with current := ← progress.current.insert key value }

end Progress

def documentEntries (lines : List Line) : Option Entries := do
  let progress ← lines.foldlM Progress.read .start
  return entryValues (← progress.close).entries

end Stencil.Document.Toml
