import CppModel.Toml.Value

/-!
# Documents

A document is a list of sections.  A header names a table, or a new row of an
array of tables, and the entries behind it go there.  A key may be a path, which
makes the tables on the way.

Tables remember where they come from, because a table is given in one place
only: a header may fill in a table that so far was only passed through by other
headers, keys may extend tables that keys have made, and everything else that
meets an existing name is refused.
-/

namespace CppModel.Toml

/-- What has made a table. -/
inductive Origin
  /-- The path of a header leads through it. -/
  | implied
  /-- The path of a key leads through it. -/
  | dotted
  /-- A header names it. -/
  | stated
  deriving DecidableEq, Repr

/-- A name in a document that is being put together. -/
inductive Node
  /-- A finished value, which cannot be extended. -/
  | value (content : Value)
  | table (origin : Origin) (entries : List (String × Node))
  /-- The rows of an array of tables, in order. -/
  | rows (tables : List (List (String × Node)))

/-- The names in a table that is being put together. -/
abbrev Entries := List (String × Node)

namespace Node

mutual

/-- The value that a node stands for. -/
def toValue : Node → Value
  | .value content => content
  | .table _ entries => .table (toTable entries)
  | .rows tables => .list (toTables tables)

/-- The table that entries stand for. -/
def toTable : List (String × Node) → Table
  | [] => []
  | (key, node) :: rest => (key, toValue node) :: toTable rest

/-- The tables that rows stand for. -/
def toTables : List (List (String × Node)) → List Value
  | [] => []
  | row :: rest => .table (toTable row) :: toTables rest

end

end Node

namespace Entries

/-- Put a node under a key, in place of the one that is there. -/
def put (entries : Entries) (key : String) (node : Node) : Entries :=
  if entries.any (·.1 == key) then
    entries.map fun entry => if entry.1 == key then (key, node) else entry
  else entries ++ [(key, node)]

/-- The node in front is found if it has the key that is asked for. -/
theorem lookup_cons_ite (entry : String × Node) (rest : Entries) (asked : String) :
    List.lookup asked (entry :: rest) =
      if asked = entry.1 then some entry.2 else rest.lookup asked := by
  obtain ⟨key, node⟩ := entry
  rw [List.lookup_cons]
  by_cases isAsked : asked = key
  · simp [isAsked]
  · have different : (asked == key) = false := by simpa using isAsked
    rw [different, if_neg isAsked]

/-- A replaced node is found under its key, if there was one before. -/
theorem lookup_replace (entries : Entries) (key asked : String) (node : Node) :
    (entries.map fun entry => if entry.1 == key then (key, node) else entry).lookup asked =
      if asked = key then if entries.any (·.1 == key) then some node else none
      else entries.lookup asked := by
  induction entries with
  | nil => simp
  | cons entry rest inductionHypothesis =>
      rw [List.map_cons, lookup_cons_ite, lookup_cons_ite, inductionHypothesis, List.any_cons]
      grind

/-- A node that was put is found under its key, and every other key keeps its
node. -/
theorem lookup_put (entries : Entries) (key asked : String) (node : Node) :
    (entries.put key node).lookup asked =
      if asked = key then some node else entries.lookup asked := by
  unfold put
  split
  · next present => rw [lookup_replace, present]; rfl
  · next absent =>
      have missing : entries.lookup key = none := by
        rw [List.lookup_eq_none_iff]
        intro entry member
        simp only [List.any_eq_true, beq_iff_eq, not_exists, not_and] at absent
        have different : key ≠ entry.1 := fun equal => absent entry member equal.symm
        simpa using different
      rw [List.lookup_append, lookup_cons_ite]
      by_cases isAsked : asked = key
      · subst isAsked
        rw [missing]
        simp
      · simp [isAsked]

/-- Change the table at the end of a path, where `origin` tells where the table
comes from that the path begins in.  Tables that are missing on the way are
made, by a key if `isKey` is set and by a header otherwise.  A row stands for the
last table of its array. -/
def change (isKey : Bool) (action : Origin → Entries → Option Entries) :
    List String → Origin → Entries → Option Entries
  | [], origin, entries => action origin entries
  | key :: path, _, entries =>
      match entries.lookup key with
      | none => do
          let origin := if isKey then Origin.dotted else Origin.implied
          let inner ← change isKey action path origin []
          some (entries.put key (.table origin inner))
      | some (.table origin inner) =>
          if isKey && origin == .stated then none
          else do
            let inner ← change isKey action path origin inner
            some (entries.put key (.table origin inner))
      | some (.rows rows) => do
          let inner ← change isKey action path .stated (rows.getLast?.getD [])
          some (entries.put key (.rows (rows.dropLast ++ [inner])))
      | some (.value _) => none

/-- Add a value under a new name, in a table that keys may extend: the table of
the section for a plain key, and a table made by keys for a path. -/
def addValue (isPath : Bool) (key : String) (value : Value) (origin : Origin)
    (entries : Entries) : Option Entries :=
  if (origin == .dotted) != isPath then none
  else if entries.any (·.1 == key) then none
  else some (entries.put key (.value value))

/-- Add a value under a path. -/
def insert (entries : Entries) (path : List String) (value : Value) : Option Entries :=
  match path.getLast? with
  | none => none
  | some key =>
      let parents := path.dropLast
      change true (addValue (!parents.isEmpty) key value) parents .stated entries

/-- Add values under paths, one after another. -/
def insertAll (entries : Entries) (content : List (List String × Value)) : Option Entries :=
  content.foldlM (fun entries (path, value) => entries.insert path value) entries

end Entries

/-- What a section fills in. -/
inductive Header
  | table (path : List String)
  /-- A new row of an array of tables. -/
  | row (path : List String)

/-- A header with the entries behind it. -/
structure Section where
  header : Header
  content : List (List String × Value)

namespace Section

/-- Fill in the table of a section, which is new or only implied. -/
def fillTable (content : List (List String × Value)) (key : String) (entries : Entries) :
    Option Entries :=
  match entries.lookup key with
  | none => do
      let inner ← Entries.insertAll [] content
      some (entries.put key (.table .stated inner))
  | some (.table .implied inner) => do
      let inner ← Entries.insertAll inner content
      some (entries.put key (.table .stated inner))
  | some _ => none

/-- Add the row of a section. -/
def addRow (content : List (List String × Value)) (key : String) (entries : Entries) :
    Option Entries := do
  let row ← Entries.insertAll [] content
  match entries.lookup key with
  | none => some (entries.put key (.rows [row]))
  | some (.rows rows) => some (entries.put key (.rows (rows ++ [row])))
  | some _ => none

/-- Add a section to a document. -/
def addTo (part : Section) (root : Entries) : Option Entries :=
  match part.header with
  | .table path => do
      let key ← path.getLast?
      Entries.change false (fun _ => fillTable part.content key) path.dropLast .stated root
  | .row path => do
      let key ← path.getLast?
      Entries.change false (fun _ => addRow part.content key) path.dropLast .stated root

end Section

/-- The table of a document: the entries in front of the first header, and the
sections. -/
def tableOf? (content : List (List String × Value)) (sections : List Section) :
    Option Table := do
  let root ← Entries.insertAll [] content
  let entries ← sections.foldlM (fun root part => part.addTo root) root
  some (Node.toTable entries)

/-- The table that entries with paths make up on their own. -/
def inlineTable? (content : List (List String × Value)) : Option Value := do
  let entries ← Entries.insertAll [] content
  some (.table (Node.toTable entries))

end CppModel.Toml
