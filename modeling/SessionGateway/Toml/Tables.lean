/-! Trees of named values, as settings are written down in one notation or another, and how the entries
and headers of a TOML document build up one such tree. A name is given a value once. A table stands under one header; before that, a header or a dotted key that leads further down
may have implied it, and which of the two it was decides what may still be added. -/
namespace SessionGateway.Document

inductive Value where
  | null
  | flag (b : Bool)
  | integer (n : Int)
  /-- A number with a point or an exponent. No setting is one, so which one it is does not matter. -/
  | fraction
  | text (s : String)
  /-- A date, a time of day or both, in canonical form. -/
  | instant (written : String)
  | list (elements : List Value)
  | table (entries : List (String × Value))
  deriving Inhabited, Repr

/-- The value under a name in the entries of a table. -/
def value? (entries : List (String × Value)) (name : String) : Option Value :=
  (entries.find? (·.1 = name)).map (·.2)

end SessionGateway.Document

namespace SessionGateway.Toml

open Document

inductive Origin where
  /-- A header of its own. -/
  | header
  /-- A header further down. -/
  | implied
  /-- A dotted key. -/
  | dotted
  deriving DecidableEq, Repr

inductive Node where
  | leaf (value : Value)
  | table (origin : Origin) (entries : List (String × Node))
  /-- A list of tables, each under a header of the same name. Only the last one can still grow. -/
  | tables (earlier : List Value) (last : List (String × Node))

abbrev Entries := List (String × Node)

mutual

/-- What a node stands for once nothing is added any more. -/
def Node.value : Node → Value
  | .leaf value => value
  | .table _ entries => .table (entryValues entries)
  | .tables earlier last => .list (earlier ++ [.table (entryValues last)])

def entryValues : List (String × Node) → List (String × Value)
  | [] => []
  | entry :: later => entryValue entry :: entryValues later

def entryValue : String × Node → String × Value
  | (name, node) => (name, node.value)

end

namespace Entries

def node? (es : Entries) (name : String) : Option Node := (es.find? (·.1 = name)).map (·.2)

def add (es : Entries) (name : String) (node : Node) : Entries := es ++ [(name, node)]

def replace (es : Entries) (name : String) (node : Node) : Entries :=
  es.map fun e => if e.1 = name then (name, node) else e

/-- Adds a value under a dotted key. The key may lead through tables of dotted keys; it may also pass
through an implied table or the last of a list of tables, but must not end in one of these, and never
leads into a table that has its own header. -/
def insert (name : String) (value : Value) : (parents : List String) → Entries → Option Entries
  | [], es => if (es.node? name).isSome then none else some (es.add name (.leaf value))
  | p :: parents, es =>
    match es.node? p with
    | none => do
      let child ← insert name value parents []
      some (es.add p (.table .dotted child))
    | some (.table .dotted child) => do
      let child ← insert name value parents child
      some (es.replace p (.table .dotted child))
    | some (.table .implied child) => do
      guard (parents ≠ [])
      let child ← insert name value parents child
      some (es.replace p (.table .implied child))
    | some (.tables earlier last) => do
      guard (parents ≠ [])
      let last ← insert name value parents last
      some (es.replace p (.tables earlier last))
    | some _ => none

/-- Changes the table that a header leads to, through tables of any origin and the last of each list.
What is missing on the way is implied. -/
def within (change : Entries → Option Entries) : (parents : List String) → Entries → Option Entries
  | [], es => change es
  | p :: parents, es =>
    match es.node? p with
    | none => do
      let child ← within change parents []
      some (es.add p (.table .implied child))
    | some (.table origin child) => do
      let child ← within change parents child
      some (es.replace p (.table origin child))
    | some (.tables earlier last) => do
      let last ← within change parents last
      some (es.replace p (.tables earlier last))
    | some (.leaf _) => none

end Entries

/-- A name with the names of the tables that it lies in. -/
structure Key where
  parents : List String
  name : String
  deriving DecidableEq, Repr

/-- What an entry says: a key and its value. -/
abbrev Entry := Key × Value

def Entries.insertAll (entries : List Entry) (es : Entries) : Option Entries :=
  entries.foldlM (fun es (key, value) => es.insert key.name value key.parents) es

inductive Header where
  /-- Of the only table with this key. -/
  | table (key : Key)
  /-- Of one more table in the list with this key. -/
  | element (key : Key)
  deriving DecidableEq, Repr

structure Section where
  header : Header
  entries : List Entry

def Section.addTo (s : Section) (es : Entries) : Option Entries :=
  match s.header with
  | .table key => es.within (fun es => do
      match es.node? key.name with
      | none => some (es.add key.name (.table .header (← Entries.insertAll s.entries [])))
      | some (.table .implied child) =>
        some (es.replace key.name (.table .header (← Entries.insertAll s.entries child)))
      | some _ => none) key.parents
  | .element key => es.within (fun es => do
      let fresh ← Entries.insertAll s.entries []
      match es.node? key.name with
      | none => some (es.add key.name (.tables [] fresh))
      | some (.tables earlier last) =>
        some (es.replace key.name (.tables (earlier ++ [.table (entryValues last)]) fresh))
      | some _ => none) key.parents

end SessionGateway.Toml
