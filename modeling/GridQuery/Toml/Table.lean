import GridQuery.Json.Basic

/-!
# Tables of a TOML Document

A TOML document fills a tree of tables by headers and by keys. A key may have several parts, and so
fill a table inside the one that it stands in. What may be filled depends on how a table came to be:
a table with a header of its own is complete and takes no dotted key from outside; one that is only
implied by a longer header may still get its own header, once; one made by a dotted key may get more
dotted keys but no header. A header in double brackets adds an element to a list of tables, and what
follows goes to the last element.

## Main definitions

* `Toml.Origin`, `Toml.Node`, `Toml.Entries`: The tree while it is filled.
* `Toml.assign?`: Fills a dotted key.
* `Toml.openTable?`, `Toml.openElement?`: The two kinds of header.
* `Toml.within?`: Fills a table that has been opened.
* `Toml.entriesJson`: The finished tree as JSON.
-/

namespace GridQuery

namespace Toml

/-- How a table came to be: by its own header, by a longer header, or by a dotted key. -/
inductive Origin
  | header | implied | dotted
  deriving DecidableEq, Repr

/-- What stands under a key: a value, a table, or a list of tables of which only the last one can
still be filled. -/
inductive Node
  | leaf (value : Json)
  | table (origin : Origin) (entries : List (String × Node))
  | tables (earlier : List Json) (last : List (String × Node))

/-- A table while it is filled. -/
abbrev Entries := List (String × Node)

mutual

/-- The value of a node. -/
def Node.toJson : Node → Json
  | .leaf value => value
  | .table _ entries => .object (entriesJson entries)
  | .tables earlier last => .array (earlier ++ [.object (entriesJson last)])

def entriesJson : List (String × Node) → List (String × Json)
  | [] => []
  | (key, node) :: rest => (key, node.toJson) :: entriesJson rest

end

/-- Changes what stands under a key, if it can be changed. -/
def alter? (key : String) (f : Option Node → Option Node) : Entries → Option Entries
  | [] => (f none).map fun node => [(key, node)]
  | (k, node) :: rest =>
    if k = key then (f (some node)).map fun node => (k, node) :: rest
    else (alter? key f rest).map fun rest => (k, node) :: rest

/-- Fills the table at the end of a path of headers; tables on the way that are not there yet are
implied. -/
def within? (f : Entries → Option Entries) : List String → Entries → Option Entries
  | [] => f
  | key :: path => alter? key fun
    | none => (within? f path []).map (.table .implied)
    | some (.table origin entries) => (within? f path entries).map (.table origin)
    | some (.tables earlier last) => (within? f path last).map (.tables earlier)
    | some (.leaf _) => none

/-- Puts a value under a dotted key. The table that holds it is the one the key stands in or one
made by dotted keys; on the way to it there may also be tables that a header implied or listed. -/
def assign? (value : Json) : List String → Entries → Option Entries
  | [] => fun _ => none
  | [key] => alter? key fun
    | none => some (.leaf value)
    | some _ => none
  | key :: next :: path => alter? key fun
    | none => (assign? value (next :: path) []).map (.table .dotted)
    | some (.table .dotted entries) => (assign? value (next :: path) entries).map (.table .dotted)
    | some (.table .implied entries) =>
      if path.isEmpty then none else (assign? value (next :: path) entries).map (.table .implied)
    | some (.tables earlier last) =>
      if path.isEmpty then none else (assign? value (next :: path) last).map (.tables earlier)
    | some (.table .header _) | some (.leaf _) => none

/-- The header of a table: the table is new, or implied so far. -/
def openTable? (path : List String) (entries : Entries) : Option Entries := do
  let key ← path.getLast?
  within? (alter? key fun
    | none => some (.table .header [])
    | some (.table .implied entries) => some (.table .header entries)
    | some _ => none) path.dropLast entries

/-- The header of an element of a list of tables: the list is new, or gets one element more. -/
def openElement? (path : List String) (entries : Entries) : Option Entries := do
  let key ← path.getLast?
  within? (alter? key fun
    | none => some (.tables [] [])
    | some (.tables earlier last) => some (.tables (earlier ++ [.object (entriesJson last)]) [])
    | some _ => none) path.dropLast entries

end Toml

end GridQuery
