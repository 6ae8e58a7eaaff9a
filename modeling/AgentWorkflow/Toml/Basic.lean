/-
TOML values.

* `Toml` — the values; of a fraction and of a moment the written form is kept.
* `Toml.Draft` — the members of a table while a document is read, with what made each
  table.
* `Toml.Draft.enter`, `Toml.Draft.put` — a header opens a table or adds one to an array
  of tables; a line puts a value under a key, which may be dotted.

Design notes: a table may be opened by one header, and dotted keys may only go on with
tables that dotted keys made.  Both rules are decided from `Origin` when a header or a
key is met.
-/
import AgentWorkflow.Table

namespace AgentWorkflow

inductive Toml where
  | text (value : String)
  | whole (value : Int)
  | fraction (written : String)
  | bool (value : Bool)
  | moment (written : String)
  | list (items : List Toml)
  | table (members : List (String × Toml))
  deriving Inhabited

namespace Toml

/-- What made a table. -/
inductive Origin where
  /-- Its own header. -/
  | header
  /-- A header of a table below it. -/
  | passage
  /-- A dotted key. -/
  | dotted
  deriving DecidableEq

/-- A member of a table that is not finished. -/
inductive Draft where
  | value (v : Toml)
  | table (origin : Origin) (members : List (String × Draft))
  /-- An array of tables, the last one first. -/
  | tables (last : List (String × Draft)) (earlier : List (List (String × Draft)))

namespace Draft

abbrev Members := List (String × Draft)

/-- The members with what `f` makes of the one under a key. -/
def alter (key : String) (f : Option Draft → Option Draft) : Members → Option Members
  | [] => (f none).map fun d => [(key, d)]
  | (k, d) :: rest =>
    if k = key then (f (some d)).map fun d => (k, d) :: rest
    else (alter key f rest).map fun rest => (k, d) :: rest

/-- Opens the table of a header. -/
def openTable : Option Draft → Option Draft
  | none => some (.table .header [])
  | some (.table .passage members) => some (.table .header members)
  | some _ => none

/-- Adds a table to the array of a header. -/
def openTables : Option Draft → Option Draft
  | none => some (.tables [] [])
  | some (.tables last earlier) => some (.tables [] (last :: earlier))
  | some _ => none

/-- Follows the path of a header and opens what it ends in. -/
def enter (opens : Option Draft → Option Draft) : List String → Members → Option Members
  | [], _ => none
  | [key], members => alter key opens members
  | key :: rest, members =>
    alter key (fun
      | none => (enter opens rest []).map (.table .passage)
      | some (.table origin inner) => (enter opens rest inner).map (.table origin)
      | some (.tables last earlier) => (enter opens rest last).map (.tables · earlier)
      | some (.value _) => none) members

/-- Puts a value under a key.  `here` tells whether the table may take a value from
such a key. -/
def putKey (v : Toml) : Bool → List String → Members → Option Members
  | _, [], _ => none
  | here, [key], members =>
    if here then
      alter key (fun
        | none => some (.value v)
        | some _ => none) members
    else none
  | _, key :: rest, members =>
    alter key (fun
      | none => (putKey v true rest []).map (.table .dotted)
      | some (.table .dotted inner) => (putKey v true rest inner).map (.table .dotted)
      | some (.table .passage inner) => (putKey v false rest inner).map (.table .passage)
      | some (.tables last earlier) => (putKey v false rest last).map (.tables · earlier)
      | some (.table .header _) => none
      | some (.value _) => none) members

/-- Puts a value under a key of the table that a header opened. -/
def put (v : Toml) (key : List String) : List String → Members → Option Members
  | [], members => putKey v true key members
  | step :: path, members =>
    alter step (fun
      | some (.table origin inner) => (put v key path inner).map (.table origin)
      | some (.tables last earlier) => (put v key path last).map (.tables · earlier)
      | _ => none) members

mutual

/-- The finished value. -/
def finish : Draft → Toml
  | .value v => v
  | .table _ members => .table (finishMembers members)
  | .tables last earlier => .list ((.table (finishMembers last) :: finishTables earlier).reverse)

def finishMembers : List (String × Draft) → List (String × Toml)
  | [] => []
  | (key, d) :: rest => (key, finish d) :: finishMembers rest

def finishTables : List (List (String × Draft)) → List Toml
  | [] => []
  | members :: rest => .table (finishMembers members) :: finishTables rest

end

end Draft

end Toml

end AgentWorkflow
