import ReportCharts.Binary64
import ReportCharts.Toml.Text

/-!
Values of TOML documents, and tables as they grow.

How a table came about decides what may still be added to it: one in braces is finished, one with a
header takes keys under its header only, and one that dotted keys made takes dotted keys.
-/

namespace ReportCharts.Toml

inductive Origin where
  | braces
  | header
  /-- Named inside the header of another table. -/
  | implied
  | dotted
  deriving DecidableEq

inductive Value where
  | string (text : String)
  | integer (value : Int)
  | float (value : Binary64)
  | bool (value : Bool)
  | moment (text : String)
  | array (items : List Value)
  | table (origin : Origin) (entries : List (String × Value))
  /-- Tables with one header, the last first. -/
  | tables (last : List (String × Value)) (earlier : List (List (String × Value)))

abbrev Entries := List (String × Value)

namespace Entries

def set (key : String) (value : Value) : Entries → Entries
  | [] => [(key, value)]
  | (name, old) :: rest =>
      if name = key then (name, value) :: rest else (name, old) :: set key value rest

/--
Edit the table at the end of a way through tables, by its origin and its entries.

Tables on the way that are not there yet are made. Dotted keys lead only through tables that have
no header of their own.
-/
def edit (dotted : Bool) (change : Origin → Entries → Option Entries) (origin : Origin) :
    (way : List String) → Entries → Option Entries
  | [], entries => change origin entries
  | key :: way, entries =>
      match entries.lookup key with
      | none =>
          let made := if dotted then .dotted else .implied
          (edit dotted change made way []).map fun inner => set key (.table made inner) entries
      | some (.table inner content) =>
          if inner = .braces ∨ (dotted ∧ inner = .header) then none
          else (edit dotted change inner way content).map fun content =>
            set key (.table inner content) entries
      | some (.tables last earlier) =>
          (edit dotted change .header way last).map fun last =>
            set key (.tables last earlier) entries
      | some _ => none

/-- Add the value of a dotted key; a table that dotted keys made takes no other keys. -/
def insert (path : Path) (value : Value) (origin : Origin) (entries : Entries) : Option Entries :=
  let add (origin : Origin) (entries : Entries) : Option Entries :=
    if (origin = .dotted ↔ path.tables = []) ∨ (entries.lookup path.key).isSome then none
    else some (set path.key value entries)
  edit true add origin path.tables entries

/-- Begin the table of a header; only the header of another table may have named it before. -/
def beginTable (path : Path) (entries : Entries) : Option Entries :=
  let begin (_ : Origin) (entries : Entries) : Option Entries :=
    match entries.lookup path.key with
    | none => some (set path.key (.table .header []) entries)
    | some (.table .implied content) => some (set path.key (.table .header content) entries)
    | some _ => none
  edit false begin .header path.tables entries

def beginElement (path : Path) (entries : Entries) : Option Entries :=
  let begin (_ : Origin) (entries : Entries) : Option Entries :=
    match entries.lookup path.key with
    | none => some (set path.key (.tables [] []) entries)
    | some (.tables last earlier) => some (set path.key (.tables [] (last :: earlier)) entries)
    | some _ => none
  edit false begin .header path.tables entries

def insertUnder (header : List String) (path : Path) (value : Value) (entries : Entries) :
    Option Entries :=
  edit false (insert path value) .header header entries

end Entries

end ReportCharts.Toml
