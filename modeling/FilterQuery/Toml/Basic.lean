import FilterQuery.Number.Binary

/-!
# TOML documents

A document is a table of values. Tables remember how they came about, because that decides whether
they may still be extended.
-/

namespace FilterQuery

/-- How a table came about: on the way to a header, by a dotted key, by a header of its own, or as
an inline table. -/
inductive Toml.Origin where
  | implied
  | dotted
  | header
  | inline
deriving DecidableEq

/-- A value of a TOML document. -/
inductive Toml where
  | string (value : String)
  | boolean (value : Bool)
  | integer (value : Int)
  | float (value : Number.Binary .double)
  | datetime
  | array (elements : List Toml)
  | table (origin : Toml.Origin) (entries : List (String × Toml))
  /-- The tables of an array header, the last one first. -/
  | tables (latest : List (String × Toml)) (earlier : List Toml)
deriving Inhabited

namespace Toml

/-- The entries of a table. -/
abbrev Entries := List (String × Toml)

/-- The value of a key. -/
def Entries.get? (entries : Entries) (key : String) : Option Toml :=
  (entries.find? (·.1 == key)).map (·.2)

/-- Replaces the value of a key, or puts a new key behind the others. -/
def Entries.set (entries : Entries) (key : String) (value : Toml) : Entries :=
  match entries with
  | [] => [(key, value)]
  | (k, v) :: rest => if k = key then (key, value) :: rest else (k, v) :: Entries.set rest key value

@[simp] theorem Entries.get?_set_self (entries : Entries) (key : String) (value : Toml) :
    (entries.set key value).get? key = some value := by
  induction entries with
  | nil => simp [set, get?]
  | cons head rest ih =>
    obtain ⟨k, v⟩ := head
    simp only [set]
    split
    · simp [get?]
    · next h => simpa [get?, h] using ih

/-- Adds a new key. -/
def Entries.add? (key : String) (value : Toml) (entries : Entries) : Option Entries :=
  if (entries.get? key).isSome then none else some (entries ++ [(key, value)])

/-- Adds the value of a dotted key, making the tables on its way. The last of them must come from
dotted keys too, the others must at least have no header of their own. -/
def Entries.addDotted? (key : String) (value : Toml) : List String → Entries → Option Entries
  | [], entries => entries.add? key value
  | first :: rest, entries =>
    match entries.get? first with
    | none => do return entries.set first (.table .dotted (← addDotted? key value rest []))
    | some (.table origin inner) =>
      if origin = .dotted ∨ (origin = .implied ∧ rest ≠ []) then do
        return entries.set first (.table origin (← addDotted? key value rest inner))
      else none
    | some (.tables latest earlier) =>
      if rest = [] then none
      else do return entries.set first (.tables (← addDotted? key value rest latest) earlier)
    | some _ => none

/-- Changes the table at the end of the path of a header, making the tables on the way. Inline
tables and values that are no tables are never entered. -/
def Entries.modify (change : Entries → Option Entries) : List String → Entries → Option Entries
  | [], entries => change entries
  | key :: path, entries =>
    match entries.get? key with
    | none => do return entries.set key (.table .implied (← modify change path []))
    | some (.table origin inner) =>
      if origin = .inline then none
      else do return entries.set key (.table origin (← modify change path inner))
    | some (.tables latest earlier) => do
      return entries.set key (.tables (← modify change path latest) earlier)
    | some _ => none

/-- Opens the table of a header. It may have come about on the way to another header. -/
def Entries.openTable? (path : List String) (key : String) (entries : Entries) : Option Entries :=
  entries.modify (change key) path
where
  /-- Opens a table among its siblings. -/
  change (key : String) (entries : Entries) : Option Entries :=
    match entries.get? key with
    | none => some (entries ++ [(key, .table .header [])])
    | some (.table .implied inner) => some (entries.set key (.table .header inner))
    | some _ => none

/-- Opens one more table of an array header. -/
def Entries.openElement? (path : List String) (key : String) (entries : Entries) :
    Option Entries :=
  entries.modify (change key) path
where
  /-- Opens a table of an array among its siblings. -/
  change (key : String) (entries : Entries) : Option Entries :=
    match entries.get? key with
    | none => some (entries ++ [(key, .tables [] [])])
    | some (.tables latest earlier) =>
      some (entries.set key (.tables [] (.table .header latest :: earlier)))
    | some _ => none

end Toml

end FilterQuery
