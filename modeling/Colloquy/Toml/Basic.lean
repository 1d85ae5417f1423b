import Colloquy.Number.Binary64
/-!
# TOML documents

A document is a table.  While it is being read, a table also remembers how it came to be, because that
decides whether later lines may add to it; arrays remember the same.

* `Toml.insert`: puts a value under a dotted key.
* `Toml.openTable`, `Toml.openArrayItem`: start the table of a header.
-/
namespace Colloquy

/-- How a table came to be. -/
inductive TableOrigin where
  /-- By a header of its own. -/
  | header
  /-- By the header of a table inside it. -/
  | implied
  /-- By a dotted key. -/
  | dotted
  /-- Written between braces, and closed. -/
  | inline
deriving DecidableEq, Repr

inductive Toml where
  | string (value : String)
  | integer (value : Int)
  | float (value : Binary64)
  | boolean (value : Bool)
  /-- A date, a time or both, in the one form in which it is written back. -/
  | datetime (text : String)
  /-- An array; one made by headers can be extended. -/
  | array (extendable : Bool) (items : List Toml)
  | table (origin : TableOrigin) (entries : List (String × Toml))
deriving Repr, Inhabited

namespace Toml

def find? (key : String) : List (String × Toml) → Option Toml
  | [] => none
  | (k, v) :: rest => if k = key then some v else find? key rest

/-- Changes what is under a key, which may be nothing yet; fails where `change` does. -/
def alter (key : String) (change : Option Toml → Option Toml) :
    List (String × Toml) → Option (List (String × Toml))
  | [] => (change none).map fun v => [(key, v)]
  | (k, v) :: rest =>
    if k = key then (change (some v)).map fun v => (k, v) :: rest
    else (alter key change rest).map fun rest => (k, v) :: rest

/-- Changes the last item of a list, if there is one. -/
def alterLast (change : Toml → Option Toml) : List Toml → Option (List Toml)
  | [] => none
  | [item] => (change item).map fun item => [item]
  | item :: next :: rest => (alterLast change (next :: rest)).map fun rest => item :: rest

/-- Puts a value under a dotted key, whose last part must be new; `addable` tells whether the entries may
get it.  The key may lead through tables without a header of their own, and into the last table of an
extendable array, but only tables that come from dotted keys may get a value in this way. -/
def insertBelow (value : Toml) : (addable : Bool) → List String → List (String × Toml) →
    Option (List (String × Toml))
  | _, [], _ => none
  | addable, [key], entries =>
    if addable then alter key (fun found => if found.isSome then none else some value) entries else none
  | _, key :: next :: path, entries =>
    alter key
      (fun found =>
        match found with
        | none => (insertBelow value true (next :: path) []).map (table .dotted)
        | some (table .dotted inner) =>
          (insertBelow value true (next :: path) inner).map (table .dotted)
        | some (table .implied inner) =>
          (insertBelow value false (next :: path) inner).map (table .implied)
        | some (array true items) =>
          (alterLast
            (fun item =>
              match item with
              | table origin inner => (insertBelow value false (next :: path) inner).map (table origin)
              | _ => none)
            items).map (array true)
        | some _ => none)
      entries

/-- Puts a value under a key of a table that is open for it. -/
def insert (value : Toml) (key : List String) (entries : List (String × Toml)) :
    Option (List (String × Toml)) :=
  insertBelow value true key entries

/-- Changes the entries of a table that a header leads into. -/
def alterTable (change : List (String × Toml) → Option (List (String × Toml))) : Toml → Option Toml
  | table .inline _ => none
  | table origin entries => (change entries).map (table origin)
  | _ => none

/-- Follows a header into one of its tables: a new one, an open one, or the last of an extendable
array. -/
def enter (change : List (String × Toml) → Option (List (String × Toml))) :
    Option Toml → Option Toml
  | none => (change []).map (table .implied)
  | some (array true items) => (alterLast (alterTable change) items).map (array true)
  | some found => alterTable change found

/-- Applies a change at the last key of a header. -/
def alterAtHeader (change : Option Toml → Option Toml) :
    List String → List (String × Toml) → Option (List (String × Toml))
  | [], _ => none
  | [key], entries => alter key change entries
  | key :: next :: path, entries => alter key (enter (alterAtHeader change (next :: path))) entries

/-- Starts the table of a header: it must be new, or only implied so far. -/
def openTable : List String → List (String × Toml) → Option (List (String × Toml)) :=
  alterAtHeader fun found =>
    match found with
    | none => some (table .header [])
    | some (table .implied entries) => some (table .header entries)
    | some _ => none

/-- Starts one more table in the array of a header, which must be new or extendable. -/
def openArrayItem : List String → List (String × Toml) → Option (List (String × Toml)) :=
  alterAtHeader fun found =>
    match found with
    | none => some (array true [table .header []])
    | some (array true items) => some (array true (items ++ [table .header []]))
    | some _ => none

/-- Puts a value under a dotted key of the table of a header. -/
def insertAt (header key : List String) (value : Toml) (entries : List (String × Toml)) :
    Option (List (String × Toml)) :=
  match header with
  | [] => insert value key entries
  | _ => alterAtHeader (enter (insert value key)) header entries

end Toml

end Colloquy
