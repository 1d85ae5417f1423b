import Colloquy.Json.Basic
/-!
# Records in JSON

A record with named fields is written as an object, where unknown members are ignored, or as an array
of its fields in order.  A *tagged* record is one of several kinds, told apart by a tag: the member
`type` of the object, or the first item of the array.

A field may be absent if it has a default or is optional.  `null` counts as absent for optional fields
only.
-/
namespace Colloquy

/-- A record as it is written, under names or in order. -/
inductive Record where
  | named (fields : Fields)
  | ordered (items : List Json)
deriving DecidableEq, Repr

namespace Record

/-- A value as a record of `size` fields; an array with more items is none. -/
def ofJson? (size : Nat) : Json → Option Record
  | .obj fields => some (named fields)
  | .arr items => if items.length ≤ size then some (ordered items) else none
  | _ => none

/-- What is written for a field, if anything is. -/
def field? (record : Record) (position : Nat) (name : String) : Option Json :=
  match record with
  | named fields => Fields.get? fields name
  | ordered items => items[position]?

/-- A field that has to be there. -/
def required (record : Record) (position : Nat) (name : String) (read : Json → Option α) : Option α :=
  (record.field? position name).bind read

/-- A field with a default. -/
def defaulted (record : Record) (position : Nat) (name : String) (default : α)
    (read : Json → Option α) : Option α :=
  match record.field? position name with
  | some value => read value
  | none => some default

/-- A field that may be absent or null. -/
def optional (record : Record) (position : Nat) (name : String) (read : Json → Option α) :
    Option (Option α) :=
  match record.field? position name with
  | some .null | none => some none
  | some value => (read value).map some

/-- Whether an ordered record has no more than `size` items. -/
def fits (record : Record) (size : Nat) : Bool :=
  match record with
  | named _ => true
  | ordered items => decide (items.length ≤ size)

end Record

namespace Json

/-- The kind that a tag names.  Inside free-form values a tag may also be the number of a kind in
`numbered`. -/
def tag? (numbered : List String) : Json → Option String
  | str name => some name
  | int n => if 0 ≤ n then numbered[n.toNat]? else none
  | _ => none

/-- The kind of a tagged record and the record without its tag. -/
def tagged? (numbered : List String) : Json → Option (String × Record)
  | obj fields =>
    ((Fields.get? fields "type").bind (tag? numbered)).map fun kind => (kind, .named fields)
  | arr (tag :: items) => (tag? numbered tag).map fun kind => (kind, .ordered items)
  | _ => none

/-- One of several names: written as a string, or as an object whose only member has the name as key and
null as value. -/
def choice? : Json → Option String
  | str name => some name
  | obj [(name, null)] => some name
  | _ => none

/-- The items of an array, each read by `read`; nothing if one of them cannot be read. -/
def list? (read : Json → Option α) : Json → Option (List α)
  | arr items => items.mapM read
  | _ => none

end Json

end Colloquy
