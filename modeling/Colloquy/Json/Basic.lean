import Colloquy.Number.Binary64
/-!
# JSON values

A value keeps the distinction between whole numbers and floating-point numbers: `1` and `1.0` are
different values.  The members of an object are a list sorted by key with every key once; `Fields.insert`
keeps it so, replacing the value under a key that is already there.  Strings compare by code point, which
is also the order of their UTF-8 bytes.

Results:
* `Fields.get?_insert_self`, `Fields.get?_insert_of_ne`: an insertion is seen under its own key and
  nowhere else.
* `Fields.get?_erase_self`, `Fields.get?_erase_of_ne`: the same for removing a key.
* `Json.asCount?_ofCount`, `Json.asIndex?_ofIndex`: counts and indices are read as they were written.
-/
namespace Colloquy

/-- A JSON value. -/
inductive Json where
  | null
  | bool (value : Bool)
  /-- A number written without fraction and exponent that fits 64 bits. -/
  | int (value : Int)
  /-- Any other number. -/
  | float (value : Binary64)
  | str (value : String)
  | arr (items : List Json)
  | obj (fields : List (String × Json))
deriving Repr, Inhabited

/-- The members of an object, sorted by key, every key once. -/
abbrev Fields := List (String × Json)

namespace Json

mutual

/-- Equality of values, decided by structural comparison. -/
def decEq : (a b : Json) → Decidable (a = b)
  | null, null => isTrue rfl
  | bool a, bool b =>
    if h : a = b then isTrue (by rw [h]) else isFalse (by intro e; injection e; contradiction)
  | int a, int b =>
    if h : a = b then isTrue (by rw [h]) else isFalse (by intro e; injection e; contradiction)
  | float a, float b =>
    if h : a = b then isTrue (by rw [h]) else isFalse (by intro e; injection e; contradiction)
  | str a, str b =>
    if h : a = b then isTrue (by rw [h]) else isFalse (by intro e; injection e; contradiction)
  | arr a, arr b =>
    match decEqItems a b with
    | isTrue h => isTrue (by rw [h])
    | isFalse h => isFalse (by intro e; injection e; contradiction)
  | obj a, obj b =>
    match decEqFields a b with
    | isTrue h => isTrue (by rw [h])
    | isFalse h => isFalse (by intro e; injection e; contradiction)
  | null, bool _ | null, int _ | null, float _ | null, str _ | null, arr _ | null, obj _
  | bool _, null | bool _, int _ | bool _, float _ | bool _, str _ | bool _, arr _ | bool _, obj _
  | int _, null | int _, bool _ | int _, float _ | int _, str _ | int _, arr _ | int _, obj _
  | float _, null | float _, bool _ | float _, int _ | float _, str _ | float _, arr _ | float _, obj _
  | str _, null | str _, bool _ | str _, int _ | str _, float _ | str _, arr _ | str _, obj _
  | arr _, null | arr _, bool _ | arr _, int _ | arr _, float _ | arr _, str _ | arr _, obj _
  | obj _, null | obj _, bool _ | obj _, int _ | obj _, float _ | obj _, str _ | obj _, arr _ =>
    isFalse (by intro e; cases e)

def decEqItems : (a b : List Json) → Decidable (a = b)
  | [], [] => isTrue rfl
  | [], _ :: _ | _ :: _, [] => isFalse (by intro e; cases e)
  | a :: as, b :: bs =>
    match decEq a b, decEqItems as bs with
    | isTrue h, isTrue t => isTrue (by rw [h, t])
    | isFalse h, _ => isFalse (by intro e; injection e; contradiction)
    | _, isFalse t => isFalse (by intro e; injection e; contradiction)

def decEqFields : (a b : List (String × Json)) → Decidable (a = b)
  | [], [] => isTrue rfl
  | [], _ :: _ | _ :: _, [] => isFalse (by intro e; cases e)
  | (k, a) :: as, (l, b) :: bs =>
    if hk : k = l then
      match decEq a b, decEqFields as bs with
      | isTrue h, isTrue t => isTrue (by rw [hk, h, t])
      | isFalse h, _ => isFalse (by intro e; injection e with e; injection e; contradiction)
      | _, isFalse t => isFalse (by intro e; injection e; contradiction)
    else isFalse (by intro e; injection e with e; injection e; contradiction)

end

instance : DecidableEq Json := decEq

end Json

namespace Fields

def get? : Fields → String → Option Json
  | [], _ => none
  | (k, v) :: rest, key => if k = key then some v else get? rest key

/-- Whether a key is present, with whatever value. -/
def contains (fields : Fields) (key : String) : Bool := (get? fields key).isSome

/-- Puts a value under a key, in key order, in place of the value that was there. -/
def insert : Fields → String → Json → Fields
  | [], key, value => [(key, value)]
  | (k, v) :: rest, key, value =>
    if k = key then (key, value) :: rest
    else if key < k then (key, value) :: (k, v) :: rest
    else (k, v) :: insert rest key value

def erase (fields : Fields) (key : String) : Fields := fields.filter (fun member => member.1 != key)

/-- The members of a list in key order; of a repeated key the last value counts. -/
def ofList (members : List (String × Json)) : Fields :=
  members.foldl (fun fields member => insert fields member.1 member.2) []

/-- The members of `fields` with those of `overrides` put over them. -/
def merge (fields overrides : Fields) : Fields :=
  overrides.foldl (fun merged member => insert merged member.1 member.2) fields

@[simp] theorem get?_insert_self (fields : Fields) (key : String) (value : Json) :
    get? (insert fields key value) key = some value := by
  induction fields with
  | nil => simp [insert, get?]
  | cons member rest ih =>
    obtain ⟨k, v⟩ := member
    simp only [insert]
    split
    · simp [get?]
    · split <;> simp_all [get?]

theorem get?_insert_of_ne (fields : Fields) {key other : String} (value : Json) (h : other ≠ key) :
    get? (insert fields key value) other = get? fields other := by
  induction fields with
  | nil => simp [insert, get?, Ne.symm h]
  | cons member rest ih =>
    obtain ⟨k, v⟩ := member
    simp only [insert]
    split
    · next hk => subst hk; simp [get?, Ne.symm h]
    · split
      · simp [get?, Ne.symm h]
      · simp [get?, ih]

@[simp] theorem get?_erase_self (fields : Fields) (key : String) :
    get? (erase fields key) key = none := by
  induction fields with
  | nil => rfl
  | cons member rest ih =>
    obtain ⟨k, v⟩ := member
    by_cases hk : k = key <;> simp_all [erase, get?]

theorem get?_erase_of_ne (fields : Fields) {key other : String} (h : other ≠ key) :
    get? (erase fields key) other = get? fields other := by
  induction fields with
  | nil => rfl
  | cons member rest ih =>
    obtain ⟨k, v⟩ := member
    by_cases hk : k = key
    · subst hk; simp_all [erase, get?, Ne.symm h]
    · by_cases ho : k = other <;> simp_all [erase, get?]

end Fields

namespace Json

/-- The value under a key of an object; nothing for any other value. -/
def get? : Json → String → Option Json
  | obj fields, key => Fields.get? fields key
  | _, _ => none

/-- The item of an array at an index; nothing for any other value. -/
def item? : Json → Nat → Option Json
  | arr items, index => items[index]?
  | _, _ => none

def asString? : Json → Option String
  | str s => some s
  | _ => none

def asBool? : Json → Option Bool
  | bool b => some b
  | _ => none

def asObject? : Json → Option Fields
  | obj fields => some fields
  | _ => none

def asArray? : Json → Option (List Json)
  | arr items => some items
  | _ => none

/-- A count: a whole number of at most 64 bits without sign.  A floating-point number is none, even
`1.0`. -/
def asCount? : Json → Option UInt64
  | int n => if 0 ≤ n ∧ n.toNat < UInt64.size then some (UInt64.ofNat n.toNat) else none
  | _ => none

/-- A whole number of at most 32 bits without sign. -/
def asIndex? : Json → Option UInt32
  | int n => if 0 ≤ n ∧ n.toNat < UInt32.size then some (UInt32.ofNat n.toNat) else none
  | _ => none

/-- Any number as a floating-point number, a whole one rounded to the nearest. -/
def asFloat? : Json → Option Binary64
  | int n => some (Binary64.ofInt n)
  | float x => some x
  | _ => none

def ofCount (n : UInt64) : Json := int n.toNat

def ofIndex (n : UInt32) : Json := int n.toNat

@[simp] theorem asString?_str (text : String) : asString? (str text) = some text := rfl

@[simp] theorem asBool?_bool (value : Bool) : asBool? (bool value) = some value := rfl

@[simp] theorem asCount?_ofCount (count : UInt64) : asCount? (ofCount count) = some count := by
  have h : count.toNat < UInt64.size := count.toNat_lt
  simp [ofCount, asCount?, h]

@[simp] theorem asIndex?_ofIndex (index : UInt32) : asIndex? (ofIndex index) = some index := by
  have h : index.toNat < UInt32.size := index.toNat_lt
  simp [ofIndex, asIndex?, h]

/-- A floating-point number; infinities and NaNs have no JSON form and become null. -/
def ofFloat (x : Binary64) : Json := if x.isFinite then float x else null

def ofOption (f : α → Json) : Option α → Json
  | some a => f a
  | none => null

/-- An object from its members in any order. -/
def object (members : List (String × Json)) : Json := obj (Fields.ofList members)

end Json

end Colloquy
