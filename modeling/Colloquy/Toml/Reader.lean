import Colloquy.Toml.Text
/-!
# Reading TOML text

A document is read line by line; a line may be a header, a key with its value, or empty.  Arrays and
inline tables may go over several lines, though not in the middle of a key, and may end with a comma.  At
most eighty of them may be open at once.

* `Toml.ofText?`: the entries of the document's root table.
-/
namespace Colloquy

namespace Toml

/-- The largest number of arrays and inline tables that may be open at once. -/
def maxDepth : Nat := 80

def isScalarChar (c : Char) : Bool :=
  c.isAlphanum || c == '_' || c == '+' || c == '-' || c == ':' || c == '.'

/-- The text of a scalar and the rest.  A date may have its time behind a single space. -/
def scalarText (text : List Char) : List Char × List Char :=
  let first := text.takeWhile isScalarChar
  let rest := text.dropWhile isScalarChar
  match rest with
  | ' ' :: tail =>
    if (date? first).any (fun found => found.2.isEmpty) && (twoDigits? tail).isSome then
      (first ++ ' ' :: tail.takeWhile isScalarChar, tail.dropWhile isScalarChar)
    else (first, rest)
  | _ => (first, rest)

mutual

/-- A value at the start of a text; `depth` containers may still be opened. -/
def value? : (rounds depth : Nat) → List Char → Option (Toml × List Char)
  | 0, _, _ => none
  | rounds + 1, depth, text =>
    match text with
    | '[' :: rest =>
      match depth with
      | 0 => none
      | depth + 1 => items? rounds depth [] rest
    | '\x7b' :: rest =>
      match depth with
      | 0 => none
      | depth + 1 => members? rounds depth [] rest
    | '"' :: _ | '\'' :: _ =>
      (quoted? text).map fun (content, rest) => (string (String.ofList content), rest)
    | _ =>
      let (scalar, rest) := scalarText text
      (scalar? scalar).map fun value => (value, rest)

/-- The items of an array up to its closing bracket, behind those already read. -/
def items? : (rounds depth : Nat) → (before : List Toml) → List Char → Option (Toml × List Char)
  | 0, _, _, _ => none
  | rounds + 1, depth, before, text => do
    match ← skipLines false text with
    | ']' :: rest => some (array false before.reverse, rest)
    | text =>
      let (item, rest) ← value? rounds depth text
      match ← skipLines false rest with
      | ',' :: rest => items? rounds depth (item :: before) rest
      | ']' :: rest => some (array false (item :: before).reverse, rest)
      | _ => none

/-- The members of an inline table up to its closing brace, behind those already read. -/
def members? : (rounds depth : Nat) → (before : List (String × Toml)) → List Char →
    Option (Toml × List Char)
  | 0, _, _, _ => none
  | rounds + 1, depth, before, text => do
    match ← skipLines false text with
    | '\x7d' :: rest => some (table .inline before, rest)
    | text =>
      let (key, rest) ← key? text.length text
      match ← skipLines false rest with
      | '=' :: rest =>
        let (value, rest) ← value? rounds depth (← skipLines false rest)
        let entries ← insert value key before
        match ← skipLines false rest with
        | ',' :: rest => members? rounds depth entries rest
        | '\x7d' :: rest => some (table .inline entries, rest)
        | _ => none
      | _ => none

end

/-- What a line of a document says. -/
inductive Statement where
  | openTable (header : List String)
  | openArrayItem (header : List String)
  | entry (key : List String) (value : Toml)

/-- The key of a header, behind its opening bracket. -/
def header? (text : List Char) : Option (List String × List Char) :=
  key? text.length (skipSpace text)

/-- One statement and the rest of its line. -/
def statement? : List Char → Option (Statement × List Char)
  | '[' :: '[' :: rest => do
    let (header, rest) ← header? rest
    match skipSpace rest with
    | ']' :: ']' :: rest => some (.openArrayItem header, rest)
    | _ => none
  | '[' :: rest => do
    let (header, rest) ← header? rest
    match skipSpace rest with
    | ']' :: rest => some (.openTable header, rest)
    | _ => none
  | text => do
    let (key, rest) ← key? text.length text
    match skipSpace rest with
    | '=' :: rest =>
      let rest := skipSpace rest
      let (value, rest) ← value? (2 * rest.length + 2) maxDepth rest
      some (.entry key value, rest)
    | _ => none

/-- A document while it is read: the header in force and the entries so far. -/
structure Draft where
  header : List String
  entries : List (String × Toml)

namespace Draft

def add (draft : Draft) : Statement → Option Draft
  | .openTable header => (openTable header draft.entries).map fun entries => ⟨header, entries⟩
  | .openArrayItem header => (openArrayItem header draft.entries).map fun entries => ⟨header, entries⟩
  | .entry key value =>
    (insertAt draft.header key value draft.entries).map fun entries => { draft with entries := entries }

end Draft

/-- The statements of a text; `rounds` bounds their number. -/
def statements? : (rounds : Nat) → List Char → Option (List Statement)
  | 0, _ => none
  | rounds + 1, text => do
    match ← skipLines false text with
    | [] => some []
    | text => do
      let (statement, rest) ← statement? text
      let rest ← endLine rest
      let statements ← statements? rounds rest
      some (statement :: statements)

/-- The entries of the root table of a document.  A byte order mark may stand in front. -/
def ofText? (text : String) : Option (List (String × Toml)) := do
  let chars :=
    match text.toList with
    | '\ufeff' :: rest => rest
    | chars => chars
  let statements ← statements? (chars.length + 1) chars
  let draft ← statements.foldlM Draft.add ⟨[], []⟩
  some draft.entries

end Toml

end Colloquy
