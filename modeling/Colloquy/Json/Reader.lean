import Colloquy.Json.Token
/-!
# Reading JSON text

The tokens are read one by one by a machine that keeps the containers still open, innermost first.  A
text is accepted if it holds exactly one value.  At most 127 containers may be open at once.

* `Json.ofText?`, `Json.ofBytes?`: the value of a text, or of the bytes of a UTF-8 text.
-/
namespace Colloquy

/-- A container that is still open; what it holds so far stands last one first. -/
inductive Frame where
  | array (items : List Json)
  | object (members : List (String × Json)) (key : String)
deriving DecidableEq, Repr

/-- What a reader waits for, with the open containers. -/
inductive Reader where
  /-- A value. -/
  | atValue (outer : List Frame)
  /-- The first item of an array, or its end. -/
  | atFirstItem (outer : List Frame)
  /-- The first key of an object, or its end. -/
  | atFirstKey (outer : List Frame)
  /-- A key behind a comma. -/
  | atKey (members : List (String × Json)) (outer : List Frame)
  /-- The colon behind a key. -/
  | atColon (members : List (String × Json)) (key : String) (outer : List Frame)
  /-- A comma or the end of the innermost container. -/
  | atNext (outer : List Frame)
  /-- The end of the text. -/
  | finished (value : Json)
deriving DecidableEq, Repr

/-- How a text is read. -/
structure Reading where
  /-- The largest number of containers that may be open at once, if there is one. -/
  maxOpen : Option Nat
  /-- What an object with members in written order becomes. -/
  build : List (String × Json) → Json

namespace Reading

/-- Of a repeated key the last member counts. -/
def plain : Reading := ⟨some 127, Json.object⟩

/-- Every object keeps its members as they are written, repeated keys included. -/
def asWritten : Reading := ⟨some 127, Json.obj⟩

/-- Any number of containers may be open, and nothing is kept. -/
def formOnly : Reading := ⟨none, fun _ => .null⟩

/-- Whether one more container may be opened. -/
def mayOpen (reading : Reading) (outer : List Frame) : Bool :=
  reading.maxOpen.all fun limit => decide (outer.length < limit)

end Reading

namespace Reader

/-- A value is complete: it goes into the innermost open container, or is the whole text. -/
def complete (value : Json) : List Frame → Reader
  | [] => finished value
  | .array items :: outer => atNext (.array (value :: items) :: outer)
  | .object members key :: outer => atNext (.object ((key, value) :: members) key :: outer)

/-- Starts a value with its first token. -/
def start (reading : Reading) (outer : List Frame) : Token → Option Reader
  | .scalar value => some (complete value outer)
  | .arrayStart => if reading.mayOpen outer then some (atFirstItem outer) else none
  | .objectStart => if reading.mayOpen outer then some (atFirstKey outer) else none
  | _ => none

/-- Reads one token. -/
def step (reading : Reading) : Reader → Token → Option Reader
  | atValue outer, token => start reading outer token
  | atFirstItem outer, .arrayEnd => some (complete (.arr []) outer)
  | atFirstItem outer, token => start reading (.array [] :: outer) token
  | atFirstKey outer, .objectEnd => some (complete (reading.build []) outer)
  | atFirstKey outer, .scalar (.str key) => some (atColon [] key outer)
  | atKey members outer, .scalar (.str key) => some (atColon members key outer)
  | atColon members key outer, .colon => some (atValue (.object members key :: outer))
  | atNext (.array items :: outer), .comma => some (atValue (.array items :: outer))
  | atNext (.array items :: outer), .arrayEnd => some (complete (.arr items.reverse) outer)
  | atNext (.object members _ :: outer), .comma => some (atKey members outer)
  | atNext (.object members _ :: outer), .objectEnd =>
    some (complete (reading.build members.reverse) outer)
  | _, _ => none

/-- The value read, once the text is at its end. -/
def result? : Reader → Option Json
  | finished value => some value
  | _ => none

end Reader

namespace Json

/-- The value of a JSON text. -/
def ofText? (text : String) : Option Json := do
  let tokens ← Token.scan text
  let reader ← tokens.foldlM (Reader.step .plain) (.atValue [])
  reader.result?

/-- The value of a JSON text given as UTF-8 bytes. -/
def ofBytes? (bytes : ByteArray) : Option Json := (String.fromUTF8? bytes).bind ofText?

end Json

end Colloquy
