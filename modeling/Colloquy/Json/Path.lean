import Colloquy.Json.Basic
/-!
# Paths into JSON values

A path is a list of steps, each by key into an object or by index into an array.  A step that does not
fit the value it meets leads nowhere.
-/
namespace Colloquy

/-- One step of a path. -/
inductive Step where
  | key (name : String)
  | index (position : Nat)
deriving DecidableEq, Repr

namespace Step

/-- The value one step further. -/
def follow (value : Json) : Step → Option Json
  | key name => value.get? name
  | index position => value.item? position

end Step

namespace Json

/-- The value at the end of a path. -/
def lookup (value : Json) (path : List Step) : Option Json := path.foldlM Step.follow value

end Json

/-- A path as it is written in messages, such as `choices[0].text`: a key is set off with a point from
what stands before it. -/
def describePath (path : List Step) : String :=
  path.foldl
    (fun text step =>
      match step with
      | .key name => if text.isEmpty then name else text ++ "." ++ name
      | .index position => text ++ "[" ++ toString position ++ "]")
    ""

end Colloquy
