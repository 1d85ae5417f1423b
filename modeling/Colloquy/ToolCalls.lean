import Colloquy.Chunk
import Colloquy.Failure
import Colloquy.Json.Reader
import Colloquy.Text.Blank
import Colloquy.Tool
/-!
# Joining the fragments of tool calls

The fragments of several calls may arrive interleaved.  Those of one index belong together; the calls
stand in the order in which their indices were first seen.  The first id and name that are not empty
count, and the arguments are joined.
-/
namespace Colloquy

/-- A call whose fragments are still arriving. -/
structure PendingCall where
  index : UInt32
  id : Option String
  name : Option String
  args : String
deriving DecidableEq, Repr

namespace PendingCall

def start (index : UInt32) : PendingCall := ⟨index, none, none, ""⟩

/-- A text that is set and not empty. -/
def nonEmpty (text : Option String) : Option String := text.filter fun t => !t.isEmpty

def push (call : PendingCall) (fragment : CallFragment) : PendingCall :=
  { call with
    id := call.id.orElse fun _ => nonEmpty fragment.id
    name := call.name.orElse fun _ => nonEmpty fragment.name
    args := call.args ++ fragment.args }

/-- The arguments as a value; blank arguments are an empty object. -/
def argsValue? (call : PendingCall) : Option Json :=
  if allBlank call.args then some (.obj []) else Json.ofText? call.args

def finish (call : PendingCall) : Except Failure ToolCall :=
  match call.id, call.name, call.argsValue? with
  | none, _, _ => .error (.decode (.callWithoutId call.index))
  | some _, none, _ => .error (.decode (.callWithoutName call.index))
  | some _, some _, none => .error (.decode (.callArguments call.index))
  | some id, some name, some args => .ok ⟨id, name, args⟩

end PendingCall

/-- The calls of a stream so far, in the order of their first fragments. -/
structure ToolCalls where
  calls : List PendingCall
deriving DecidableEq, Repr

namespace ToolCalls

def empty : ToolCalls := ⟨[]⟩

/-- Adds a fragment to the call of its index, which is new if no call has it. -/
def pushTo (fragment : CallFragment) : List PendingCall → List PendingCall
  | [] => [(PendingCall.start fragment.index).push fragment]
  | call :: rest =>
    if call.index = fragment.index then call.push fragment :: rest else call :: pushTo fragment rest

def push (calls : ToolCalls) (fragment : CallFragment) : ToolCalls := ⟨pushTo fragment calls.calls⟩

/-- Takes in a chunk; only fragments of tool calls count. -/
def add (calls : ToolCalls) : Chunk → ToolCalls
  | .toolCall fragment => calls.push fragment
  | .text _ | .content _ | .metadata _ | .usage _ => calls

/-- The arguments received so far for an index. -/
def arguments? (calls : ToolCalls) (index : UInt32) : Option String :=
  (calls.calls.find? fun call => call.index = index).map PendingCall.args

def isEmpty (calls : ToolCalls) : Bool := calls.calls.isEmpty

/-- The complete calls, or the failure of the first one that is not complete. -/
def finish (calls : ToolCalls) : Except Failure (List ToolCall) := calls.calls.mapM PendingCall.finish

end ToolCalls

end Colloquy
