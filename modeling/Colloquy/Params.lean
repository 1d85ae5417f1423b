import Colloquy.Json.Record
/-!
# Generation parameters

Temperature and token limit are the same for every provider; all other parameters are free-form fields
that go into the request body as they are.
-/
namespace Colloquy

/-- The parameters of a generation. -/
structure Params where
  temperature : Option Binary64
  maxTokens : Option UInt32
  extra : Fields
deriving DecidableEq, Repr

namespace Params

def empty : Params := ⟨none, none, []⟩

/-- The parameters with the free-form fields of one call put over them. -/
def merged (params : Params) (overrides : Fields) : Params :=
  { params with extra := Fields.merge params.extra overrides }

/-- Whether the model is asked to show its reasoning: `thinking` has the type `enabled`. -/
def thinkingEnabled (params : Params) : Bool :=
  ((Fields.get? params.extra "thinking").bind fun thinking =>
    (thinking.get? "type").bind Json.asString?) == some "enabled"

/-- Whether the free-form fields bring tools, directly or inside `extra_body`. -/
def toolsRequested (params : Params) : Bool :=
  Fields.contains params.extra "tools"
    || (match (Fields.get? params.extra "extra_body").bind Json.asObject? with
        | some body => Fields.contains body "tools"
        | none => false)

/-- The token limit that is in force: zero sets none. -/
def limit? (params : Params) : Option UInt32 := params.maxTokens.filter fun n => decide (0 < n)

end Params

end Colloquy
