import Colloquy.Failure
import Colloquy.Text.Search
/-!
# Model targets

A model is addressed by its id.  The id usually starts with the provider, possibly behind the region of a
cross-region profile: `us.anthropic.…`.  A resource name (ARN) names no provider, so one has to be given.
-/
namespace Colloquy

/-- The model that calls go to. -/
structure Target where
  modelId : String
  /-- The model behind a profile or resource name. -/
  baseModelId : Option String
  /-- The provider, where the model id does not tell it. -/
  provider : Option String
deriving DecidableEq, Repr

namespace Target

/-- The regions that may stand in front of a provider. -/
def regions : List (List Char) :=
  [['e', 'u'], ['u', 's'], ['u', 's', '-', 'g', 'o', 'v'], ['a', 'p', 'a', 'c'], ['s', 'a']]

/-- Whether a segment is a region, in any letter case. -/
def isRegion (segment : List Char) : Bool := regions.contains (segment.map Char.toLower)

def isResourceName (modelId : String) : Bool := ['a', 'r', 'n'].isPrefixOf modelId.toList

/-- The segment of a model id that names the provider: the first one, or the second one behind a
region. -/
def providerSegment (modelId : String) : String :=
  match splitOnChar '.' modelId.toList with
  | [] => ""
  | first :: rest =>
    if isRegion first then String.ofList (rest.headD []) else String.ofList first

/-- The id of the provider; one that is given explicitly comes first. -/
def providerId (target : Target) : Except Failure String :=
  match target.provider with
  | some id => .ok id
  | none =>
    if isResourceName target.modelId then .error (.configuration (.providerNeeded target.modelId))
    else .ok (providerSegment target.modelId)

/-- The provider that serves the model. -/
def resolveProvider (target : Target) : Except Failure Provider :=
  target.providerId.bind Provider.resolve

/-- The name of the model itself: the explicit base model, or else what follows the first point of the
id, or else the whole id. -/
def baseModel (target : Target) : String :=
  match target.baseModelId with
  | some id => id
  | none =>
    match target.modelId.toList.dropWhile (· != '.') with
    | [] => target.modelId
    | _ :: rest => String.ofList rest

/-- Whether the model belongs to the Claude family. -/
def isClaude (target : Target) : Bool :=
  occursIn ['c', 'l', 'a', 'u', 'd', 'e', '-'] target.baseModel.toList

end Target

end Colloquy
