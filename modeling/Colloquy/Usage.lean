import Colloquy.Json.Record
/-!
# Token usage

Token counts have 64 bits.  A sum that would be larger is the largest count.

Results:
* `toNat_capAdd`: a capped sum is the sum of the naturals, cut at the largest count.
-/
namespace Colloquy

/-- The sum of two counts, or the largest count where 64 bits cannot hold it. -/
def capAdd (a b : UInt64) : UInt64 :=
  if a.toNat + b.toNat < UInt64.size then a + b else UInt64.ofNat (UInt64.size - 1)

theorem toNat_capAdd (a b : UInt64) :
    (capAdd a b).toNat = min (a.toNat + b.toNat) (UInt64.size - 1) := by
  unfold capAdd UInt64.size
  split
  · rw [UInt64.toNat_add]; omega
  · rw [UInt64.toNat_ofNat']; omega

/-- The tokens that a call used. -/
structure Usage where
  prompt : UInt64
  completion : UInt64
  /-- Prompt tokens read from the cache. -/
  cacheRead : UInt64
  /-- Prompt tokens written to the cache. -/
  cacheWrite : UInt64
  total : UInt64
deriving DecidableEq, Repr

namespace Usage

def zero : Usage := ⟨0, 0, 0, 0, 0⟩

/-- The sum, each count capped. -/
def add (a b : Usage) : Usage :=
  { prompt := capAdd a.prompt b.prompt
    completion := capAdd a.completion b.completion
    cacheRead := capAdd a.cacheRead b.cacheRead
    cacheWrite := capAdd a.cacheWrite b.cacheWrite
    total := capAdd a.total b.total }

def ofJson? (value : Json) : Option Usage := do
  let fields ← Record.ofJson? 5 value
  let prompt ← fields.required 0 "prompt_tokens" Json.asCount?
  let completion ← fields.required 1 "completion_tokens" Json.asCount?
  let cacheRead ← fields.required 2 "cache_read_tokens" Json.asCount?
  let cacheWrite ← fields.required 3 "cache_write_tokens" Json.asCount?
  let total ← fields.required 4 "total_tokens" Json.asCount?
  some ⟨prompt, completion, cacheRead, cacheWrite, total⟩

def members (usage : Usage) : List (String × Json) :=
  [("prompt_tokens", .ofCount usage.prompt), ("completion_tokens", .ofCount usage.completion),
    ("cache_read_tokens", .ofCount usage.cacheRead), ("cache_write_tokens", .ofCount usage.cacheWrite),
    ("total_tokens", .ofCount usage.total)]

def toJson (usage : Usage) : Json := .object usage.members

end Usage

end Colloquy
