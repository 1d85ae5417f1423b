import Colloquy.Proofs.Stream.StopReason
import Mathlib.Algebra.BigOperators.Group.List.Basic
import Mathlib.Algebra.Ring.Nat
import Mathlib.Data.List.Perm.Basic
/-!
# What a tally counts

A tally adds up what metadata and usage chunks count, each for itself, and every sum stops at the largest
count.  That this happens at each step makes no difference: a sum is the exact one, cut once.  So it does not
depend on the order of the chunks either.

Metadata is taken to count as soon as it has an entry for prompt or completion tokens under `usage`, whatever
the entry holds, whereas in the invocation metrics only a count is one.

Results:
* `Tally.gains_foldl`: what a tally gains from a list of chunks.
* `Tally.count_combined`: which sum is answered.
* `Tally.counts_add_up`: the sums are exact up to the largest count, in any order, and the last reason for
  stopping is kept.
* `Tally.usage_chunks_reported`: when the usage chunks are answered although no metadata carries a count of
  prompt or completion tokens.
-/
namespace Colloquy

/-! ## Capped sums -/

/-- A sum of counts as far as 64 bits hold it. -/
def capped (n : Nat) : Nat := min n (2 ^ 64 - 1)

def exactSum (counts : List UInt64) : Nat := (counts.map UInt64.toNat).sum

@[simp]
theorem exactSum_nil : exactSum [] = 0 := rfl

@[simp]
theorem exactSum_cons (count : UInt64) (counts : List UInt64) :
    exactSum (count :: counts) = count.toNat + exactSum counts := rfl

@[simp]
theorem exactSum_append (counts more : List UInt64) :
    exactSum (counts ++ more) = exactSum counts + exactSum more := by
  rw [exactSum, List.map_append, List.sum_append]
  rfl

theorem exactSum_perm {counts others : List UInt64} (h : counts.Perm others) :
    exactSum counts = exactSum others :=
  (h.map UInt64.toNat).sum_eq

theorem capped_toNat (count : UInt64) : capped count.toNat = count.toNat :=
  Nat.min_eq_left (Nat.le_sub_one_of_lt count.toNat_lt)

theorem capped_capped_add (m n : Nat) : capped (capped m + n) = capped (m + n) := by
  unfold capped
  omega

theorem capped_add_capped (m n : Nat) : capped (m + capped n) = capped (m + n) := by
  rw [Nat.add_comm, capped_capped_add, Nat.add_comm]

theorem toNat_capAdd_eq (a b : UInt64) : (capAdd a b).toNat = capped (a.toNat + b.toNat) :=
  toNat_capAdd a b

theorem toNat_foldl_capAdd (counts : List UInt64) (start : UInt64) :
    (counts.foldl capAdd start).toNat = capped (start.toNat + exactSum counts) := by
  induction counts generalizing start with
  | nil => exact (capped_toNat start).symm
  | cons count rest ih =>
    rw [List.foldl_cons, ih, toNat_capAdd_eq, capped_capped_add, exactSum_cons, Nat.add_assoc]

theorem toNat_getD (count : Option UInt64) : (count.getD 0).toNat = capped (exactSum count.toList) := by
  cases count with
  | none => rfl
  | some count => exact (capped_toNat count).symm

/-! ## Kinds of counts -/

/-- What is counted. -/
inductive TokenKind where
  | prompt
  | completion
  | cacheRead
  | cacheWrite
deriving DecidableEq, Repr

namespace Usage

def count (usage : Usage) : TokenKind → UInt64
  | .prompt => usage.prompt
  | .completion => usage.completion
  | .cacheRead => usage.cacheRead
  | .cacheWrite => usage.cacheWrite

theorem count_add (a b : Usage) (kind : TokenKind) :
    (a.add b).count kind = capAdd (a.count kind) (b.count kind) := by
  cases kind <;> rfl

theorem ext_of_count {a b : Usage} (h : ∀ kind, a.count kind = b.count kind) (ht : a.total = b.total) :
    a = b := by
  obtain ⟨prompt, completion, cacheRead, cacheWrite, total⟩ := a
  cases h .prompt
  cases h .completion
  cases h .cacheRead
  cases h .cacheWrite
  cases ht
  rfl

end Usage

/-- The counts that a value states: itself, or the counts among the items of an array. -/
def Json.counts : Json → List UInt64
  | .arr items => items.filterMap asCount?
  | value => value.asCount?.toList

theorem Json.get?_eq (value : Json) (key : String) :
    value.get? key = value.asObject?.bind (Fields.get? · key) := by
  cases value <;> rfl

namespace TokenKind

/-- The key under `usage`; tokens of the cache are not counted there. -/
def usageKey? : TokenKind → Option String
  | prompt => some "input_tokens"
  | completion => some "output_tokens"
  | cacheRead | cacheWrite => none

/-- The key in the invocation metrics. -/
def metricsKey : TokenKind → String
  | prompt => "inputTokenCount"
  | completion => "outputTokenCount"
  | cacheRead => "cacheReadInputTokenCount"
  | cacheWrite => "cacheWriteInputTokenCount"

def underUsage? (kind : TokenKind) (fields : Fields) : Option Json :=
  kind.usageKey?.bind fun key => (Fields.get? fields "usage").bind (·.get? key)

/-- The count in the invocation metrics of metadata. -/
def metricsCount? (kind : TokenKind) (fields : Fields) : Option UInt64 :=
  ((Fields.get? fields Metrics.key).bind (·.get? kind.metricsKey)).bind Json.asCount?

/-- The counts that metadata states under `usage`. -/
def usageCounts (kind : TokenKind) (fields : Fields) : List UInt64 :=
  ((kind.underUsage? fields).map Json.counts).getD []

/-- All counts that metadata states. -/
def stated (kind : TokenKind) (fields : Fields) : List UInt64 :=
  kind.usageCounts fields ++ (kind.metricsCount? fields).toList

theorem underUsage?_eq (kind : TokenKind) (fields : Fields) :
    kind.underUsage? fields = kind.usageKey?.bind fun key =>
      ((Fields.get? fields "usage").bind Json.asObject?).bind (Fields.get? · key) := by
  rw [underUsage?]
  simp only [Json.get?_eq, Option.bind_assoc]

theorem metricsCount?_eq (kind : TokenKind) (fields : Fields) :
    kind.metricsCount? fields =
      ((Fields.get? fields Metrics.key).bind Json.asObject?).bind fun metrics =>
        (Fields.get? metrics kind.metricsKey).bind Json.asCount? := by
  rw [metricsCount?]
  simp only [Json.get?_eq, Option.bind_assoc]

end TokenKind

namespace Fields

/-- Whether metadata has an entry for prompt or completion tokens under `usage`, whatever it holds. -/
def hasUsageEntry (fields : Fields) : Bool :=
  (TokenKind.prompt.underUsage? fields).isSome || (TokenKind.completion.underUsage? fields).isSome

/-- Whether the invocation metrics of metadata count prompt or completion tokens. -/
def hasMetricsCount (fields : Fields) : Bool :=
  (TokenKind.prompt.metricsCount? fields).isSome || (TokenKind.completion.metricsCount? fields).isSome

/-- Whether metadata is taken to carry a count. -/
def isCounted (fields : Fields) : Bool := hasUsageEntry fields || hasMetricsCount fields

variable {fields : Fields}

theorem usageCounts_eq_nil (h : hasUsageEntry fields = false) (kind : TokenKind) :
    kind.usageCounts fields = [] := by
  obtain ⟨hp, hc⟩ := Bool.or_eq_false_iff.mp h
  have entry : kind.underUsage? fields = none := by
    cases kind with
    | prompt => exact Option.isNone_iff_eq_none.mp (Option.isSome_eq_false_iff.mp hp)
    | completion => exact Option.isNone_iff_eq_none.mp (Option.isSome_eq_false_iff.mp hc)
    | cacheRead | cacheWrite => rfl
  rw [TokenKind.usageCounts, entry]
  rfl

/-- Metadata that states no count of prompt or completion tokens is taken to carry one if it has an entry for
them. -/
theorem isCounted_of_stated (hp : TokenKind.prompt.stated fields = [])
    (hc : TokenKind.completion.stated fields = []) : isCounted fields = hasUsageEntry fields := by
  have count {kind : TokenKind} (h : kind.stated fields = []) : kind.metricsCount? fields = none :=
    Option.toList_eq_nil_iff.mp (List.append_eq_nil_iff.mp h).2
  rw [isCounted, hasMetricsCount, count hp, count hc]
  exact Bool.or_false _

end Fields

def metadataOf (chunks : List Chunk) : List Fields :=
  chunks.filterMap fun
    | .metadata fields => some fields
    | .text _ | .content _ | .toolCall _ | .usage _ => none

def usagesOf (chunks : List Chunk) : List Usage :=
  chunks.filterMap fun
    | .usage usage => some usage
    | .text _ | .content _ | .toolCall _ | .metadata _ => none

/-- A reason for stopping as a text; what is no text stands as JSON. -/
def Json.asReason : Json → String
  | .str text => text
  | value => value.compact

/-- The reasons for stopping that the metadata of a stream gives under a key.  Null and the empty text are
none. -/
def reasonsOf (key : String) (chunks : List Chunk) : List Json :=
  ((metadataOf chunks).filterMap (Fields.get? · key)).filter fun value => value ≠ .null ∧ value ≠ .str ""

theorem metadataOf_cons (chunk : Chunk) (rest : List Chunk) :
    metadataOf (chunk :: rest) = metadataOf [chunk] ++ metadataOf rest :=
  List.filterMap_append (l := [chunk])

theorem usagesOf_cons (chunk : Chunk) (rest : List Chunk) :
    usagesOf (chunk :: rest) = usagesOf [chunk] ++ usagesOf rest :=
  List.filterMap_append (l := [chunk])

namespace Tally

/-! ## Steps and runs -/

theorem toNat_sumCounts (value : Json) : (sumCounts value).toNat = capped (exactSum value.counts) := by
  cases value with
  | arr items =>
    rw [sumCounts, toNat_foldl_capAdd, UInt64.toNat_zero, Nat.zero_add]
    rfl
  | _ => exact toNat_getD _

theorem toNat_sum_entry (entry : Option Json) :
    ((entry.map sumCounts).getD 0).toNat = capped (exactSum ((entry.map Json.counts).getD [])) := by
  cases entry with
  | none => rfl
  | some value => exact toNat_sumCounts value

/-- What a tally gains: counts of metadata, counts of usage chunks, and whether metadata counted. -/
structure Gains (before after : Tally) (stated observed : TokenKind → List UInt64) (counted : Bool) :
    Prop where
  metadata : ∀ kind, (after.fromMetadata.count kind).toNat
    = capped ((before.fromMetadata.count kind).toNat + exactSum (stated kind))
  chunks : ∀ kind, (after.fromChunks.count kind).toNat
    = capped ((before.fromChunks.count kind).toNat + exactSum (observed kind))
  flag : after.metadataCounted = (before.metadataCounted || counted)

namespace Gains

theorem nothing {before after : Tally} (hm : after.fromMetadata = before.fromMetadata)
    (hc : after.fromChunks = before.fromChunks) (hf : after.metadataCounted = before.metadataCounted) :
    Gains before after (fun _ => []) (fun _ => []) false where
  metadata _ := by rw [hm]; exact (capped_toNat _).symm
  chunks _ := by rw [hc]; exact (capped_toNat _).symm
  flag := by rw [hf, Bool.or_false]

theorem trans {first middle last : Tally} {stated more observed others : TokenKind → List UInt64}
    {counted again : Bool} (h : Gains first middle stated observed counted)
    (t : Gains middle last more others again) :
    Gains first last (fun kind => stated kind ++ more kind) (fun kind => observed kind ++ others kind)
      (counted || again) where
  metadata kind := by
    rw [t.metadata, h.metadata, capped_capped_add, exactSum_append, Nat.add_assoc]
  chunks kind := by
    rw [t.chunks, h.chunks, capped_capped_add, exactSum_append, Nat.add_assoc]
  flag := by
    rw [t.flag, h.flag, Bool.or_assoc]

end Gains

variable (tally : Tally)

theorem gains_addCounts {usage : Usage} {stated : TokenKind → List UInt64}
    (h : ∀ kind, (usage.count kind).toNat = capped (exactSum (stated kind))) (counted : Bool) :
    Gains tally (tally.addCounts usage counted) stated (fun _ => []) counted where
  metadata kind := by
    rw [addCounts, Usage.count_add, toNat_capAdd_eq, h, capped_add_capped]
  chunks kind := (capped_toNat _).symm
  flag := rfl

theorem gains_addUsageField (fields : Fields) :
    Gains tally (tally.addUsageField fields) (·.usageCounts fields) (fun _ => [])
      (Fields.hasUsageEntry fields) := by
  rw [addUsageField]
  cases hu : (Fields.get? fields "usage").bind Json.asObject? with
  | none =>
    have entry (kind : TokenKind) : kind.underUsage? fields = none := by
      rw [TokenKind.underUsage?_eq, hu]
      cases kind <;> rfl
    simp only [TokenKind.usageCounts, Fields.hasUsageEntry, entry]
    exact .nothing rfl rfl rfl
  | some usage =>
    have entry (kind : TokenKind) :
        kind.underUsage? fields = kind.usageKey?.bind (Fields.get? usage) := by
      rw [TokenKind.underUsage?_eq, hu]
      rfl
    simp only [TokenKind.usageCounts, Fields.hasUsageEntry, entry, Option.isSome_map]
    refine gains_addCounts tally (fun kind => ?_) _
    cases kind with
    | prompt | completion => exact toNat_sum_entry _
    | cacheRead | cacheWrite => rfl

theorem gains_addMetricsField (fields : Fields) :
    Gains tally (tally.addMetricsField fields) (fun kind => (kind.metricsCount? fields).toList)
      (fun _ => []) (Fields.hasMetricsCount fields) := by
  rw [addMetricsField, Fields.hasMetricsCount]
  simp only [TokenKind.metricsCount?_eq]
  cases (Fields.get? fields Metrics.key).bind Json.asObject? with
  | none => exact .nothing rfl rfl rfl
  | some metrics =>
    refine gains_addCounts tally (fun kind => ?_) _
    cases kind <;> exact toNat_getD _

theorem gains_keepReason (fields : Fields) :
    Gains tally (tally.keepReason fields) (fun _ => []) (fun _ => []) false := by
  unfold keepReason
  split <;> exact .nothing rfl rfl rfl

theorem gains_add (chunk : Chunk) :
    Gains tally (tally.add chunk) (fun kind => (metadataOf [chunk]).flatMap kind.stated)
      (fun kind => (usagesOf [chunk]).map (·.count kind)) ((metadataOf [chunk]).any Fields.isCounted) := by
  cases chunk with
  | metadata fields =>
    exact ((gains_addUsageField tally fields).trans (gains_addMetricsField _ fields)).trans
      (gains_keepReason _ fields)
  | usage usage =>
    exact {
      metadata _ := (capped_toNat _).symm
      chunks kind := by rw [add, Usage.count_add, toNat_capAdd_eq]; rfl
      flag := (Bool.or_false _).symm }
  | text | content | toolCall => exact .nothing rfl rfl rfl

/-- A tally gains what is counted in all the chunks that it takes in. -/
theorem gains_foldl (chunks : List Chunk) : ∀ tally : Tally,
    Gains tally (chunks.foldl add tally) (fun kind => (metadataOf chunks).flatMap kind.stated)
      (fun kind => (usagesOf chunks).map (·.count kind)) ((metadataOf chunks).any Fields.isCounted) := by
  induction chunks with
  | nil => intro tally; exact .nothing rfl rfl rfl
  | cons chunk rest ih =>
    intro tally
    -- caps of single steps vanish in `trans`, so the lists of counts just join
    have h := (tally.gains_add chunk).trans (ih (tally.add chunk))
    rw [List.foldl_cons]
    simpa only [← List.flatMap_append, ← List.map_append, ← List.any_append, ← metadataOf_cons,
      ← usagesOf_cons] using h

/-! ## Results -/

/-- The sum that is answered. -/
theorem count_combined (key : String) (chunks : List Chunk) (kind : TokenKind) :
    ((ofChunks key chunks).combined.usage.count kind).toNat
      = capped (exactSum
          (if (metadataOf chunks).any Fields.isCounted then (metadataOf chunks).flatMap kind.stated
           else (usagesOf chunks).map (·.count kind))) := by
  have h := gains_foldl chunks (start key)
  -- the total is put over the answered usage and touches none of the four counts
  have zero : (Usage.zero.count kind).toNat = 0 := by cases kind <;> rfl
  have hf : (ofChunks key chunks).metadataCounted = (metadataOf chunks).any Fields.isCounted := h.flag
  have hk (usage : Usage) (total : UInt64) : ({ usage with total := total }).count kind = usage.count kind := by
    cases kind <;> rfl
  rw [combined]
  simp only [hk, hf]
  split
  · have hm := h.metadata kind
    rwa [start, zero, Nat.zero_add] at hm
  · have hc := h.chunks kind
    rwa [start, zero, Nat.zero_add] at hc

/-- The counts do not depend on the order of the chunks. -/
theorem usage_perm (key : String) {chunks others : List Chunk} (h : others.Perm chunks) :
    (ofChunks key others).combined.usage = (ofChunks key chunks).combined.usage := by
  have hm : (metadataOf others).Perm (metadataOf chunks) := h.filterMap _
  have hu : (usagesOf others).Perm (usagesOf chunks) := h.filterMap _
  have count (kind : TokenKind) : (ofChunks key others).combined.usage.count kind
      = (ofChunks key chunks).combined.usage.count kind := by
    apply UInt64.toNat_inj.mp
    rw [count_combined, count_combined, List.Perm.any_eq hm]
    split
    · rw [exactSum_perm (hm.flatMap_right _)]
    · rw [exactSum_perm (hu.map _)]
  exact Usage.ext_of_count count (congrArg₂ capAdd (count .prompt) (count .completion))

theorem reasonText?_eq (value : Json) :
    reasonText? value = if value ≠ .null ∧ value ≠ .str "" then some value.asReason else none := by
  cases value with
  | str text =>
    by_cases h : text = ""
    · simp [reasonText?, h]
    · simp [reasonText?, h, Json.asReason]
  | _ => simp [reasonText?, Json.asReason]

theorem filterMap_reasonIn? (key : String) (chunks : List Chunk) :
    chunks.filterMap (reasonIn? key) = (reasonsOf key chunks).map Json.asReason := by
  rw [reasonsOf, metadataOf, List.filterMap_filterMap, ← List.filterMap_eq_filter, List.filterMap_filterMap,
    List.map_filterMap]
  refine List.filterMap_congr fun chunk _ => ?_
  cases chunk with
  | metadata fields =>
    simp only [reasonIn?, Option.bind_some]
    rw [Option.map_bind]
    refine congrArg _ (funext fun value => ?_)
    rw [reasonText?_eq, Function.comp_apply, Option.guard, apply_ite (Option.map Json.asReason)]
    simp only [decide_eq_true_eq, Option.map_some, Option.map_none]
  | _ => rfl

/-- What a tally answers.  Each count is the exact sum, as far as 64 bits hold it, of what all metadata
states if some metadata is taken to carry a count, and of the usage chunks otherwise; the total is that of
prompt and completion tokens.  The order of the chunks makes no difference to that.  The reason for stopping
is the last one that is given, whatever other chunks there are. -/
theorem counts_add_up (key : String) (chunks : List Chunk) :
    (∀ kind, ((ofChunks key chunks).combined.usage.count kind).toNat
      = min (2 ^ 64 - 1) (exactSum
          (if (metadataOf chunks).any Fields.isCounted then (metadataOf chunks).flatMap kind.stated
           else (usagesOf chunks).map (·.count kind)))) ∧
    (ofChunks key chunks).combined.usage.total.toNat
      = min (2 ^ 64 - 1) (((ofChunks key chunks).combined.usage.count .prompt).toNat
          + ((ofChunks key chunks).combined.usage.count .completion).toNat) ∧
    (∀ others : List Chunk, others.Perm chunks →
      (ofChunks key others).combined.usage = (ofChunks key chunks).combined.usage) ∧
    (ofChunks key chunks).combined.stopReason = ((reasonsOf key chunks).getLast?).map Json.asReason := by
  refine ⟨fun kind => ?_, ?_, fun others h => ?_, ?_⟩
  · rw [count_combined, capped, Nat.min_comm]
  · exact (toNat_capAdd_eq _ _).trans (Nat.min_comm ..)
  · exact usage_perm key h
  · rw [stopReason_ofChunks, filterMap_reasonIn?, List.getLast?_map]

/-- Counts in metadata beyond the largest one, an empty reason behind one that is given, and a usage chunk that
does not count. -/
theorem counts_add_up_saturated :
    let chunks : List Chunk :=
      [.metadata [("stop_reason", .str "length"),
          ("usage", .obj [("input_tokens", .arr [.int 18446744073709551615, .null, .int 5]),
            ("output_tokens", .int 1)])],
        .usage ⟨7, 7, 7, 7, 7⟩,
        .metadata [("amazon-bedrock-invocationMetrics",
            .obj [("cacheReadInputTokenCount", .int 4), ("outputTokenCount", .int 2)]),
          ("stop_reason", .str "")]]
    chunks.reverse.Perm chunks ∧
      (ofChunks "stop_reason" chunks).combined
        = ⟨⟨18446744073709551615, 3, 4, 0, 18446744073709551615⟩, some "length"⟩ ∧
      (ofChunks "stop_reason" chunks.reverse).combined.usage
        = ⟨18446744073709551615, 3, 4, 0, 18446744073709551615⟩ := by
  intro chunks
  have hp : chunks.reverse.Perm chunks := List.reverse_perm chunks
  have hc : (ofChunks "stop_reason" chunks).combined
      = ⟨⟨18446744073709551615, 3, 4, 0, 18446744073709551615⟩, some "length"⟩ := by decide
  obtain ⟨-, -, perm, -⟩ := counts_add_up "stop_reason" chunks
  exact ⟨hp, hc, (perm chunks.reverse hp).trans (congrArg Combined.usage hc)⟩

/-! ## Usage chunks beside metadata without counts -/

/-- Where no metadata states a count of prompt or completion tokens, the sums over the usage chunks are
answered, provided that no metadata has an entry for such tokens under `usage`.  With an entry, be it null or
an empty array, the usage chunks are passed over, and no prompt or completion tokens are answered. -/
theorem usage_chunks_reported (key : String) {chunks : List Chunk}
    (h : ∀ fields ∈ metadataOf chunks,
      TokenKind.prompt.stated fields = [] ∧ TokenKind.completion.stated fields = []) :
    ((∀ fields ∈ metadataOf chunks, Fields.hasUsageEntry fields = false) →
      ∀ kind, ((ofChunks key chunks).combined.usage.count kind).toNat
        = min (2 ^ 64 - 1) (exactSum ((usagesOf chunks).map (·.count kind)))) ∧
    ((∃ fields ∈ metadataOf chunks, Fields.hasUsageEntry fields = true) →
      (∀ kind, ((ofChunks key chunks).combined.usage.count kind).toNat
        = min (2 ^ 64 - 1) (exactSum ((metadataOf chunks).flatMap kind.stated))) ∧
      (ofChunks key chunks).combined.usage.count .prompt = 0 ∧
      (ofChunks key chunks).combined.usage.count .completion = 0) := by
  have counted : (metadataOf chunks).any Fields.isCounted = (metadataOf chunks).any Fields.hasUsageEntry := by
    rw [Bool.eq_iff_iff, List.any_eq_true, List.any_eq_true]
    refine exists_congr fun fields => and_congr_right fun hf => ?_
    rw [Fields.isCounted_of_stated (h fields hf).1 (h fields hf).2]
  have answered (kind : TokenKind) := count_combined key chunks kind
  simp only [counted, capped, Nat.min_comm _ (2 ^ 64 - 1)] at answered
  constructor
  · intro hn kind
    rw [answered, if_neg (by simpa using hn)]
  · intro he
    simp only [if_pos (List.any_eq_true.mpr he)] at answered
    refine ⟨answered, ?_, ?_⟩ <;> apply UInt64.toNat_inj.mp
    · rw [answered, List.flatMap_eq_nil_iff.mpr fun fields hf => (h fields hf).1]
      rfl
    · rw [answered, List.flatMap_eq_nil_iff.mpr fun fields hf => (h fields hf).2]
      rfl

/-- Metadata that only gives a reason for stopping, and metadata with an empty array of counts. -/
theorem usage_chunks_reported_reason :
    let reason : List Chunk := [.metadata [("stop_reason", .str "end_turn")], .usage ⟨8, 2, 0, 0, 10⟩]
    let empty : List Chunk :=
      [.metadata [("usage", .obj [("output_tokens", .arr [])])], .usage ⟨8, 2, 0, 0, 10⟩]
    (∀ fields ∈ metadataOf reason, (TokenKind.prompt.stated fields = [] ∧
        TokenKind.completion.stated fields = []) ∧ Fields.hasUsageEntry fields = false) ∧
      ((ofChunks "stop_reason" reason).combined.usage.count .prompt).toNat = 8 ∧
      (∀ fields ∈ metadataOf empty, TokenKind.prompt.stated fields = [] ∧
        TokenKind.completion.stated fields = []) ∧
      (∃ fields ∈ metadataOf empty, Fields.hasUsageEntry fields = true) ∧
      (ofChunks "stop_reason" empty).combined.usage.count .prompt = 0 := by
  intro reason empty
  have hr : ∀ fields ∈ metadataOf reason, (TokenKind.prompt.stated fields = [] ∧
      TokenKind.completion.stated fields = []) ∧ Fields.hasUsageEntry fields = false := by
    decide
  have he : ∀ fields ∈ metadataOf empty, TokenKind.prompt.stated fields = [] ∧
      TokenKind.completion.stated fields = [] := by
    decide
  have hu : ∃ fields ∈ metadataOf empty, Fields.hasUsageEntry fields = true := by
    decide
  exact ⟨hr,
    (usage_chunks_reported "stop_reason" fun fields hf => (hr fields hf).1).1 (fun fields hf => (hr fields hf).2)
      .prompt,
    he, hu, ((usage_chunks_reported "stop_reason" he).2 hu).2.1⟩

/-- An entry that is null: metadata states no count, and the tokens of the usage chunk are not answered. -/
theorem null_entry_hides_usage_chunks :
    let chunks : List Chunk :=
      [.metadata [("usage", .obj [("input_tokens", .null)])], .usage ⟨8, 2, 0, 0, 10⟩]
    (∀ fields ∈ metadataOf chunks, TokenKind.prompt.stated fields = [] ∧
        TokenKind.completion.stated fields = []) ∧
      exactSum ((usagesOf chunks).map (·.count .prompt)) = 8 ∧
      (ofChunks "stop_reason" chunks).combined.usage.count .prompt = 0 := by
  decide

end Tally

end Colloquy
