import Colloquy.Proofs.Usage.Counting
/-!
# Two readers of the invocation metrics

The usage chunk at the end of a stream reads the invocation metrics as one record: a field that is not of
its form makes all counts zero, and an array stands for the fields in order.  A tally reads them out of the
metadata one by one, and from an object only.  On metrics that are an object of the form of the record, and
count prompt or completion tokens, both come to the same.

Results:
* `Metrics.count_ofEvent`, `Metrics.count_ofEvent_eq_zero`: what the usage chunk states.
* `Tally.count_metadata`: what a tally answers behind a single map of metadata.
* `Metrics.readers_agree`: where the two agree, and what each of them makes of other metrics.
-/
namespace Colloquy

/-- The place of a count among the fields of the invocation metrics. -/
def TokenKind.position : TokenKind → Nat
  | prompt => 0
  | completion => 1
  | cacheRead => 2
  | cacheWrite => 3

namespace Metrics

/-- A count in metrics that are written as a record. -/
def countIn? (kind : TokenKind) (record : Record) : Option UInt64 :=
  (record.field? kind.position kind.metricsKey).bind Json.asCount?

/-- Whether a value is a record of metrics: what is written for a count is a count, and what is written for
a latency is null or a number of milliseconds. -/
structure WrittenAs (value : Json) (record : Record) : Prop where
  form : Record.ofJson? 6 value = some record
  counts : ∀ kind : TokenKind, ∀ written, record.field? kind.position kind.metricsKey = some written →
    written.asCount?.isSome
  latency : ∀ written, record.field? 4 "invocationLatency" = some written →
    written = .null ∨ written.asCount?.isSome
  firstByteLatency : ∀ written, record.field? 5 "firstByteLatency" = some written →
    written = .null ∨ written.asCount?.isSome

end Metrics

namespace Record

variable {record : Record} {position : Nat} {key : String}

/-- A count that is absent or a count is read; absent it is zero. -/
theorem defaulted_count (h : ∀ written, record.field? position key = some written → written.asCount?.isSome) :
    record.defaulted position key 0 Json.asCount?
      = some (((record.field? position key).bind Json.asCount?).getD 0) := by
  rw [defaulted]
  cases hw : record.field? position key with
  | none => rfl
  | some written =>
    obtain ⟨count, hc⟩ := Option.isSome_iff_exists.mp (h written hw)
    simp only [Option.bind_some, hc, Option.getD_some]

theorem asCount?_of_defaulted {count : UInt64}
    (h : record.defaulted position key 0 Json.asCount? = some count) :
    ∀ written, record.field? position key = some written → written.asCount?.isSome := by
  intro written hw
  rw [defaulted, hw] at h
  exact Option.isSome_of_eq_some h

theorem optional_isSome_iff (read : Json → Option α) :
    (record.optional position key read).isSome ↔
      ∀ written, record.field? position key = some written → written = .null ∨ (read written).isSome := by
  rw [optional]
  cases record.field? position key with
  | none => simp
  | some written => cases written <;> simp

end Record

namespace Metrics

/-- A record of metrics is read with the counts that it states. -/
theorem ofJson?_of_writtenAs {value : Json} {record : Record} (h : WrittenAs value record) :
    ∃ metrics, ofJson? value = some metrics ∧
      ∀ kind, metrics.usage.count kind = (countIn? kind record).getD 0 := by
  obtain ⟨latency, hl⟩ := Option.isSome_iff_exists.mp
    ((Record.optional_isSome_iff Json.asCount?).mpr h.latency)
  obtain ⟨firstByteLatency, hf⟩ := Option.isSome_iff_exists.mp
    ((Record.optional_isSome_iff Json.asCount?).mpr h.firstByteLatency)
  have count (kind : TokenKind) := Record.defaulted_count (h.counts kind)
  refine ⟨⟨(countIn? .prompt record).getD 0, (countIn? .completion record).getD 0,
    (countIn? .cacheRead record).getD 0, (countIn? .cacheWrite record).getD 0, latency, firstByteLatency⟩,
    ?_, fun kind => by cases kind <;> rfl⟩
  simp only [ofJson?, Option.bind_eq_bind, Option.bind_eq_some_iff]
  exact ⟨record, h.form, _, count .prompt, _, count .completion, _, count .cacheRead, _, count .cacheWrite,
    _, hl, _, hf, rfl⟩

theorem exists_writtenAs {value : Json} {metrics : Metrics} (h : ofJson? value = some metrics) :
    ∃ record, WrittenAs value record := by
  simp only [ofJson?, Option.bind_eq_bind, Option.bind_eq_some_iff] at h
  obtain ⟨record, hr, _, hp, _, hc, _, hcr, _, hcw, _, hl, _, hf, -⟩ := h
  refine ⟨record, hr, fun kind => ?_, ?_, ?_⟩
  · cases kind with
    | prompt => exact Record.asCount?_of_defaulted hp
    | completion => exact Record.asCount?_of_defaulted hc
    | cacheRead => exact Record.asCount?_of_defaulted hcr
    | cacheWrite => exact Record.asCount?_of_defaulted hcw
  · exact (Record.optional_isSome_iff _).mp (Option.isSome_of_eq_some hl)
  · exact (Record.optional_isSome_iff _).mp (Option.isSome_of_eq_some hf)

section

variable {payload : Fields} {value : Json}

theorem count_ofEvent (hp : Fields.get? payload key = some value) {record : Record}
    (h : WrittenAs value record) (kind : TokenKind) :
    (ofEvent (.obj payload)).usage.count kind = (countIn? kind record).getD 0 := by
  obtain ⟨metrics, hm, hc⟩ := ofJson?_of_writtenAs h
  rw [ofEvent, Json.get?, hp, Option.bind_some, hm]
  exact hc kind

theorem count_ofEvent_eq_zero (hp : Fields.get? payload key = some value)
    (h : ∀ record, ¬ WrittenAs value record) (kind : TokenKind) :
    (ofEvent (.obj payload)).usage.count kind = 0 := by
  have hn : ofJson? value = none := by
    rw [Option.eq_none_iff_forall_ne_some]
    intro metrics hm
    obtain ⟨record, hr⟩ := exists_writtenAs hm
    exact h record hr
  rw [ofEvent, Json.get?, hp, Option.bind_some, hn]
  cases kind <;> rfl

end

end Metrics

/-- Behind a single map of metadata without entries under `usage`, the counts of the invocation metrics are
answered, if there is one of prompt or completion tokens among them. -/
theorem Tally.count_metadata (reasonKey : String) {fields : Fields}
    (h : Fields.hasUsageEntry fields = false) (kind : TokenKind) :
    (ofChunks reasonKey [.metadata fields]).combined.usage.count kind
      = if Fields.hasMetricsCount fields then (kind.metricsCount? fields).getD 0 else 0 := by
  have counted : (metadataOf [.metadata fields]).any Fields.isCounted = Fields.hasMetricsCount fields := by
    rw [← Bool.false_or (Fields.hasMetricsCount fields), ← h]
    exact Bool.or_false _
  have stated : (metadataOf [.metadata fields]).flatMap kind.stated = (kind.metricsCount? fields).toList := by
    have hs : kind.stated fields = (kind.metricsCount? fields).toList := by
      rw [TokenKind.stated, Fields.usageCounts_eq_nil h, List.nil_append]
    rw [← hs]
    exact List.append_nil _
  apply UInt64.toNat_inj.mp
  rw [count_combined, counted, stated]
  split
  · exact (toNat_getD _).symm
  · rfl

namespace Metrics

section

variable {fields : Fields} {value : Json}

theorem metricsCount?_of_obj {metrics : Fields} (h : Fields.get? fields key = some (.obj metrics))
    (kind : TokenKind) : kind.metricsCount? fields = countIn? kind (.named metrics) := by
  rw [TokenKind.metricsCount?, h]
  rfl

theorem metricsCount?_of_no_object (h : Fields.get? fields key = some value) (hn : value.asObject? = none)
    (kind : TokenKind) : kind.metricsCount? fields = none := by
  rw [TokenKind.metricsCount?_eq, h, Option.bind_some, hn]
  rfl

theorem hasMetricsCount_of_no_object (h : Fields.get? fields key = some value)
    (hn : value.asObject? = none) : Fields.hasMetricsCount fields = false := by
  rw [Fields.hasMetricsCount, metricsCount?_of_no_object h hn, metricsCount?_of_no_object h hn]
  rfl

end

/-- Metrics that an event and a single map of metadata carry alike.  If they are a record in the form of an
object and count prompt or completion tokens, or no tokens at all, the usage of the event and the answer of a
tally have the same counts, and also if they are neither object nor array.  Otherwise the event counts what
a record states, also in the form of an array, and nothing if they are no record, while the tally counts what
the members of an object state one by one, and nothing if they are no object. -/
theorem readers_agree {payload fields : Fields} {value : Json} (hp : Fields.get? payload key = some value)
    (hf : Fields.get? fields key = some value) (hu : Fields.hasUsageEntry fields = false)
    (reasonKey : String) :
    (value.asArray? = none → ((∃ record, WrittenAs value record) ∨ value.asObject? = none) →
      (Fields.hasMetricsCount fields = true ∨
        ∀ kind : TokenKind, (kind.metricsCount? fields).getD 0 = 0) →
      ∀ kind, (Tally.ofChunks reasonKey [.metadata fields]).combined.usage.count kind
        = (ofEvent (.obj payload)).usage.count kind) ∧
    (∀ record, WrittenAs value record → ∀ kind,
      (ofEvent (.obj payload)).usage.count kind = (countIn? kind record).getD 0) ∧
    ((∀ record, ¬ WrittenAs value record) → ∀ kind, (ofEvent (.obj payload)).usage.count kind = 0) ∧
    (Fields.hasMetricsCount fields = true → ∀ kind,
      (Tally.ofChunks reasonKey [.metadata fields]).combined.usage.count kind
        = (kind.metricsCount? fields).getD 0) ∧
    (value.asObject? = none → ∀ kind,
      (Tally.ofChunks reasonKey [.metadata fields]).combined.usage.count kind = 0) := by
  have tallied (kind : TokenKind) := Tally.count_metadata reasonKey hu kind
  have apart : value.asObject? = none → ∀ kind : TokenKind,
      (Tally.ofChunks reasonKey [.metadata fields]).combined.usage.count kind = 0 := by
    intro hn kind
    rw [tallied, hasMetricsCount_of_no_object hf hn]
    rfl
  refine ⟨fun ha hw hc kind => ?_, fun record h => count_ofEvent hp h, count_ofEvent_eq_zero hp,
    fun hc kind => by rw [tallied, if_pos hc], apart⟩
  cases value with
  | obj metrics =>
    obtain ⟨record, hr⟩ := hw.resolve_right nofun
    obtain rfl : Record.named metrics = record := Option.some.inj hr.form
    rw [tallied, count_ofEvent hp hr, ← metricsCount?_of_obj hf]
    split
    · rfl
    · rename_i hn
      exact (hc.resolve_left hn kind).symm
  | arr items => cases ha
  | _ =>
    rw [apart rfl, count_ofEvent_eq_zero hp]
    rintro record hr
    cases hr.form

/-- Metrics that are a record, metrics of which one count is a text, and metrics in the form of an array. -/
theorem readers_agree_record :
    let record : Fields := [("firstByteLatency", .null), ("inputTokenCount", .int 12),
      ("outputTokenCount", .int 30)]
    let malformed : Fields := [("inputTokenCount", .int 5), ("outputTokenCount", .str "x")]
    let event (value : Json) : Fields := [("amazon-bedrock-invocationMetrics", value), ("generation", .str "a")]
    WrittenAs (.obj record) (.named record) ∧
      (∀ kind, (Tally.ofChunks "stop_reason" [.metadata (event (.obj record))]).combined.usage.count kind
        = (ofEvent (.obj (event (.obj record)))).usage.count kind) ∧
      (ofEvent (.obj (event (.obj record)))).usage.count .completion = 30 ∧
      (∀ other, ¬ WrittenAs (.obj malformed) other) ∧
      (∀ kind, (ofEvent (.obj (event (.obj malformed)))).usage.count kind = 0) ∧
      (Tally.ofChunks "stop_reason" [.metadata (event (.obj malformed))]).combined.usage.count .prompt = 5 ∧
      ∀ kind, (Tally.ofChunks "stop_reason"
        [.metadata (event (.arr [.int 5]))]).combined.usage.count kind = 0 := by
  intro record malformed event
  have hr : WrittenAs (.obj record) (.named record) := by
    refine ⟨rfl, fun kind written h => ?_, fun written h => ?_, fun written h => ?_⟩
    · cases kind <;> cases h <;> rfl
    · cases h
    · cases h
      exact .inl rfl
  have hm (other : Record) : ¬ WrittenAs (.obj malformed) other := by
    intro h
    cases h.form
    cases h.counts .completion (.str "x") rfl
  obtain ⟨agree, stated, -⟩ :=
    @readers_agree (event (.obj record)) (event (.obj record)) (.obj record) rfl rfl rfl "stop_reason"
  obtain ⟨-, -, none, counted, -⟩ := @readers_agree (event (.obj malformed)) (event (.obj malformed))
    (.obj malformed) rfl rfl rfl "stop_reason"
  obtain ⟨-, -, -, -, apart⟩ := @readers_agree (event (.arr [.int 5])) (event (.arr [.int 5]))
    (.arr [.int 5]) rfl rfl rfl "stop_reason"
  exact ⟨hr, agree rfl (.inl ⟨_, hr⟩) (.inl rfl), stated _ hr .completion, hm, none hm, counted rfl .prompt,
    apart rfl⟩

/-- Metrics of which one count is a text: the usage of the event has no tokens, and a tally counts the other
one. -/
theorem malformed_metrics_read_apart :
    let event : Fields := [("amazon-bedrock-invocationMetrics",
      .obj [("inputTokenCount", .int 5), ("outputTokenCount", .str "x")])]
    (ofEvent (.obj event)).usage.count .prompt = 0 ∧
      (Tally.ofChunks "stop_reason" [.metadata event]).combined.usage.count .prompt = 5 := by
  decide

end Metrics

end Colloquy
