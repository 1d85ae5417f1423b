import Colloquy.Stream.Items
/-!
# The run of a stream

A stream is read call by call.  `StreamDecoder.sighting` is what a caller sees of one call: its outcome,
how often the transport had been asked for an event by then, and the state.  Beside it stands what the
events themselves say: `EventDecoder.portion` is the part of a source that is read, up to the first item
behind which nothing may be read, and `EventDecoder.sightings` are the items of that part in order, each at
the position of the source item that it comes from.

Results:
* `StreamDecoder.sighting_opened`: call by call, a stream shows the sightings of its source and then its
  end, for ever.
* `StreamDecoder.reads_after`: events are taken in order, one for each time the transport is asked.
* `StreamDecoder.items_opened`: the list of all items is that of the items of the part that is read.
* `StreamDecoder.run_follows_source`: all of this for a stream of a provider, and that empty events
  change nothing of it.
-/
namespace Colloquy

/-- What a caller sees of one call for the next item. -/
structure Sighting where
  outcome : Option Item
  /-- How often the transport has been asked for an event by then. -/
  asked : Nat
  state : DecoderState

namespace Sighting

/-- A sighting without the part that the transport plays in it. -/
def visible (sighting : Sighting) : Option Item × DecoderState := (sighting.outcome, sighting.state)

end Sighting

namespace SourceItem

/-- Whether an item is anything but an event that carries nothing. -/
def isSubstantial : SourceItem → Bool
  | empty => false
  | event _ | failure _ | breakdown => true

/-- How many events were taken from the transport for some items. -/
def takenFor : List SourceItem → Nat
  | [] => 0
  | item :: rest => item.taken + takenFor rest

theorem takenFor_concat (items : List SourceItem) (item : SourceItem) :
    takenFor (items ++ [item]) = takenFor items + item.taken := by
  induction items with
  | nil => simp only [List.nil_append, takenFor]; omega
  | cons first rest ih => simp only [List.cons_append, takenFor, ih]; omega

end SourceItem

namespace EventDecoder

/-- The items of the stream that an item of the source becomes. -/
def itemsOf (decoder : EventDecoder) : SourceItem → List Item
  | .event payload =>
    match decoder.decode payload with
    | .ok decoded => decoded.chunks.map .ok
    | .error failure => [.error failure]
  | .empty => []
  | .failure failure => [.error (.transport failure)]
  | .breakdown => [.error (.transport ⟨.background, none⟩)]

/-- Whether nothing may be read behind an item of the source: it is a terminal event, an event that
cannot be decoded, or a failure. -/
def isLast (decoder : EventDecoder) : SourceItem → Bool
  | .event payload =>
    match decoder.decode payload with
    | .ok decoded => decoded.terminal
    | .error _ => true
  | .empty => false
  | .failure _ | .breakdown => true

/-- The part of a source that is read: its shortest prefix with a last item at its end, or all of it. -/
def portion (decoder : EventDecoder) (source : List SourceItem) : List SourceItem :=
  source.take (source.findIdx decoder.isLast + 1)

/-- What is seen of the source item at a position, counted from one. -/
def sightingsAt (decoder : EventDecoder) (item : SourceItem) (position : Nat) : List Sighting :=
  (decoder.itemsOf item).map fun i =>
    ⟨some i, position, if decoder.isLast item then .terminated else .streaming⟩

/-- What is seen of a source whose first item is the one after `start` others. -/
def sightingsFrom (decoder : EventDecoder) (start : Nat) (source : List SourceItem) : List Sighting :=
  ((decoder.portion source).zipIdx (start + 1)).flatMap fun (item, position) =>
    decoder.sightingsAt item position

def sightings (decoder : EventDecoder) (source : List SourceItem) : List Sighting :=
  decoder.sightingsFrom 0 source

/-- How often a source is asked altogether: once for each item that is read, and once for the end unless
a last item was found. -/
def asks (decoder : EventDecoder) (source : List SourceItem) : Nat :=
  (decoder.portion source).length + if source.any decoder.isLast then 0 else 1

/-- What every call shows once all items have been handed out. -/
def ended (decoder : EventDecoder) (source : List SourceItem) : Sighting :=
  ⟨none, decoder.asks source, .terminated⟩

/-! ## The part of a source that is read -/

theorem portion_nil (decoder : EventDecoder) : decoder.portion [] = [] := rfl

theorem portion_cons (decoder : EventDecoder) (item : SourceItem) (rest : List SourceItem) :
    decoder.portion (item :: rest)
      = item :: if decoder.isLast item then [] else decoder.portion rest := by
  cases h : decoder.isLast item <;> simp [portion, List.findIdx_cons, h]

theorem asks_cons (decoder : EventDecoder) (item : SourceItem) (rest : List SourceItem) :
    decoder.asks (item :: rest) = 1 + if decoder.isLast item then 0 else decoder.asks rest := by
  cases h : decoder.isLast item
  · simp [asks, portion_cons, h]; omega
  · simp [asks, portion_cons, h]

theorem sightingsFrom_cons (decoder : EventDecoder) (start : Nat) (item : SourceItem)
    (rest : List SourceItem) :
    decoder.sightingsFrom start (item :: rest) = decoder.sightingsAt item (start + 1)
      ++ if decoder.isLast item then [] else decoder.sightingsFrom (start + 1) rest := by
  cases h : decoder.isLast item <;>
    simp [sightingsFrom, portion_cons, h, List.zipIdx_cons]

end EventDecoder

namespace Machine

/-- What taking in an item of the source can do to a machine with an empty queue: nothing, end with a
failure, or queue the chunks of an event. -/
theorem feed_cases (decoder : EventDecoder) (state : DecoderState) (item : SourceItem) :
    item = .empty ∨
    (∃ failure, decoder.itemsOf item = [.error failure] ∧ decoder.isLast item = true ∧
      (Machine.mk decoder [] state).feed (some item) = (⟨decoder, [], .terminated⟩, some failure)) ∨
    (∃ chunks, decoder.itemsOf item = chunks.map .ok ∧
      (Machine.mk decoder [] state).feed (some item)
        = (⟨decoder, chunks, if decoder.isLast item then .terminated else .streaming⟩, none)) := by
  cases item with
  | empty => exact .inl rfl
  | failure failure => exact .inr (.inl ⟨_, rfl, rfl, rfl⟩)
  | breakdown => exact .inr (.inl ⟨_, rfl, rfl, rfl⟩)
  | event payload =>
    right
    cases hd : decoder.decode payload with
    | error failure =>
      left
      exact ⟨failure, by simp [EventDecoder.itemsOf, hd], by simp [EventDecoder.isLast, hd],
        by simp [feed, feedPayload, hd, terminate]⟩
    | ok decoded =>
      right
      exact ⟨decoded.chunks, by simp [EventDecoder.itemsOf, hd],
        by simp [feed, feedPayload, hd, EventDecoder.isLast]⟩

end Machine

namespace StreamDecoder

/-- The stream behind `n` calls for the next item. -/
def after (stream : StreamDecoder) : Nat → StreamDecoder
  | 0 => stream
  | n + 1 => stream.next.2.after n

theorem after_succ (n : Nat) :
    ∀ stream : StreamDecoder, stream.after (n + 1) = (stream.after n).next.2 := by
  induction n with
  | zero => intro stream; rfl
  | succ n ih => intro stream; exact ih stream.next.2

/-- What the call behind `n` others shows. -/
def sighting (stream : StreamDecoder) (n : Nat) : Sighting :=
  ⟨(stream.after n).next.1, (stream.after n).next.2.asked, (stream.after n).next.2.state⟩

def opened (decoder : EventDecoder) (source : List SourceItem) : StreamDecoder :=
  ⟨.start decoder, source, 0, 0⟩

theorem start_eq {provider : Provider} {options : DecodeOptions} {decoder : EventDecoder}
    (h : EventDecoder.ofOptions provider options = .ok decoder) (source : List SourceItem) :
    start provider options source = .ok (opened decoder source) := by
  simp [start, h, Except.map, opened]

theorem exists_of_start {provider : Provider} {options : DecodeOptions} {source : List SourceItem}
    {stream : StreamDecoder} (h : start provider options source = .ok stream) :
    ∃ decoder, EventDecoder.ofOptions provider options = .ok decoder ∧
      stream = opened decoder source := by
  cases hd : EventDecoder.ofOptions provider options with
  | error failure => simp [start, hd, Except.map] at h
  | ok decoder =>
    rw [start_eq hd] at h
    cases h
    exact ⟨decoder, rfl, rfl⟩

/-! ## One call -/

theorem next_queued (decoder : EventDecoder) (chunk : Chunk) (queue : List Chunk)
    (state : DecoderState) (source : List SourceItem) (read asked : Nat) :
    next ⟨⟨decoder, chunk :: queue, state⟩, source, read, asked⟩
      = (some (.ok chunk), ⟨⟨decoder, queue, state⟩, source, read, asked⟩) := by
  cases source <;> rfl

theorem next_terminated (decoder : EventDecoder) (source : List SourceItem) (read asked : Nat) :
    next ⟨⟨decoder, [], .terminated⟩, source, read, asked⟩
      = (none, ⟨⟨decoder, [], .terminated⟩, source, read, asked⟩) := by
  cases source <;> rfl

theorem next_drained (decoder : EventDecoder) {state : DecoderState} (hs : state ≠ .terminated)
    (read asked : Nat) :
    next ⟨⟨decoder, [], state⟩, [], read, asked⟩
      = (none, ⟨⟨decoder, [], .terminated⟩, [], read, asked + 1⟩) := by
  simp [next, nextFrom, Machine.pull, Machine.feed, hs]

theorem next_fed (decoder : EventDecoder) {state : DecoderState} (hs : state ≠ .terminated)
    (item : SourceItem) (rest : List SourceItem) (read asked : Nat) :
    next ⟨⟨decoder, [], state⟩, item :: rest, read, asked⟩ =
      match (Machine.mk decoder [] state).feed (some item) with
      | (machine, some failure) =>
        (some (.error failure), ⟨machine, rest, read + item.taken, asked + 1⟩)
      | (machine, none) => next ⟨machine, rest, read + item.taken, asked + 1⟩ := by
  have hp : (Machine.mk decoder [] state).pull = .needsEvent := if_neg hs
  rw [next, nextFrom, hp]
  rfl

/-! ## From one call to the next -/

theorem sighting_congr {stream other : StreamDecoder} (h : stream.next = other.next) (n : Nat) :
    stream.sighting n = other.sighting n := by
  cases n with
  | zero => simp only [sighting, after, h]
  | succ n => simp only [sighting, after, h]

theorem sighting_cons {stream : StreamDecoder} {first last : Sighting} {rest : List Sighting}
    (h : stream.sighting 0 = first)
    (hr : ∀ n, stream.next.2.sighting n = (rest[n]?).getD last) (n : Nat) :
    stream.sighting n = ((first :: rest)[n]?).getD last := by
  cases n with
  | zero => simpa using h
  | succ n => simpa [sighting, after] using hr n

theorem sighting_terminated (decoder : EventDecoder) (source : List SourceItem) (read asked : Nat) :
    ∀ n, sighting ⟨⟨decoder, [], .terminated⟩, source, read, asked⟩ n = ⟨none, asked, .terminated⟩
  | 0 => by simp only [sighting, after, next_terminated]; rfl
  | n + 1 => by
    have := sighting_terminated decoder source read asked n
    simpa only [sighting, after, next_terminated] using this

/-- The chunks in the queue come first, and nothing is asked for them. -/
theorem sighting_queued {decoder : EventDecoder} {state : DecoderState} {source : List SourceItem}
    {read asked : Nat} {rest : List Sighting} {last : Sighting}
    (h : ∀ n, sighting ⟨⟨decoder, [], state⟩, source, read, asked⟩ n = (rest[n]?).getD last) :
    ∀ (queue : List Chunk) (n : Nat), sighting ⟨⟨decoder, queue, state⟩, source, read, asked⟩ n
      = ((queue.map (fun chunk => Sighting.mk (some (.ok chunk)) asked state) ++ rest)[n]?).getD last := by
  intro queue
  induction queue with
  | nil => exact h
  | cons chunk queue ih =>
    intro n
    refine sighting_cons ?_ (fun k => ?_) n
    · simp only [sighting, after, next_queued]; rfl
    · rw [next_queued]; exact ih k

/-- A stream with an empty queue that has not ended shows what its source says, and then its end. -/
theorem sighting_open (decoder : EventDecoder) (source : List SourceItem) :
    ∀ (state : DecoderState) (read asked n : Nat), state ≠ .terminated →
      sighting ⟨⟨decoder, [], state⟩, source, read, asked⟩ n
        = ((decoder.sightingsFrom asked source)[n]?).getD
            ⟨none, asked + decoder.asks source, .terminated⟩ := by
  induction source with
  | nil =>
    intro state read asked n hs
    have hn := next_drained decoder hs read asked
    show _ = Sighting.mk none (asked + 1) .terminated
    cases n with
    | zero => simp only [sighting, after, hn]; rfl
    | succ n =>
      have := sighting_terminated decoder [] read (asked + 1) n
      simpa only [sighting, after, hn] using this
  | cons item rest ih =>
    intro state read asked n hs
    rw [EventDecoder.sightingsFrom_cons, EventDecoder.asks_cons]
    have hn := next_fed decoder hs item rest read asked
    rcases Machine.feed_cases decoder state item with
      rfl | ⟨failure, hi, hl, hf⟩ | ⟨chunks, hi, hf⟩
    · rw [sighting_congr hn n]
      simpa [EventDecoder.sightingsAt, EventDecoder.itemsOf, EventDecoder.isLast, Nat.add_assoc]
        using ih state (read + SourceItem.empty.taken) (asked + 1) n hs
    · rw [hf] at hn
      simp only [EventDecoder.sightingsAt, hi, hl, if_true, List.map_cons, List.map_nil,
        List.append_nil]
      refine sighting_cons ?_ (fun k => ?_) n
      · simp only [sighting, after, hn]; rfl
      · rw [hn]; exact sighting_terminated decoder rest _ _ k
    · rw [hf] at hn
      rw [sighting_congr hn n]
      simp only [EventDecoder.sightingsAt, hi, List.map_map, Function.comp_def]
      refine sighting_queued (fun k => ?_) chunks n
      cases hl : decoder.isLast item
      · simpa [Nat.add_assoc] using ih .streaming (read + item.taken) (asked + 1) k (by decide)
      · simpa using sighting_terminated decoder rest (read + item.taken) (asked + 1) k

/-- A stream that has just been opened shows what its source says, and then its end. -/
theorem sighting_opened (decoder : EventDecoder) (source : List SourceItem) (n : Nat) :
    (opened decoder source).sighting n
      = ((decoder.sightings source)[n]?).getD (decoder.ended source) := by
  simpa [EventDecoder.sightings, EventDecoder.ended, opened, Machine.start] using
    sighting_open decoder source .idle 0 0 n (by decide)

/-! ## What has been read -/

/-- The events still to come are those behind the ones asked for, and all of the others that were taken
from the transport are counted. -/
def Reads (source : List SourceItem) (stream : StreamDecoder) : Prop :=
  stream.events = source.drop stream.asked ∧
    stream.eventsRead = SourceItem.takenFor (source.take stream.asked)

theorem reads_nextFrom (source : List SourceItem) :
    ∀ (events : List SourceItem) (machine : Machine) (read asked : Nat),
      Reads source ⟨machine, events, read, asked⟩ →
      Reads source (nextFrom machine read asked events).2 := by
  intro events
  induction events with
  | nil =>
    intro machine read asked ⟨he, hr⟩
    have hlen : source.length ≤ asked := List.drop_eq_nil_iff.mp he.symm
    unfold nextFrom
    cases machine.pull with
    | yields chunk next => exact ⟨he, hr⟩
    | done => exact ⟨he, hr⟩
    | needsEvent =>
      show Reads source ⟨_, [], read, asked + 1⟩
      refine ⟨(List.drop_eq_nil_iff.mpr (by simp only; omega)).symm, ?_⟩
      simp only at hr ⊢
      rw [hr, List.take_of_length_le hlen, List.take_of_length_le (by omega)]
  | cons item rest ih =>
    intro machine read asked ⟨he, hr⟩
    have hi : source[asked]? = some item := by
      rw [← Nat.add_zero asked, ← List.getElem?_drop, ← he]; rfl
    have taken : ∀ next : Machine, Reads source ⟨next, rest, read + item.taken, asked + 1⟩ := by
      intro next
      refine ⟨?_, ?_⟩
      · rw [← List.drop_drop, ← he]; rfl
      · simp only at hr
        rw [List.take_add_one, hi, hr]
        exact (SourceItem.takenFor_concat _ item).symm
    unfold nextFrom
    cases machine.pull with
    | yields chunk next => exact ⟨he, hr⟩
    | done => exact ⟨he, hr⟩
    | needsEvent =>
      cases hf : machine.feed (some item) with
      | mk next failure =>
        cases failure with
        | none => exact ih next _ _ (taken next)
        | some failure => exact taken next

theorem reads_after {source : List SourceItem} :
    ∀ (n : Nat) (stream : StreamDecoder), Reads source stream → Reads source (stream.after n)
  | 0, _, h => h
  | n + 1, stream, h =>
    reads_after n stream.next.2 (reads_nextFrom source stream.events stream.machine _ _ h)

theorem reads_opened (decoder : EventDecoder) (source : List SourceItem) (n : Nat) :
    Reads source ((opened decoder source).after n) :=
  reads_after n _ ⟨rfl, rfl⟩

/-! ## All items -/

theorem machine_items (decoder : EventDecoder) (source : List SourceItem) :
    ∀ (queue : List Chunk) (state : DecoderState), (Machine.mk decoder queue state).items source
      = queue.map .ok ++ if state = .terminated then []
          else (decoder.portion source).flatMap decoder.itemsOf := by
  induction source with
  | nil => intro queue state; simp [Machine.items, EventDecoder.portion_nil]
  | cons item rest ih =>
    intro queue state
    by_cases hs : state = .terminated
    · simp [Machine.items, hs]
    · rw [EventDecoder.portion_cons]
      simp only [Machine.items, hs, if_false]
      rcases Machine.feed_cases decoder state item with
        rfl | ⟨failure, hi, hl, hf⟩ | ⟨chunks, hi, hf⟩
      · simp [Machine.feed, ih, hs, EventDecoder.itemsOf, EventDecoder.isLast]
      · simp [hf, hi, hl, ih]
      · cases hl : decoder.isLast item <;> simp [hf, hi, hl, ih]

theorem items_opened (decoder : EventDecoder) (source : List SourceItem) :
    (opened decoder source).items = (decoder.portion source).flatMap decoder.itemsOf := by
  simp [items, opened, Machine.start, machine_items]

end StreamDecoder

namespace EventDecoder

theorem outcomes_sightingsFrom (decoder : EventDecoder) (source : List SourceItem) (start : Nat) :
    (decoder.sightingsFrom start source).map Sighting.outcome
      = ((decoder.portion source).flatMap decoder.itemsOf).map some := by
  induction source generalizing start with
  | nil => rfl
  | cons item rest ih =>
    have hi : (decoder.sightingsAt item (start + 1)).map Sighting.outcome
        = (decoder.itemsOf item).map some := by simp [sightingsAt, Function.comp_def]
    rw [sightingsFrom_cons, portion_cons]
    cases decoder.isLast item <;> simp [hi, ih, List.map_flatMap]

/-- Empty events are asked for, but they show nothing and change no state. -/
theorem visible_sightingsFrom (decoder : EventDecoder) (source : List SourceItem) (start other : Nat) :
    (decoder.sightingsFrom start source).map Sighting.visible
      = (decoder.sightingsFrom other (source.filter SourceItem.isSubstantial)).map
          Sighting.visible := by
  induction source generalizing start other with
  | nil => rfl
  | cons item rest ih =>
    have hi : (decoder.sightingsAt item (start + 1)).map Sighting.visible
        = (decoder.sightingsAt item (other + 1)).map Sighting.visible := by
      simp [sightingsAt, Function.comp_def, Sighting.visible]
    cases hs : item.isSubstantial
    · cases item with
      | empty => simp [sightingsFrom_cons, sightingsAt, itemsOf, isLast, hs, ih (start + 1) other]
      | event payload => cases hs
      | failure failure => cases hs
      | breakdown => cases hs
    · rw [List.filter_cons_of_pos hs, sightingsFrom_cons, sightingsFrom_cons, List.map_append,
        List.map_append, hi]
      cases decoder.isLast item
      · simp [ih (start + 1) (other + 1)]
      · rfl

end EventDecoder

namespace StreamDecoder

theorem outcome_opened (decoder : EventDecoder) (source : List SourceItem) (n : Nat) :
    ((opened decoder source).sighting n).outcome = (opened decoder source).items[n]? := by
  have h : ((opened decoder source).sighting n).outcome
      = (((decoder.sightings source).map Sighting.outcome)[n]?).getD none := by
    rw [sighting_opened, List.getElem?_map]
    cases (decoder.sightings source)[n]? <;> rfl
  rw [h, EventDecoder.sightings, EventDecoder.outcomes_sightingsFrom, items_opened,
    List.getElem?_map]
  cases ((decoder.portion source).flatMap decoder.itemsOf)[n]? <;> rfl

theorem visible_opened (decoder : EventDecoder) (source : List SourceItem) (n : Nat) :
    ((opened decoder source).sighting n).visible
      = (((decoder.sightings source).map Sighting.visible)[n]?).getD (none, .terminated) := by
  rw [sighting_opened, List.getElem?_map]
  cases (decoder.sightings source)[n]? <;> rfl

/-- The run of a stream of a provider.  Call by call it shows the items of the part of the source that
is read, each before anything behind its source item has been asked for, and then its end, for ever and
without asking again.  Empty events change neither an outcome nor a state. -/
theorem run_follows_source {provider : Provider} {options : DecodeOptions} {decoder : EventDecoder}
    (h : EventDecoder.ofOptions provider options = .ok decoder) (source : List SourceItem) :
    ∃ stream, start provider options source = .ok stream ∧ stream.state = .idle ∧ stream.asked = 0 ∧
      (∀ n, stream.sighting n = ((decoder.sightings source)[n]?).getD (decoder.ended source)) ∧
      (∀ n, (stream.sighting n).outcome
        = ((decoder.portion source).flatMap decoder.itemsOf)[n]?) ∧
      (∀ n, Reads source (stream.after n)) ∧
      (∃ plain, start provider options (source.filter SourceItem.isSubstantial) = .ok plain ∧
        ∀ n, (stream.sighting n).visible = (plain.sighting n).visible) ∧
      (∀ machine : Machine, machine.feed (some .empty) = (machine, none)) := by
  refine ⟨opened decoder source, start_eq h source, rfl, rfl, sighting_opened decoder source, ?_,
    reads_opened decoder source, ⟨opened decoder _, start_eq h _, ?_⟩, fun _ => rfl⟩
  · intro n
    rw [outcome_opened, items_opened]
  · intro n
    rw [visible_opened, visible_opened, EventDecoder.sightings, EventDecoder.sightings,
      decoder.visible_sightingsFrom source 0 0]

/-- A stream that breaks behind the start of its message: what stands behind the failure is not asked
for. -/
theorem run_follows_source_broken :
    EventDecoder.ofOptions .anthropic (.messages true) = .ok (.messages true) ∧
      ∃ stream, start .anthropic (.messages true)
          [.empty, .event "\x7b\"type\":\"message_start\"\x7d".toUTF8, .failure ⟨.stream, none⟩, .empty]
            = .ok stream ∧
        ∀ n, stream.sighting n
          = ([Sighting.mk (some (.ok (.text ""))) 2 .streaming,
              ⟨some (.error (.transport ⟨.stream, none⟩)), 3, .terminated⟩][n]?).getD
            ⟨none, 3, .terminated⟩ := by
  refine ⟨rfl, ?_⟩
  obtain ⟨stream, hs, -, -, hn, -⟩ := @run_follows_source .anthropic (.messages true) _ rfl
    [.empty, .event "\x7b\"type\":\"message_start\"\x7d".toUTF8, .failure ⟨.stream, none⟩, .empty]
  exact ⟨stream, hs, hn⟩

end StreamDecoder

end Colloquy
