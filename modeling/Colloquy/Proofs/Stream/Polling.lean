import Colloquy.Proofs.Stream.Run
import Colloquy.Stream.Polled
/-!
# Polling gives what reading gives

A polled stream runs the same machine as a stream that is read, over events that a transport brings in the
background.  `PolledDecoder.Follows` relates the two: the machines are the same and so are the events still
to come.  A poll that finds nothing stops in the middle of the loop; it has then taken in some events that
made no item, which a call for the next item would take in first as well.

Results:
* `BackgroundEvents.delivers`: pulls bring the events in order, none lost and none twice, and then the end.
* `PolledDecoder.poll_eq`: a poll goes on until there is an item, the end, or a pull that is not finished.
* `PolledDecoder.poll_outcome`: one poll beside one call for the next item.
* `PolledDecoder.next_follows`: waiting for an item gives what the call for the next item gives.
* `PolledDecoder.done_of_answer`, `PolledDecoder.poll_of_done`: behind the end or a failure a poll changes
  nothing, also of its events.
-/
namespace Colloquy

namespace Poll

def value? : Poll (Option α) → Option α
  | pending => none
  | ready value => value

end Poll

namespace BackgroundEvents

open PolledDecoder (eventsLeft waitsLeft)

/-- The events still to come, unless the end was found or a pull broke down. -/
def open? : BackgroundEvents → Option (List SourceItem)
  | resting _ events | pulling _ _ events => some events
  | broken | spent _ => none

def remaining (source : BackgroundEvents) : List SourceItem := source.open?.getD []

/-- How often the events were polled behind their end. -/
def overruns : BackgroundEvents → Nat
  | resting _ _ | pulling _ _ _ | broken => 0
  | spent overruns => overruns

def after (source : BackgroundEvents) : Nat → BackgroundEvents
  | 0 => source
  | n + 1 => source.poll.2.after n

def delivered (source : BackgroundEvents) : Nat → List SourceItem
  | 0 => []
  | n + 1 => source.poll.1.value?.toList ++ source.poll.2.delivered n

/-- Whether polls bring exactly some events, in their order, and then the end. -/
structure Delivers (source : BackgroundEvents) (events : List SourceItem) : Prop where
  /-- What was brought and what is still to come are the events, at any time. -/
  inOrder : ∀ n, source.delivered n ++ (source.after n).remaining = events
  /-- The end is not found before all of them were brought. -/
  atEnd : ∀ n, (source.after n).poll.1 = .ready none → source.delivered n = events
  /-- The end is found. -/
  ends : ∃ n, (source.after n).poll.1 = .ready none

/-! ## One poll -/

/-- What a poll can come to while events are still to come. -/
inductive Answer (source : BackgroundEvents) (events : List SourceItem) :
    Poll (Option SourceItem) × BackgroundEvents → Prop where
  | nothing (later : BackgroundEvents) (ho : later.open? = some events)
      (hw : waitsLeft later + 1 = waitsLeft source) : Answer source events (.pending, later)
  | ends (he : events = []) : Answer source events (.ready none, spent 0)
  | breaksDown (rest : List SourceItem) (he : events = .breakdown :: rest) :
      Answer source events (.ready (some .breakdown), broken)
  | brings (item : SourceItem) (rest : List SourceItem) (later : BackgroundEvents)
      (he : events = item :: rest) (ho : later.open? = some rest)
      (hw : waitsLeft later = waitsLeft source) : Answer source events (.ready (some item), later)

theorem finish_cases (waits : List Nat) (events : List SourceItem) :
    (events = [] ∧ finish waits events = (none, spent 0)) ∨
    (∃ rest, events = .breakdown :: rest ∧ finish waits events = (some .breakdown, broken)) ∨
    (∃ item rest, events = item :: rest ∧ finish waits events = (some item, resting waits rest)) := by
  cases events with
  | nil => exact .inl ⟨rfl, rfl⟩
  | cons item rest =>
    cases item with
    | breakdown => exact .inr (.inl ⟨rest, rfl, rfl⟩)
    | event payload => exact .inr (.inr ⟨_, rest, rfl, rfl⟩)
    | empty => exact .inr (.inr ⟨_, rest, rfl, rfl⟩)
    | failure failure => exact .inr (.inr ⟨_, rest, rfl, rfl⟩)

theorem pollPull_answer {source : BackgroundEvents} {waits : List Nat} {events : List SourceItem}
    {left : Nat} (hw : waitsLeft source = left + waits.foldr (· + ·) 0) :
    Answer source events (pollPull waits events left) := by
  cases left with
  | succ left => exact .nothing _ rfl (by simp only [waitsLeft] at hw ⊢; omega)
  | zero =>
    rcases finish_cases waits events with ⟨he, hf⟩ | ⟨rest, he, hf⟩ | ⟨item, rest, he, hf⟩ <;>
      simp only [pollPull, hf]
    · exact .ends he
    · exact .breaksDown rest he
    · exact .brings item rest _ he rfl (by simp only [waitsLeft] at hw ⊢; omega)

theorem poll_answer {source : BackgroundEvents} {events : List SourceItem}
    (h : source.open? = some events) : Answer source events source.poll := by
  cases source with
  | resting waits es =>
    cases h
    refine pollPull_answer ?_
    cases waits <;> simp [waitsLeft]
  | pulling left waits es => cases h; exact pollPull_answer rfl
  | broken => cases h
  | spent overruns => cases h

theorem overruns_of_open {source : BackgroundEvents} {events : List SourceItem}
    (h : source.open? = some events) : source.overruns = 0 := by
  cases source <;> first | rfl | cases h

theorem poll_closed {source : BackgroundEvents} (h : source.open? = none) :
    source.poll.1 = .ready none ∧ source.poll.2.open? = none := by
  cases source with
  | resting waits es => cases h
  | pulling left waits es => cases h
  | broken => exact ⟨rfl, rfl⟩
  | spent overruns => exact ⟨rfl, rfl⟩

/-! ## Many polls -/

theorem remaining_of_open {source : BackgroundEvents} {events : List SourceItem}
    (h : source.open? = some events) : source.remaining = events := by
  simp [remaining, h]

theorem remaining_closed {source : BackgroundEvents} (h : source.open? = none) :
    source.remaining = [] := by
  simp [remaining, h]

/-- One poll moves at most the first of the events from those to come to those that were brought. -/
theorem poll_remaining {source : BackgroundEvents} (h : SourceItem.breakdown ∉ source.remaining) :
    source.poll.1.value?.toList ++ source.poll.2.remaining = source.remaining := by
  cases ho : source.open? with
  | none =>
    obtain ⟨hp, hc⟩ := poll_closed ho
    rw [hp, remaining_closed hc, remaining_closed ho]
    rfl
  | some events =>
    rw [remaining_of_open ho] at h ⊢
    have ha := poll_answer ho
    generalize source.poll = answer at ha ⊢
    cases ha with
    | nothing later hl _ => exact remaining_of_open hl
    | ends he => rw [he]; rfl
    | breaksDown rest he => rw [he] at h; exact absurd (List.mem_cons_self ..) h
    | brings item rest later he hl _ => rw [he, remaining_of_open hl]; rfl

theorem remaining_of_end {source : BackgroundEvents} (h : source.poll.1 = .ready none) :
    source.remaining = [] := by
  cases ho : source.open? with
  | none => exact remaining_closed ho
  | some events =>
    rw [remaining_of_open ho]
    have ha := poll_answer ho
    generalize source.poll = answer at ha h
    cases ha with
    | nothing later _ _ => cases h
    | ends he => exact he
    | breaksDown rest _ => cases h
    | brings item rest later _ _ _ => cases h

theorem delivered_append_remaining (n : Nat) :
    ∀ source : BackgroundEvents, SourceItem.breakdown ∉ source.remaining →
      source.delivered n ++ (source.after n).remaining = source.remaining := by
  induction n with
  | zero => intro source _; rfl
  | succ n ih =>
    intro source h
    have hp := poll_remaining h
    have hn : SourceItem.breakdown ∉ source.poll.2.remaining := by
      intro hm
      rw [← hp] at h
      exact h (List.mem_append_right _ hm)
    rw [delivered, after, List.append_assoc, ih _ hn, hp]

theorem eventsLeft_of_open {source : BackgroundEvents} {events : List SourceItem}
    (h : source.open? = some events) : eventsLeft source = events.length := by
  cases source <;> cases h <;> rfl

/-- The end is found: each poll before it uses up a wait or an event. -/
theorem exists_end (source : BackgroundEvents) : ∃ n, (source.after n).poll.1 = .ready none := by
  induction hk : waitsLeft source + eventsLeft source using Nat.strongRecOn generalizing source with
  | _ k ih =>
    cases ho : source.open? with
    | none => exact ⟨0, (poll_closed ho).1⟩
    | some events =>
      have step : (∃ n, (source.poll.2.after n).poll.1 = .ready none) →
          ∃ n, (source.after n).poll.1 = .ready none := fun ⟨n, hn⟩ => ⟨n + 1, hn⟩
      have ha := poll_answer ho
      rw [eventsLeft_of_open ho] at hk
      generalize hs : source.poll = answer at ha step
      cases ha with
      | nothing later hl hw => exact step (ih _ (by rw [eventsLeft_of_open hl]; omega) later rfl)
      | ends _ => exact ⟨0, by rw [after, hs]⟩
      | breaksDown rest _ => exact step ⟨0, rfl⟩
      | brings item rest later he hl hw =>
        rw [he, List.length_cons] at hk
        exact step (ih _ (by rw [eventsLeft_of_open hl]; omega) later rfl)

/-- Polls bring the events in order, none of them lost and none twice, and then the end. -/
theorem delivers (waits : List Nat) {events : List SourceItem} (h : SourceItem.breakdown ∉ events) :
    (resting waits events).Delivers events where
  inOrder := fun n => delivered_append_remaining n (resting waits events) h
  atEnd := fun n he => by
    have hd := delivered_append_remaining n (resting waits events) h
    rwa [remaining_of_end he, List.append_nil] at hd
  ends := exists_end _

end BackgroundEvents

namespace DecoderState

/-- The state behind items of the source that make no item: an event starts the stream, also one without
chunks, and what carries nothing changes nothing. -/
def behind (state : DecoderState) (taken : List SourceItem) : DecoderState :=
  if taken.any SourceItem.isSubstantial then .streaming else state

theorem behind_cons (state : DecoderState) (item : SourceItem) (rest : List SourceItem) :
    (state.behind [item]).behind rest = state.behind (item :: rest) := by
  cases h : item.isSubstantial <;> simp [behind, h]

end DecoderState

namespace Machine

/-- What an item of the source does to a machine that goes on with nothing queued: it makes no item, and
nothing but the state has moved. -/
theorem feed_silent {decoder : EventDecoder} {state : DecoderState} {item : SourceItem} {next : Machine}
    (h : (Machine.mk decoder [] state).feed (some item) = (next, none)) (hq : next.queue = [])
    (hs : next.state ≠ .terminated) :
    decoder.itemsOf item = [] ∧ next = ⟨decoder, [], state.behind [item]⟩ := by
  cases hi : item.isSubstantial with
  | false =>
    cases item with
    | empty => cases h; exact ⟨rfl, rfl⟩
    | event _ | failure _ | breakdown => cases hi
  | true =>
    rcases feed_cases decoder state item with rfl | ⟨failure, -, -, hf⟩ | ⟨chunks, hc, hf⟩
    · cases hi
    · rw [hf] at h; cases h
    · rw [hf] at h
      cases h
      have hq : chunks = [] := hq
      subst hq
      cases hl : decoder.isLast item with
      | true => rw [hl] at hs; exact absurd rfl hs
      | false => exact ⟨hc, by simp [DecoderState.behind, hi]⟩

theorem state_of_failure {machine next : Machine} {item : SourceItem} {failure : Failure}
    (h : machine.feed (some item) = (next, some failure)) : next.state = .terminated := by
  cases item with
  | empty => cases h
  | failure _ => cases h; rfl
  | breakdown => cases h; rfl
  | event payload =>
    simp only [feed, feedPayload] at h
    split at h <;> cases h
    rfl

/-- A machine that has failed is done: it needed an event, so nothing is left in its queue. -/
theorem pull_of_failure {machine next : Machine} {item : SourceItem} {failure : Failure}
    (hp : machine.pull = .needsEvent) (h : machine.feed (some item) = (next, some failure)) :
    next.pull = .done := by
  obtain ⟨decoder, queue, state⟩ := machine
  cases queue with
  | cons chunk rest => cases hp
  | nil =>
    rcases feed_cases decoder state item with rfl | ⟨other, -, -, hf⟩ | ⟨chunks, -, hf⟩
    · cases h
    · rw [hf] at h; cases h; rfl
    · rw [hf] at h; cases h

theorem pull_of_end {machine : Machine} (hp : machine.pull = .needsEvent) :
    (machine.feed none).1.pull = .done := by
  obtain ⟨decoder, queue, state⟩ := machine
  cases queue with
  | cons chunk rest => cases hp
  | nil => rfl

end Machine

namespace StreamDecoder

/-- Behind what is no chunk, the end or a failure, the machine of a stream is done. -/
theorem done_of_next {stream other : StreamDecoder} {item : Option Item}
    (h : stream.next = (item, other)) (hi : ∀ chunk, item ≠ some (.ok chunk)) :
    other.machine.pull = .done := by
  obtain ⟨machine, events, read, asked⟩ := stream
  rw [next] at h
  induction events generalizing machine read asked with
  | nil =>
    simp only [nextFrom] at h
    cases hp : machine.pull with
    | yields chunk next => simp only [hp] at h; cases h; exact absurd rfl (hi chunk)
    | done => simp only [hp] at h; cases h; exact hp
    | needsEvent => simp only [hp] at h; cases h; exact Machine.pull_of_end hp
  | cons first rest ih =>
    simp only [nextFrom] at h
    cases hp : machine.pull with
    | yields chunk next => simp only [hp] at h; cases h; exact absurd rfl (hi chunk)
    | done => simp only [hp] at h; cases h; exact hp
    | needsEvent =>
      simp only [hp] at h
      cases hf : machine.feed (some first) with
      | mk next failure =>
        simp only [hf] at h
        cases failure with
        | some failure => cases h; exact Machine.pull_of_failure hp hf
        | none => exact ih next _ _ h

theorem next_of_done {stream : StreamDecoder} (h : stream.machine.pull = .done) :
    stream.next = (none, stream) := by
  obtain ⟨machine, events, read, asked⟩ := stream
  have h : machine.pull = .done := h
  rw [next]
  cases events <;> simp only [nextFrom, h]

end StreamDecoder

namespace PolledDecoder

/-! ## The loop of a poll -/

/-- A poll goes on until there is an item, the end, or a pull that is not finished; it never runs out of
rounds. -/
theorem poll_eq (machine : Machine) (source : BackgroundEvents) (read : Nat) :
    poll ⟨machine, source, read⟩ =
      match machine.pull with
      | .yields chunk next => (.ready (some (.ok chunk)), ⟨next, source, read⟩)
      | .done => (.ready none, ⟨machine, source, read⟩)
      | .needsEvent =>
        pollSource machine read source fun machine read source => poll ⟨machine, source, read⟩ := by
  rw [poll, pollWithin]
  cases machine.pull with
  | yields chunk next => rfl
  | done => rfl
  | needsEvent =>
    simp only [pollSource]
    cases ho : source.open? with
    | none =>
      obtain ⟨hp, -⟩ := BackgroundEvents.poll_closed ho
      generalize source.poll = answer at hp ⊢
      obtain ⟨outcome, later⟩ := answer
      cases hp
      rfl
    | some events =>
      have ha := BackgroundEvents.poll_answer ho
      generalize source.poll = answer at ha ⊢
      cases ha with
      | nothing later _ _ => rfl
      | ends _ => rfl
      | breaksDown rest _ => rfl
      | brings item rest later he hl _ =>
        have hrounds : eventsLeft source = eventsLeft later + 1 := by
          rw [BackgroundEvents.eventsLeft_of_open ho, BackgroundEvents.eventsLeft_of_open hl, he]; rfl
        rw [hrounds]
        rfl

theorem poll_queued (decoder : EventDecoder) (chunk : Chunk) (queue : List Chunk)
    (state : DecoderState) (source : BackgroundEvents) (read : Nat) :
    poll ⟨⟨decoder, chunk :: queue, state⟩, source, read⟩
      = (.ready (some (.ok chunk)), ⟨⟨decoder, queue, state⟩, source, read⟩) := by
  rw [poll_eq]; rfl

theorem poll_terminated (decoder : EventDecoder) (source : BackgroundEvents) (read : Nat) :
    poll ⟨⟨decoder, [], .terminated⟩, source, read⟩
      = (.ready none, ⟨⟨decoder, [], .terminated⟩, source, read⟩) := by
  rw [poll_eq]; rfl

theorem poll_drained (decoder : EventDecoder) {state : DecoderState} (hs : state ≠ .terminated)
    (source : BackgroundEvents) (read : Nat) :
    poll ⟨⟨decoder, [], state⟩, source, read⟩ =
      pollSource ⟨decoder, [], state⟩ read source
        fun machine read source => poll ⟨machine, source, read⟩ := by
  have hp : (Machine.mk decoder [] state).pull = .needsEvent := if_neg hs
  rw [poll_eq, hp]

/-- A poll of a stream whose machine is done changes nothing. -/
theorem poll_of_done {stream : PolledDecoder} (h : stream.machine.pull = .done) :
    stream.poll = (.ready none, stream) := by
  obtain ⟨machine, source, read⟩ := stream
  have h : machine.pull = .done := h
  rw [poll_eq, h]

/-! ## One poll and one call for the next item -/

/-- A polled stream stands where a stream that is read stands. -/
structure Follows (polled : PolledDecoder) (stream : StreamDecoder) : Prop where
  machine : polled.machine = stream.machine
  eventsRead : polled.eventsRead = stream.eventsRead
  /-- Unless the stream has ended, the same events are still to come. -/
  source : stream.state ≠ .terminated → polled.source.open? = some stream.events
  overruns : polled.source.overruns = 0

/-- What a poll comes to beside a stream that stands where it stands. -/
inductive Outcome (polled : PolledDecoder) (stream : StreamDecoder) :
    Poll (Option Item) × PolledDecoder → Prop where
  /-- Nothing is found.  The events that were taken in made no item, and a call for the next item would
  take them in first. -/
  | waits (later : PolledDecoder) (taken : List SourceItem)
      (hq : polled.machine.queue = []) (hs : polled.machine.state ≠ .terminated)
      (hr : polled.source.remaining = taken ++ later.source.remaining)
      (hi : ∀ item ∈ taken, polled.machine.decoder.itemsOf item = [])
      (hm : later.machine = ⟨polled.machine.decoder, [], polled.machine.state.behind taken⟩)
      (hw : waitsLeft later.source < waitsLeft polled.source)
      (other : StreamDecoder) (hf : Follows later other) (hn : other.next = stream.next) :
      Outcome polled stream (.pending, later)
  /-- What is found is what the call for the next item gives. -/
  | gives (item : Option Item) (later : PolledDecoder) (other : StreamDecoder)
      (hn : stream.next = (item, other)) (hf : Follows later other) :
      Outcome polled stream (.ready item, later)

/-- What a poll comes to with some events still to come, whatever the machine. -/
def Agrees (events : List SourceItem) : Prop :=
  ∀ (machine : Machine) (source : BackgroundEvents) (read asked : Nat),
    (machine.state ≠ .terminated → source.open? = some events) → source.overruns = 0 →
    Outcome ⟨machine, source, read⟩ ⟨machine, events, read, asked⟩ (poll ⟨machine, source, read⟩)

/-- An event that makes no item is taken in by a poll and by a call for the next item alike. -/
theorem Outcome.skip {decoder : EventDecoder} {state : DecoderState} {item : SourceItem}
    {rest : List SourceItem} {source later : BackgroundEvents} {next : Machine} {read asked : Nat}
    {outcome : Poll (Option Item) × PolledDecoder} (hs : state ≠ .terminated)
    (ho : source.open? = some (item :: rest)) (hl : later.open? = some rest)
    (hw : waitsLeft later = waitsLeft source)
    (hfed : (Machine.mk decoder [] state).feed (some item) = (next, none))
    (h : Outcome ⟨next, later, read + item.taken⟩
      ⟨next, rest, read + item.taken, asked + 1⟩ outcome) :
    Outcome ⟨⟨decoder, [], state⟩, source, read⟩
      ⟨⟨decoder, [], state⟩, item :: rest, read, asked⟩ outcome := by
  have hnext : StreamDecoder.next ⟨⟨decoder, [], state⟩, item :: rest, read, asked⟩
      = StreamDecoder.next ⟨next, rest, read + item.taken, asked + 1⟩ := by
    rw [StreamDecoder.next_fed decoder hs, hfed]
  cases h with
  | waits final taken hq hgoing hrem hi hm hlt other hf hn =>
    obtain ⟨hsilent, rfl⟩ := Machine.feed_silent hfed hq hgoing
    refine .waits final (item :: taken) rfl hs ?_ (List.forall_mem_cons.mpr ⟨hsilent, hi⟩) ?_ (hw ▸ hlt)
      other hf (hn.trans hnext.symm)
    · rw [BackgroundEvents.remaining_of_open hl] at hrem
      rw [BackgroundEvents.remaining_of_open ho, hrem]
      rfl
    · rw [← DecoderState.behind_cons]
      exact hm
  | gives found final other hn hf => exact .gives found final other (hnext.trans hn) hf

/-- One round of the loop: it ends there, or goes on with the events behind the first. -/
theorem agrees_round {events : List SourceItem}
    (behind : ∀ item rest, events = item :: rest → Agrees rest) : Agrees events := by
  rintro ⟨decoder, queue, state⟩ source read asked ho hz
  cases queue with
  | cons chunk queue =>
    rw [poll_queued]
    exact .gives _ _ _ (StreamDecoder.next_queued decoder chunk queue state events read asked)
      ⟨rfl, rfl, ho, hz⟩
  | nil =>
    by_cases hs : state = .terminated
    · subst hs
      rw [poll_terminated]
      exact .gives _ _ _ (StreamDecoder.next_terminated decoder events read asked) ⟨rfl, rfl, ho, hz⟩
    have ho := ho hs
    have ha := BackgroundEvents.poll_answer ho
    rw [poll_drained decoder hs, pollSource]
    generalize source.poll = answer at ha ⊢
    cases ha with
    | nothing later hl hw =>
      refine .waits _ [] rfl hs ?_ (by simp) rfl (by simp only; omega) _
        ⟨rfl, rfl, fun _ => hl, BackgroundEvents.overruns_of_open hl⟩ rfl
      rw [BackgroundEvents.remaining_of_open ho, BackgroundEvents.remaining_of_open hl]
      rfl
    | ends he =>
      subst he
      exact .gives _ _ _ (StreamDecoder.next_drained decoder hs read asked)
        ⟨rfl, rfl, fun h => absurd rfl h, rfl⟩
    | breaksDown rest he =>
      subst he
      exact .gives _ _ _ (StreamDecoder.next_fed decoder hs .breakdown rest read asked)
        ⟨rfl, rfl, fun h => absurd rfl h, rfl⟩
    | brings item rest later he hl hw =>
      subst he
      have hn := StreamDecoder.next_fed decoder hs item rest read asked
      cases hf : (Machine.mk decoder [] state).feed (some item) with
      | mk next failure =>
        simp only [hf] at hn ⊢
        cases failure with
        | some failure =>
          exact .gives _ _ _ hn ⟨rfl, rfl, fun h => absurd (Machine.state_of_failure hf) h,
            BackgroundEvents.overruns_of_open hl⟩
        | none =>
          exact .skip hs ho hl hw hf (behind item rest rfl next later _ _ (fun _ => hl)
            (BackgroundEvents.overruns_of_open hl))

/-- A poll comes to what the next call for an item comes to.  The induction is on the events still to
come: each round of the loop takes in the first of them. -/
theorem poll_outcome {polled : PolledDecoder} {stream : StreamDecoder} (h : Follows polled stream) :
    Outcome polled stream polled.poll := by
  have agrees : ∀ events, Agrees events := by
    intro events
    induction events with
    | nil => exact agrees_round fun _ _ h => by cases h
    | cons item rest ih => exact agrees_round fun _ _ h => by cases h; exact ih
  obtain ⟨machine, source, read⟩ := polled
  obtain ⟨m, events, r, asked⟩ := stream
  obtain ⟨rfl, rfl, ho, hz⟩ := h
  exact agrees events machine source read asked ho hz

theorem awaitWithin_follows (rounds : Nat) :
    ∀ (polled : PolledDecoder) (stream : StreamDecoder), Follows polled stream →
      waitsLeft polled.source ≤ rounds →
      (awaitWithin rounds polled).1 = stream.next.1 ∧
        Follows (awaitWithin rounds polled).2 stream.next.2 := by
  induction rounds with
  | zero =>
    intro polled stream h hw
    have ho := poll_outcome h
    rw [awaitWithin]
    generalize polled.poll = answer at ho ⊢
    cases ho with
    | waits later taken _ _ _ _ _ hlt _ _ _ => omega
    | gives item later other hn hf => rw [hn]; exact ⟨rfl, hf⟩
  | succ rounds ih =>
    intro polled stream h hw
    have ho := poll_outcome h
    rw [awaitWithin]
    generalize polled.poll = answer at ho ⊢
    cases ho with
    | waits later taken _ _ _ _ _ hlt other hf hn => rw [← hn]; exact ih later other hf (by omega)
    | gives item later other hn hf => rw [hn]; exact ⟨rfl, hf⟩

theorem next_follows {polled : PolledDecoder} {stream : StreamDecoder} (h : Follows polled stream) :
    polled.next.1 = stream.next.1 ∧ Follows polled.next.2 stream.next.2 :=
  awaitWithin_follows _ polled stream h (Nat.le_refl _)

/-! ## Streams that have ended -/

/-- Behind what is no chunk, the end or a failure, the machine of a polled stream is done. -/
theorem done_of_answer {polled later : PolledDecoder} {stream : StreamDecoder}
    (h : Follows polled stream) {item : Option Item} (hp : polled.poll = (.ready item, later))
    (hi : ∀ chunk, item ≠ some (.ok chunk)) : later.machine.pull = .done := by
  have ho := poll_outcome h
  rw [hp] at ho
  cases ho with
  | gives found later other hn hf =>
    rw [hf.machine]
    exact StreamDecoder.done_of_next hn hi

end PolledDecoder

end Colloquy
