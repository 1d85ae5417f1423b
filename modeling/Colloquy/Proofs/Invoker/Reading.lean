import Colloquy.Invoker.Exchange
import Colloquy.Proofs.Stream.Polling
/-!
# Reading an open stream

A caller reads an open stream call by call, or polls it.  `answers` are the items that it gets, each with the
state of the stream behind it; `heard` is what the observer is told meanwhile.  Polls that find nothing are no
answers.

Results:
* `LiveStream.heard_opened`: what is heard of a stream, by the items of its source.
* `PolledStream.exists_calls`, `PolledStream.exists_polls`: polls show what calls show.
* `PolledStream.refines`: a polled stream gives what a stream that is read gives, and nothing else.
* `Invoker.polling_refines_reading`: the same for the two ways to open a stream of a call.
-/
namespace Colloquy

namespace LiveStream

/-- The items of `n` calls, each with the state of the stream behind it. -/
def answers (stream : LiveStream) : Nat → List (Option Item × DecoderState)
  | 0 => []
  | n + 1 => (stream.next.1, stream.next.2.2.decoder.state) :: stream.next.2.2.answers n

def heard (stream : LiveStream) : Nat → List Notice
  | 0 => []
  | n + 1 => stream.next.2.1 ++ stream.next.2.2.heard n

theorem next_eq (decoder : StreamDecoder) (reports : Bool) :
    next ⟨decoder, reports⟩
      = (decoder.next.1, readNotices reports decoder.next.1, ⟨decoder.next.2, reports⟩) := rfl

theorem answers_congr {stream other : LiveStream} (h : stream.next = other.next) (n : Nat) :
    stream.answers n = other.answers n := by
  cases n with
  | zero => rfl
  | succ n => rw [answers, answers, h]

theorem heard_congr {stream other : LiveStream} (h : stream.next = other.next) (n : Nat) :
    stream.heard n = other.heard n := by
  cases n with
  | zero => rfl
  | succ n => rw [heard, heard, h]

/-- The answers are the sightings of the stream, without the transport's part in them. -/
theorem answers_eq (reports : Bool) (n : Nat) : ∀ decoder : StreamDecoder,
    answers ⟨decoder, reports⟩ n = (List.range n).map fun k => (decoder.sighting k).visible := by
  induction n with
  | zero => intro decoder; rfl
  | succ n ih =>
    intro decoder
    rw [answers, next_eq, ih, List.range_succ_eq_map, List.map_cons, List.map_map]
    rfl

theorem readNotices_eq (reports : Bool) (item : Option Item) :
    readNotices reports item = item.toList.flatMap (itemNotices reports) := by
  cases item <;> simp [readNotices]

/-- What is heard of a stream that hands out some items and then ends. -/
theorem heard_eq (reports : Bool) (n : Nat) : ∀ (decoder : StreamDecoder) (items : List Item),
    (∀ k, (decoder.sighting k).outcome = items[k]?) →
    heard ⟨decoder, reports⟩ n = (items.take n).flatMap (itemNotices reports) := by
  induction n with
  | zero => intro decoder items _; rfl
  | succ n ih =>
    intro decoder items h
    have first : decoder.next.1 = items[0]? := h 0
    have rest : ∀ k, (decoder.next.2.sighting k).outcome = items.tail[k]? := by
      intro k
      rw [List.getElem?_tail]
      exact h (k + 1)
    rw [heard, next_eq, ih _ _ rest, readNotices_eq, first]
    cases items <;> simp

theorem heard_opened (reports : Bool) (decoder : EventDecoder) (source : List SourceItem) (n : Nat) :
    heard ⟨.opened decoder source, reports⟩ n
      = (((decoder.portion source).flatMap decoder.itemsOf).take n).flatMap (itemNotices reports) :=
  heard_eq reports n _ _ fun k => by rw [StreamDecoder.outcome_opened, StreamDecoder.items_opened]

end LiveStream

namespace PolledStream

open PolledDecoder (waitsLeft)

/-- The stream behind `n` polls. -/
def after (stream : PolledStream) : Nat → PolledStream
  | 0 => stream
  | n + 1 => stream.poll.2.2.after n

/-- The items that `n` polls find, each with the state of the stream behind it. -/
def answers (stream : PolledStream) : Nat → List (Option Item × DecoderState)
  | 0 => []
  | n + 1 =>
    match stream.poll with
    | (.pending, _, later) => later.answers n
    | (.ready item, _, later) => (item, later.decoder.state) :: later.answers n

def heard (stream : PolledStream) : Nat → List Notice
  | 0 => []
  | n + 1 => stream.poll.2.1 ++ stream.poll.2.2.heard n

/-- A polled stream stands where a stream that is read stands. -/
structure Follows (polled : PolledStream) (live : LiveStream) : Prop where
  decoder : polled.decoder.Follows live.decoder
  reports : polled.reports = live.reports

theorem Follows.state_eq {polled : PolledStream} {live : LiveStream} (h : Follows polled live) :
    polled.decoder.state = live.decoder.state :=
  congrArg Machine.state h.decoder.machine

/-- What a poll that finds nothing may have done: it has taken in some events that make no item.  Nothing was
queued and nothing is.  The state is as it was, unless one of the events had a payload, which starts the stream. -/
structure Stalls (before later : PolledStream) : Prop where
  queue : before.decoder.machine.queue = []
  running : before.decoder.state ≠ .terminated
  taken : ∃ taken, before.decoder.source.remaining = taken ++ later.decoder.source.remaining ∧
    (∀ item ∈ taken, before.decoder.machine.decoder.itemsOf item = []) ∧
    later.decoder.machine
      = ⟨before.decoder.machine.decoder, [], before.decoder.state.behind taken⟩

/-- What a poll comes to beside a stream that stands where it stands. -/
inductive Outcome (polled : PolledStream) (live : LiveStream) :
    Poll (Option Item) × List Notice × PolledStream → Prop where
  /-- Nothing is found or heard, and the next call is the same as before. -/
  | waits (later : PolledStream) (hs : Stalls polled later)
      (other : LiveStream) (hf : Follows later other)
      (hn : other.next = live.next)
      (hw : waitsLeft later.decoder.source < waitsLeft polled.decoder.source) :
      Outcome polled live (.pending, [], later)
  /-- Found and heard is what the call finds and makes heard. -/
  | gives (later : PolledStream) (hf : Follows later live.next.2.2) :
      Outcome polled live (.ready live.next.1, live.next.2.1, later)

theorem poll_outcome {polled : PolledStream} {live : LiveStream} (h : Follows polled live) :
    Outcome polled live polled.poll := by
  obtain ⟨decoder, reports⟩ := live
  obtain ⟨hd, rfl⟩ := h
  have ho := PolledDecoder.poll_outcome hd
  rw [poll]
  generalize polled.decoder.poll = answer at ho ⊢
  cases ho with
  | waits later taken hq hs hr hi hm hw other hf hn =>
    refine .waits _ ⟨hq, hs, taken, hr, hi, hm⟩ ⟨other, polled.reports⟩ ⟨hf, rfl⟩ ?_ hw
    rw [LiveStream.next_eq, LiveStream.next_eq, hn]
  | gives item later other hn hf =>
    have ho := @Outcome.gives polled ⟨decoder, polled.reports⟩ { polled with decoder := later }
      (by rw [LiveStream.next_eq, hn]; exact ⟨hf, rfl⟩)
    rwa [LiveStream.next_eq, hn] at ho

/-- Waiting for the next item is reading it. -/
theorem next_follows {polled : PolledStream} {live : LiveStream} (h : Follows polled live) :
    polled.next.1 = live.next.1 ∧ polled.next.2.1 = live.next.2.1 ∧
      Follows polled.next.2.2 live.next.2.2 := by
  obtain ⟨decoder, reports⟩ := live
  obtain ⟨hd, rfl⟩ := h
  obtain ⟨hi, hf⟩ := PolledDecoder.next_follows hd
  rw [LiveStream.next_eq]
  refine ⟨hi, ?_, hf, rfl⟩
  show readNotices polled.reports polled.decoder.next.1 = _
  rw [hi]

/-! ## Many polls -/

/-- Whether `n` polls find what `m` calls give, and make as much heard. -/
structure Shows (polled : PolledStream) (n : Nat) (live : LiveStream) (m : Nat) : Prop where
  answers : polled.answers n = live.answers m
  heard : polled.heard n = live.heard m

theorem Shows.waits {polled later : PolledStream} {live other : LiveStream} {n m : Nat}
    (hp : polled.poll = (.pending, [], later)) (hn : other.next = live.next)
    (h : Shows later n other m) : Shows polled (n + 1) live m where
  answers := by simp only [PolledStream.answers, hp, h.answers, LiveStream.answers_congr hn]
  heard := by simp only [PolledStream.heard, hp, h.heard, LiveStream.heard_congr hn, List.nil_append]

theorem Shows.gives {polled later : PolledStream} {live : LiveStream} {n m : Nat}
    (hp : polled.poll = (.ready live.next.1, live.next.2.1, later))
    (hf : Follows later live.next.2.2) (h : Shows later n live.next.2.2 m) :
    Shows polled (n + 1) live (m + 1) where
  answers := by simp only [PolledStream.answers, hp, LiveStream.answers, h.answers, hf.state_eq]
  heard := by simp only [PolledStream.heard, hp, LiveStream.heard, h.heard]

theorem exists_follows_after {polled : PolledStream} {live : LiveStream} (h : Follows polled live)
    (n : Nat) : ∃ other, Follows (polled.after n) other := by
  induction n generalizing polled live with
  | zero => exact ⟨live, h⟩
  | succ n ih =>
    have ho := poll_outcome h
    rw [after]
    generalize polled.poll = answer at ho ⊢
    cases ho with
    | waits later _ other hf _ _ => exact ih hf
    | gives later hf => exact ih hf

theorem after_add (stream : PolledStream) (n k : Nat) :
    stream.after (n + k) = (stream.after n).after k := by
  induction n generalizing stream with
  | zero => rw [Nat.zero_add]; rfl
  | succ n ih => rw [Nat.succ_add, after, ih]; rfl

/-- Polls show what as many or fewer calls show. -/
theorem exists_calls (n : Nat) : ∀ {polled : PolledStream} {live : LiveStream},
    Follows polled live → ∃ m ≤ n, Shows polled n live m := by
  induction n with
  | zero => intro polled live _; exact ⟨0, Nat.le_refl 0, rfl, rfl⟩
  | succ n ih =>
    intro polled live h
    have ho := poll_outcome h
    generalize hp : polled.poll = answer at ho
    cases ho with
    | waits later _ other hf hn _ =>
      obtain ⟨m, hm, hs⟩ := ih hf
      exact ⟨m, by omega, .waits hp hn hs⟩
    | gives later hf =>
      obtain ⟨m, hm, hs⟩ := ih hf
      exact ⟨m + 1, by omega, .gives hp hf hs⟩

/-- Calls show what enough polls show.  The inner induction is on the polls that find nothing before the next
answer. -/
theorem exists_polls (m : Nat) : ∀ {polled : PolledStream} {live : LiveStream},
    Follows polled live → ∃ n, Shows polled n live m := by
  induction m with
  | zero => intro polled live _; exact ⟨0, rfl, rfl⟩
  | succ m ih =>
    intro polled live h
    induction hk : waitsLeft polled.decoder.source using Nat.strongRecOn
      generalizing polled live with
    | _ k waiting =>
      have ho := poll_outcome h
      generalize hp : polled.poll = answer at ho
      cases ho with
      | waits later _ other hf hn hw =>
        obtain ⟨n, hs⟩ := waiting _ (hk ▸ hw) hf rfl
        exact ⟨n + 1, .waits hp hn hs⟩
      | gives later hf =>
        obtain ⟨n, hs⟩ := ih hf
        exact ⟨n + 1, .gives hp hf hs⟩

/-! ## Behind the end -/

/-- The stream with other events still to come. -/
def withSource (stream : PolledStream) (source : BackgroundEvents) : PolledStream :=
  { stream with decoder := { stream.decoder with source := source } }

theorem poll_of_done {stream : PolledStream} (h : stream.decoder.machine.pull = .done) :
    stream.poll = (.ready none, [], stream) := by
  rw [poll, PolledDecoder.poll_of_done h]
  rfl

theorem after_of_done {stream : PolledStream} (h : stream.decoder.machine.pull = .done) (k : Nat) :
    stream.after k = stream := by
  induction k with
  | zero => rfl
  | succ k ih => rw [after, poll_of_done h, ih]

/-- Behind what is no chunk, the end or a failure, the machine of the stream is done. -/
theorem done_of_answer {polled : PolledStream} {live : LiveStream} (h : Follows polled live)
    {item : Option Item} (hp : polled.poll.1 = .ready item) (hi : ∀ chunk, item ≠ some (.ok chunk)) :
    (polled.after 1).decoder.machine.pull = .done := by
  rw [after, after]
  rw [poll] at hp ⊢
  cases hd : polled.decoder.poll with
  | mk answer later =>
    rw [hd] at hp
    cases answer with
    | pending => cases hp
    | ready found => cases hp; exact PolledDecoder.done_of_answer h.decoder hd hi

/-! ## The two ways to read a stream -/

/-- Whether polling a stream gives what reading another one gives, however often a poll finds nothing. -/
structure Refines (polled : PolledStream) (live : LiveStream) : Prop where
  starts : polled.decoder.machine = live.decoder.machine
  /-- Waiting for the next item is reading it. -/
  awaits : polled.next.1 = live.next.1 ∧ polled.next.2.1 = live.next.2.1
  sound : ∀ n, ∃ m ≤ n, Shows polled n live m
  complete : ∀ m, ∃ n, Shows polled n live m
  stalls : ∀ n, (polled.after n).poll.1 = .pending →
    (polled.after n).poll.2.1 = [] ∧ Stalls (polled.after n) (polled.after (n + 1))
  /-- The events are not polled behind their end. -/
  overruns : ∀ n, (polled.after n).decoder.source.overruns = 0
  /-- Behind what is no chunk, the end or a failure, all polls find the end.  They do not poll for events: any
  others could be still to come and would be left as they are. -/
  settles : ∀ n item, (polled.after n).poll.1 = .ready item → (∀ chunk, item ≠ some (.ok chunk)) →
    ∀ k source, ((polled.after (n + 1 + k)).withSource source).poll
      = (.ready none, [], (polled.after (n + 1 + k)).withSource source)

theorem refines {polled : PolledStream} {live : LiveStream} (h : Follows polled live) :
    Refines polled live where
  starts := h.decoder.machine
  awaits := ⟨(next_follows h).1, (next_follows h).2.1⟩
  sound := fun n => exists_calls n h
  complete := fun m => exists_polls m h
  stalls := by
    intro n hp
    obtain ⟨other, hf⟩ := exists_follows_after h n
    rw [after_add polled n 1]
    have ho := poll_outcome hf
    show _ ∧ Stalls _ (polled.after n).poll.2.2
    generalize (polled.after n).poll = answer at ho hp ⊢
    cases ho with
    | waits later hs => exact ⟨rfl, hs⟩
    | gives later _ => cases hp
  overruns := by
    intro n
    obtain ⟨other, hf⟩ := exists_follows_after h n
    exact hf.decoder.overruns
  settles := by
    intro n item hp hi k source
    obtain ⟨other, hf⟩ := exists_follows_after h n
    have hd := done_of_answer hf hp hi
    rw [after_add polled (n + 1) k, after_add polled n 1, after_of_done hd k]
    exact poll_of_done hd

theorem Follows.opened (decoder : EventDecoder) (waits : List Nat) (events : List SourceItem)
    (reports : Bool) :
    Follows ⟨⟨.start decoder, .resting waits events, 0⟩, reports⟩ ⟨.opened decoder events, reports⟩ :=
  ⟨⟨rfl, rfl, fun _ => rfl, rfl⟩, rfl⟩

end PolledStream

namespace Invoker

/-- A stream that is polled gives what a stream that is read gives, whatever the schedule of its waits:
the same request is sent, the same is heard, and the same items are found in the same order, with the same
state behind each.  A poll that finds nothing makes nothing heard and leaves nothing queued; it has done no
more than take in the events before it that make no item, of which one with a payload starts the stream.
Pulls bring the events of the transport in their order and then their end, behind which, or behind a failure,
they are not polled. -/
theorem polling_refines_reading (invoker : Invoker) (transport : Transport) (waits : List Nat)
    (call : Call)
    (h : ∀ request events, transport.openStream request = .ok events → SourceItem.breakdown ∉ events) :
    (invoker.streamPolled transport waits call).sent = (invoker.stream transport call).sent ∧
    (invoker.streamPolled transport waits call).notices = (invoker.stream transport call).notices ∧
    ((∃ failure, (invoker.stream transport call).result = .error failure ∧
        (invoker.streamPolled transport waits call).result = .error failure) ∨
      ∃ live polled request, (invoker.stream transport call).result = .ok live ∧
        (invoker.streamPolled transport waits call).result = .ok polled ∧
        (invoker.stream transport call).sent = [request] ∧
        transport.openStream request = .ok live.decoder.events ∧
        polled.decoder.source.Delivers live.decoder.events ∧ polled.Refines live) := by
  rw [streamPolled, stream, streamWith, streamWith]
  cases invoker.prepare call true with
  | error failure => exact ⟨rfl, rfl, .inl ⟨failure, rfl, rfl⟩⟩
  | ok prepared =>
    simp only
    cases ho : transport.openStream prepared.request with
    | error failure => exact ⟨rfl, rfl, .inl ⟨_, rfl, rfl⟩⟩
    | ok events =>
      refine ⟨rfl, rfl, ?_⟩
      simp only [StreamDecoder.start, PolledDecoder.start]
      cases EventDecoder.ofOptions invoker.provider prepared.decode with
      | error failure => exact .inl ⟨failure, rfl, rfl⟩
      | ok decoder =>
        exact .inr ⟨_, _, _, rfl, rfl, rfl, ho, BackgroundEvents.delivers waits (h _ _ ho),
          PolledStream.refines (.opened decoder waits events invoker.guardrails.reports)⟩

/-- The first poll takes in an event without chunks and then finds nothing; the second one finds what the first
call gives, which takes in both events. -/
theorem polling_refines_reading_waiting :
    let transport : Transport := ⟨fun _ => .error ⟨.request, none⟩, fun _ => .ok
      [.event "\x7b\"type\":\"ping\"\x7d".toUTF8, .event "\x7b\"type\":\"message_stop\"\x7d".toUTF8]⟩
    let invoker : Invoker := ⟨⟨"anthropic.claude-v2", none, none⟩, .anthropic, .empty, .none⟩
    let call : Call := ⟨.conversation [⟨.user, .text "hi"⟩], none, none, [], []⟩
    (∀ request events, transport.openStream request = .ok events → SourceItem.breakdown ∉ events) ∧
    ∃ live polled, (invoker.stream transport call).result = .ok live ∧
      (invoker.streamPolled transport [0, 1] call).result = .ok polled ∧
      polled.decoder.source.Delivers live.decoder.events ∧ polled.Refines live ∧
      polled.poll.1 = .pending ∧ (polled.after 1).decoder.eventsRead = 1 ∧
      (polled.after 1).decoder.state = .streaming ∧ polled.answers 2 = live.answers 1 := by
  intro transport invoker call
  have h : ∀ request events, transport.openStream request = .ok events →
      SourceItem.breakdown ∉ events := by
    intro request events ho
    cases ho
    simp
  refine ⟨h, ?_⟩
  obtain ⟨-, -, ⟨failure, hl, -⟩ | ⟨live, polled, request, hl, hp, -, -, hd, hr⟩⟩ :=
    polling_refines_reading invoker transport [0, 1] call h
  · subst transport invoker call
    have ho : Except.ok _ = Except.error failure := hl
    cases ho
  · subst transport invoker call
    have hol : Except.ok _ = Except.ok live := hl
    have hop : Except.ok _ = Except.ok polled := hp
    refine ⟨live, polled, hl, hp, hd, hr, ?_⟩
    cases hol
    cases hop
    exact ⟨rfl, rfl, rfl, rfl⟩

/-- A poll that finds nothing can move the state: it has taken in an event without chunks before. -/
theorem pending_poll_starts_stream :
    let transport : Transport := ⟨fun _ => .error ⟨.request, none⟩, fun _ => .ok
      [.event "\x7b\"type\":\"ping\"\x7d".toUTF8, .event "\x7b\"type\":\"message_stop\"\x7d".toUTF8]⟩
    let invoker : Invoker := ⟨⟨"anthropic.claude-v2", none, none⟩, .anthropic, .empty, .none⟩
    let call : Call := ⟨.conversation [⟨.user, .text "hi"⟩], none, none, [], []⟩
    (∀ request events, transport.openStream request = .ok events → SourceItem.breakdown ∉ events) ∧
    ∃ polled, (invoker.streamPolled transport [0, 1] call).result = .ok polled ∧
      polled.poll.1 = .pending ∧
      polled.decoder.state = .idle ∧ (polled.after 1).decoder.state = .streaming := by
  intro transport invoker call
  refine ⟨fun request events ho => ?_, ?_⟩
  · cases ho
    simp
  · subst transport invoker call
    exact ⟨_, rfl, rfl, rfl, rfl⟩

end Invoker

end Colloquy
