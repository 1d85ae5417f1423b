import Colloquy.Proofs.Invoker.Opening
import Colloquy.Proofs.Invoker.Reading
/-!
# Failures and their reports

A caller acts in rounds: it sends a call, and then asks the stream that was opened for one item after the
other, or polls it.  In each round the observer may hear something, and then the caller gets its answer.  A
failure to prepare the call is the caller's own and is not reported.  Every other failure is told to the
observer once, in the round in which the caller gets it, and nothing comes behind it.

Results:
* `LiveStream.rounds_kept`, `PolledStream.rounds_kept`: the rounds of an open stream.
* `Invoker.failures_reported`: calls of all kinds, with any part of their streams.
-/
namespace Colloquy

/-! ## Rounds -/

/-- What happens in one round of a caller. -/
structure Round where
  /-- What the observer hears before the caller gets its answer. -/
  heard : List Notice
  /-- The failure that the caller gets, unless it gets something else or nothing. -/
  failed : Option Failure
deriving DecidableEq

/-- A stage on the way of a failure: the observer is told, and the caller gets it. -/
inductive Passing where
  | told (failure : Failure)
  | got (failure : Failure)
deriving DecidableEq

def Notice.failure? : Notice → Option Failure
  | .failure fault => some fault
  | .guardrail _ => none

def Notice.failures (notices : List Notice) : List Failure := notices.filterMap failure?

namespace Round

/-- Nothing is heard, and the caller gets no failure. -/
def silent : Round := ⟨[], none⟩

/-- Whether the failure that the caller gets is told before, and no other one. -/
def Reports (round : Round) : Prop := Notice.failures round.heard = round.failed.toList

/-- What passes in a round, in this order. -/
def passings (round : Round) : List Passing :=
  (Notice.failures round.heard).map .told ++ round.failed.toList.map .got

def told (rounds : List Round) : List Failure := rounds.flatMap fun round => Notice.failures round.heard

def got (rounds : List Round) : List Failure := rounds.filterMap failed

theorem got_eq (rounds : List Round) : got rounds = rounds.flatMap fun round => round.failed.toList :=
  List.filterMap_eq_flatMap_toList failed rounds

/-- All that passes in some rounds. -/
def record (rounds : List Round) : List Passing := rounds.flatMap passings

/-- The rounds of `n` steps. -/
def trace (step : σ → Round × σ) : Nat → σ → List Round
  | 0, _ => []
  | n + 1, state => (step state).1 :: trace step n (step state).2

/-- Nothing happens any more where a step changes nothing. -/
theorem trace_of_fixed {step : σ → Round × σ} {state : σ} (h : step state = (silent, state)) (n : Nat) :
    ∀ round ∈ trace step n state, round = silent := by
  induction n with
  | zero => intro round hr; cases hr
  | succ n ih =>
    rw [trace, h]
    exact List.forall_mem_cons.mpr ⟨rfl, ih⟩

/-- Whether some rounds keep to the rules: each one reports, and one with a failure is the last in which
anything happens. -/
structure Kept (rounds : List Round) : Prop where
  reports : ∀ round ∈ rounds, round.Reports
  closes : rounds.Pairwise fun round later => round.failed.isSome = true → later = silent

namespace Kept

variable {rounds : List Round}

theorem nil : Kept [] := ⟨(by simp), .nil⟩

theorem cons {round : Round} (hr : round.Reports)
    (hc : round.failed.isSome = true → ∀ later ∈ rounds, later = silent) (h : Kept rounds) :
    Kept (round :: rounds) where
  reports := List.forall_mem_cons.mpr ⟨hr, h.reports⟩
  closes := List.pairwise_cons.mpr ⟨fun later hl hs => hc hs later hl, h.closes⟩

theorem cons_silent (h : Kept rounds) : Kept (silent :: rounds) :=
  h.cons rfl fun hs => by cases hs

theorem told_eq (h : Kept rounds) : told rounds = got rounds := by
  rw [told, got_eq]
  exact List.flatMap_congr h.reports

theorem record_eq (h : Kept rounds) :
    record rounds = (got rounds).flatMap fun failure => [.told failure, .got failure] := by
  rw [record, got_eq, List.flatMap_assoc]
  refine List.flatMap_congr fun round hr => ?_
  have hround : Notice.failures round.heard = round.failed.toList := h.reports round hr
  rw [passings, hround]
  cases round.failed <;> rfl

end Kept

/-- Whether the failures in some rounds are accounted for. -/
structure Accounts (rounds : List Round) : Prop where
  /-- What the observer is told is what the caller gets, in the same order. -/
  told : told rounds = got rounds
  /-- Each failure is told right before the caller gets it. -/
  record : record rounds = (got rounds).flatMap fun failure => [.told failure, .got failure]
  /-- Behind a failure nothing is heard, and no other failure is got. -/
  closes : rounds.Pairwise fun round later => round.failed.isSome = true → later = silent

theorem Kept.accounts {rounds : List Round} (h : Kept rounds) : Accounts rounds :=
  ⟨h.told_eq, h.record_eq, h.closes⟩

end Round

/-! ## The rounds of an open stream -/

/-- The failure that an answer of a stream is. -/
def failureOf : Option Item → Option Failure
  | some (.error failure) => some failure
  | some (.ok _) | none => none

theorem failures_guardrailNotices (reports : Bool) (fields : Fields) :
    Notice.failures (guardrailNotices reports fields) = [] := by
  simp only [guardrailNotices]
  split <;> rfl

theorem failures_readNotices (reports : Bool) (item : Option Item) :
    Notice.failures (readNotices reports item) = (failureOf item).toList := by
  cases item with
  | none => rfl
  | some item =>
    cases item with
    | error failure => rfl
    | ok chunk =>
      cases chunk with
      | metadata fields => exact failures_guardrailNotices reports fields
      | _ => rfl

theorem exists_of_failureOf {item : Option Item} (h : (failureOf item).isSome = true) :
    ∃ failure, item = some (.error failure) := by
  cases item with
  | none => cases h
  | some item =>
    cases item with
    | error failure => exact ⟨failure, rfl⟩
    | ok chunk => cases h

namespace LiveStream

/-- The round in which a caller asks for the next item, and the stream behind it. -/
def round (stream : LiveStream) : Round × LiveStream :=
  (⟨stream.next.2.1, failureOf stream.next.1⟩, stream.next.2.2)

def rounds (stream : LiveStream) (n : Nat) : List Round := Round.trace round n stream

theorem round_reports (stream : LiveStream) : stream.round.1.Reports := failures_readNotices _ _

theorem done_of_round {stream : LiveStream} (h : stream.round.1.failed.isSome = true) :
    stream.next.2.2.decoder.machine.pull = .done := by
  obtain ⟨failure, hf⟩ := exists_of_failureOf h
  have hn : stream.decoder.next = (some (.error failure), stream.decoder.next.2) := by
    rw [← hf]; rfl
  exact StreamDecoder.done_of_next hn fun chunk hc => by cases hc

theorem round_of_done {stream : LiveStream} (h : stream.decoder.machine.pull = .done) :
    stream.round = (.silent, stream) := by
  rw [round, next, StreamDecoder.next_of_done h]
  rfl

theorem rounds_kept (n : Nat) : ∀ stream : LiveStream, Round.Kept (stream.rounds n) := by
  induction n with
  | zero => intro stream; exact .nil
  | succ n ih =>
    intro stream
    exact (ih _).cons stream.round_reports fun hs =>
      Round.trace_of_fixed (round_of_done (done_of_round hs)) n

end LiveStream

namespace PolledStream

/-- The round in which a caller polls for the next item, and the stream behind it. -/
def round (stream : PolledStream) : Round × PolledStream :=
  match stream.poll with
  | (.pending, heard, later) => (⟨heard, none⟩, later)
  | (.ready item, heard, later) => (⟨heard, failureOf item⟩, later)

def rounds (stream : PolledStream) (n : Nat) : List Round := Round.trace round n stream

theorem round_of_done {stream : PolledStream} (h : stream.decoder.machine.pull = .done) :
    stream.round = (.silent, stream) := by
  rw [round, poll_of_done h]
  rfl

/-- The rounds of a polled stream.  The stream that is read beside it shows what a poll can come to. -/
theorem rounds_kept (n : Nat) : ∀ {polled : PolledStream} {live : LiveStream}, Follows polled live →
    Round.Kept (polled.rounds n) := by
  induction n with
  | zero => intro polled live _; exact .nil
  | succ n ih =>
    intro polled live h
    have ho := poll_outcome h
    rw [rounds, Round.trace, round]
    generalize polled.poll = answer at ho ⊢
    cases ho with
    | waits later _ other hf _ _ => exact (ih hf).cons_silent
    | gives later hf =>
      -- The poll makes heard what the call makes heard, and the machines behind both are the same.
      refine (ih hf).cons live.round_reports fun hs => Round.trace_of_fixed (round_of_done ?_) n
      rw [hf.decoder.machine]
      exact LiveStream.done_of_round hs

end PolledStream

/-! ## The rounds of a call -/

/-- The round in which a caller sends a call. -/
def Exchange.round (exchange : Exchange α) : Round :=
  ⟨exchange.notices,
    match exchange.result with
    | .error failure => some failure
    | .ok _ => none⟩

/-- The round in which a caller sends a call, and those in which it uses what it got. -/
def Exchange.rounds (exchange : Exchange α) (use : α → List Round) : List Round :=
  exchange.round ::
    match exchange.result with
    | .error _ => []
    | .ok value => use value

namespace Invoker

open Round (Kept Accounts)

variable {invoker : Invoker} {transport : Transport} {call : Call}

/-- A call that cannot be prepared: the caller gets the failure, and the observer hears nothing. -/
theorem Opening.rounds_refused {opened : EventDecoder → List SourceItem → α} {exchange : Exchange α}
    (h : invoker.Opening transport call opened exchange) {failure : Failure}
    (hp : invoker.prepare call true = .error failure) (use : α → List Round) :
    exchange.rounds use = [⟨[], some failure⟩] := by
  cases h with
  | refused other hr => rw [hr] at hp; cases hp; rfl
  | failed prepared hr => rw [hr] at hp; cases hp
  | opens prepared hr => rw [hr] at hp; cases hp

theorem Opening.rounds_kept {opened : EventDecoder → List SourceItem → α} {exchange : Exchange α}
    (h : invoker.Opening transport call opened exchange) {prepared : Prepared}
    (hp : invoker.prepare call true = .ok prepared) {use : α → List Round}
    (hu : ∀ decoder events, Kept (use (opened decoder events))) : Kept (exchange.rounds use) := by
  cases h with
  | refused failure hr => rw [hr] at hp; cases hp
  | failed other hr failure ho => exact .cons rfl (fun _ _ h => by cases h) .nil
  | opens other hr events ho decoder hd => exact (hu decoder events).cons_silent

theorem failures_replyNotices (invoker : Invoker) (reply : Reply) :
    Notice.failures (invoker.replyNotices reply) = [] := by
  unfold replyNotices
  split
  · exact failures_guardrailNotices _ _
  · rfl

theorem invoke_reports (invoker : Invoker) (transport : Transport) (call : Call) {prepared : Prepared}
    (hp : invoker.prepare call false = .ok prepared) :
    (invoker.invoke transport call).round.Reports := by
  rw [invoke, hp]
  simp only [receive]
  cases transport.invoke prepared.request with
  | error failure => rfl
  | ok output =>
    simp only
    cases invoker.readReply output call.stops with
    | error failure => rfl
    | ok reply => exact failures_replyNotices invoker reply

/-- A failure to prepare a call is not reported.  All that fails behind that, in sending the call, in opening
its stream, and in reading the complete reply or any part of the stream, is told to the observer as it is
got by the caller: the same failures in the same order, each one told before it is got, and nothing more
behind it. -/
theorem failures_reported (invoker : Invoker) (transport : Transport) (call : Call) :
    (∀ failure, invoker.prepare call false = .error failure →
      (invoker.invoke transport call).round = ⟨[], some failure⟩ ∧
      ∀ waits, (invoker.invokeAwaited transport waits call).round = ⟨[], some failure⟩) ∧
    (∀ prepared, invoker.prepare call false = .ok prepared →
      Accounts [(invoker.invoke transport call).round] ∧
      ∀ waits, Accounts [(invoker.invokeAwaited transport waits call).round]) ∧
    (∀ failure, invoker.prepare call true = .error failure → ∀ n,
      (invoker.stream transport call).rounds (·.rounds n) = [⟨[], some failure⟩] ∧
      ∀ waits, (invoker.streamPolled transport waits call).rounds (·.rounds n)
        = [⟨[], some failure⟩]) ∧
    (∀ prepared, invoker.prepare call true = .ok prepared → ∀ n,
      Accounts ((invoker.stream transport call).rounds (·.rounds n)) ∧
      ∀ waits, Accounts ((invoker.streamPolled transport waits call).rounds (·.rounds n))) := by
  have reading := invoker.stream_opening transport call
  have polling := fun waits => invoker.streamPolled_opening transport waits call
  refine ⟨?_, ?_, ?_, ?_⟩
  · intro failure hp
    have refused : (invoker.invoke transport call).round = ⟨[], some failure⟩ := by
      rw [invoke, hp]
      rfl
    exact ⟨refused, fun waits => by rw [invokeAwaited_eq, refused]⟩
  · intro prepared hp
    have kept : Kept [(invoker.invoke transport call).round] :=
      .cons (invoker.invoke_reports transport call hp) (fun _ _ h => by cases h) .nil
    exact ⟨kept.accounts, fun waits => by rw [invokeAwaited_eq]; exact kept.accounts⟩
  · intro failure hp n
    exact ⟨reading.rounds_refused hp _, fun waits => (polling waits).rounds_refused hp _⟩
  · intro prepared hp n
    refine ⟨(reading.rounds_kept hp fun decoder events => ?_).accounts,
      fun waits => ((polling waits).rounds_kept hp fun decoder events => ?_).accounts⟩
    · exact LiveStream.rounds_kept n _
    · exact PolledStream.rounds_kept n (.opened decoder waits events _)

/-- A transport whose requests fail and whose streams break behind a first event.  The failure of the request is
told and got in the one round of the call, that of the stream in the second one of its four, and nothing comes
behind it. -/
theorem failures_reported_broken :
    let unsent : TransportFailure := ⟨.request, none⟩
    let cause : TransportFailure := ⟨.stream, none⟩
    let transport : Transport := ⟨fun _ => .error unsent, fun _ => .ok
      [.event "\x7b\"outputText\":\"hi\"\x7d".toUTF8, .failure cause,
        .event "\x7b\"outputText\":\".\"\x7d".toUTF8]⟩
    let invoker : Invoker :=
      ⟨⟨"amazon.titan-text-express-v1", none, none⟩, .amazon, .empty, .none⟩
    let call : Call := ⟨.prompt "hi", none, none, [], []⟩
    Round.record [(invoker.invoke transport call).round] =
      [.told (.transport unsent), .got (.transport unsent)] ∧
    Round.record ((invoker.stream transport call).rounds (·.rounds 4)) =
      [.told (.transport cause), .got (.transport cause)] := by
  intro unsent cause transport invoker call
  obtain ⟨-, invoked, -, streamed⟩ := failures_reported invoker transport call
  obtain ⟨waiting, -⟩ := invoked _ rfl
  obtain ⟨reading, -⟩ := streamed _ rfl 4
  rw [waiting.record, reading.record]
  exact ⟨rfl, rfl⟩

end Invoker

end Colloquy
