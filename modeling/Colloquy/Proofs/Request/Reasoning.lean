import Colloquy.Request.Reasoning
import Mathlib.Data.List.Forall2
import Mathlib.Data.List.Perm.Basic
/-!
# Where the reasoning stands in a conversation

Two passes put reasoning first: one over all turns behind the first message, and one over the turn that a
tool answer at the end replies to.  They meet in conversations of two messages only: in a longer one the
first pass has been over every turn that the second could change.

Results:
* `Message.withThinkingFirst_rearranged`, `Message.withThinkingFirst_thinksFirst`: what becomes of one
  message.
* `reasoningFirst_eq`: what becomes of a conversation.
* `reasoningFirst_rearranged`, `reasoningFirst_thinksFirst`, `reasoningFirst_reasoningFirst`: messages are
  rearranged in their place, their reasoning stands first, and a second time changes nothing.
-/
namespace Colloquy

/-! ## Blocks -/

theorem filter_rearranged (p : α → Bool) (items : List α) :
    (items.filter p ++ items.filter fun item => !p item).filter p = items.filter p ∧
      (items.filter p ++ items.filter fun item => !p item).filter (fun item => !p item)
        = items.filter fun item => !p item := by
  simp [List.filter_append, List.filter_filter]

/-- Blocks are left as they are exactly if reasoning, where there is any, stands first. -/
theorem thinkingFirst?_eq_none_iff {blocks : List ContentBlock} :
    thinkingFirst? blocks = none ↔
      (blocks.any ContentBlock.isThinking = true → blocks.head?.any ContentBlock.isThinking = true) := by
  unfold thinkingFirst?
  cases blocks.any ContentBlock.isThinking <;> cases blocks.head?.any ContentBlock.isThinking <;> simp

theorem eq_of_thinkingFirst? {blocks reordered : List ContentBlock}
    (h : thinkingFirst? blocks = some reordered) :
    reordered = blocks.filter ContentBlock.isThinking
      ++ blocks.filter (fun block => !block.isThinking) := by
  unfold thinkingFirst? at h
  split at h
  · cases h
  · exact (Option.some.inj h).symm

theorem head?_of_thinkingFirst? {blocks reordered : List ContentBlock}
    (h : thinkingFirst? blocks = some reordered) :
    reordered.head?.any ContentBlock.isThinking = true := by
  have some : blocks.any ContentBlock.isThinking = true := by
    by_contra hn
    have none := thinkingFirst?_eq_none_iff.mpr fun ha => absurd ha hn
    rw [h] at none
    cases none
  obtain ⟨block, hm, hb⟩ := List.any_eq_true.mp some
  rw [eq_of_thinkingFirst? h]
  cases hf : blocks.filter ContentBlock.isThinking with
  | nil =>
    have hin : block ∈ blocks.filter ContentBlock.isThinking := List.mem_filter.mpr ⟨hm, hb⟩
    rw [hf] at hin
    cases hin
  | cons first rest =>
    have hin : first ∈ blocks.filter ContentBlock.isThinking := by
      rw [hf]
      exact List.mem_cons_self
    exact (List.mem_filter.mp hin).2

/-! ## Messages -/

namespace Message

/-- Whether the reasoning in a turn of the assistant, where there is any, stands first. -/
def ThinksFirst (message : Message) : Prop :=
  message.role = .assistant → ∀ blocks, message.content = .blocks blocks →
    blocks.any ContentBlock.isThinking = true → blocks.head?.any ContentBlock.isThinking = true

/-- Whether a message stands for another one: turns of the user and plain text are the same, and in a turn of
the assistant the blocks may stand in another order, but not the reasoning blocks among themselves nor the
other ones among themselves. -/
structure Rearranged (message sent : Message) : Prop where
  role : sent.role = message.role
  user : message.role = .user → sent = message
  text : ∀ text, message.content = .text text → sent = message
  blocks : ∀ blocks, message.content = .blocks blocks →
    ∃ rearranged, sent.content = .blocks rearranged ∧ rearranged.Perm blocks ∧
      rearranged.filter ContentBlock.isThinking = blocks.filter ContentBlock.isThinking ∧
      rearranged.filter (fun block => !block.isThinking) = blocks.filter fun block => !block.isThinking

theorem Rearranged.refl (message : Message) : Rearranged message message where
  role := rfl
  user _ := rfl
  text _ _ := rfl
  blocks blocks h := ⟨blocks, h, .refl _, rfl, rfl⟩

/-- A message changes only as a turn of the assistant in which reasoning does not stand first. -/
theorem withThinkingFirst_cases (message : Message) :
    (message.ThinksFirst ∧ message.withThinkingFirst = message) ∨
      ∃ blocks reordered, message = ⟨.assistant, .blocks blocks⟩ ∧
        thinkingFirst? blocks = some reordered ∧
        message.withThinkingFirst = ⟨.assistant, .blocks reordered⟩ := by
  obtain ⟨role, content⟩ := message
  cases role with
  | user => exact .inl ⟨fun h => (by cases h), rfl⟩
  | assistant =>
    cases content with
    | text text => exact .inl ⟨fun _ blocks h => (by cases h), rfl⟩
    | blocks blocks =>
      cases ht : thinkingFirst? blocks with
      | none =>
        refine .inl ⟨fun _ others h => ?_, ?_⟩
        · cases h
          exact thinkingFirst?_eq_none_iff.mp ht
        · simp only [withThinkingFirst, ht]
      | some reordered =>
        refine .inr ⟨blocks, reordered, rfl, ht, ?_⟩
        simp only [withThinkingFirst, ht]

theorem withThinkingFirst_rearranged (message : Message) :
    Rearranged message message.withThinkingFirst := by
  rcases message.withThinkingFirst_cases with ⟨-, he⟩ | ⟨blocks, reordered, rfl, ht, he⟩
  · rw [he]
    exact .refl message
  · rw [he]
    refine ⟨rfl, fun h => (by cases h), fun text h => (by cases h), fun others h => ?_⟩
    cases h
    obtain rfl := eq_of_thinkingFirst? ht
    obtain ⟨thinking, others⟩ := filter_rearranged ContentBlock.isThinking blocks
    exact ⟨_, rfl, List.filter_append_perm _ _, thinking, others⟩

theorem withThinkingFirst_thinksFirst (message : Message) : message.withThinkingFirst.ThinksFirst := by
  rcases message.withThinkingFirst_cases with ⟨h, he⟩ | ⟨blocks, reordered, rfl, ht, he⟩
  · rw [he]
    exact h
  · rw [he]
    intro _ others h _
    cases h
    exact head?_of_thinkingFirst? ht

theorem withThinkingFirst_eq_self {message : Message} (h : message.ThinksFirst) :
    message.withThinkingFirst = message := by
  rcases message.withThinkingFirst_cases with ⟨-, he⟩ | ⟨blocks, reordered, rfl, ht, -⟩
  · exact he
  · have none := thinkingFirst?_eq_none_iff.mpr (h rfl blocks rfl)
    rw [ht] at none
    cases none

end Message

/-! ## Conversations -/

theorem thinkingFirstInHistory_thinksFirst (messages : List Message) :
    ∀ turn ∈ (thinkingFirstInHistory messages).tail, turn.ThinksFirst := by
  cases messages with
  | nil => exact List.forall_mem_nil _
  | cons first rest =>
    intro turn hm
    obtain ⟨message, -, rfl⟩ := List.mem_map.mp hm
    exact message.withThinkingFirst_thinksFirst

/-- A conversation in which all turns think first is left as it is. -/
theorem thinkingBeforeToolResult_eq_self {messages : List Message}
    (h : ∀ turn ∈ messages, turn.ThinksFirst) : thinkingBeforeToolResult messages = messages := by
  fun_induction thinkingBeforeToolResult messages with
  | case1 => rfl
  | case2 message => rfl
  | case3 answered answer ha => rw [Message.withThinkingFirst_eq_self (h _ List.mem_cons_self)]
  | case4 answered answer ha => rfl
  | case5 first second third rest ih => rw [ih fun turn hm => h turn (List.mem_cons_of_mem _ hm)]

/-- Whether a conversation is a turn that its only other message answers with the result of a tool. -/
def IsToolExchange (messages : List Message) : Prop :=
  ∃ answered answer, messages = [answered, answer] ∧ answer.role = .user ∧ answer.hasToolResult = true

/-- What both passes together make of a conversation. -/
def reasoningFirst (messages : List Message) : List Message :=
  thinkingBeforeToolResult (thinkingFirstInHistory messages)

theorem reasoningFirst_of_exchange {answered answer : Message} (hu : answer.role = .user)
    (ht : answer.hasToolResult = true) :
    reasoningFirst [answered, answer] = [answered.withThinkingFirst, answer] := by
  have same : answer.withThinkingFirst = answer := answer.withThinkingFirst_rearranged.user hu
  show thinkingBeforeToolResult [answered, answer.withThinkingFirst] = _
  rw [same, thinkingBeforeToolResult, if_pos ⟨hu, ht⟩]

theorem reasoningFirst_of_not_exchange {messages : List Message} (h : ¬ IsToolExchange messages) :
    reasoningFirst messages = thinkingFirstInHistory messages := by
  have history := thinkingFirstInHistory_thinksFirst messages
  unfold reasoningFirst
  match messages, h, history with
  | [], _, _ => rfl
  | [message], _, _ => rfl
  | [answered, answer], h, _ =>
    show thinkingBeforeToolResult [answered, answer.withThinkingFirst] = _
    refine if_neg fun hr => h ?_
    have hu : answer.role = .user := answer.withThinkingFirst_rearranged.role.symm.trans hr.1
    have same : answer.withThinkingFirst = answer := answer.withThinkingFirst_rearranged.user hu
    exact ⟨answered, answer, rfl, hu, same ▸ hr.2⟩
  | first :: second :: third :: rest, _, history =>
    -- The second pass begins at the first message but leaves it: it is followed by two others.
    show first :: thinkingBeforeToolResult (thinkingFirstInHistory (first :: second :: third :: rest)).tail = _
    rw [thinkingBeforeToolResult_eq_self history]
    rfl

theorem thinkingFirstInHistory_rearranged (messages : List Message) :
    List.Forall₂ Message.Rearranged messages (thinkingFirstInHistory messages) := by
  cases messages with
  | nil => exact .nil
  | cons first rest =>
    refine .cons (.refl first) (List.forall₂_map_right_iff.mpr ?_)
    exact List.forall₂_same.mpr fun message _ => message.withThinkingFirst_rearranged

/-- Each message stays in its place. -/
theorem reasoningFirst_rearranged (messages : List Message) :
    List.Forall₂ Message.Rearranged messages (reasoningFirst messages) := by
  by_cases h : IsToolExchange messages
  · obtain ⟨answered, answer, rfl, hu, ht⟩ := h
    rw [reasoningFirst_of_exchange hu ht]
    exact .cons answered.withThinkingFirst_rearranged (.cons (.refl answer) .nil)
  · rw [reasoningFirst_of_not_exchange h]
    exact thinkingFirstInHistory_rearranged messages

/-- Every turn behind the first message thinks first. -/
theorem reasoningFirst_thinksFirst (messages : List Message) :
    ∀ turn ∈ (reasoningFirst messages).tail, turn.ThinksFirst := by
  by_cases h : IsToolExchange messages
  · obtain ⟨answered, answer, rfl, hu, ht⟩ := h
    rw [reasoningFirst_of_exchange hu ht]
    intro turn hm hr
    rw [List.mem_singleton.mp hm, hu] at hr
    cases hr
  · rw [reasoningFirst_of_not_exchange h]
    exact thinkingFirstInHistory_thinksFirst messages

/-- In an exchange with a tool, the turn that is answered thinks first as well. -/
theorem reasoningFirst_exchange_thinksFirst {messages : List Message} (h : IsToolExchange messages) :
    ∀ turn ∈ reasoningFirst messages, turn.ThinksFirst := by
  have behind := reasoningFirst_thinksFirst messages
  obtain ⟨answered, answer, rfl, hu, ht⟩ := h
  rw [reasoningFirst_of_exchange hu ht] at behind ⊢
  intro turn hm
  rcases List.mem_cons.mp hm with rfl | hm
  · exact answered.withThinkingFirst_thinksFirst
  · exact behind turn hm

theorem thinkingFirstInHistory_eq_self {messages : List Message}
    (h : ∀ turn ∈ messages.tail, turn.ThinksFirst) : thinkingFirstInHistory messages = messages := by
  cases messages with
  | nil => rfl
  | cons first rest =>
    have same : rest.map Message.withThinkingFirst = rest := by
      calc rest.map Message.withThinkingFirst
          = rest.map id := List.map_congr_left fun turn hm => Message.withThinkingFirst_eq_self (h turn hm)
        _ = rest := List.map_id rest
    rw [thinkingFirstInHistory, same]

/-- A second time changes nothing. -/
theorem reasoningFirst_reasoningFirst (messages : List Message) :
    reasoningFirst (reasoningFirst messages) = reasoningFirst messages := by
  have history := thinkingFirstInHistory_eq_self (reasoningFirst_thinksFirst messages)
  rw [reasoningFirst, history]
  by_cases h : IsToolExchange messages
  · exact thinkingBeforeToolResult_eq_self (reasoningFirst_exchange_thinksFirst h)
  · rw [reasoningFirst_of_not_exchange h]
    exact reasoningFirst_of_not_exchange h

end Colloquy
