import Colloquy.Json.Reader
import Colloquy.Proofs.Json.Fields
/-!
# Objects that are read

An object may be written with its members in any order and with repeated keys.  An object that is the value of
a text is read with its members in the order of their keys, every key once.  It can only come from the token
that closes it: no scalar is an object.

Results:
* `Token.scan_inOrder`: no scalar of a text is an object out of order.
* `Reader.step_inOrder`: a token that completes the value of a text leaves it in order.
* `Json.ofBytes?_inOrder`: the value of a text is in order.
-/
namespace Colloquy

/-- Whether a value, if it is an object, has its members in the order of their keys, every key once. -/
def Json.InOrder (value : Json) : Prop := ∀ fields, value = .obj fields → Fields.Sorted fields

theorem Json.object_inOrder (members : List (String × Json)) : (object members).InOrder := by
  intro fields h
  cases h
  exact Fields.Sorted.merge List.Pairwise.nil members

theorem Json.arr_inOrder (items : List Json) : (arr items).InOrder := nofun

theorem Numeral.value?_inOrder {numeral : Numeral} {value : Json} (h : numeral.value? = some value) :
    value.InOrder := by
  unfold value? at h
  simp only at h
  split at h
  · cases h
    exact nofun
  split at h
  · cases h
    exact nofun
  · obtain ⟨x, -, rfl⟩ := Option.map_eq_some_iff.mp h
    exact nofun

/-! ## Tokens -/

namespace Token

/-- Whether a token, if it is a scalar, is none with members out of order. -/
def InOrder (token : Token) : Prop := ∀ value, token = scalar value → value.InOrder

theorem ofWord?_inOrder {word : List Char} {token : Token} (h : ofWord? word = some token) :
    token.InOrder := by
  unfold ofWord? at h
  split at h
  · cases h; rintro _ ⟨⟩; exact nofun
  split at h
  · cases h; rintro _ ⟨⟩; exact nofun
  split at h
  · cases h; rintro _ ⟨⟩; exact nofun
  · obtain ⟨numeral, -, rfl⟩ := Option.map_eq_some_iff.mp h
    intro value hv
    unfold ofNumeral at hv
    split at hv
    · cases hv
      exact Numeral.value?_inOrder ‹_›
    · cases hv

theorem punctuation?_inOrder {c : Char} {token : Token} (h : punctuation? c = some token) :
    token.InOrder := by
  unfold punctuation? at h
  split at h <;> cases h <;> exact nofun

theorem StringDraft.token_inOrder (draft : StringDraft) : draft.token.InOrder := by
  intro value hv
  unfold token at hv
  split at hv <;> cases hv
  exact nofun

def AllInOrder (scanned : Option (List Token)) : Prop :=
  ∀ tokens, scanned = some tokens → ∀ token ∈ tokens, token.InOrder

theorem AllInOrder.cons {first : Option Token} {rest : Option (List Token)}
    (hf : ∀ token, first = some token → token.InOrder) (hr : AllInOrder rest) :
    AllInOrder (first.bind fun token => rest.bind fun tokens => some (token :: tokens)) := by
  intro tokens h
  obtain ⟨token, ht, h⟩ := Option.bind_eq_some_iff.mp h
  obtain ⟨others, ho, h⟩ := Option.bind_eq_some_iff.mp h
  cases h
  exact List.forall_mem_cons.mpr ⟨hf token ht, hr others ho⟩

/-- An escape adds no token of its own. -/
theorem AllInOrder.bind {escaped : Option α} {further : α → Option (List Token)}
    (h : ∀ a, AllInOrder (further a)) : AllInOrder (escaped.bind further) := by
  intro tokens hb
  obtain ⟨a, -, ha⟩ := Option.bind_eq_some_iff.mp hb
  exact h a tokens ha

/-- Outside strings and inside of them no token that is scanned is out of order. -/
theorem scanFrom_inOrder :
    (∀ chars word, AllInOrder (scanFrom chars word)) ∧
      ∀ chars draft, AllInOrder (scanString chars draft) := by
  -- on the scanning itself, which goes back and forth between the two; the first six cases are outside
  apply scanFrom.mutual_induct
  case case1 =>
    intro word tokens h
    cases h
    exact nofun
  case case2 =>
    intro c rest word hw hg ih
    rwa [scanFrom, if_pos hw, if_pos hg]
  case case3 =>
    intro c rest word hw hg ih
    rw [scanFrom, if_pos hw, if_neg hg]
    exact .cons (fun _ => ofWord?_inOrder) ih
  case case4 =>
    intro c rest word hw hb ih
    rwa [scanFrom, if_neg hw, if_pos hb]
  case case5 =>
    intro rest word hw hb ih
    rwa [scanFrom, if_neg hw, if_neg hb, if_pos rfl]
  case case6 =>
    intro c rest word hw hb hq ih
    rw [scanFrom, if_neg hw, if_neg hb, if_neg hq]
    exact .cons (fun _ => punctuation?_inOrder) ih
  case case7 =>
    intro draft tokens h
    cases h
  case case8 =>
    intro rest draft ih
    rw [scanString]
    have hf : ∀ token, some draft.token = some token → token.InOrder := by
      rintro _ ⟨⟩
      exact draft.token_inOrder
    exact .cons hf ih
  case case9 =>
    intro a b c d rest draft ih
    rw [scanString]
    exact .bind ih
  case case10 =>
    intro c rest draft hu ih
    rw [scanString]
    · exact .bind ih
    · exact hu
  case case11 =>
    intro c rest draft h1 h2 h3 hc tokens h
    rw [scanString, if_pos hc] at h
    · cases h
    all_goals assumption
  case case12 =>
    intro c rest draft h1 h2 h3 hc ih
    rwa [scanString, if_neg hc]
    all_goals assumption

theorem scan_inOrder {text : String} {tokens : List Token} (h : scan text = some tokens) :
    ∀ token ∈ tokens, token.InOrder :=
  scanFrom_inOrder.1 _ _ tokens h

end Token

/-! ## The machine -/

namespace Reader

/-- Whether a reader, if it is at the end of the text, has a value that is in order. -/
def InOrder (reader : Reader) : Prop := ∀ value, reader = finished value → value.InOrder

theorem complete_inOrder {value : Json} (h : value.InOrder) (outer : List Frame) :
    (complete value outer).InOrder := by
  unfold complete
  split
  · rintro _ ⟨⟩
    exact h
  · exact nofun
  · exact nofun

theorem start_inOrder {reading : Reading} {outer : List Frame} {token : Token} {next : Reader}
    (ht : token.InOrder) (h : start reading outer token = some next) : next.InOrder := by
  unfold start at h
  split at h
  · cases h
    exact complete_inOrder (ht _ rfl) outer
  · split at h <;> cases h
    exact nofun
  · split at h <;> cases h
    exact nofun
  · cases h

/-- A token that ends the text leaves a value in order, whatever was read before. -/
theorem step_inOrder {reader next : Reader} {token : Token} (ht : token.InOrder)
    (h : step .plain reader token = some next) : next.InOrder := by
  unfold step at h
  split at h
  case h_1 => exact start_inOrder ht h
  case h_3 => exact start_inOrder ht h
  all_goals cases h
  case h_4 | h_11 => exact complete_inOrder (Json.object_inOrder _) _
  case h_2 | h_9 => exact complete_inOrder (Json.arr_inOrder _) _
  all_goals exact nofun

theorem foldlM_inOrder {tokens : List Token} {reader last : Reader} (hr : reader.InOrder)
    (ht : ∀ token ∈ tokens, token.InOrder) (h : tokens.foldlM (step .plain) reader = some last) :
    last.InOrder := by
  induction tokens generalizing reader with
  | nil =>
    cases h
    exact hr
  | cons token rest ih =>
    obtain ⟨hf, hrest⟩ := List.forall_mem_cons.mp ht
    rw [List.foldlM_cons] at h
    obtain ⟨next, hn, h⟩ := Option.bind_eq_some_iff.mp h
    exact ih (step_inOrder hf hn) hrest h

end Reader

/-! ## Texts -/

namespace Json

theorem ofText?_inOrder {text : String} {value : Json} (h : ofText? text = some value) :
    value.InOrder := by
  simp only [ofText?, Option.bind_eq_bind, Option.bind_eq_some_iff] at h
  obtain ⟨tokens, ht, reader, hr, hv⟩ := h
  have start : (Reader.atValue []).InOrder := nofun
  have order : reader.InOrder := Reader.foldlM_inOrder start (Token.scan_inOrder ht) hr
  unfold Reader.result? at hv
  split at hv <;> cases hv
  exact order _ rfl

theorem ofBytes?_inOrder {bytes : ByteArray} {value : Json} (h : ofBytes? bytes = some value) :
    value.InOrder := by
  obtain ⟨text, -, ht⟩ := Option.bind_eq_some_iff.mp h
  exact ofText?_inOrder ht

end Json

end Colloquy
