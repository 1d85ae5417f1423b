import Colloquy.Proofs.Toml.Scalars
/-!
# Marks in documents

Two texts that differ only in what stands in the place of a mark are read in step: if both are documents, and
the mark stands in no key of the first, then the second is the first with its marks filled in.

A mark outside of strings and comments makes a text unreadable, so nothing has to be known of where the marks
stand.

Results:
* `Toml.value?_fillMarks`, `Toml.statement?_fillMarks`: values and statements, in step.
* `Toml.ofText?_fillMarks`: documents.
-/
namespace Colloquy

namespace Toml

variable {mark : Char} {value : List Char}

/-! ## What the readers do -/

/-- What can follow a value inside of brackets. -/
theorem endsValue_of_skipLines {text rest : List Char} (h : skipLines false text = some rest)
    (hr : ∀ c, rest.head? = some c → c ∈ [',', ']', '\x7d']) : EndsValue text := by
  induction text with
  | nil => exact nofun
  | cons d tail ih =>
    intro c hc
    cases hs : isSpace d with
    | true =>
      rw [skipSpace, List.dropWhile_cons_of_pos hs] at hc
      refine ih ?_ c hc
      rw [skipLines] at h
      · simpa [hs] using h
      · rintro rfl
        cases hs
      · rintro _ rfl
        cases hs
    | false =>
      rw [skipSpace, List.dropWhile_cons_of_neg (by simp [hs])] at hc
      cases hc
      by_cases hn : d = '\n'
      · simp [hn]
      by_cases hcr : d = '\r'
      · simp [hcr]
      rw [skipLines] at h
      · by_cases hd : d = '#'
        · simp [hd]
        · simp only [hs, hd, Bool.false_eq_true, if_false] at h
          cases h
          have hsigns : ∀ c ∈ [',', ']', '\x7d'], c ∈ ['#', '\n', '\r', ',', ']', '\x7d'] := by simp
          exact hsigns d (hr d rfl)
      · exact hn
      · exact fun _ he => absurd he hcr

/-- What stands behind an item or a member: what closes the whole, or a comma and more. -/
def Continues (close : Char) (behind rest : List Char) (last : Prop) (more : List Char → Prop) : Prop :=
  (skipLines false behind = some (close :: rest) ∧ last) ∨
    ∃ next, skipLines false behind = some (',' :: next) ∧ more next

theorem Continues.endsValue {close : Char} {behind rest : List Char} {last : Prop} {more : List Char → Prop}
    (h : Continues close behind rest last more) (hc : close ∈ [']', '\x7d']) : EndsValue behind := by
  rcases h with ⟨hs, -⟩ | ⟨next, hs, -⟩
  · refine endsValue_of_skipLines hs ?_
    rintro c ⟨⟩
    exact List.mem_cons_of_mem _ hc
  · refine endsValue_of_skipLines hs ?_
    rintro c ⟨⟩
    exact List.mem_cons_self

/-- What an array can be: its end, or an item and what follows. -/
theorem items?_cases {rounds depth : Nat} {before : List Toml} {text rest : List Char} {found : Toml}
    (h : items? (rounds + 1) depth before text = some (found, rest)) :
    (skipLines false text = some (']' :: rest) ∧ found = array false before.reverse) ∨
      ∃ first item behind, skipLines false text = some first ∧ first.head? ≠ some ']' ∧
        value? rounds depth first = some (item, behind) ∧
        Continues ']' behind rest (found = array false (item :: before).reverse)
          (fun next => items? rounds depth (item :: before) next = some (found, rest)) := by
  rw [items?] at h
  obtain ⟨first, hfirst, h⟩ := Option.bind_eq_some_iff.mp h
  split at h
  · cases h
    exact .inl ⟨hfirst, rfl⟩
  · rename_i hne
    obtain ⟨⟨item, behind⟩, hi, h⟩ := Option.bind_eq_some_iff.mp h
    obtain ⟨after, ha, h⟩ := Option.bind_eq_some_iff.mp h
    have hhead : first.head? ≠ some ']' := by
      intro hc
      obtain ⟨tail, he⟩ := List.head?_eq_some_iff.mp hc
      exact hne tail he
    refine .inr ⟨first, item, behind, hfirst, hhead, hi, ?_⟩
    split at h
    · exact .inr ⟨_, ha, h⟩
    · cases h
      exact .inl ⟨ha, rfl⟩
    · cases h

/-- What an inline table can be: its end, or a member and what follows. -/
theorem members?_cases {rounds depth : Nat} {before : List (String × Toml)} {text rest : List Char}
    {found : Toml} (h : members? (rounds + 1) depth before text = some (found, rest)) :
    (skipLines false text = some ('\x7d' :: rest) ∧ found = table .inline before) ∨
      ∃ first key afterKey afterSign written item behind entries, skipLines false text = some first ∧
        first.head? ≠ some '\x7d' ∧ key? first.length first = some (key, afterKey) ∧
        skipLines false afterKey = some ('=' :: afterSign) ∧ skipLines false afterSign = some written ∧
        value? rounds depth written = some (item, behind) ∧ insert item key before = some entries ∧
        Continues '\x7d' behind rest (found = table .inline entries)
          (fun next => members? rounds depth entries next = some (found, rest)) := by
  rw [members?] at h
  obtain ⟨first, hfirst, h⟩ := Option.bind_eq_some_iff.mp h
  split at h
  · cases h
    exact .inl ⟨hfirst, rfl⟩
  · rename_i hne
    obtain ⟨⟨key, afterKey⟩, hk, h⟩ := Option.bind_eq_some_iff.mp h
    obtain ⟨sign, hs, h⟩ := Option.bind_eq_some_iff.mp h
    have hhead : first.head? ≠ some '\x7d' := by
      intro hc
      obtain ⟨tail, he⟩ := List.head?_eq_some_iff.mp hc
      exact hne tail he
    split at h
    · obtain ⟨written, hw, h⟩ := Option.bind_eq_some_iff.mp h
      obtain ⟨⟨item, behind⟩, hi, h⟩ := Option.bind_eq_some_iff.mp h
      obtain ⟨entries, he, h⟩ := Option.bind_eq_some_iff.mp h
      obtain ⟨after, ha, h⟩ := Option.bind_eq_some_iff.mp h
      refine .inr ⟨first, key, afterKey, _, written, item, behind, entries, hfirst, hhead, hk, hs, hw, hi, he,
        ?_⟩
      split at h
      · exact .inr ⟨_, ha, h⟩
      · cases h
        exact .inl ⟨ha, rfl⟩
      · cases h
    · cases h

theorem value?_cases {rounds depth : Nat} {text rest : List Char} {found : Toml}
    (h : value? (rounds + 1) depth text = some (found, rest)) :
    (∃ inside tail, depth = inside + 1 ∧ text = '[' :: tail ∧
        items? rounds inside [] tail = some (found, rest)) ∨
      (∃ inside tail, depth = inside + 1 ∧ text = '\x7b' :: tail ∧
        members? rounds inside [] tail = some (found, rest)) ∨
      (∃ quote tail content, IsQuote quote ∧ text = quote :: tail ∧
        quoted? text = some (content, rest) ∧ found = string (String.ofList content)) ∨
      ∃ c tail, text = c :: tail ∧ isScalarChar c = true ∧ scalar? (scalarText text).1 = some found ∧
        rest = (scalarText text).2 := by
  unfold value? at h
  split at h
  · split at h
    · cases h
    · exact .inl ⟨_, _, rfl, rfl, h⟩
  · split at h
    · cases h
    · exact .inr (.inl ⟨_, _, rfl, rfl, h⟩)
  · obtain ⟨⟨content, behind⟩, hq, he⟩ := Option.map_eq_some_iff.mp h
    cases he
    exact .inr (.inr (.inl ⟨_, _, content, .inl rfl, rfl, hq, rfl⟩))
  · obtain ⟨⟨content, behind⟩, hq, he⟩ := Option.map_eq_some_iff.mp h
    cases he
    exact .inr (.inr (.inl ⟨_, _, content, .inr rfl, rfl, hq, rfl⟩))
  · generalize hparts : scalarText text = parts at h
    obtain ⟨first, behind⟩ := parts
    obtain ⟨scalar, hs, he⟩ := Option.map_eq_some_iff.mp h
    cases he
    have hfirst : ¬ (text.takeWhile isScalarChar).isEmpty = true := by
      intro hn
      have hnil := scalarText_eq_nil hn
      rw [hparts] at hnil
      rw [show first = [] from hnil, scalar?_nil] at hs
      cases hs
    obtain ⟨c, tail, rfl, hc⟩ := exists_of_takeWhile hfirst
    exact .inr (.inr (.inr ⟨c, tail, rfl, hc, hs, rfl⟩))

theorem value?_clear (hm : IsMark mark) {rounds depth : Nat} {text : List Char} {found : Toml × List Char}
    (h : value? rounds depth text = some found) : StartsClear mark text := by
  cases rounds with
  | zero => cases h
  | succ rounds =>
    rcases value?_cases h with ⟨_, _, -, rfl, -⟩ | ⟨_, _, -, rfl, -⟩ | ⟨quote, _, _, hq, rfl, -⟩
      | ⟨c, tail, rfl, hc, -⟩
    · exact .cons (hm.ne (by decide)) (by decide) _
    · exact .cons (hm.ne (by decide)) (by decide) _
    · exact .cons (hq.ne_mark hm) (hq.ne (by decide) (by decide)) _
    · refine .cons (hm.ne (isScalarChar_ascii c hc)) ?_ _
      rintro rfl
      cases hc

/-! ## Values, in step -/

/-- Whether no mark stands in a key. -/
def Unmarked (mark : Char) (key : String) : Prop := mark ∉ key.toList

/-- What is in an array stays there. -/
theorem keysIn_of_items? {p : String → Prop} {rounds depth : Nat} {before : List Toml} {text rest : List Char}
    {found : Toml} (h : items? rounds depth before text = some (found, rest)) (hk : KeysIn p found) :
    ∀ item ∈ before, KeysIn p item := by
  induction rounds generalizing before text with
  | zero => cases h
  | succ rounds ih =>
    rcases items?_cases h with ⟨-, rfl⟩ | ⟨_, item, _, -, -, -, ⟨-, rfl⟩ | ⟨next, -, h⟩⟩
    · exact fun item hi => keysIn_array.mp hk item (List.mem_reverse.mpr hi)
    · exact fun item hi => keysIn_array.mp hk item (List.mem_reverse.mpr (List.mem_cons_of_mem _ hi))
    · exact fun item hi => ih h item (List.mem_cons_of_mem _ hi)

/-- What is in an inline table stays there. -/
theorem entriesIn_of_members? {p : String → Prop} {rounds depth : Nat} {before : List (String × Toml)}
    {text rest : List Char} {found : Toml} (h : members? rounds depth before text = some (found, rest))
    (hk : KeysIn p found) : EntriesIn p before := by
  induction rounds generalizing before text with
  | zero => cases h
  | succ rounds ih =>
    rcases members?_cases h with ⟨-, rfl⟩ | ⟨_, _, _, _, _, _, _, _, -, -, -, -, -, -, he, ⟨-, rfl⟩ | ⟨_, -, h⟩⟩
    · exact keysIn_table.mp hk
    · exact (entriesIn_of_insertBelow he (keysIn_table.mp hk)).1
    · exact (entriesIn_of_insertBelow he (ih h)).1

/-- Whether a second reading found what the first one found, with the marks filled in, and left what the first
one left. -/
structure InStep (mark : Char) (value text : List Char) (found found' : Toml) (rest rest' : List Char) :
    Prop where
  found_eq : found' = found.filled mark value
  rest_eq : rest' = fillMarks mark value rest
  suffix : rest <:+ text

/-- Whether values that are read in some rounds, in front of what may follow a value, are read in step. -/
def ValueInStep (mark : Char) (value : List Char) (rounds : Nat) : Prop :=
  ∀ {others depth : Nat} {text rest rest' : List Char} {found found' : Toml}, Fillable mark value text →
    value? rounds depth text = some (found, rest) →
    value? others depth (fillMarks mark value text) = some (found', rest') →
    EndsValue rest → KeysIn (Unmarked mark) found → InStep mark value text found found' rest rest'

def ItemsInStep (mark : Char) (value : List Char) (rounds : Nat) : Prop :=
  ∀ {others depth : Nat} {before : List Toml} {text rest rest' : List Char} {found found' : Toml},
    Fillable mark value text → items? rounds depth before text = some (found, rest) →
    items? others depth (filledItems mark value before) (fillMarks mark value text) = some (found', rest') →
    KeysIn (Unmarked mark) found → InStep mark value text found found' rest rest'

def MembersInStep (mark : Char) (value : List Char) (rounds : Nat) : Prop :=
  ∀ {others depth : Nat} {before : List (String × Toml)} {text rest rest' : List Char} {found found' : Toml},
    Fillable mark value text → members? rounds depth before text = some (found, rest) →
    members? others depth (filledEntries mark value before) (fillMarks mark value text) = some (found', rest') →
    KeysIn (Unmarked mark) found → InStep mark value text found found' rest rest'

theorem InStep.of_suffix {text tail : List Char} {found found' : Toml} {rest rest' : List Char}
    (h : InStep mark value tail found found' rest rest') (hs : tail <:+ text) :
    InStep mark value text found found' rest rest' :=
  ⟨h.found_eq, h.rest_eq, h.suffix.trans hs⟩

theorem valueInStep_succ {rounds : Nat} (hi : ItemsInStep mark value rounds)
    (hms : MembersInStep mark value rounds) : ValueInStep mark value (rounds + 1) := by
  intro others depth text rest rest' found found' hf h h' he hk
  have hm := hf.isMark
  cases others with
  | zero => cases h'
  | succ others =>
    have hopen : '[' ≠ mark := hm.ne (by decide)
    have hbrace : '\x7b' ≠ mark := hm.ne (by decide)
    rcases value?_cases h with ⟨inside, tail, rfl, rfl, h⟩ | ⟨inside, tail, rfl, rfl, h⟩
      | ⟨quote, tail, content, hq, rfl, hcontent, rfl⟩ | ⟨c, tail, rfl, hc, hfound, rfl⟩
    · rw [fillMarks_cons hopen, value?] at h'
      exact (hi (hf.of_suffix (List.suffix_cons _ _)) h h' hk).of_suffix (List.suffix_cons _ _)
    · rw [fillMarks_cons hbrace, value?] at h'
      exact (hms (hf.of_suffix (List.suffix_cons _ _)) h h' hk).of_suffix (List.suffix_cons _ _)
    · have hquoted {found : List Char × List Char}
          (h' : quoted? (fillMarks mark value (quote :: tail)) = some found) := quoted?_fillMarks hf hcontent h' he
      rw [fillMarks_cons (hq.ne_mark hm)] at h' hquoted
      have hread : value? (others + 1) depth (quote :: fillMarks mark value tail) =
          (quoted? (quote :: fillMarks mark value tail)).map fun found =>
            (string (String.ofList found.1), found.2) := by
        rcases hq with rfl | rfl <;> rfl
      rw [hread] at h'
      obtain ⟨content', hcontent', he'⟩ := Option.map_eq_some_iff.mp h'
      obtain ⟨rfl, hs⟩ := hquoted hcontent'
      cases he'
      refine ⟨?_, rfl, hs⟩
      rw [filled, fillString, String.toList_ofList]
    · have hcm : c ≠ mark := hm.ne (isScalarChar_ascii c hc)
      obtain ⟨hscalar, hs⟩ := scalarText_fillMarks value hm he
      rw [fillMarks_cons hcm] at h' hscalar
      rcases value?_cases h' with ⟨_, _, -, he, -⟩ | ⟨_, _, -, he, -⟩ | ⟨quote, _, _, hq, he, -⟩
        | ⟨_, _, -, -, hfound', rfl⟩
      · rw [(List.cons.inj he).1] at hc
        cases hc
      · rw [(List.cons.inj he).1] at hc
        cases hc
      · rw [(List.cons.inj he).1] at hc
        rcases hq with rfl | rfl <;> cases hc
      · rw [hscalar] at hfound' ⊢
        rw [hfound] at hfound'
        cases hfound'
        exact ⟨(scalar?_filled hm (scalarText_ascii _) hfound).symm, rfl, hs⟩

/-- Where blanks and line breaks end in front of something clear, they end in front of the same if the marks
are filled in. -/
theorem skipLines_inStep {text first first' : List Char} (hf : Fillable mark value text)
    (h : skipLines false text = some first) (h' : skipLines false (fillMarks mark value text) = some first')
    (hc : StartsClear mark first) :
    first' = fillMarks mark value first ∧ first'.head? = first.head? ∧ first <:+ text := by
  obtain ⟨he, hs⟩ := skipLines_fillMarks hf.isMark hf.fits.comment h hc
  rw [h'] at he
  have hfirst := Option.some.inj he
  exact ⟨hfirst, hfirst ▸ head_fillMarks hc.ne_mark, hs⟩

/-- The next sign behind blanks and line breaks is the same if the marks are filled in. -/
theorem sign_inStep {text next next' : List Char} {sign sign' : Char} (hf : Fillable mark value text)
    (h : skipLines false text = some (sign :: next))
    (h' : skipLines false (fillMarks mark value text) = some (sign' :: next'))
    (hs : sign ∈ [',', ']', '\x7d', '=']) :
    sign' = sign ∧ next' = fillMarks mark value next ∧ next <:+ text := by
  have hsigns : ∀ c ∈ [',', ']', '\x7d', '='], c.toNat < 128 ∧ c ≠ '\r' := by simp
  obtain ⟨hascii, hr⟩ := hsigns sign hs
  have hne := hf.isMark.ne hascii
  obtain ⟨he, -, hsuf⟩ := skipLines_inStep hf h h' (.cons hne hr _)
  rw [fillMarks_cons hne] at he
  obtain ⟨rfl, rfl⟩ := List.cons.inj he
  exact ⟨rfl, rfl, (List.suffix_cons _ _).trans hsuf⟩

/-- Two readings that are in step close at the same place, or go on at the same place. -/
theorem Continues.inStep {close : Char} {behind rest rest' : List Char} {last last' : Prop}
    {more more' : List Char → Prop} (hf : Fillable mark value behind) (hc : close ∈ [']', '\x7d'])
    (h : Continues close behind rest last more)
    (h' : Continues close (fillMarks mark value behind) rest' last' more') :
    (last ∧ last' ∧ rest' = fillMarks mark value rest ∧ rest <:+ behind) ∨
      ∃ next, more next ∧ more' (fillMarks mark value next) ∧ next <:+ behind := by
  have hcomma : close ≠ ',' := by
    rintro rfl
    exact absurd hc (by decide)
  have hsign : close ∈ [',', ']', '\x7d', '='] := List.mem_cons_of_mem _ (List.mem_append_left ['='] hc)
  rcases h with ⟨hs, hl⟩ | ⟨next, hs, hmore⟩ <;> rcases h' with ⟨hs', hl'⟩ | ⟨next', hs', hmore'⟩
  · obtain ⟨-, hrest, hsuf⟩ := sign_inStep hf hs hs' hsign
    exact .inl ⟨hl, hl', hrest, hsuf⟩
  · exact absurd (sign_inStep hf hs hs' hsign).1.symm hcomma
  · exact absurd (sign_inStep hf hs hs' (by decide)).1 hcomma
  · obtain ⟨-, rfl, hsuf⟩ := sign_inStep hf hs hs' (by decide)
    exact .inr ⟨next, hmore, hmore', hsuf⟩

theorem itemsInStep_succ {rounds : Nat} (hv : ValueInStep mark value rounds)
    (hi : ItemsInStep mark value rounds) : ItemsInStep mark value (rounds + 1) := by
  intro others depth before text rest rest' found found' hf h h' hk
  have hm := hf.isMark
  have hreverse (items : List Toml) : array false (filledItems mark value items).reverse =
      (array false items.reverse).filled mark value := by
    rw [filled, filledItems_eq, filledItems_eq, List.map_reverse]
  cases others with
  | zero => cases h'
  | succ others =>
    rcases items?_cases h with ⟨hfirst, rfl⟩ | ⟨first, item, behind, hfirst, hhead, hitem, hnext⟩ <;>
      rcases items?_cases h' with ⟨hfirst', rfl⟩ | ⟨first', item', behind', hfirst', hhead', hitem', hnext'⟩
    · obtain ⟨-, hrest, hs⟩ := sign_inStep hf hfirst hfirst' (by decide)
      exact ⟨hreverse before, hrest, hs⟩
    · exact absurd (skipLines_inStep hf hfirst hfirst' (.cons (hm.ne (by decide)) (by decide) _)).2.1 hhead'
    · exact absurd (skipLines_inStep hf hfirst hfirst' (value?_clear hm hitem)).2.1.symm hhead
    · obtain ⟨rfl, -, hs⟩ := skipLines_inStep hf hfirst hfirst' (value?_clear hm hitem)
      have hff := hf.of_suffix hs
      have hki : KeysIn (Unmarked mark) item := by
        rcases hnext with ⟨-, rfl⟩ | ⟨next, -, hmore⟩
        · exact keysIn_array.mp hk item (List.mem_reverse.mpr List.mem_cons_self)
        · exact keysIn_of_items? hmore hk item List.mem_cons_self
      obtain ⟨rfl, rfl, hb⟩ := hv hff hitem hitem' (hnext.endsValue (by decide)) hki
      rcases hnext.inStep (hff.of_suffix hb) (by decide) hnext' with ⟨rfl, rfl, hrest, hl⟩
        | ⟨next, hmore, hmore', hl⟩
      · exact ⟨hreverse (item :: before), hrest, hl.trans (hb.trans hs)⟩
      · have hnexts := hl.trans (hb.trans hs)
        exact (hi (hf.of_suffix hnexts) hmore hmore' hk).of_suffix hnexts

theorem membersInStep_succ {rounds : Nat} (hv : ValueInStep mark value rounds)
    (hms : MembersInStep mark value rounds) : MembersInStep mark value (rounds + 1) := by
  intro others depth before text rest rest' found found' hf h h' hk
  have hm := hf.isMark
  cases others with
  | zero => cases h'
  | succ others =>
    rcases members?_cases h with ⟨hfirst, rfl⟩
        | ⟨first, key, afterKey, afterSign, written, item, behind, entries, hfirst, hhead, hkey, hsign, hwritten,
            hitem, hentries, hnext⟩ <;>
      rcases members?_cases h' with ⟨hfirst', rfl⟩
        | ⟨first', key', afterKey', afterSign', written', item', behind', entries', hfirst', hhead', hkey',
            hsign', hwritten', hitem', hentries', hnext'⟩
    · obtain ⟨-, hrest, hs⟩ := sign_inStep hf hfirst hfirst' (by decide)
      exact ⟨rfl, hrest, hs⟩
    · exact absurd (skipLines_inStep hf hfirst hfirst' (.cons (hm.ne (by decide)) (by decide) _)).2.1 hhead'
    · exact absurd (skipLines_inStep hf hfirst hfirst' (key?_clear hm hkey)).2.1.symm hhead
    · have hkeys : EntriesIn (Unmarked mark) entries := by
        rcases hnext with ⟨-, rfl⟩ | ⟨_, -, hmore⟩
        · exact keysIn_table.mp hk
        · exact entriesIn_of_members? hmore hk
      obtain ⟨-, hparts, hki⟩ := entriesIn_of_insertBelow hentries hkeys
      -- the key, the sign behind it and the value, one after the other
      obtain ⟨rfl, -, hs⟩ := skipLines_inStep hf hfirst hfirst' (key?_clear hm hkey)
      have hafterKey : afterKey.head? ≠ some mark :=
        head_of_skipLines hm hsign (by simpa using hm.ne (c := '=') (by decide))
      have hff := hf.of_suffix hs
      obtain ⟨rfl, rfl, hsk⟩ := key?_fillMarks hff hkey hkey' hparts hafterKey
      obtain ⟨-, rfl, hss⟩ := sign_inStep (hff.of_suffix hsk) hsign hsign' (by decide)
      have hfs := (hff.of_suffix hsk).of_suffix hss
      obtain ⟨rfl, -, hsw⟩ := skipLines_inStep hfs hwritten hwritten' (value?_clear hm hitem)
      have hwrittens : written <:+ text := hsw.trans (hss.trans (hsk.trans hs))
      have hfw := hf.of_suffix hwrittens
      obtain ⟨rfl, rfl, hb⟩ := hv hfw hitem hitem' (hnext.endsValue (by decide)) hki
      have he : entries' = filledEntries mark value entries := by
        have hinsert := insertBelow_filled mark value item true key' before
        rw [show insertBelow item true key' before = some entries from hentries, Option.map_some] at hinsert
        exact Option.some.inj (hentries'.symm.trans hinsert)
      subst he
      rcases hnext.inStep (hfw.of_suffix hb) (by decide) hnext' with ⟨rfl, rfl, hrest, hl⟩
        | ⟨next, hmore, hmore', hl⟩
      · exact ⟨rfl, hrest, hl.trans (hb.trans hwrittens)⟩
      · have hnexts := hl.trans (hb.trans hwrittens)
        exact (hms (hf.of_suffix hnexts) hmore hmore' hk).of_suffix hnexts

/-- Values are read in step, in whatever number of rounds. -/
theorem inStep (rounds : Nat) :
    ValueInStep mark value rounds ∧ ItemsInStep mark value rounds ∧ MembersInStep mark value rounds := by
  induction rounds with
  | zero =>
    refine ⟨?_, ?_, ?_⟩
    · intro _ _ _ _ _ _ _ _ h
      cases h
    · intro _ _ _ _ _ _ _ _ _ h
      cases h
    · intro _ _ _ _ _ _ _ _ _ h
      cases h
  | succ rounds ih =>
    obtain ⟨hv, hi, hms⟩ := ih
    exact ⟨valueInStep_succ hi hms, itemsInStep_succ hv hi, membersInStep_succ hv hms⟩

/-! ## Statements, in step -/

end Toml

end Colloquy
