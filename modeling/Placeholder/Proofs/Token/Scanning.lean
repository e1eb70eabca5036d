import Mathlib.Data.List.Pairwise
import Mathlib.Data.List.Sort
import Placeholder.Proofs.Token.Grammar
import Placeholder.Token.Scan

/-!
# Scanning

Which tokens a scan of a text finds.  A token starts at a place of a text if what begins there can
be cut so that its first part is a token by itself; there is at most one such part
(`eq_of_ofText?_append`).

There are three groups of lemmas.

* The scan of a part of a text.  `tokensFrom` is the scan of a text that begins at a place, with
  one equation for each thing that it does at a place.  `tokensFrom_eq_search` says that it is the
  same as searching for the pattern again and again.
* What the scan keeps.  Each found token stands where it says, and none starts before the place
  where the scan has begun, so the tokens come in order.  Where a token starts, the scan either
  takes it or is inside of another one.
* Leftmost tokens.  `Leftmost` says of a list of tokens that they stand in the text in order and
  cover every start.  There is only one such list.

Main statement: `allIn_exact`.
-/

namespace Placeholder

/-! ## The scan of a part of a text -/

namespace Piece

variable {place : Nat} {cs rest : List Char} {token : Token}

theorem ofText_of_front? (h : Token.front? place cs = some (token, rest)) :
    ofText place cs = .found token :: ofText token.stop rest := by
  rw [ofText.eq_def]
  split
  · next found after hfound =>
    rw [h] at hfound
    obtain ⟨rfl, rfl⟩ := Prod.mk.inj (Option.some.inj hfound)
    rfl
  · next hnone =>
    rw [h] at hnone
    simp at hnone

theorem ofText_nil : ofText place [] = [] := by
  rw [ofText.eq_def]
  rfl

theorem ofText_cons {c : Char} (h : Token.front? place (c :: cs) = none) :
    ofText place (c :: cs) = .gap c :: ofText (place + c.utf8Size) cs := by
  rw [ofText.eq_def]
  split
  · next found after hfound =>
    rw [h] at hfound
    simp at hfound
  · rfl

end Piece

namespace Token

/-- The tokens of a text that begins at the given place. -/
def tokensFrom (place : Nat) (cs : List Char) : List Token :=
  (Piece.ofText place cs).filterMap Piece.token?

theorem allIn_eq_tokensFrom (text : String) : allIn text = tokensFrom 0 text.toList := rfl

variable {place : Nat} {cs rest : List Char} {token : Token}

theorem tokensFrom_of_front? (h : front? place cs = some (token, rest)) :
    tokensFrom place cs = token :: tokensFrom token.stop rest := by
  rw [tokensFrom, Piece.ofText_of_front? h]
  rfl

theorem tokensFrom_nil : tokensFrom place [] = [] := by
  rw [tokensFrom, Piece.ofText_nil]
  rfl

theorem tokensFrom_cons {c : Char} (h : front? place (c :: cs) = none) :
    tokensFrom place (c :: cs) = tokensFrom (place + c.utf8Size) cs := by
  rw [tokensFrom, Piece.ofText_cons h]
  rfl

/-- Induction along a scan: at each place it takes a token or passes over a character. -/
theorem scan_induction {motive : Nat → List Char → Prop}
    (nil : ∀ place, motive place [])
    (found : ∀ place cs token rest, front? place cs = some (token, rest) →
      motive token.stop rest → motive place cs)
    (gap : ∀ place c cs, front? place (c :: cs) = none →
      motive (place + c.utf8Size) cs → motive place (c :: cs))
    (place : Nat) (cs : List Char) : motive place cs := by
  induction place, cs using Piece.ofText.induct with
  | case1 place cs token rest h ih => exact found place cs token rest h ih
  | case2 place h => exact nil place
  | case3 place c cs h ih => exact gap place c cs h ih

/-! ## What stands in front of a text -/

/-- What a token in front of a text is: it begins the text, it stands where the text begins, and
it is the same token when it is read by itself. -/
theorem front?_spec (h : front? place cs = some (token, rest)) :
    cs = token.raw.toList ++ rest ∧ token.start = place ∧
      token.stop = place + Text.utf8Length token.raw.toList ∧
        ofText? token.raw = some { token with start := 0, stop := token.raw.utf8ByteSize } := by
  obtain ⟨written, hwf, hcs, rfl⟩ := front?_eq_some_iff.1 h
  have hraw : (written.token place).raw.toList = written.text := String.toList_ofList
  refine ⟨by rw [hraw, hcs], rfl, by rw [hraw]; rfl, ?_⟩
  have hself : ofText? (written.token place).raw = some (written.token 0) :=
    ofText?_eq_some_iff.2 ⟨written, hwf, hraw, rfl⟩
  have hstop : (written.token 0).stop = (written.token place).raw.utf8ByteSize := by
    rw [← Text.utf8Length_toList, hraw]
    exact Nat.zero_add _
  rw [hself, ← hstop]
  rfl

/-- A text that is one token is what is written of the token. -/
theorem raw_of_ofText? {text : String} (h : ofText? text = some token) : token.raw = text := by
  obtain ⟨written, -, htext, rfl⟩ := ofText?_eq_some_iff.1 h
  show String.ofList written.text = text
  rw [← htext, String.ofList_toList]

theorem start_lt_stop (h : front? place cs = some (token, rest)) : token.start < token.stop := by
  obtain ⟨written, -, -, rfl⟩ := front?_eq_some_iff.1 h
  have hbrace : 0 < '{'.utf8Size := '{'.utf8Size_pos
  have hstop : (written.token place).stop = place + ('{'.utf8Size + ('{'.utf8Size +
      Text.utf8Length (written.inner ++ ['}', '}']))) := rfl
  have hstart : (written.token place).start = place := rfl
  omega

/-- Which token is in front of a text depends on the place only in the bounds. -/
theorem front?_isSome_iff (place : Nat) :
    (front? place cs).isSome ↔ ∃ spelled after : List Char,
      cs = spelled ++ after ∧ (ofText? (String.ofList spelled)).isSome := by
  constructor
  · intro h
    obtain ⟨⟨token, rest⟩, hfront⟩ := Option.isSome_iff_exists.1 h
    obtain ⟨hcs, -, -, hself⟩ := front?_spec hfront
    refine ⟨token.raw.toList, rest, hcs, ?_⟩
    rw [String.ofList_toList, hself, Option.isSome_some]
  · intro h
    rcases h with ⟨spelled, after, rfl, h⟩
    obtain ⟨token, htoken⟩ := Option.isSome_iff_exists.1 h
    obtain ⟨written, hwf, hspelled, -⟩ := ofText?_eq_some_iff.1 htoken
    rw [String.toList_ofList] at hspelled
    rw [hspelled, WrittenToken.front?_text_append hwf, Option.isSome_some]

/-- At most one part in front of a text is a token. -/
theorem eq_of_ofText?_append {spelled spelled' after after' : List Char}
    (h : spelled ++ after = spelled' ++ after')
    (hs : (ofText? (String.ofList spelled)).isSome)
    (hs' : (ofText? (String.ofList spelled')).isSome) : spelled = spelled' := by
  obtain ⟨token, htoken⟩ := Option.isSome_iff_exists.1 hs
  obtain ⟨token', htoken'⟩ := Option.isSome_iff_exists.1 hs'
  obtain ⟨written, hwf, hspelled, -⟩ := ofText?_eq_some_iff.1 htoken
  obtain ⟨written', hwf', hspelled', -⟩ := ofText?_eq_some_iff.1 htoken'
  rw [String.toList_ofList] at hspelled hspelled'
  have hfront := WrittenToken.front?_text_append hwf 0 after
  have hfront' := WrittenToken.front?_text_append hwf' 0 after'
  rw [← hspelled, h, hspelled', hfront'] at hfront
  obtain ⟨-, rfl⟩ := Prod.mk.inj (Option.some.inj hfront)
  exact List.append_cancel_right h

/-! ## Scanning as repeated search -/

/-- Where the scan takes a token the pattern has its match. -/
theorem exists_search?_of_front? (h : front? place cs = some (token, rest)) :
    ∃ way, pattern.search? place cs = some (place, way) ∧ ofWay? place way = some token ∧
      way.rest = rest := by
  cases hways : pattern.ways place cs with
  | nil =>
    rw [front?_eq_none_of_ways hways] at h
    simp at h
  | cons way others =>
    have hmem : way ∈ pattern.ways place cs := hways ▸ List.mem_cons_self
    obtain ⟨found, hway, hfront⟩ := front?_of_mem_ways hmem
    rw [h] at hfront
    obtain ⟨rfl, hrest⟩ := Prod.mk.inj (Option.some.inj hfront)
    exact ⟨way, Pattern.search?_of_ways hways, hway, hrest.symm⟩

/-- Where the scan finds no token the pattern has no way to match. -/
theorem ways_eq_nil_of_front? (h : front? place cs = none) : pattern.ways place cs = [] := by
  rw [List.eq_nil_iff_forall_not_mem]
  intro way hway
  obtain ⟨token, -, hfront⟩ := front?_of_mem_ways hway
  rw [h] at hfront
  simp at hfront

/-- To scan a text is to search it for the pattern, and to go on in the same way after the
match. -/
theorem tokensFrom_eq_search (place : Nat) (cs : List Char) :
    tokensFrom place cs =
      match pattern.search? place cs with
      | some (start, way) =>
        match ofWay? start way with
        | some token => token :: tokensFrom token.stop way.rest
        | none => []
      | none => [] := by
  induction place, cs using scan_induction with
  | nil place =>
    have hfront : front? place [] = none := rfl
    rw [tokensFrom_nil, Pattern.search?_nil (ways_eq_nil_of_front? hfront)]
  | found place cs token rest h ih =>
    obtain ⟨way, hsearch, hway, hrest⟩ := exists_search?_of_front? h
    rw [tokensFrom_of_front? h, hsearch]
    simp only [hway, hrest]
  | gap place c cs h ih =>
    rw [tokensFrom_cons h, Pattern.search?_cons (ways_eq_nil_of_front? h)]
    exact ih

/-! ## What the scan keeps -/

/-- The token stands in a text that begins at the given place. -/
def StandsFrom (place : Nat) (cs : List Char) (token : Token) : Prop :=
  ∃ before after : List Char, cs = before ++ (token.raw.toList ++ after) ∧
    token.start = place + Text.utf8Length before ∧
      token.stop = token.start + Text.utf8Length token.raw.toList

/-- A token starts at a place of a text that begins at another place. -/
def StartsFrom (place : Nat) (cs : List Char) (start : Nat) : Prop :=
  ∃ before rest : List Char, cs = before ++ rest ∧ start = place + Text.utf8Length before ∧
    (front? start rest).isSome

theorem StandsFrom.append {before : List Char} {place' : Nat}
    (hplace : place' = place + Text.utf8Length before) (h : token.StandsFrom place' cs) :
    token.StandsFrom place (before ++ cs) := by
  obtain ⟨skipped, after, rfl, hstart, hstop⟩ := h
  refine ⟨before ++ skipped, after, (List.append_assoc ..).symm, ?_, hstop⟩
  rw [hstart, hplace, Text.utf8Length_append, Nat.add_assoc]

theorem standsFrom_of_front? (h : front? place cs = some (token, rest)) :
    token.StandsFrom place cs := by
  obtain ⟨hcs, hstart, hstop, -⟩ := front?_spec h
  exact ⟨[], rest, hcs, hstart, by rw [hstop, hstart]⟩

/-- What a scan says of each token that it finds. -/
structure Found (place : Nat) (cs : List Char) (token : Token) : Prop where
  place_le : place ≤ token.start
  start_lt_stop : token.start < token.stop
  stands : token.StandsFrom place cs
  reads : ofText? token.raw = some { token with start := 0, stop := token.raw.utf8ByteSize }

theorem Found.append {before : List Char} {place' : Nat}
    (hplace : place' = place + Text.utf8Length before) (h : Found place' cs token) :
    Found place (before ++ cs) token where
  place_le := by
    have hle := h.place_le
    omega
  start_lt_stop := h.start_lt_stop
  stands := h.stands.append hplace
  reads := h.reads

theorem found_of_front? (h : front? place cs = some (token, rest)) : Found place cs token where
  place_le := Nat.le_of_eq (front?_spec h).2.1.symm
  start_lt_stop := Token.start_lt_stop h
  stands := standsFrom_of_front? h
  reads := (front?_spec h).2.2.2

theorem found_of_mem_tokensFrom (place : Nat) (cs : List Char) :
    ∀ token ∈ tokensFrom place cs, Found place cs token := by
  induction place, cs using scan_induction with
  | nil place =>
    intro token htoken
    rw [tokensFrom_nil] at htoken
    simp at htoken
  | found place cs first rest h ih =>
    intro token htoken
    rw [tokensFrom_of_front? h] at htoken
    rcases List.mem_cons.1 htoken with rfl | hmem
    · exact found_of_front? h
    · obtain ⟨hcs, -, hstop, -⟩ := front?_spec h
      rw [hcs]
      exact (ih token hmem).append hstop
  | gap place c cs h ih =>
    intro token htoken
    rw [tokensFrom_cons h] at htoken
    have hplace : place + c.utf8Size = place + Text.utf8Length [c] := rfl
    exact (ih token htoken).append hplace

theorem pairwise_tokensFrom (place : Nat) (cs : List Char) :
    (tokensFrom place cs).Pairwise fun first second => first.stop ≤ second.start := by
  induction place, cs using scan_induction with
  | nil place =>
    rw [tokensFrom_nil]
    exact List.Pairwise.nil
  | found place cs first rest h ih =>
    rw [tokensFrom_of_front? h, List.pairwise_cons]
    exact ⟨fun token htoken => (found_of_mem_tokensFrom _ _ token htoken).place_le, ih⟩
  | gap place c cs h ih =>
    rw [tokensFrom_cons h]
    exact ih

/-- Of two divisions of a text, the one with the longer first part divides the rest of the
other. -/
theorem exists_append_of_utf8Length_le {before rest before' rest' : List Char}
    (h : before ++ rest = before' ++ rest')
    (hle : Text.utf8Length before ≤ Text.utf8Length before') :
    ∃ between, before' = before ++ between ∧ rest = between ++ rest' := by
  rcases List.append_eq_append_iff.1 h with ⟨between, hbefore', hrest⟩ | ⟨between, hbefore, hrest'⟩
  · exact ⟨between, hbefore', hrest⟩
  · have hlen : Text.utf8Length between = 0 := by
      rw [hbefore, Text.utf8Length_append] at hle
      omega
    cases between with
    | nil =>
      rw [List.append_nil] at hbefore
      rw [List.nil_append] at hrest'
      exact ⟨[], by rw [hbefore, List.append_nil], by rw [hrest', List.nil_append]⟩
    | cons c between =>
      have hsize : 0 < c.utf8Size := c.utf8Size_pos
      rw [Text.utf8Length] at hlen
      omega

/-- Wherever a token starts, the scan has taken a token that covers the place. -/
theorem exists_mem_tokensFrom_of_startsFrom (place : Nat) (cs : List Char) :
    ∀ start, StartsFrom place cs start →
      ∃ token ∈ tokensFrom place cs, token.start ≤ start ∧ start < token.stop := by
  induction place, cs using scan_induction with
  | nil place =>
    intro start hstarts
    rcases hstarts with ⟨before, rest, hcs, -, h⟩
    obtain ⟨-, rfl⟩ := List.append_eq_nil_iff.1 hcs.symm
    simp [front?] at h
  | found place cs token rest h ih =>
    intro start hstarts
    rcases hstarts with ⟨before, rest', hcs', hstart, hsome⟩
    obtain ⟨hcs, hplace, hstop, -⟩ := front?_spec h
    rw [tokensFrom_of_front? h]
    by_cases hin : start < token.stop
    · exact ⟨token, List.mem_cons_self, by omega, hin⟩
    · have hle : Text.utf8Length token.raw.toList ≤ Text.utf8Length before := by omega
      obtain ⟨between, rfl, hrest⟩ := exists_append_of_utf8Length_le (hcs.symm.trans hcs') hle
      have hlen := Text.utf8Length_append token.raw.toList between
      obtain ⟨covering, hmem, hcovers⟩ := ih start ⟨between, rest', hrest, by omega, hsome⟩
      exact ⟨covering, List.mem_cons_of_mem _ hmem, hcovers⟩
  | gap place c cs h ih =>
    intro start hstarts
    rcases hstarts with ⟨before, rest, hcs, hstart, hsome⟩
    rw [tokensFrom_cons h]
    cases before with
    | nil =>
      -- Here the scan has looked and found no token.
      rw [List.nil_append] at hcs
      rw [Text.utf8Length_nil, Nat.add_zero] at hstart
      rw [hstart, ← hcs, h] at hsome
      simp at hsome
    | cons d before =>
      obtain ⟨rfl, htail⟩ := List.cons.inj hcs
      rw [Text.utf8Length] at hstart
      exact ih start ⟨before, rest, htail, by omega, hsome⟩

/-! ## Leftmost tokens -/

/-- The token stands in the text: its text is there, between its two bounds. -/
def StandsIn (text : String) (token : Token) : Prop :=
  ∃ before after : String, text = before ++ token.raw ++ after ∧
    token.start = before.utf8ByteSize ∧ token.stop = (before ++ token.raw).utf8ByteSize

/-- A token starts at a place: the text can be cut there, and some first part of what follows is a
token. -/
def StartsAt (text : String) (place : Nat) : Prop :=
  ∃ before spelled after : String, text = before ++ spelled ++ after ∧
    before.utf8ByteSize = place ∧ (ofText? spelled).isSome

theorem standsIn_iff {text : String} : StandsIn text token ↔ token.StandsFrom 0 text.toList := by
  constructor
  · intro h
    rcases h with ⟨before, after, rfl, hstart, hstop⟩
    refine ⟨before.toList, after.toList, by simp, ?_, ?_⟩
    · rw [hstart, Text.utf8Length_toList, Nat.zero_add]
    · rw [hstop, hstart, String.utf8ByteSize_append, Text.utf8Length_toList]
  · intro h
    rcases h with ⟨before, after, htext, hstart, hstop⟩
    rw [Nat.zero_add] at hstart
    refine ⟨String.ofList before, String.ofList after, ?_, ?_, ?_⟩
    · rw [← String.toList_inj]
      simpa using htext
    · rw [hstart, Text.utf8ByteSize_ofList]
    · rw [hstop, hstart, String.utf8ByteSize_append, Text.utf8ByteSize_ofList,
        Text.utf8Length_toList]

theorem startsAt_iff {text : String} {place : Nat} :
    StartsAt text place ↔ StartsFrom 0 text.toList place := by
  constructor
  · intro h
    rcases h with ⟨before, spelled, after, rfl, hplace, h⟩
    refine ⟨before.toList, spelled.toList ++ after.toList, by simp, ?_, ?_⟩
    · rw [← hplace, Text.utf8Length_toList, Nat.zero_add]
    · exact (front?_isSome_iff _).2
        ⟨spelled.toList, after.toList, rfl, by rwa [String.ofList_toList]⟩
  · intro h
    rcases h with ⟨before, rest, htext, hplace, h⟩
    obtain ⟨spelled, after, rfl, hs⟩ := (front?_isSome_iff _).1 h
    refine ⟨String.ofList before, String.ofList spelled, String.ofList after, ?_, ?_, hs⟩
    · rw [← String.toList_inj]
      simpa using htext
    · rw [hplace, Text.utf8ByteSize_ofList, Nat.zero_add]

/-- The tokens are those that are found in the text from left to right, each at the first place
after the one before it. -/
structure Leftmost (text : String) (tokens : List Token) : Prop where
  ordered : tokens.Pairwise fun first second => first.stop ≤ second.start
  stands : ∀ token ∈ tokens, StandsIn text token
  reads : ∀ token ∈ tokens,
    ofText? token.raw = some { token with start := 0, stop := token.raw.utf8ByteSize }
  covers : ∀ place, StartsAt text place →
    ∃ token ∈ tokens, token.start ≤ place ∧ place < token.stop

theorem leftmost_allIn (text : String) : Leftmost text (allIn text) where
  ordered := pairwise_tokensFrom 0 text.toList
  stands := fun token h => standsIn_iff.2 (found_of_mem_tokensFrom 0 text.toList token h).stands
  reads := fun token h => (found_of_mem_tokensFrom 0 text.toList token h).reads
  covers := fun place h =>
    exists_mem_tokensFrom_of_startsFrom 0 text.toList place (startsAt_iff.1 h)

namespace Leftmost

variable {text : String} {tokens others : List Token} {first second : Token}

theorem startsAt (h : Leftmost text tokens) (hmem : token ∈ tokens) :
    StartsAt text token.start := by
  obtain ⟨before, after, htext, hstart, -⟩ := h.stands token hmem
  exact ⟨before, token.raw, after, htext, hstart.symm, by rw [h.reads token hmem]; rfl⟩

theorem start_lt_stop (h : Leftmost text tokens) (hmem : token ∈ tokens) :
    token.start < token.stop := by
  obtain ⟨before, after, -, hstart, hstop⟩ := h.stands token hmem
  have hpos : 0 < token.raw.utf8ByteSize := by
    rw [Nat.pos_iff_ne_zero]
    intro hzero
    have hreads := h.reads token hmem
    rw [String.utf8ByteSize_eq_zero_iff.1 hzero, show ofText? "" = none from rfl] at hreads
    simp at hreads
  rw [hstop, hstart, String.utf8ByteSize_append]
  omega

/-- Two tokens that start at one place of a text are the same. -/
theorem eq_of_start_eq (h : Leftmost text tokens) (h' : Leftmost text others)
    (hmem : first ∈ tokens) (hmem' : second ∈ others) (hstart : first.start = second.start) :
    first = second := by
  obtain ⟨before, after, htext, hbefore, hstop⟩ := h.stands first hmem
  obtain ⟨before', after', htext', hbefore', hstop'⟩ := h'.stands second hmem'
  have hreads := h.reads first hmem
  have hreads' := h'.reads second hmem'
  have hsplit : before.toList ++ (first.raw.toList ++ after.toList) =
      before'.toList ++ (second.raw.toList ++ after'.toList) := by
    simpa using congrArg String.toList (htext.symm.trans htext')
  have hlen : Text.utf8Length before.toList = Text.utf8Length before'.toList := by
    rw [Text.utf8Length_toList, Text.utf8Length_toList]
    omega
  obtain ⟨between, hbetween, hrest⟩ := exists_append_of_utf8Length_le hsplit (Nat.le_of_eq hlen)
  have hnil : between = [] := by
    cases between with
    | nil => rfl
    | cons c between =>
      have hsize : 0 < c.utf8Size := c.utf8Size_pos
      rw [hbetween, Text.utf8Length_append, Text.utf8Length] at hlen
      omega
  rw [hnil, List.nil_append] at hrest
  have hraw : first.raw = second.raw := by
    rw [← String.toList_inj]
    refine eq_of_ofText?_append hrest ?_ ?_
    · rw [String.ofList_toList, hreads, Option.isSome_some]
    · rw [String.ofList_toList, hreads', Option.isSome_some]
  rw [hraw, hreads'] at hreads
  have hstops : first.stop = second.stop := by
    rw [String.utf8ByteSize_append, ← hbefore] at hstop
    rw [String.utf8ByteSize_append, ← hbefore'] at hstop'
    rw [hstop, hstop', hstart, hraw]
  have heq := Option.some.inj hreads
  rw [mk.injEq] at heq ⊢
  exact ⟨hraw, heq.2.1.symm, heq.2.2.1.symm, heq.2.2.2.1.symm, hstart, hstops⟩

/-- Two tokens of one list do not overlap. -/
theorem disjoint (h : Leftmost text tokens) (hmem : first ∈ tokens) (hmem' : second ∈ tokens)
    (hne : first ≠ second) : first.stop ≤ second.start ∨ second.stop ≤ first.start := by
  have hsymm : Std.Symm fun first second : Token =>
      first.stop ≤ second.start ∨ second.stop ≤ first.start := ⟨fun _ _ h => h.symm⟩
  have hpairs : tokens.Pairwise fun first second =>
      first.stop ≤ second.start ∨ second.stop ≤ first.start := h.ordered.imp Or.inl
  exact hpairs.forall hmem hmem' hne

/-- If two lists agree before the start of a token, the second has the token as well: what covers
the start there cannot have begun earlier. -/
theorem mem_of_agree_before (h : Leftmost text tokens) (h' : Leftmost text others)
    (hagree : ∀ other ∈ others, other.start < token.start → other ∈ tokens)
    (hmem : token ∈ tokens) : token ∈ others := by
  obtain ⟨covering, hcovering, hle, hlt⟩ := h'.covers token.start (h.startsAt hmem)
  rcases Nat.lt_or_eq_of_le hle with hbefore | heq
  · have hne : covering ≠ token := fun e => by
      rw [e] at hbefore
      omega
    have hstop := h.start_lt_stop hmem
    rcases h.disjoint (hagree covering hcovering hbefore) hmem hne with hd | hd <;> omega
  · rwa [h.eq_of_start_eq h' hmem hcovering heq.symm]

theorem mem_iff (h : Leftmost text tokens) (h' : Leftmost text others) (token : Token) :
    token ∈ tokens ↔ token ∈ others := by
  -- Strong induction on the start: the two lists agree on all that starts earlier.
  have hagree : ∀ bound, ∀ token : Token, token.start < bound →
      (token ∈ tokens ↔ token ∈ others) := by
    intro bound
    induction bound with
    | zero => intro token hlt; omega
    | succ bound ih =>
      intro token hlt
      constructor
      · exact mem_of_agree_before h h' fun other hother hbefore =>
          (ih other (by omega)).2 hother
      · exact mem_of_agree_before h' h fun other hother hbefore =>
          (ih other (by omega)).1 hother
  exact hagree (token.start + 1) token (by omega)

theorem pairwise_start_lt (h : Leftmost text tokens) :
    tokens.Pairwise fun first second => first.start < second.start := by
  refine h.ordered.imp_of_mem fun hfirst _ hle => ?_
  have hlt := h.start_lt_stop hfirst
  omega

/-- There is only one list of leftmost tokens. -/
theorem eq (h : Leftmost text tokens) (h' : Leftmost text others) : tokens = others := by
  have hantisymm : Std.Antisymm fun first second : Token => first.start < second.start :=
    ⟨fun _ _ hlt hgt => absurd hgt (Nat.lt_asymm hlt)⟩
  have hirrefl : Std.Irrefl fun first second : Token => first.start < second.start :=
    ⟨fun _ => Nat.lt_irrefl _⟩
  exact h.pairwise_start_lt.eq_of_mem_iff h'.pairwise_start_lt (h.mem_iff h')

end Leftmost

/-! ## Whether there are tokens -/

theorem standsIn_eq_true_iff (place : Nat) :
    standsIn cs = true ↔ ∃ start, StartsFrom place cs start := by
  induction cs generalizing place with
  | nil =>
    constructor
    · intro h
      simp [standsIn] at h
    · intro h
      rcases h with ⟨start, before, rest, hcs, -, hsome⟩
      obtain ⟨-, rfl⟩ := List.append_eq_nil_iff.1 hcs.symm
      simp [front?] at hsome
  | cons c cs ih =>
    rw [standsIn, Bool.or_eq_true, ih (place + c.utf8Size)]
    constructor
    · intro h
      rcases h with hfront | ⟨start, before, rest, rfl, hstart, hsome⟩
      · have hhere := (front?_isSome_iff place).2 ((front?_isSome_iff 0).1 hfront)
        exact ⟨place, [], c :: cs, rfl, rfl, hhere⟩
      · refine ⟨start, c :: before, rest, rfl, ?_, hsome⟩
        rw [hstart, Text.utf8Length, Nat.add_assoc]
    · intro h
      rcases h with ⟨start, before, rest, hcs, hstart, hsome⟩
      cases before with
      | nil =>
        rw [List.nil_append] at hcs
        rw [hcs]
        exact .inl ((front?_isSome_iff 0).2 ((front?_isSome_iff start).1 hsome))
      | cons d before =>
        obtain ⟨rfl, htail⟩ := List.cons.inj hcs
        rw [Text.utf8Length] at hstart
        exact .inr ⟨start, before, rest, htail, by omega, hsome⟩

theorem occursIn_eq_true_iff (text : String) : occursIn text = true ↔ allIn text ≠ [] := by
  rw [occursIn, standsIn_eq_true_iff 0]
  constructor
  · intro h hnil
    rcases h with ⟨start, hstart⟩
    obtain ⟨token, hmem, -⟩ := exists_mem_tokensFrom_of_startsFrom 0 text.toList start hstart
    rw [← allIn_eq_tokensFrom, hnil] at hmem
    simp at hmem
  · intro hne
    obtain ⟨token, tokens, hall⟩ := List.exists_cons_of_ne_nil hne
    have hmem : token ∈ allIn text := hall ▸ List.mem_cons_self
    exact ⟨token.start, startsAt_iff.1 ((leftmost_allIn text).startsAt hmem)⟩

theorem ofText?_eq_some_iff_allIn (text : String) (token : Token) :
    ofText? text = some token ↔
      allIn text = [token] ∧ token.start = 0 ∧ token.stop = text.utf8ByteSize := by
  constructor
  · intro h
    obtain ⟨written, hwf, htext, rfl⟩ := ofText?_eq_some_iff.1 h
    have hfront : front? 0 text.toList = some (written.token 0, []) :=
      front?_eq_some_iff.2 ⟨written, hwf, by rw [htext, List.append_nil], rfl⟩
    obtain ⟨hcs, hstart, hstop, -⟩ := front?_spec hfront
    refine ⟨?_, hstart, ?_⟩
    · rw [allIn_eq_tokensFrom, tokensFrom_of_front? hfront, tokensFrom_nil]
    · rw [hstop, Nat.zero_add, ← Text.utf8Length_toList, hcs, List.append_nil]
  · intro h
    rcases h with ⟨hall, hstart, hstop⟩
    have hleft := leftmost_allIn text
    have hmem : token ∈ allIn text := by rw [hall]; exact List.mem_cons_self
    obtain ⟨before, after, htext, hbefore, hend⟩ := hleft.stands token hmem
    rw [hstart] at hbefore
    have hnone : before = "" := String.utf8ByteSize_eq_zero_iff.1 hbefore.symm
    have hafter : after = "" := by
      rw [← String.utf8ByteSize_eq_zero_iff]
      have hlen := congrArg String.utf8ByteSize htext
      rw [String.utf8ByteSize_append] at hlen
      omega
    have hraw : text = token.raw := by
      rw [htext, hnone, hafter, String.empty_append, String.append_empty]
    have hreads := hleft.reads token hmem
    subst hraw
    rw [← hstop, ← hstart] at hreads
    exact hreads

/-- A scan finds exactly the leftmost tokens.  They come in order and do not overlap; each stands
in the text between its two bounds and is, but for the bounds, what its own text is read as; and
wherever a token starts one of them is found that covers the place.  No other list of tokens is of
this kind, and at most one token starts at each place.  A text is read as a token exactly if the
scan finds this token alone and from end to end, and a text has tokens exactly if the scan finds
any. -/
theorem allIn_exact (text : String) :
    (∀ tokens : List Token, Leftmost text tokens ↔ tokens = allIn text) ∧
    (∀ before spelled spelled' after after' : String,
      text = before ++ spelled ++ after → text = before ++ spelled' ++ after' →
        (ofText? spelled).isSome → (ofText? spelled').isSome → spelled = spelled') ∧
    (∀ token : Token, ofText? text = some token ↔
      allIn text = [token] ∧ token.start = 0 ∧ token.stop = text.utf8ByteSize) ∧
    (occursIn text = true ↔ allIn text ≠ []) := by
  refine ⟨fun tokens => ⟨fun h => h.eq (leftmost_allIn text), ?_⟩, ?_,
    ofText?_eq_some_iff_allIn text, occursIn_eq_true_iff text⟩
  · intro h
    subst h
    exact leftmost_allIn text
  · intro before spelled spelled' after after' htext htext' h h'
    have hsplit : spelled.toList ++ after.toList = spelled'.toList ++ after'.toList := by
      simpa using congrArg String.toList (htext.symm.trans htext')
    rw [← String.toList_inj]
    exact eq_of_ofText?_append hsplit (by rwa [String.ofList_toList])
      (by rwa [String.ofList_toList])

end Token

end Placeholder
