import Placeholder.Proofs.Token.Pattern

/-!
# The grammar of tokens

Which texts are tokens, and what a token says.  A text is a token if it can be written with parts
that keep the rules of `WrittenToken.WellFormed`.  It can be written so in one way only
(`WrittenToken.eq_of_text_eq`): each run ends where a character comes that cannot go on with it,
the parameter where the first bar comes, and the chain at the closing braces.

Main statement: `ofText?_exact` says which texts are read as a token, that their parts are
determined, and what the token then is.
-/

namespace Placeholder

namespace WrittenToken

/-! ## The parts are determined by the text -/

/-- What follows the name and its blanks, written from its two parts. -/
def tailOf (parameter chain : Option (List Char)) : List Char :=
  tail ⟨[], [], [], parameter, chain⟩

theorem tailOf_none_inj {chain other : Option (List Char)}
    (h : tailOf none chain = tailOf none other) : chain = other := by
  cases chain with
  | none =>
    cases other with
    | none => rfl
    | some m => simp [tailOf, tail] at h
  | some m =>
    cases other with
    | none => simp [tailOf, tail] at h
    | some m' => simpa [tailOf, tail] using h

theorem tailOf_some_ne_none {p : List Char} {chain other : Option (List Char)} :
    tailOf (some p) chain ≠ tailOf none other := by
  intro h
  cases other <;> simp [tailOf, tail] at h

/-- The parameter ends at the first bar, so it and the chain can be told apart. -/
theorem tailOf_inj {parameter parameter' chain chain' : Option (List Char)}
    (hbar : ∀ p ∈ parameter, '|' ∉ p) (hbar' : ∀ p ∈ parameter', '|' ∉ p)
    (h : tailOf parameter chain = tailOf parameter' chain') :
    parameter = parameter' ∧ chain = chain' := by
  cases parameter with
  | none =>
    cases parameter' with
    | none => exact ⟨rfl, tailOf_none_inj h⟩
    | some p' => exact absurd h.symm tailOf_some_ne_none
  | some p =>
    cases parameter' with
    | none => exact absurd h tailOf_some_ne_none
    | some p' =>
      have hsplit : ∀ (q : List Char) (rest : Option (List Char)),
          tailOf (some q) rest = ':' :: (q ++ tailOf none rest) := fun _ _ => rfl
      have hrun : ∀ q : List Char, '|' ∉ q → ∀ c ∈ q, decide (c ≠ '|') = true := fun q hq c hc => by
        simpa using fun e : c = '|' => hq (e ▸ hc)
      have hstop : ∀ rest : Option (List Char),
          ∀ c ∈ (tailOf none rest).head?, decide (c ≠ '|') = false := by
        intro rest c hc
        cases rest <;> simp [tailOf, tail] at hc
        simp [← hc]
      rw [hsplit, hsplit] at h
      obtain ⟨rfl, hrest⟩ := Text.run_append_inj (List.cons.inj h).2 (hrun p (hbar p rfl))
        (hstop chain) (hrun p' (hbar' p' rfl)) (hstop chain')
      exact ⟨rfl, tailOf_none_inj hrest⟩

variable {written other : WrittenToken}

theorem inner_eq_of_text_eq (h : written.text = other.text) : written.inner = other.inner := by
  have hinner : written.inner ++ ['}', '}'] = other.inner ++ ['}', '}'] :=
    (List.cons.inj (List.cons.inj h).2).2
  exact List.append_cancel_right hinner

/-- A text is written in one way only. -/
theorem eq_of_text_eq (hwf : written.WellFormed) (hwf' : other.WellFormed)
    (h : written.text = other.text) : written = other := by
  have hinner := inner_eq_of_text_eq h
  unfold inner at hinner
  obtain ⟨hlead, hinner⟩ := Text.run_append_inj hinner hwf.lead (head?_name_append hwf) hwf'.lead
    (head?_name_append hwf')
  obtain ⟨hname, hinner⟩ := Text.run_append_inj hinner hwf.name (head?_gap_append_tail hwf)
    hwf'.name (head?_gap_append_tail hwf')
  obtain ⟨hgap, htail⟩ := Text.run_append_inj hinner hwf.gap isBlank_head?_tail hwf'.gap
    isBlank_head?_tail
  obtain ⟨hparameter, hchain⟩ := tailOf_inj (fun p hp => (hwf.parameter p hp).2.1)
    (fun p hp => (hwf'.parameter p hp).2.1) htail
  obtain ⟨lead, name, gap, parameter, chain⟩ := written
  obtain ⟨lead', name', gap', parameter', chain'⟩ := other
  rw [mk.injEq]
  exact ⟨hlead, hname, hgap, hparameter, hchain⟩

/-- The text is written with these parts, and they keep the rules. -/
def Writes (written : WrittenToken) (text : String) : Prop :=
  written.WellFormed ∧ text = String.ofList written.text

end WrittenToken

namespace Token

open WrittenToken

theorem ofText?_of_writes {written : WrittenToken} {text : String} (h : written.Writes text) :
    ofText? text = some
      { raw := text
        name := String.ofList written.name
        parameter := written.parameter.map fun p => String.ofList (Text.trim p)
        modifiers := written.chain.map fun m => String.ofList (Text.trim m)
        start := 0
        stop := text.utf8ByteSize } := by
  obtain ⟨hwf, rfl⟩ := h
  have hread : ofText? (String.ofList written.text) = some (written.token 0) :=
    ofText?_eq_some_iff.2 ⟨written, hwf, String.toList_ofList, rfl⟩
  rw [hread, token, ofBody, body, Text.utf8ByteSize_ofList, Nat.zero_add, Option.map_map,
    Option.map_map]
  rfl

/-- A text is read as a token exactly if it is two opening braces, blanks, a name, blanks, possibly
a colon and a parameter, possibly a bar and a chain, and two closing braces.  It can be divided in
this way only once.  The token has the name, and it has the trimmed parameter and the trimmed chain
exactly where they are written; a parameter of blanks alone is there and is empty.  This is what
the pattern of a token matches between the two ends of the text. -/
theorem ofText?_exact (text : String) :
    ((ofText? text).isSome ↔ ∃ written : WrittenToken, written.Writes text) ∧
    (∀ written other : WrittenToken, written.Writes text → other.Writes text →
      written = other) ∧
    (∀ written : WrittenToken, written.Writes text →
      ofText? text = some
        { raw := text
          name := String.ofList written.name
          parameter := written.parameter.map fun p => String.ofList (Text.trim p)
          modifiers := written.chain.map fun m => String.ofList (Text.trim m)
          start := 0
          stop := text.utf8ByteSize }) ∧
    (∀ (written : WrittenToken) (p : List Char), written.Writes text →
      written.parameter = some p → (∀ c ∈ p, Text.isBlank c = true) →
        (ofText? text).bind Token.parameter = some "") ∧
    ofText? text =
      (wholePattern.search? 0 text.toList).bind fun (place, way) => ofWay? place way := by
  refine ⟨⟨fun h => ?_, ?_⟩, ?_, fun _ => ofText?_of_writes, ?_, ofText?_eq_wholePattern text⟩
  · obtain ⟨token, htoken⟩ := Option.isSome_iff_exists.1 h
    obtain ⟨written, hwf, htext, -⟩ := ofText?_eq_some_iff.1 htoken
    exact ⟨written, hwf, by rw [← htext, String.ofList_toList]⟩
  · intro h
    rcases h with ⟨written, h⟩
    rw [ofText?_of_writes h, Option.isSome_some]
  · intro written other h h'
    rcases h with ⟨hwf, htext⟩
    rcases h' with ⟨hwf', htext'⟩
    exact eq_of_text_eq hwf hwf' (String.ofList_inj.1 (htext.symm.trans htext'))
  · intro written p h hp hblank
    rw [ofText?_of_writes h, Option.bind_some, hp, Option.map_some,
      Text.trim_of_forall_blank hblank]

-- A mark needs something after it, if only a blank.
example : ofText? "{{a:}}" = none := by decide
example : (ofText? "{{a: }}").bind Token.parameter = some "" := by decide

end Token

end Placeholder
