import Placeholder.Proofs.Token.Grammar
import Placeholder.Token.Layout

/-!
# Reading what is printed

A token that is printed with any blanks around its parts is read as a token with these parts
(`ofText?_text`, `steps_of_text`).  The blanks at the two ends of the chain do not
count, since they are trimmed before the chain is divided (`Text.map_trim_splitOn_trim`), and those
around an entry do not count, since each entry is trimmed (`Step.parse_text`).

The token keeps the chain as it is written, though, and with it the blanks around the bars.  So two
layouts of the same parts give tokens that differ in their text and may differ in their chain
(`not_forall_layout_chain_eq`).

Main statement: `ofText?_layout_exact`.
-/

namespace Placeholder

/-! ## Trimmed entries -/

namespace Text

section

variable {sep : Char} {blank : List Char} (hsep : isBlank sep = false)
  (hblank : ∀ c ∈ blank, isBlank c = true)

include hsep hblank

/-- Blanks before a divided text count at most for its first entry, which is trimmed. -/
theorem map_trim_splitOn_blank_append (cs : List Char) :
    ((blank ++ cs).splitOn sep).map trim = (cs.splitOn sep).map trim := by
  by_cases hmem : sep ∈ cs
  · obtain ⟨first, rest, hcs⟩ := List.append_of_mem hmem
    have hshorter : first.length < cs.length := by
      rw [hcs, List.length_append, List.length_cons]
      omega
    rw [hcs, ← List.append_assoc, List.splitOn_append_cons_self, List.splitOn_append_cons_self,
      List.map_append, List.map_append, map_trim_splitOn_blank_append first]
  · have hnot : sep ∉ blank ++ cs := by
      rw [List.mem_append, not_or]
      exact ⟨fun hc => by simp [hblank sep hc] at hsep, hmem⟩
    rw [List.splitOn_eq_singleton hnot, List.splitOn_eq_singleton hmem]
    exact congrArg (fun entry => [entry]) (trim_blank_append hblank)
termination_by cs.length

/-- Blanks after a divided text count at most for its last entry, which is trimmed. -/
theorem map_trim_splitOn_append_blank (cs : List Char) :
    ((cs ++ blank).splitOn sep).map trim = (cs.splitOn sep).map trim := by
  by_cases hmem : sep ∈ cs
  · obtain ⟨first, rest, hcs⟩ := List.append_of_mem hmem
    have hshorter : rest.length < cs.length := by
      rw [hcs, List.length_append, List.length_cons]
      omega
    rw [hcs, List.append_assoc, List.cons_append, List.splitOn_append_cons_self,
      List.splitOn_append_cons_self, List.map_append, List.map_append,
      map_trim_splitOn_append_blank rest]
  · have hnot : sep ∉ cs ++ blank := by
      rw [List.mem_append, not_or]
      exact ⟨hmem, fun hc => by simp [hblank sep hc] at hsep⟩
    rw [List.splitOn_eq_singleton hnot, List.splitOn_eq_singleton hmem]
    exact congrArg (fun entry => [entry]) (trim_append_blank hblank)
termination_by cs.length

end

/-- It does not matter for trimmed entries whether the text is trimmed before it is divided. -/
theorem map_trim_splitOn_trim {sep : Char} (hsep : isBlank sep = false) (cs : List Char) :
    ((trim cs).splitOn sep).map trim = (cs.splitOn sep).map trim := by
  obtain ⟨lead, trail, hcs, hlead, htrail⟩ := exists_trim cs
  calc
    ((trim cs).splitOn sep).map trim = ((lead ++ (trim cs ++ trail)).splitOn sep).map trim := by
      rw [map_trim_splitOn_blank_append hsep hlead, map_trim_splitOn_append_blank hsep htrail]
    _ = (cs.splitOn sep).map trim := by rw [← hcs]

end Text

/-! ## Steps -/

namespace Step

theorem parse_trim (entry : List Char) : parse (Text.trim entry) = parse entry := by
  unfold parse
  rw [Text.trim_trim]

variable {step : Step}

theorem trim_text (h : IsPart step.name.toList) : Text.trim step.text = step.text := by
  rw [text]
  split
  · have hend := Text.isBlank_getLast?_trim step.name.toList
    rw [h.trim] at hend
    refine Text.trim_eq_self (by simp; decide) fun c hc => hend c ?_
    obtain ⟨first, rest, hname⟩ := List.exists_cons_of_ne_nil h.ne_nil
    rwa [hname, List.getLast?_cons_cons, ← hname] at hc
  · exact h.trim

/-- A step is what it is written as, as long as its name does not start with a question mark. -/
theorem parse_text (h : IsPart step.name.toList) (hmark : step.name.toList.head? ≠ some '?') :
    parse step.text = step := by
  have hstart : ∀ c ∈ step.name.toList.head?, decide (c = '?') = false := by
    intro c hc
    exact decide_eq_false fun heq => hmark (heq ▸ hc)
  obtain ⟨name, optional⟩ := step
  rw [parse, trim_text h]
  cases optional with
  | true =>
    have hdrop : ('?' :: name.toList).dropWhile (· = '?') = name.toList := by
      rw [List.dropWhile_cons_of_pos (by decide), Text.dropWhile_eq_self_of_head? hstart]
    simp [text, hdrop]
  | false =>
    have hdrop : name.toList.dropWhile (· = '?') = name.toList :=
      Text.dropWhile_eq_self_of_head? hstart
    simp [text, hdrop, hmark]

end Step

/-! ## Layouts -/

/-- What a token says: its parts without the blanks around them. -/
structure TokenParts where
  name : List Char
  parameter : Option (List Char)
  steps : List Step
  deriving DecidableEq

namespace TokenLayout

/-- The parts of a layout without the blanks. -/
def parts (layout : TokenLayout) : TokenParts where
  name := layout.name.body
  parameter := layout.parameter.map (·.body)
  steps := layout.steps.map (·.body)

/-- The layout as a text. -/
def text (layout : TokenLayout) : String := String.ofList layout.written.text

variable {layout other : TokenLayout} {token : Token}

/-- The printed entries of the chain, divided at the bars and trimmed. -/
theorem map_trim_splitOn_chain (h : layout.WellFormed) {chain : List Char}
    (hchain : layout.chain = some chain) :
    (chain.splitOn '|').map Text.trim = layout.parts.steps.map Step.text := by
  rw [TokenLayout.chain] at hchain
  split at hchain
  · cases hchain
  · next hne =>
    obtain rfl := Option.some.inj hchain
    have hbar : ∀ entry ∈ layout.steps.map (Spaced.text Step.text), '|' ∉ entry := by
      intro entry hentry
      obtain ⟨spaced, hspaced, rfl⟩ := List.mem_map.1 hentry
      obtain ⟨hblank, hpart⟩ := h.step spaced hspaced
      exact hblank.not_mem_text (by decide) (Step.not_mem_text (by decide) hpart.bar)
    have hentries : layout.steps.map (Spaced.text Step.text) ≠ [] := by
      simpa using hne
    rw [List.splitOn_intercalate '|' hbar hentries, List.map_map, parts, List.map_map]
    refine List.map_congr_left fun spaced hspaced => ?_
    obtain ⟨hblank, hpart⟩ := h.step spaced hspaced
    exact hblank.trim_text.trans (Step.trim_text hpart)

/-- Every printed step is read as the step. -/
theorem map_parse_text (h : layout.WellFormed) :
    (layout.parts.steps.map Step.text).map Step.parse = layout.parts.steps := by
  rw [parts, List.map_map, List.map_map]
  refine List.map_congr_left fun spaced hspaced => ?_
  exact Step.parse_text (h.step spaced hspaced).2 (h.step_mark spaced hspaced)

theorem chain_eq_none_iff : layout.chain = none ↔ layout.parts.steps = [] := by
  rw [chain, parts]
  split
  · next hnil => simpa using hnil
  · next hcons => simpa using hcons

/-- The token that is printed: its parts are those of the layout, and it has the chain as it is
written, without the blanks at its ends. -/
theorem ofText?_text (h : layout.WellFormed) :
    Token.ofText? layout.text = some
      { raw := layout.text
        name := String.ofList layout.parts.name
        parameter := layout.parts.parameter.map String.ofList
        modifiers := layout.chain.map fun chain => String.ofList (Text.trim chain)
        start := 0
        stop := layout.text.utf8ByteSize } := by
  have hwrites : layout.written.Writes layout.text := ⟨wellFormed_written h, rfl⟩
  rw [Token.ofText?_of_writes hwrites]
  have hparameter : layout.written.parameter.map (fun p => String.ofList (Text.trim p)) =
      layout.parts.parameter.map String.ofList := by
    rw [written, parts, Option.map_map, Option.map_map]
    refine Option.map_congr fun spaced hspaced => ?_
    obtain ⟨hblank, hpart⟩ := h.parameter spaced hspaced
    exact congrArg String.ofList (hblank.trim_text.trans hpart.trim)
  rw [hparameter]
  rfl

section

variable (h : layout.WellFormed) (htoken : Token.ofText? layout.text = some token)

include h htoken

theorem modifiers_eq_none_iff : token.modifiers = none ↔ layout.parts.steps = [] := by
  rw [ofText?_text h] at htoken
  obtain rfl := Option.some.inj htoken
  rw [← chain_eq_none_iff]
  exact Option.map_eq_none_iff

/-- The chain of the token has no blanks at its ends, and its entries are the steps once they are
trimmed. -/
theorem modifiers_of_text {chain : String} (hchain : token.modifiers = some chain) :
    Text.trim chain.toList = chain.toList ∧
      (chain.toList.splitOn '|').map Text.trim = layout.parts.steps.map Step.text := by
  rw [ofText?_text h] at htoken
  obtain rfl := Option.some.inj htoken
  obtain ⟨printed, hprinted, rfl⟩ := Option.map_eq_some_iff.1 hchain
  rw [String.toList_ofList, Text.trim_trim, Text.map_trim_splitOn_trim (by decide)]
  exact ⟨rfl, map_trim_splitOn_chain h hprinted⟩

theorem steps_of_text : token.steps = layout.parts.steps := by
  rw [Token.steps]
  split
  · next hnone => exact ((modifiers_eq_none_iff h htoken).1 hnone).symm
  · next chain hchain =>
    obtain ⟨-, hentries⟩ := modifiers_of_text h htoken hchain
    calc
      (chain.toList.splitOn '|').map Step.parse
        = ((chain.toList.splitOn '|').map Text.trim).map Step.parse := by
          rw [List.map_map]
          exact List.map_congr_left fun entry _ => (Step.parse_trim entry).symm
      _ = layout.parts.steps := by rw [hentries, map_parse_text h]

/-- With a single step the chain is the step as it is written. -/
theorem modifiers_of_single {step : Step} (hstep : layout.parts.steps = [step]) :
    token.modifiers = some (String.ofList step.text) := by
  cases hchain : token.modifiers with
  | none => simp [(modifiers_eq_none_iff h htoken).1 hchain] at hstep
  | some chain =>
    obtain ⟨htrim, hentries⟩ := modifiers_of_text h htoken hchain
    rw [hstep, List.map_singleton] at hentries
    obtain ⟨entry, hentry, htext⟩ := List.map_eq_singleton_iff.1 hentries
    have hself : chain.toList = entry := by
      have hjoin : ['|'].intercalate (chain.toList.splitOn '|') = chain.toList :=
        List.intercalate_splitOn '|'
      rw [hentry, List.intercalate_singleton] at hjoin
      exact hjoin.symm
    rw [← htext, ← hself, htrim, String.ofList_toList]

end

/-- Two layouts of the same parts give the same token up to its text and the blanks in its chain.
A chain with at most one step has no such blanks. -/
theorem token_eq_of_parts_eq (h : layout.WellFormed) (hother : other.WellFormed)
    (hparts : other.parts = layout.parts) {token token' : Token}
    (htoken : Token.ofText? layout.text = some token)
    (htoken' : Token.ofText? other.text = some token') :
    token' = { token with raw := token'.raw, stop := token'.stop, modifiers := token'.modifiers } ∧
      (layout.parts.steps.length ≤ 1 → token'.modifiers = token.modifiers) := by
  constructor
  · rw [ofText?_text h] at htoken
    rw [ofText?_text hother, hparts] at htoken'
    obtain rfl := Option.some.inj htoken
    obtain rfl := Option.some.inj htoken'
    rfl
  · intro hlength
    rcases hsteps : layout.parts.steps with _ | ⟨step, _ | ⟨second, rest⟩⟩
    · rw [(modifiers_eq_none_iff h htoken).2 hsteps,
        (modifiers_eq_none_iff hother htoken').2 (by rw [hparts, hsteps])]
    · rw [modifiers_of_single h htoken hsteps,
        modifiers_of_single hother htoken' (by rw [hparts, hsteps])]
    · simp [hsteps] at hlength

/-- A token with a parameter and two steps, with the given blanks around all its parts. -/
def spacedOut (gap : List Char) : TokenLayout where
  name := ⟨gap, ['a'], gap⟩
  parameter := some ⟨gap, ['x', ' ', 'y'], gap⟩
  steps := [⟨gap, ⟨"b", true⟩, gap⟩, ⟨gap, ⟨"c", false⟩, gap⟩]

theorem wellFormed_spacedOut {gap : List Char} (h : ∀ c ∈ gap, Text.isBlank c = true) :
    (spacedOut gap).WellFormed where
  name_blank := ⟨h, h⟩
  name_ne_nil := by simp [spacedOut]
  name := by
    intro c hc
    obtain rfl := List.mem_singleton.1 hc
    decide
  parameter := by
    have hpart : IsPart ['x', ' ', 'y'] := by decide
    rintro parameter ⟨⟩
    exact ⟨⟨h, h⟩, hpart⟩
  step := by
    have hfirst : IsPart "b".toList := by decide
    have hsecond : IsPart "c".toList := by decide
    intro spaced hspaced
    simp only [spacedOut, List.mem_cons, List.not_mem_nil, or_false] at hspaced
    rcases hspaced with rfl | rfl
    · exact ⟨⟨h, h⟩, hfirst⟩
    · exact ⟨⟨h, h⟩, hsecond⟩
  step_mark := by
    have hmarks : ∀ name ∈ ["b", "c"], name.toList.head? ≠ some '?' := by decide
    intro spaced hspaced
    simp only [spacedOut, List.mem_cons, List.not_mem_nil, or_false] at hspaced
    rcases hspaced with rfl | rfl
    · exact hmarks "b" (by simp)
    · exact hmarks "c" (by simp)

/-- A token is printed with any blanks around its parts, by the rules for a layout.  The text is
read as a token with just these parts: the name, the parameter if there is one, and the steps in
order.  The token has a chain if and only if there are steps, the chain has no blanks at its ends,
and its entries are the steps as they are written, but for blanks around them.

Another layout of the same parts is read as the same token, but for the text and its length and for
the blanks around the bars of the chain; and if there is at most one step, the chain has no bars and
is the same. -/
theorem ofText?_layout_exact {layout : TokenLayout} (h : layout.WellFormed) :
    ∃ token, Token.ofText? layout.text = some token ∧
      token.name = String.ofList layout.parts.name ∧
      token.parameter = layout.parts.parameter.map String.ofList ∧
      token.steps = layout.parts.steps ∧
      (token.modifiers = none ↔ layout.parts.steps = []) ∧
      (∀ chain, token.modifiers = some chain → Text.trim chain.toList = chain.toList ∧
        (chain.toList.splitOn '|').map Text.trim = layout.parts.steps.map Step.text) ∧
      ∀ other : TokenLayout, other.WellFormed → other.parts = layout.parts →
        ∃ token', Token.ofText? other.text = some token' ∧ token'.steps = token.steps ∧
          token' =
            { token with raw := token'.raw, stop := token'.stop, modifiers := token'.modifiers } ∧
          (layout.parts.steps.length ≤ 1 → token'.modifiers = token.modifiers) := by
  have htoken := ofText?_text h
  refine ⟨_, htoken, rfl, rfl, steps_of_text h htoken, modifiers_eq_none_iff h htoken,
    fun chain hchain => modifiers_of_text h htoken hchain, fun other hother hparts => ?_⟩
  have htoken' := ofText?_text hother
  refine ⟨_, htoken', ?_, token_eq_of_parts_eq h hother hparts htoken htoken'⟩
  rw [steps_of_text hother htoken', steps_of_text h htoken, hparts]

/-- A token printed with no-break spaces and the same token printed without blanks. -/
theorem ofText?_layout_noBreakSpaces :
    (spacedOut ['\u00a0']).WellFormed ∧ (spacedOut []).WellFormed ∧
      ∃ token token', Token.ofText? (spacedOut ['\u00a0']).text = some token ∧
        Token.ofText? "{{a:x y|?b|c}}" = some token' ∧ token.name = "a" ∧
        token.parameter = some "x y" ∧ token.steps = [⟨"b", true⟩, ⟨"c", false⟩] ∧
        token'.steps = token.steps := by
  have hgap : (spacedOut ['\u00a0']).WellFormed :=
    wellFormed_spacedOut (List.forall_mem_singleton.2 (by decide))
  have hnone : (spacedOut []).WellFormed := wellFormed_spacedOut nofun
  obtain ⟨token, htoken, hname, hparameter, hsteps, -, -, hlayouts⟩ := ofText?_layout_exact hgap
  obtain ⟨token', htoken', hsteps', -⟩ := hlayouts _ hnone rfl
  exact ⟨hgap, hnone, token, token', htoken, htoken', hname, hparameter, hsteps, hsteps'⟩

/-- Two layouts of the same parts do not give the same token but for the text and where it ends:
the blanks around a bar belong to the chain. -/
theorem not_forall_layout_chain_eq :
    ¬ ∀ layout other : TokenLayout, layout.WellFormed → other.WellFormed →
      other.parts = layout.parts → ∀ token token', Token.ofText? layout.text = some token →
        Token.ofText? other.text = some token' → token' =
          { token with raw := token'.raw, start := token'.start, stop := token'.stop } := by
  intro h
  have htight : (spacedOut []).WellFormed := wellFormed_spacedOut nofun
  have hwide : (spacedOut [' ']).WellFormed :=
    wellFormed_spacedOut (List.forall_mem_singleton.2 (by decide))
  have htoken := ofText?_text htight
  have htoken' := ofText?_text hwide
  have hchains := congrArg Token.modifiers (h _ _ htight hwide rfl _ _ htoken htoken')
  have hdiffer : some "?b | c" = some "?b|c" := hchains
  exact absurd hdiffer (by decide)

end TokenLayout

end Placeholder
