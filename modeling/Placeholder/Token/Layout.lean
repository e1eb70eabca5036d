import Placeholder.Token.Written

/-!
# Layouts of tokens

A token printed with blanks of one's choice around its name, its parameter and the entries of its
chain.  Every layout that keeps the rules is a well-formed written token
(`TokenLayout.wellFormed_written`).
-/

namespace Placeholder

/-- Something with the blanks before and after it. -/
structure Spaced (α : Type) where
  before : List Char
  body : α
  after : List Char

namespace Spaced

variable {α : Type}

/-- The text of the body between its blanks. -/
def text (print : α → List Char) (spaced : Spaced α) : List Char :=
  spaced.before ++ (print spaced.body ++ spaced.after)

/-- Only blanks stand before and after the body. -/
structure Blank (spaced : Spaced α) : Prop where
  before : ∀ c ∈ spaced.before, Text.isBlank c = true
  after : ∀ c ∈ spaced.after, Text.isBlank c = true

variable {spaced : Spaced α} {print : α → List Char}

theorem text_ne_nil (h : print spaced.body ≠ []) : spaced.text print ≠ [] := by
  simp [text, h]

/-- A character that is not blank stands in the text only if it stands in the body. -/
theorem Blank.not_mem_text {c : Char} (h : spaced.Blank) (hc : Text.isBlank c = false)
    (hbody : c ∉ print spaced.body) : c ∉ spaced.text print := by
  have hb : c ∉ spaced.before := fun hm => by simp [h.before c hm] at hc
  have ha : c ∉ spaced.after := fun hm => by simp [h.after c hm] at hc
  simp [text, hb, ha, hbody]

/-- The blanks around the body do not count once the text is trimmed. -/
theorem Blank.trim_text (h : spaced.Blank) :
    Text.trim (spaced.text print) = Text.trim (print spaced.body) := by
  rw [text, Text.trim_blank_append h.before, Text.trim_append_blank h.after]

end Spaced

/-- An entry of a chain as it is written without blanks. -/
def Step.text (step : Step) : List Char :=
  if step.optional then '?' :: step.name.toList else step.name.toList

namespace Step

variable {step : Step}

theorem text_ne_nil (h : step.name.toList ≠ []) : step.text ≠ [] := by
  unfold text
  split
  · simp
  · exact h

theorem not_mem_text {c : Char} (hc : c ≠ '?') (h : c ∉ step.name.toList) : c ∉ step.text := by
  unfold text
  split
  · simp [hc, h]
  · exact h

end Step

theorem mem_intercalate {c : Char} {sep : List Char} :
    ∀ {texts : List (List Char)}, c ∈ sep.intercalate texts → c ∈ sep ∨ ∃ t ∈ texts, c ∈ t
  | [], h => by simp [List.intercalate] at h
  | [t], h => .inr ⟨t, by simp, by simpa [List.intercalate] using h⟩
  | t :: u :: texts, h => by
    have ih : c ∈ sep.intercalate (u :: texts) → c ∈ sep ∨ ∃ t ∈ u :: texts, c ∈ t :=
      mem_intercalate
    simp only [List.intercalate, List.intersperse_cons_cons, List.flatten_cons,
      List.mem_append] at h ih
    grind

/-- The parts of a token with the blanks around them. -/
structure TokenLayout where
  name : Spaced (List Char)
  parameter : Option (Spaced (List Char))
  steps : List (Spaced Step)

/-- Whether a text can be a part of a token: it is not empty, has no blanks at its ends and holds
none of the characters that end a part. -/
structure IsPart (cs : List Char) : Prop where
  ne_nil : cs ≠ []
  trim : Text.trim cs = cs
  bar : '|' ∉ cs
  brace : '}' ∉ cs

instance (cs : List Char) : Decidable (IsPart cs) :=
  decidable_of_iff (cs ≠ [] ∧ Text.trim cs = cs ∧ '|' ∉ cs ∧ '}' ∉ cs)
    ⟨fun ⟨hne, htrim, hbar, hbrace⟩ => ⟨hne, htrim, hbar, hbrace⟩,
      fun h => ⟨h.ne_nil, h.trim, h.bar, h.brace⟩⟩

namespace TokenLayout

/-- The chain as it is written, if there are entries. -/
def chain (layout : TokenLayout) : Option (List Char) :=
  if layout.steps.isEmpty then none
  else some (['|'].intercalate (layout.steps.map (Spaced.text Step.text)))

/-- The layout as a written token. -/
def written (layout : TokenLayout) : WrittenToken where
  lead := layout.name.before
  name := layout.name.body
  gap := layout.name.after
  parameter := layout.parameter.map (Spaced.text id)
  chain := layout.chain

/-- The rules for a layout. -/
structure WellFormed (layout : TokenLayout) : Prop where
  name_blank : layout.name.Blank
  name_ne_nil : layout.name.body ≠ []
  name : ∀ c ∈ layout.name.body, isWordChar c = true
  parameter : ∀ p ∈ layout.parameter, p.Blank ∧ IsPart p.body
  step : ∀ s ∈ layout.steps, s.Blank ∧ IsPart s.body.name.toList
  step_mark : ∀ s ∈ layout.steps, s.body.name.toList.head? ≠ some '?'

variable {layout : TokenLayout}

theorem wellFormed_written (h : layout.WellFormed) : layout.written.WellFormed where
  lead := h.name_blank.before
  name_ne_nil := h.name_ne_nil
  name := h.name
  gap := h.name_blank.after
  parameter := by
    intro p hp
    obtain ⟨spaced, hs, rfl⟩ := Option.map_eq_some_iff.1 hp
    obtain ⟨hblank, hpart⟩ := h.parameter spaced hs
    exact ⟨Spaced.text_ne_nil hpart.ne_nil, hblank.not_mem_text (by decide) hpart.bar,
      hblank.not_mem_text (by decide) hpart.brace⟩
  chain := by
    intro m hm
    obtain ⟨name, parameter, steps⟩ := layout
    have hstep := h.step
    simp only [written, chain] at hm
    split at hm
    · simp at hm
    · next hne =>
      obtain rfl := Option.some.inj hm
      refine ⟨?_, fun hc => ?_⟩
      · obtain ⟨s, steps, rfl⟩ := List.exists_cons_of_ne_nil (by simpa using hne)
        obtain ⟨-, hpart⟩ := hstep s (by simp)
        have : s.text Step.text ≠ [] := Spaced.text_ne_nil (Step.text_ne_nil hpart.ne_nil)
        cases steps <;> simp [List.intercalate, this]
      · rcases mem_intercalate hc with hc | ⟨t, ht, hc⟩
        · simp at hc
        · obtain ⟨s, hs, rfl⟩ := List.mem_map.1 ht
          obtain ⟨hblank, hpart⟩ := hstep s hs
          exact hblank.not_mem_text (by decide) (Step.not_mem_text (by decide) hpart.brace) hc

end TokenLayout

end Placeholder
