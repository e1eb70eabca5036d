import Placeholder.Token.Layout

/-!
# Patterns

Tokens may also be described by a pattern of the usual kind: characters of a class, runs of them,
optional parts and groups whose text is kept.  A pattern can match in front of a text in several
ways, which come in an order of preference.  A run is tried as long as possible before it is tried
shorter, and an optional part is tried before it is left out.  The match of a pattern in a text is
its first way at the first place that has one.

There are two groups of lemmas.

* Patterns in general.  `mem_ways_iff` says which ways there are, apart from their order.
* The pattern of a token.  Its parts overlap: the blanks after a colon can also begin the
  parameter, and those after the parameter can also end it.  All the same, every way spells a
  well-formed written token whose trimmed parts are the trimmed groups
  (`exists_written_of_spells`), so the ways differ in nothing that a token keeps.

Main statements: reading in front of a text finds what the pattern matches there
(`front?_eq_pattern`), and reading a whole text finds what the pattern matches between the two
ends of the text (`ofText?_eq_wholePattern`).
-/

namespace Placeholder

/-- A pattern of texts. -/
inductive Pattern where
  /-- One character of a class. -/
  | one (p : Char → Bool)
  /-- A run of characters of a class, better a longer one. -/
  | many (p : Char → Bool)
  | seq (first second : Pattern)
  /-- A pattern or nothing, better the pattern. -/
  | maybe (inner : Pattern)
  /-- A pattern whose text is kept under a number. -/
  | group (number : Nat) (inner : Pattern)
  /-- Nothing, at the start of the whole text. -/
  | textStart
  /-- Nothing, at the end of the whole text. -/
  | textEnd

/-- A way in which a pattern matches in front of a text. -/
structure Way where
  /-- What is matched. -/
  taken : List Char
  /-- What the groups have kept. -/
  groups : List (Nat × List Char)
  /-- What comes after the match. -/
  rest : List Char

namespace Pattern

instance : Append Pattern := ⟨seq⟩

/-- A given character. -/
def char (c : Char) : Pattern := one (· = c)

/-- A run of at least one character of a class. -/
def atLeastOne (p : Char → Bool) : Pattern := one p ++ many p

/-- The runs in front of a text, the longest first. -/
def runs (p : Char → Bool) : List Char → List Way
  | [] => [⟨[], [], []⟩]
  | c :: cs =>
    (if p c then (runs p cs).map fun way => { way with taken := c :: way.taken } else [])
      ++ [⟨[], [], c :: cs⟩]

/-- The ways to match in front of a text that begins at the given place, in the order of
preference. -/
def ways : Pattern → Nat → List Char → List Way
  | one _, _, [] => []
  | one p, _, c :: cs => if p c then [⟨[c], [], cs⟩] else []
  | many p, _, cs => runs p cs
  | seq first second, place, cs =>
    (first.ways place cs).flatMap fun way =>
      (second.ways (place + Text.utf8Length way.taken) way.rest).map fun next =>
        ⟨way.taken ++ next.taken, way.groups ++ next.groups, next.rest⟩
  | maybe inner, place, cs => inner.ways place cs ++ [⟨[], [], cs⟩]
  | group number inner, place, cs =>
    (inner.ways place cs).map fun way =>
      { way with groups := way.groups ++ [(number, way.taken)] }
  | textStart, place, cs => if place = 0 then [⟨[], [], cs⟩] else []
  | textEnd, _, cs => if cs = [] then [⟨[], [], cs⟩] else []

/-- The match in a text that begins at the given place, with the place of the match. -/
def search? (pattern : Pattern) (place : Nat) (cs : List Char) : Option (Nat × Way) :=
  match (pattern.ways place cs).head? with
  | some way => some (place, way)
  | none =>
    match cs with
    | [] => none
    | c :: rest => pattern.search? (place + c.utf8Size) rest

/-! ## Which ways there are -/

/-- Whether the pattern, at a place and before some text, can match a text and keep these groups,
whatever it prefers. -/
def Spells : Pattern → Nat → List Char → List (Nat × List Char) → List Char → Prop
  | one p, _, taken, groups, _ => ∃ c, p c = true ∧ taken = [c] ∧ groups = []
  | many p, _, taken, groups, _ => (∀ c ∈ taken, p c = true) ∧ groups = []
  | seq first second, place, taken, groups, rest =>
    ∃ taken₁ groups₁ taken₂ groups₂,
      first.Spells place taken₁ groups₁ (taken₂ ++ rest) ∧
        second.Spells (place + Text.utf8Length taken₁) taken₂ groups₂ rest ∧
          taken = taken₁ ++ taken₂ ∧ groups = groups₁ ++ groups₂
  | maybe inner, place, taken, groups, rest =>
    inner.Spells place taken groups rest ∨ taken = [] ∧ groups = []
  | group number inner, place, taken, groups, rest =>
    ∃ inside, inner.Spells place taken inside rest ∧ groups = inside ++ [(number, taken)]
  | textStart, place, taken, groups, _ => place = 0 ∧ taken = [] ∧ groups = []
  | textEnd, _, taken, groups, rest => rest = [] ∧ taken = [] ∧ groups = []

theorem mem_runs_iff {p : Char → Bool} {cs : List Char} {way : Way} :
    way ∈ runs p cs ↔
      cs = way.taken ++ way.rest ∧ (∀ c ∈ way.taken, p c = true) ∧ way.groups = [] := by
  obtain ⟨taken, groups, rest⟩ := way
  induction cs generalizing taken with
  | nil =>
    rw [runs, List.mem_singleton, Way.mk.injEq, List.nil_eq, List.append_eq_nil_iff]
    constructor
    · intro h
      rcases h with ⟨rfl, rfl, rfl⟩
      simp
    · intro h
      rcases h with ⟨⟨rfl, rfl⟩, -, rfl⟩
      simp
  | cons c cs ih =>
    rw [runs, List.mem_append, List.mem_singleton, Way.mk.injEq]
    constructor
    · intro h
      rcases h with h | ⟨rfl, rfl, rfl⟩
      · split at h
        · next hc =>
          obtain ⟨⟨run, kept, after⟩, hway, he⟩ := List.mem_map.1 h
          obtain ⟨rfl, rfl, rfl⟩ := Way.mk.inj he
          obtain ⟨rfl, hrun, hkept⟩ := (ih run).1 hway
          exact ⟨rfl, by simpa [hc] using hrun, hkept⟩
        · simp at h
      · simp
    · intro h
      rcases h with ⟨hcs, htaken, hgroups⟩
      cases taken with
      | nil => exact .inr ⟨rfl, hgroups, hcs.symm⟩
      | cons d run =>
        obtain ⟨rfl, hcs⟩ := List.cons.inj hcs
        have hrun : ⟨run, groups, rest⟩ ∈ runs p cs :=
          (ih run).2 ⟨hcs, fun x hx => htaken x (by simp [hx]), hgroups⟩
        rw [if_pos (htaken c (by simp))]
        exact .inl (List.mem_map.2 ⟨_, hrun, rfl⟩)

/-- The ways in front of a text are those that spell a part of it. -/
theorem mem_ways_iff {pattern : Pattern} {place : Nat} {cs : List Char} {way : Way} :
    way ∈ pattern.ways place cs ↔
      cs = way.taken ++ way.rest ∧ pattern.Spells place way.taken way.groups way.rest := by
  obtain ⟨taken, groups, rest⟩ := way
  induction pattern generalizing place cs taken groups rest with
  | one p =>
    cases cs with
    | nil =>
      simp only [ways, Spells, List.not_mem_nil, false_iff]
      intro h
      rcases h with ⟨hcs, c, -, rfl, -⟩
      simp at hcs
    | cons c cs =>
      simp only [ways, Spells]
      constructor
      · intro h
        split at h
        · next hc =>
          obtain ⟨rfl, rfl, rfl⟩ := Way.mk.inj (List.mem_singleton.1 h)
          exact ⟨rfl, c, hc, rfl, rfl⟩
        · simp at h
      · intro h
        rcases h with ⟨hcs, d, hd, rfl, rfl⟩
        obtain ⟨rfl, rfl⟩ := List.cons.inj hcs
        rw [if_pos hd]
        exact List.mem_singleton.2 rfl
  | many p => exact mem_runs_iff
  | seq first second ih₁ ih₂ =>
    simp only [ways, Spells, List.mem_flatMap, List.mem_map]
    constructor
    · intro h
      rcases h with ⟨⟨taken₁, groups₁, rest₁⟩, h₁, ⟨taken₂, groups₂, rest₂⟩, h₂, he⟩
      obtain ⟨rfl, rfl, rfl⟩ := Way.mk.inj he
      obtain ⟨rfl, hs₁⟩ := (ih₁ ..).1 h₁
      obtain ⟨rfl, hs₂⟩ := (ih₂ ..).1 h₂
      exact ⟨(List.append_assoc ..).symm, taken₁, groups₁, taken₂, groups₂, hs₁, hs₂, rfl, rfl⟩
    · intro h
      rcases h with ⟨rfl, taken₁, groups₁, taken₂, groups₂, hs₁, hs₂, rfl, rfl⟩
      exact ⟨⟨taken₁, groups₁, taken₂ ++ rest⟩, (ih₁ ..).2 ⟨List.append_assoc .., hs₁⟩,
        ⟨taken₂, groups₂, rest⟩, (ih₂ ..).2 ⟨rfl, hs₂⟩, rfl⟩
  | maybe inner ih =>
    simp only [ways, Spells, List.mem_append, List.mem_singleton, Way.mk.injEq]
    constructor
    · intro h
      rcases h with h | ⟨rfl, rfl, rfl⟩
      · obtain ⟨hcs, hs⟩ := (ih ..).1 h
        exact ⟨hcs, .inl hs⟩
      · exact ⟨rfl, .inr ⟨rfl, rfl⟩⟩
    · intro h
      rcases h with ⟨hcs, hs | ⟨rfl, rfl⟩⟩
      · exact .inl ((ih ..).2 ⟨hcs, hs⟩)
      · exact .inr ⟨rfl, rfl, hcs.symm⟩
  | group number inner ih =>
    simp only [ways, Spells, List.mem_map]
    constructor
    · intro h
      rcases h with ⟨⟨taken, inside, rest⟩, h, he⟩
      obtain ⟨rfl, rfl, rfl⟩ := Way.mk.inj he
      obtain ⟨hcs, hs⟩ := (ih ..).1 h
      exact ⟨hcs, inside, hs, rfl⟩
    · intro h
      rcases h with ⟨hcs, inside, hs, rfl⟩
      exact ⟨⟨taken, inside, rest⟩, (ih ..).2 ⟨hcs, hs⟩, rfl⟩
  | textStart =>
    simp only [ways, Spells]
    constructor
    · intro h
      split at h
      · next hplace =>
        obtain ⟨rfl, rfl, rfl⟩ := Way.mk.inj (List.mem_singleton.1 h)
        exact ⟨rfl, hplace, rfl, rfl⟩
      · simp at h
    · intro h
      rcases h with ⟨rfl, hplace, rfl, rfl⟩
      rw [if_pos hplace]
      exact List.mem_singleton.2 rfl
  | textEnd =>
    simp only [ways, Spells]
    constructor
    · intro h
      split at h
      · next hcs =>
        obtain ⟨rfl, rfl, rfl⟩ := Way.mk.inj (List.mem_singleton.1 h)
        exact ⟨rfl, hcs, rfl, rfl⟩
      · simp at h
    · intro h
      rcases h with ⟨rfl, rfl, rfl, rfl⟩
      exact List.mem_singleton.2 rfl

/-! ## Searching -/

theorem search?_of_ways {pattern : Pattern} {place : Nat} {cs : List Char} {way : Way}
    {others : List Way} (h : pattern.ways place cs = way :: others) :
    pattern.search? place cs = some (place, way) := by
  rw [search?.eq_def, h, List.head?_cons]

theorem search?_nil {pattern : Pattern} {place : Nat} (h : pattern.ways place [] = []) :
    pattern.search? place [] = none := by
  rw [search?, h, List.head?_nil]

theorem search?_cons {pattern : Pattern} {place : Nat} {c : Char} {cs : List Char}
    (h : pattern.ways place (c :: cs) = []) :
    pattern.search? place (c :: cs) = pattern.search? (place + c.utf8Size) cs := by
  rw [search?, h, List.head?_nil]

end Pattern

/-! ## The pattern of a token -/

namespace Token

open Pattern

/-- The group of the name. -/
def nameGroup : Nat := 1

/-- The group of the parameter. -/
def parameterGroup : Nat := 2

/-- The group of the chain. -/
def chainGroup : Nat := 3

/-- A mark and a group of at least one character of a class, with blanks before both. -/
def partPattern (mark : Char) (number : Nat) (p : Char → Bool) : Pattern :=
  many Text.isBlank ++ (char mark ++ (many Text.isBlank ++ group number (atLeastOne p)))

/-- A colon and a parameter. -/
def parameterPattern : Pattern := partPattern ':' parameterGroup fun c => c ≠ '}' && c ≠ '|'

/-- A bar and a chain. -/
def chainPattern : Pattern := partPattern '|' chainGroup fun c => c ≠ '}'

/-- The closing braces, with blanks before them. -/
def closePattern : Pattern := many Text.isBlank ++ (char '}' ++ char '}')

/-- The pattern of a token. -/
def pattern : Pattern :=
  char '{' ++ (char '{' ++ (many Text.isBlank ++ (group nameGroup (atLeastOne isWordChar) ++
    (maybe parameterPattern ++ (maybe chainPattern ++ closePattern)))))

/-- The pattern of a text that is nothing but a token. -/
def wholePattern : Pattern := textStart ++ (pattern ++ textEnd)

/-- The token that a way of the pattern gives, at a place of a text. -/
def ofWay? (place : Nat) (way : Way) : Option Token :=
  (way.groups.lookup nameGroup).map fun name =>
    { raw := String.ofList way.taken
      name := String.ofList name
      parameter := (way.groups.lookup parameterGroup).map fun p => String.ofList (Text.trim p)
      modifiers := (way.groups.lookup chainGroup).map fun m => String.ofList (Text.trim m)
      start := place
      stop := place + Text.utf8Length way.taken }

end Token

namespace Pattern

variable {p : Char → Bool} {next : Pattern} {place : Nat} {taken rest : List Char}
  {groups : List (Nat × List Char)}

theorem spells_many_append :
    (many p ++ next).Spells place taken groups rest ↔
      ∃ run after, (∀ c ∈ run, p c = true) ∧
        next.Spells (place + Text.utf8Length run) after groups rest ∧ taken = run ++ after := by
  constructor
  · intro h
    rcases h with ⟨run, _, after, kept, ⟨hrun, rfl⟩, hnext, htaken, rfl⟩
    exact ⟨run, after, hrun, hnext, htaken⟩
  · intro h
    rcases h with ⟨run, after, hrun, hnext, htaken⟩
    exact ⟨run, [], after, groups, ⟨hrun, rfl⟩, hnext, htaken, rfl⟩

theorem spells_char {c : Char} :
    (char c).Spells place taken groups rest ↔ taken = [c] ∧ groups = [] := by
  constructor
  · intro h
    rcases h with ⟨d, hd, htaken, hgroups⟩
    rw [of_decide_eq_true hd] at htaken
    exact ⟨htaken, hgroups⟩
  · intro h
    rcases h with ⟨htaken, hgroups⟩
    exact ⟨c, by simp, htaken, hgroups⟩

theorem spells_char_append {c : Char} :
    (char c ++ next).Spells place taken groups rest ↔
      ∃ after, next.Spells (place + Text.utf8Length [c]) after groups rest ∧
        taken = c :: after := by
  constructor
  · intro h
    rcases h with ⟨_, _, after, kept, hc, hnext, htaken, hgroups⟩
    obtain ⟨rfl, rfl⟩ := spells_char.1 hc
    rw [List.nil_append] at hgroups
    exact ⟨after, hgroups ▸ hnext, htaken⟩
  · intro h
    rcases h with ⟨after, hnext, htaken⟩
    exact ⟨[c], [], after, groups, spells_char.2 ⟨rfl, rfl⟩, hnext, htaken, rfl⟩

theorem spells_group_atLeastOne {number : Nat} :
    (group number (atLeastOne p)).Spells place taken groups rest ↔
      taken ≠ [] ∧ (∀ c ∈ taken, p c = true) ∧ groups = [(number, taken)] := by
  constructor
  · intro h
    rcases h with ⟨_, ⟨_, _, run, _, ⟨c, hc, rfl, rfl⟩, ⟨hrun, rfl⟩, rfl, rfl⟩, rfl⟩
    exact ⟨by simp, by simpa [hc] using hrun, rfl⟩
  · intro h
    rcases h with ⟨hne, htaken, rfl⟩
    obtain ⟨c, run, rfl⟩ := List.exists_cons_of_ne_nil hne
    have hrun : ∀ x ∈ run, p x = true := fun x hx => htaken x (by simp [hx])
    exact ⟨[], ⟨[c], [], run, [], ⟨c, htaken c (by simp), rfl, rfl⟩, ⟨hrun, rfl⟩, rfl, rfl⟩, rfl⟩

theorem spells_partPattern {mark : Char} {number : Nat} :
    (Token.partPattern mark number p).Spells place taken groups rest ↔
      ∃ gap lead part, (∀ c ∈ gap, Text.isBlank c = true) ∧ (∀ c ∈ lead, Text.isBlank c = true) ∧
        (part ≠ [] ∧ ∀ c ∈ part, p c = true) ∧ taken = gap ++ mark :: (lead ++ part) ∧
          groups = [(number, part)] := by
  simp only [Token.partPattern, spells_many_append, spells_char_append, spells_group_atLeastOne]
  constructor
  · intro h
    rcases h with ⟨gap, _, hgap, ⟨_, ⟨lead, part, hlead, ⟨hne, hpart, rfl⟩, rfl⟩, rfl⟩, rfl⟩
    exact ⟨gap, lead, part, hgap, hlead, ⟨hne, hpart⟩, rfl, rfl⟩
  · intro h
    rcases h with ⟨gap, lead, part, hgap, hlead, ⟨hne, hpart⟩, rfl, rfl⟩
    exact ⟨gap, _, hgap, ⟨_, ⟨lead, part, hlead, ⟨hne, hpart, rfl⟩, rfl⟩, rfl⟩, rfl⟩

end Pattern

/-! ## What the ways of a token spell -/

namespace Token

open Pattern

variable {place : Nat} {cs taken rest : List Char} {groups : List (Nat × List Char)}

/-- A group with the blanks before it and after it, as a part of a written token. -/
def spacedPart (lead part after : List Char) : List Char :=
  Spaced.text id { before := lead, body := part, after }

section Parts

variable {lead part after : List Char} (hlead : ∀ c ∈ lead, Text.isBlank c = true)
  (hafter : ∀ c ∈ after, Text.isBlank c = true)
include hlead hafter

theorem trim_spacedPart : Text.trim (spacedPart lead part after) = Text.trim part :=
  Spaced.Blank.trim_text ⟨hlead, hafter⟩

theorem not_mem_spacedPart {c : Char} (hc : Text.isBlank c = false) (h : c ∉ part) :
    c ∉ spacedPart lead part after :=
  Spaced.Blank.not_mem_text ⟨hlead, hafter⟩ hc h

theorem spacedPart_parameter (hpart : part ≠ [] ∧ ∀ c ∈ part, (c ≠ '}' && c ≠ '|') = true) :
    spacedPart lead part after ≠ [] ∧ '|' ∉ spacedPart lead part after ∧
      '}' ∉ spacedPart lead part after := by
  obtain ⟨hne, hall⟩ := hpart
  have hbar : '|' ∉ part := fun hc => by simpa using hall _ hc
  have hbrace : '}' ∉ part := fun hc => by simpa using hall _ hc
  exact ⟨Spaced.text_ne_nil hne, not_mem_spacedPart hlead hafter (by decide) hbar,
    not_mem_spacedPart hlead hafter (by decide) hbrace⟩

theorem spacedPart_chain (hpart : part ≠ [] ∧ ∀ c ∈ part, decide (c ≠ '}') = true) :
    spacedPart lead part after ≠ [] ∧ '}' ∉ spacedPart lead part after := by
  obtain ⟨hne, hall⟩ := hpart
  have hbrace : '}' ∉ part := fun hc => by simpa using hall _ hc
  exact ⟨Spaced.text_ne_nil hne, not_mem_spacedPart hlead hafter (by decide) hbrace⟩

end Parts

theorem ofWay?_eq_token {written : WrittenToken} (htaken : taken = written.text)
    (hname : groups.lookup nameGroup = some written.name)
    (hparameter : (groups.lookup parameterGroup).map Text.trim =
      written.parameter.map Text.trim)
    (hchain : (groups.lookup chainGroup).map Text.trim = written.chain.map Text.trim) :
    ofWay? place ⟨taken, groups, rest⟩ = some (written.token place) := by
  have hp : (groups.lookup parameterGroup).map (fun p => String.ofList (Text.trim p)) =
      (written.parameter.map Text.trim).map String.ofList := by
    rw [← hparameter, Option.map_map]
    rfl
  have hc : (groups.lookup chainGroup).map (fun m => String.ofList (Text.trim m)) =
      (written.chain.map Text.trim).map String.ofList := by
    rw [← hchain, Option.map_map]
    rfl
  rw [ofWay?, hname, Option.map_some, hp, hc, htaken]
  rfl

theorem exists_chain_of_spells
    (h : (maybe chainPattern ++ closePattern).Spells place taken groups rest) :
    ∃ (gap : List Char) (chain kept : Option (List Char)),
      (∀ c ∈ gap, Text.isBlank c = true) ∧ (∀ m ∈ chain, m ≠ [] ∧ '}' ∉ m) ∧
        taken = gap ++ (WrittenToken.tail ⟨[], [], [], none, chain⟩ ++ ['}', '}']) ∧
          groups = (kept.map (chainGroup, ·)).toList ∧
            kept.map Text.trim = chain.map Text.trim := by
  obtain ⟨part, _, _, _, hchain, hclose, rfl, rfl⟩ := h
  simp only [closePattern, spells_many_append, spells_char_append, spells_char] at hclose
  obtain ⟨close, _, hblank, ⟨_, ⟨rfl, rfl⟩, rfl⟩, rfl⟩ := hclose
  rcases hchain with hchain | ⟨rfl, rfl⟩
  · obtain ⟨gap, lead, kept, hgap, hlead, hkept, rfl, rfl⟩ := spells_partPattern.1 hchain
    refine ⟨gap, some (spacedPart lead kept close), some kept, hgap, ?_, ?_, rfl, ?_⟩
    · simpa using spacedPart_chain hlead hblank hkept
    · simp [WrittenToken.tail, spacedPart, Spaced.text]
    · exact congrArg some (trim_spacedPart hlead hblank).symm
  · exact ⟨close, none, none, hblank, by simp, rfl, rfl, rfl⟩

/-- What follows the name.  The blanks before the bar or the closing braces belong to a parameter
if there is one. -/
theorem exists_tail_of_spells
    (h : (maybe parameterPattern ++ (maybe chainPattern ++ closePattern)).Spells place taken groups
      rest) :
    ∃ (gap : List Char) (parameter chain keptParameter keptChain : Option (List Char)),
      (∀ c ∈ gap, Text.isBlank c = true) ∧ (∀ p ∈ parameter, p ≠ [] ∧ '|' ∉ p ∧ '}' ∉ p) ∧
        (∀ m ∈ chain, m ≠ [] ∧ '}' ∉ m) ∧
          taken = gap ++ (WrittenToken.tail ⟨[], [], [], parameter, chain⟩ ++ ['}', '}']) ∧
            groups = (keptParameter.map (parameterGroup, ·)).toList ++
              (keptChain.map (chainGroup, ·)).toList ∧
                keptParameter.map Text.trim = parameter.map Text.trim ∧
                  keptChain.map Text.trim = chain.map Text.trim := by
  obtain ⟨_, _, _, _, hparameter, hrest, rfl, rfl⟩ := h
  obtain ⟨before, chain, keptChain, hbefore, hchain, rfl, rfl, htrim⟩ :=
    exists_chain_of_spells hrest
  rcases hparameter with hparameter | ⟨rfl, rfl⟩
  · obtain ⟨gap, lead, kept, hgap, hlead, hkept, rfl, rfl⟩ := spells_partPattern.1 hparameter
    refine ⟨gap, some (spacedPart lead kept before), chain, some kept, keptChain, hgap, ?_, hchain,
      ?_, rfl, ?_, htrim⟩
    · simpa using spacedPart_parameter hlead hbefore hkept
    · simp [WrittenToken.tail, spacedPart, Spaced.text]
    · exact congrArg some (trim_spacedPart hlead hbefore).symm
  · exact ⟨before, none, chain, none, keptChain, hbefore, by simp, hchain, rfl, rfl, rfl, htrim⟩

/-- Every way of the pattern spells a written token.  Which blanks go to a group and which to the
runs beside it makes no difference, since the token keeps the groups trimmed. -/
theorem exists_written_of_spells (h : pattern.Spells place taken groups rest) :
    ∃ written : WrittenToken, written.WellFormed ∧ taken = written.text ∧
      ofWay? place ⟨taken, groups, rest⟩ = some (written.token place) := by
  rw [pattern, spells_char_append] at h
  obtain ⟨_, h, rfl⟩ := h
  rw [spells_char_append] at h
  obtain ⟨_, h, rfl⟩ := h
  rw [spells_many_append] at h
  obtain ⟨lead, _, hlead, ⟨name, _, _, _, hname, htail, rfl, rfl⟩, rfl⟩ := h
  obtain ⟨hne, hword, rfl⟩ := spells_group_atLeastOne.1 hname
  obtain ⟨gap, parameter, chain, keptParameter, keptChain, hgap, hparameter, hchain, rfl, rfl,
    htrim₂, htrim₃⟩ := exists_tail_of_spells htail
  have htext : '{' :: '{' :: (lead ++ (name ++
      (gap ++ (WrittenToken.tail ⟨[], [], [], parameter, chain⟩ ++ ['}', '}'])))) =
        WrittenToken.text ⟨lead, name, gap, parameter, chain⟩ := by
    simp [WrittenToken.text, WrittenToken.inner, WrittenToken.tail]
  refine ⟨⟨lead, name, gap, parameter, chain⟩,
    { lead := hlead, name_ne_nil := hne, name := hword, gap := hgap, parameter := hparameter
      chain := hchain }, htext, ofWay?_eq_token htext rfl ?_ ?_⟩
  · rw [← htrim₂]
    cases keptParameter <;> cases keptChain <;> rfl
  · rw [← htrim₃]
    cases keptParameter <;> cases keptChain <;> rfl

theorem exists_groups_of_chain (place : Nat) (rest : List Char) {gap : List Char}
    {chain : Option (List Char)}
    (hgap : ∀ c ∈ gap, Text.isBlank c = true) (hchain : ∀ m ∈ chain, m ≠ [] ∧ '}' ∉ m) :
    ∃ groups, (maybe chainPattern ++ closePattern).Spells place
      (gap ++ (WrittenToken.tail ⟨[], [], [], none, chain⟩ ++ ['}', '}'])) groups rest := by
  have hclose : ∀ (place : Nat) (blank : List Char), (∀ c ∈ blank, Text.isBlank c = true) →
      closePattern.Spells place (blank ++ ['}', '}']) [] rest := fun _ _ hblank =>
    spells_many_append.2 ⟨_, _, hblank,
      spells_char_append.2 ⟨_, spells_char.2 ⟨rfl, rfl⟩, rfl⟩, rfl⟩
  cases chain with
  | none => exact ⟨_, [], [], _, _, .inr ⟨rfl, rfl⟩, hclose _ gap hgap, rfl, rfl⟩
  | some m =>
    obtain ⟨hne, hbrace⟩ := hchain m rfl
    have hm : ∀ c ∈ m, decide (c ≠ '}') = true := fun c hc => by
      simpa using fun e : c = '}' => hbrace (e ▸ hc)
    have hspells : chainPattern.Spells place (gap ++ '|' :: m) [(chainGroup, m)]
        (['}', '}'] ++ rest) :=
      spells_partPattern.2 ⟨gap, [], m, hgap, by simp, ⟨hne, hm⟩, rfl, rfl⟩
    refine ⟨_, gap ++ '|' :: m, _, ['}', '}'], _, .inl hspells, hclose _ [] (by simp), ?_, rfl⟩
    simp [WrittenToken.tail]

/-- What follows the name is spelled with the blanks around a part left to its group. -/
theorem exists_groups_of_tail {written : WrittenToken} (h : written.WellFormed) :
    ∃ groups, (maybe parameterPattern ++ (maybe chainPattern ++ closePattern)).Spells place
      (written.gap ++ (written.tail ++ ['}', '}'])) groups rest := by
  obtain ⟨lead, name, gap, parameter, chain⟩ := written
  cases parameter with
  | none =>
    obtain ⟨groups, hrest⟩ := exists_groups_of_chain (place + 0) rest h.gap h.chain
    exact ⟨_, [], [], _, groups, .inr ⟨rfl, rfl⟩, hrest, rfl, rfl⟩
  | some p =>
    obtain ⟨hne, hbar, hbrace⟩ := h.parameter p rfl
    have hp : ∀ c ∈ p, (c ≠ '}' && c ≠ '|') = true := fun c hc => by
      simpa using ⟨fun e : c = '}' => hbrace (e ▸ hc), fun e : c = '|' => hbar (e ▸ hc)⟩
    have hnone : ∀ c ∈ ([] : List Char), Text.isBlank c = true := by simp
    obtain ⟨groups, hrest⟩ := exists_groups_of_chain
      (place + Text.utf8Length (gap ++ ':' :: p)) rest hnone h.chain
    refine ⟨_, gap ++ ':' :: p, [(parameterGroup, p)], _, groups, .inl ?_, hrest, ?_, rfl⟩
    · exact spells_partPattern.2 ⟨gap, [], p, h.gap, by simp, ⟨hne, hp⟩, rfl, rfl⟩
    · simp [WrittenToken.tail]

/-- Every well-formed written token is spelled in some way. -/
theorem exists_groups_of_wellFormed (place : Nat) (rest : List Char) {written : WrittenToken}
    (h : written.WellFormed) : ∃ groups, pattern.Spells place written.text groups rest := by
  obtain ⟨groups, htail⟩ := exists_groups_of_tail h
  refine ⟨_, spells_char_append.2 ⟨_, spells_char_append.2 ⟨_, spells_many_append.2 ⟨written.lead,
    _, h.lead, ⟨written.name, _, _, groups,
      spells_group_atLeastOne.2 ⟨h.name_ne_nil, h.name, rfl⟩, htail, rfl, rfl⟩, rfl⟩, rfl⟩, ?_⟩⟩
  simp [WrittenToken.text, WrittenToken.inner]

/-! ## Reading and matching -/

/-- What a way of the pattern matches is read as the token that the way gives. -/
theorem front?_of_mem_ways {way : Way} (h : way ∈ pattern.ways place cs) :
    ∃ token, ofWay? place way = some token ∧ front? place cs = some (token, way.rest) := by
  obtain ⟨hcs, hspells⟩ := mem_ways_iff.1 h
  obtain ⟨written, hwf, htaken, hway⟩ := exists_written_of_spells hspells
  refine ⟨written.token place, hway, front?_eq_some_iff.2 ⟨written, hwf, ?_, rfl⟩⟩
  rw [hcs, htaken]

theorem front?_eq_none_of_ways (h : pattern.ways place cs = []) : front? place cs = none := by
  rw [Option.eq_none_iff_forall_ne_some]
  intro found hfront
  rcases found with ⟨token, rest⟩
  obtain ⟨written, hwf, hcs, -⟩ := front?_eq_some_iff.1 hfront
  obtain ⟨groups, hspells⟩ := exists_groups_of_wellFormed place rest hwf
  have hway : ⟨written.text, groups, rest⟩ ∈ pattern.ways place cs :=
    mem_ways_iff.2 ⟨hcs, hspells⟩
  simp [h] at hway

/-- The token in front of a text is what the pattern prefers to match there. -/
theorem front?_eq_pattern (place : Nat) (cs : List Char) :
    front? place cs =
      (pattern.ways place cs).head?.bind fun way =>
        (ofWay? place way).map fun token => (token, way.rest) := by
  cases hways : pattern.ways place cs with
  | nil => rw [front?_eq_none_of_ways hways, List.head?_nil, Option.bind_none]
  | cons way others =>
    have hmem : way ∈ pattern.ways place cs := hways ▸ List.mem_cons_self
    obtain ⟨token, hway, hfront⟩ := front?_of_mem_ways hmem
    rw [hfront, List.head?_cons, Option.bind_some, hway, Option.map_some]

theorem spells_wholePattern :
    wholePattern.Spells place taken groups rest ↔
      place = 0 ∧ rest = [] ∧ pattern.Spells place taken groups rest := by
  constructor
  · intro h
    rcases h with ⟨_, _, _, _, ⟨hplace, rfl, rfl⟩, hafter, rfl, rfl⟩
    rcases hafter with ⟨_, _, _, _, hspells, ⟨hrest, rfl, rfl⟩, rfl, rfl⟩
    simp only [Text.utf8Length_nil, Nat.add_zero, List.nil_append] at hspells
    rw [List.append_nil, List.append_nil]
    exact ⟨hplace, hrest, hspells⟩
  · intro h
    rcases h with ⟨hplace, hrest, hspells⟩
    exact ⟨[], [], taken, groups, ⟨hplace, rfl, rfl⟩,
      ⟨taken, groups, [], [], hspells, ⟨hrest, rfl, rfl⟩, by simp, by simp⟩, rfl, rfl⟩

/-- A text is matched from its start or not at all. -/
theorem search?_wholePattern_of_pos (hplace : 0 < place) :
    wholePattern.search? place cs = none := by
  have hways : ∀ {place : Nat} {cs : List Char}, 0 < place → wholePattern.ways place cs = [] := by
    intro place cs hplace
    rw [List.eq_nil_iff_forall_not_mem]
    intro way hway
    have hzero := (spells_wholePattern.1 (mem_ways_iff.1 hway).2).1
    omega
  induction cs generalizing place with
  | nil => exact search?_nil (hways hplace)
  | cons c cs ih =>
    rw [search?_cons (hways hplace)]
    exact ih (by omega)

/-- The whole text as a token is what the pattern matches between the two ends of the text. -/
theorem ofText?_eq_wholePattern (text : String) :
    ofText? text =
      (wholePattern.search? 0 text.toList).bind fun (place, way) => ofWay? place way := by
  cases hways : wholePattern.ways 0 text.toList with
  | nil =>
    have hsearch : wholePattern.search? 0 text.toList = none := by
      cases hcs : text.toList with
      | nil => exact search?_nil (hcs ▸ hways)
      | cons c cs =>
        rw [search?_cons (hcs ▸ hways)]
        have hsize : 0 < c.utf8Size := c.utf8Size_pos
        exact search?_wholePattern_of_pos (by omega)
    rw [hsearch, Option.bind_none, Option.eq_none_iff_forall_ne_some]
    intro token htoken
    obtain ⟨written, hwf, htext, -⟩ := ofText?_eq_some_iff.1 htoken
    obtain ⟨groups, hspells⟩ := exists_groups_of_wellFormed 0 [] hwf
    have hway : ⟨written.text, groups, []⟩ ∈ wholePattern.ways 0 text.toList :=
      mem_ways_iff.2 ⟨by rw [htext, List.append_nil], spells_wholePattern.2 ⟨rfl, rfl, hspells⟩⟩
    simp [hways] at hway
  | cons way others =>
    have hway : way ∈ wholePattern.ways 0 text.toList := hways ▸ List.mem_cons_self
    obtain ⟨htext, hspells⟩ := mem_ways_iff.1 hway
    obtain ⟨-, hrest, hspells⟩ := spells_wholePattern.1 hspells
    obtain ⟨written, hwf, htaken, hway⟩ := exists_written_of_spells hspells
    rw [search?_of_ways hways, Option.bind_some]
    refine Eq.trans (ofText?_eq_some_iff.2 ⟨written, hwf, ?_, rfl⟩) hway.symm
    rw [htext, hrest, List.append_nil, htaken]

end Token

end Placeholder
