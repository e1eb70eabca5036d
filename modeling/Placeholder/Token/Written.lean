import Placeholder.Text.Runs
import Placeholder.Token.Basic

/-!
# Written tokens

How a token is written, apart from how it is read.  A written token has its parts with every blank
in place; its text is the parts put together.

Main statement: a text has a token in front exactly if the text of a well-formed written token is
there, and the token then has the parts of the written one (`Token.front?_eq_some_iff`).
-/

namespace Placeholder

/-- The parts of which a token is written. -/
structure WrittenToken where
  /-- The blanks before the name. -/
  lead : List Char
  name : List Char
  /-- The blanks after the name. -/
  gap : List Char
  /-- What stands between the colon and the bar or the end. -/
  parameter : Option (List Char)
  /-- What stands after the bar. -/
  chain : Option (List Char)

namespace WrittenToken

/-- What follows the name and its blanks. -/
def tail (written : WrittenToken) : List Char :=
  (match written.parameter with
    | some parameter => ':' :: parameter
    | none => []) ++
  match written.chain with
  | some chain => '|' :: chain
  | none => []

/-- What stands between the braces. -/
def inner (written : WrittenToken) : List Char :=
  written.lead ++ (written.name ++ (written.gap ++ written.tail))

/-- The token as it is written. -/
def text (written : WrittenToken) : List Char := '{' :: '{' :: written.inner ++ ['}', '}']

/-- What the parts say once they are trimmed. -/
def body (written : WrittenToken) : TokenBody where
  name := written.name
  parameter := written.parameter.map Text.trim
  modifiers := written.chain.map Text.trim

/-- The token that is written, at a place of a text. -/
def token (written : WrittenToken) (start : Nat) : Token :=
  Token.ofBody start written.inner written.body

/-- The rules for the parts. -/
structure WellFormed (written : WrittenToken) : Prop where
  lead : ∀ c ∈ written.lead, Text.isBlank c = true
  name_ne_nil : written.name ≠ []
  name : ∀ c ∈ written.name, isWordChar c = true
  gap : ∀ c ∈ written.gap, Text.isBlank c = true
  parameter : ∀ p ∈ written.parameter, p ≠ [] ∧ '|' ∉ p ∧ '}' ∉ p
  chain : ∀ m ∈ written.chain, m ≠ [] ∧ '}' ∉ m

end WrittenToken

/-! ## Characters of names -/

theorem isBlank_eq_false_of_isWordChar {c : Char} (h : isWordChar c = true) :
    Text.isBlank c = false := by
  have hn : 48 ≤ c.toNat ∧ c.toNat ≤ 122 := by
    have h : ((decide ('A'.val ≤ c.val ∧ c.val ≤ 'Z'.val)
        || (decide ('a'.val ≤ c.val) && decide (c.val ≤ 'z'.val)))
        || (decide ('0'.val ≤ c.val) && decide (c.val ≤ '9'.val))
        || decide (c = '_')) = true := h
    simp only [Bool.or_eq_true, Bool.and_eq_true, decide_eq_true_eq, UInt32.le_iff_toNat_le] at h
    rcases h with ((⟨h₁, h₂⟩ | ⟨h₁, h₂⟩) | ⟨h₁, h₂⟩) | rfl
    · exact ⟨Nat.le_trans (by decide) h₁, Nat.le_trans h₂ (by decide)⟩
    · exact ⟨Nat.le_trans (by decide) h₁, Nat.le_trans h₂ (by decide)⟩
    · exact ⟨Nat.le_trans (by decide) h₁, Nat.le_trans h₂ (by decide)⟩
    · decide
  rw [← Bool.not_eq_true, Text.isBlank, Text.Ranges.contains_iff]
  rintro ⟨r, hr, h₁, h₂⟩
  simp only [Text.blanks, List.mem_cons, List.not_mem_nil, or_false] at hr
  rcases hr with rfl | rfl | rfl | rfl | rfl | rfl | rfl | rfl | rfl | rfl <;> simp at h₁ h₂ <;>
    omega

theorem isWordChar_eq_false_of_isBlank {c : Char} (h : Text.isBlank c = true) :
    isWordChar c = false := by
  rw [← Bool.not_eq_true]
  intro hw
  simp [isBlank_eq_false_of_isWordChar hw] at h

/-! ## Reading what is written -/

namespace WrittenToken

variable {written : WrittenToken}

theorem head?_tail : ∀ c ∈ written.tail.head?, c = ':' ∨ c = '|' := by
  obtain ⟨lead, name, gap, parameter, chain⟩ := written
  cases parameter <;> cases chain <;> simp [tail]

theorem head?_gap_append_tail (h : written.WellFormed) :
    ∀ c ∈ (written.gap ++ written.tail).head?, isWordChar c = false := by
  intro c hc
  cases hgap : written.gap with
  | nil =>
    rw [hgap, List.nil_append] at hc
    rcases head?_tail c hc with rfl | rfl <;> decide
  | cons g gap =>
    rw [hgap, List.cons_append, List.head?_cons, Option.mem_some_iff] at hc
    exact isWordChar_eq_false_of_isBlank (h.gap c (by simp [hgap, hc]))

theorem isBlank_head?_tail : ∀ c ∈ written.tail.head?, Text.isBlank c = false := by
  intro c hc
  rcases head?_tail c hc with rfl | rfl <;> decide

theorem head?_name_append {after : List Char} (h : written.WellFormed) :
    ∀ c ∈ (written.name ++ after).head?, Text.isBlank c = false := by
  intro c hc
  obtain ⟨n, name, hname⟩ := List.exists_cons_of_ne_nil h.name_ne_nil
  rw [hname, List.cons_append, List.head?_cons, Option.mem_some_iff] at hc
  exact isBlank_eq_false_of_isWordChar (h.name c (by simp [hname, hc]))

theorem ofRest_tail (h : written.WellFormed) :
    TokenBody.ofRest written.name written.tail = some written.body := by
  obtain ⟨lead, name, gap, parameter, chain⟩ := written
  have bar : ∀ p : List Char, '|' ∉ p → ∀ c ∈ p, decide (c ≠ '|') = true := fun p hp c hc => by
    simpa using fun e : c = '|' => hp (e ▸ hc)
  cases parameter with
  | none =>
    cases chain with
    | none => rfl
    | some m =>
      have hm := (h.chain m rfl).1
      simp [tail, body, TokenBody.ofRest, TokenBody.ofChain, hm]
  | some p =>
    obtain ⟨hp, hbar, -⟩ := h.parameter p rfl
    cases chain with
    | none =>
      have htake : (p ++ []).takeWhile (· ≠ '|') = p :=
        Text.takeWhile_append_of_head? (bar p hbar) (by simp)
      have hdrop : (p ++ []).dropWhile (· ≠ '|') = [] :=
        Text.dropWhile_append_of_head? (bar p hbar) (by simp)
      rw [List.append_nil] at htake hdrop
      simp only [tail, body, TokenBody.ofRest, List.append_nil, htake, hdrop]
      simp [hp]
    | some m =>
      have hm := (h.chain m rfl).1
      have hend : ∀ c ∈ ('|' :: m).head?, decide (c ≠ '|') = false := by simp
      simp only [tail, body, TokenBody.ofRest, TokenBody.ofChain, List.cons_append,
        Text.takeWhile_append_of_head? (bar p hbar) hend,
        Text.dropWhile_append_of_head? (bar p hbar) hend]
      simp [hp, hm]

theorem read?_inner (h : written.WellFormed) :
    TokenBody.read? written.inner = some written.body := by
  simp only [TokenBody.read?, inner, Text.trimStart,
    Text.dropWhile_append_of_head? h.lead (head?_name_append h),
    Text.takeWhile_append_of_head? h.name (head?_gap_append_tail h),
    Text.dropWhile_append_of_head? h.name (head?_gap_append_tail h),
    Text.dropWhile_append_of_head? h.gap isBlank_head?_tail, ofRest_tail h]
  simp [h.name_ne_nil]

theorem not_mem_inner (h : written.WellFormed) : '}' ∉ written.inner := by
  have htail : '}' ∉ written.tail := by
    obtain ⟨lead, name, gap, parameter, chain⟩ := written
    have hp := h.parameter
    have hm := h.chain
    cases parameter <;> cases chain <;> simp_all [tail]
  simp only [inner, List.mem_append, not_or]
  exact ⟨fun hc => absurd (h.lead _ hc) (by decide), fun hc => absurd (h.name _ hc) (by decide),
    fun hc => absurd (h.gap _ hc) (by decide), htail⟩

theorem front?_text_append (h : written.WellFormed) (start : Nat) (rest : List Char) :
    Token.front? start (written.text ++ rest) = some (written.token start, rest) := by
  have hne : ∀ c ∈ written.inner, decide (c ≠ '}') = true := fun c hc => by
    simpa using fun e : c = '}' => not_mem_inner h (e ▸ hc)
  have hend : ∀ c ∈ ('}' :: '}' :: rest).head?, decide (c ≠ '}') = false := by simp
  have htext : written.text ++ rest = '{' :: '{' :: (written.inner ++ '}' :: '}' :: rest) := by
    simp [text]
  simp only [htext, Token.front?, Text.takeWhile_append_of_head? hne hend,
    Text.dropWhile_append_of_head? hne hend, read?_inner h, Option.map_some, token]

/-! ## Parts of what is read -/

theorem exists_of_ofRest {name rest : List Char} {body : TokenBody} (hclose : '}' ∉ rest)
    (h : TokenBody.ofRest name rest = some body) :
    ∃ parameter chain : Option (List Char),
      (∀ p ∈ parameter, p ≠ [] ∧ '|' ∉ p ∧ '}' ∉ p) ∧ (∀ m ∈ chain, m ≠ [] ∧ '}' ∉ m) ∧
        tail ⟨[], name, [], parameter, chain⟩ = rest ∧
        body = ⟨name, parameter.map Text.trim, chain.map Text.trim⟩ := by
  unfold TokenBody.ofRest at h
  split at h
  · exact ⟨none, none, by simp, by simp, rfl, by simpa using h.symm⟩
  · next rest =>
    obtain ⟨p, rest, rfl, hp, hrest⟩ := Text.exists_run (· ≠ '|') rest
    have hbar : '|' ∉ p := fun hc => by simpa using hp _ hc
    have hclose' : '}' ∉ p := fun hc => hclose (by simp [hc])
    simp only [Text.takeWhile_append_of_head? hp hrest,
      Text.dropWhile_append_of_head? hp hrest] at h
    split at h
    · simp at h
    · next hne =>
      have hne : p ≠ [] := by simpa using hne
      split at h
      · exact ⟨some p, none, by simp [hne, hbar, hclose'], by simp, by simp [tail],
          by simpa using h.symm⟩
      · next c m =>
        have hc : c = '|' := by simpa using hrest c rfl
        subst hc
        rw [TokenBody.ofChain] at h
        split at h
        · simp at h
        · next hm =>
          exact ⟨some p, some m, by simp [hne, hbar, hclose'],
            by simpa using ⟨by simpa using hm, fun hc => hclose (by simp [hc])⟩, by simp [tail],
            by simpa using h.symm⟩
  · next m =>
    rw [TokenBody.ofChain] at h
    split at h
    · simp at h
    · next hm =>
      have hm' : m ≠ [] ∧ '}' ∉ m := ⟨by simpa using hm, fun hc => hclose (by simp [hc])⟩
      exact ⟨none, some m, by simp, by simpa using hm', by simp [tail], by simpa using h.symm⟩
  · simp at h

theorem exists_of_read? {inner : List Char} {body : TokenBody} (hclose : '}' ∉ inner)
    (h : TokenBody.read? inner = some body) :
    ∃ written : WrittenToken, written.WellFormed ∧ written.inner = inner ∧ written.body = body := by
  obtain ⟨lead, rest, rfl, hlead, hrest⟩ := Text.exists_run Text.isBlank inner
  obtain ⟨name, after, rfl, hname, hafter⟩ := Text.exists_run isWordChar rest
  obtain ⟨gap, tail, rfl, hgap, htail⟩ := Text.exists_run Text.isBlank after
  simp only [TokenBody.read?, Text.trimStart, Text.dropWhile_append_of_head? hlead hrest,
    Text.takeWhile_append_of_head? hname hafter, Text.dropWhile_append_of_head? hname hafter,
    Text.dropWhile_append_of_head? hgap htail] at h
  split at h
  · simp at h
  · next hne =>
    obtain ⟨parameter, chain, hp, hm, rfl, rfl⟩ :=
      exists_of_ofRest (fun hc => hclose (by simp [hc])) h
    exact ⟨⟨lead, name, gap, parameter, chain⟩,
      ⟨hlead, by simpa using hne, hname, hgap, hp, hm⟩, rfl, rfl⟩

end WrittenToken

theorem Token.front?_eq_some_iff {start : Nat} {cs rest : List Char} {token : Token} :
    Token.front? start cs = some (token, rest) ↔
      ∃ written : WrittenToken, written.WellFormed ∧ cs = written.text ++ rest ∧
        token = written.token start := by
  constructor
  · intro h
    unfold Token.front? at h
    split at h
    · next cs =>
      obtain ⟨inner, after, rfl, hinner, hafter⟩ := Text.exists_run (· ≠ '}') cs
      have hclose : '}' ∉ inner := fun hc => by simpa using hinner _ hc
      simp only [Text.takeWhile_append_of_head? hinner hafter,
        Text.dropWhile_append_of_head? hinner hafter] at h
      split at h
      · next rest' =>
        obtain ⟨body, hread, hbody⟩ := Option.map_eq_some_iff.1 h
        obtain ⟨rfl, rfl⟩ := Prod.mk.inj hbody
        obtain ⟨written, hwf, rfl, rfl⟩ := WrittenToken.exists_of_read? hclose hread
        exact ⟨written, hwf, by simp [WrittenToken.text], rfl⟩
      · simp at h
    · simp at h
  · rintro ⟨written, hwf, rfl, rfl⟩
    exact WrittenToken.front?_text_append hwf start rest

theorem Token.ofText?_eq_some_iff {text : String} {token : Token} :
    Token.ofText? text = some token ↔
      ∃ written : WrittenToken, written.WellFormed ∧ text.toList = written.text ∧
        token = written.token 0 := by
  have hfront : Token.ofText? text = some token ↔ Token.front? 0 text.toList = some (token, []) := by
    unfold Token.ofText?
    constructor
    · intro h
      split at h
      · next found hfound =>
        rw [hfound, Option.some.inj h]
      · simp at h
    · intro h
      rw [h]
  rw [hfront, Token.front?_eq_some_iff]
  constructor
  · rintro ⟨written, hwf, htext, htoken⟩
    exact ⟨written, hwf, by rw [htext, List.append_nil], htoken⟩
  · rintro ⟨written, hwf, htext, htoken⟩
    exact ⟨written, hwf, by rw [htext, List.append_nil], htoken⟩

end Placeholder
