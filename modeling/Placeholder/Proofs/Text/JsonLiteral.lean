import Placeholder.Text.JsonString

/-!
# JSON string literals

What a string is in the grammar of JSON: items between two quotes, where an item is a character that
stands for itself, or a backslash with a character that makes an escape of it, or with `u` and four
hexadecimal digits.  The end of a literal is found without knowing what it stands for: it is the
first quote that does not come after a backslash (`closing?`).

Main statement: a text that has been escaped makes a literal between two quotes, whatever comes
after it, and the literal stands for the text (`standsFor_escape`).
-/

namespace Placeholder.Text.JsonString

/-! ## Literals -/

/-- The character stands for itself inside a JSON string. -/
structure IsPlain (c : Char) : Prop where
  quote : c ≠ '"'
  backslash : c ≠ '\\'
  control : 0x20 ≤ c.toNat

/-- One item of the inside of a JSON string. -/
inductive IsItem : List Char → Prop where
  | plain {c : Char} (h : IsPlain c) : IsItem [c]
  | short {c : Char} (h : c ∈ ['"', '\\', '/', 'b', 'f', 'n', 'r', 't']) : IsItem ['\\', c]
  | unit {a b c d : Char} (h : ∀ digit ∈ [a, b, c, d], (hexValue? digit).isSome) :
      IsItem ['\\', 'u', a, b, c, d]

/-- The text is a JSON string with its quotes. -/
def IsLiteral (cs : List Char) : Prop :=
  ∃ items : List (List Char), (∀ item ∈ items, IsItem item) ∧ cs = quote items.flatten

/-- What stands before the closing quote, and what comes after it. -/
def closing? : List Char → Option (List Char × List Char)
  | [] => none
  | '"' :: rest => some ([], rest)
  | '\\' :: c :: rest => (closing? rest).map fun (inside, after) => ('\\' :: c :: inside, after)
  | c :: rest => (closing? rest).map fun (inside, after) => (c :: inside, after)

/-- The text that a JSON string with its quotes stands for. -/
def literal? : List Char → Option (List Char)
  | '"' :: rest =>
    match closing? rest with
    | some (inside, []) => unescape? inside
    | _ => none
  | _ => none

/-- The first text makes a literal between two quotes, which ends where the second quote is, and it
stands for the second text. -/
structure StandsFor (inside content : List Char) : Prop where
  literal : IsLiteral (quote inside)
  reads : literal? (quote inside) = some content
  closes : ∀ after, closing? (inside ++ '"' :: after) = some (inside, after)

/-! ## Escaped texts -/

theorem IsPlain.escapeChar_eq {c : Char} (h : IsPlain c) : escapeChar c = [c] := by
  unfold escapeChar
  split
  · exact absurd rfl h.quote
  · exact absurd rfl h.backslash
  · exact absurd h.control (by decide)
  · exact absurd h.control (by decide)
  · exact absurd h.control (by decide)
  · exact absurd h.control (by decide)
  · exact absurd h.control (by decide)
  · exact if_neg (Nat.not_lt.2 h.control)

theorem isItem_escapeChar (c : Char) : IsItem (escapeChar c) := by
  unfold escapeChar
  split
  · exact .short (by decide)
  · exact .short (by decide)
  · exact .short (by decide)
  · exact .short (by decide)
  · exact .short (by decide)
  · exact .short (by decide)
  · exact .short (by decide)
  · next hquote hslash _ _ _ _ _ =>
    split
    · next hlow =>
      refine .unit fun digit hdigit => ?_
      have hhigh : (hexValue? (hexDigit (c.toNat / 16))).isSome := by
        rw [hexValue?_hexDigit (by omega), Option.isSome_some]
      have hrest : (hexValue? (hexDigit (c.toNat % 16))).isSome := by
        rw [hexValue?_hexDigit (by omega), Option.isSome_some]
      simp only [List.mem_cons, List.not_mem_nil, or_false] at hdigit
      rcases hdigit with rfl | rfl | rfl | rfl
      · decide
      · decide
      · exact hhigh
      · exact hrest
    · next hhigh => exact .plain ⟨hquote, hslash, by omega⟩

theorem closing?_cons {c : Char} (hquote : c ≠ '"') (hslash : c ≠ '\\') (rest : List Char) :
    closing? (c :: rest) = (closing? rest).map fun (inside, after) => (c :: inside, after) := by
  rw [closing?]
  · exact hquote
  · exact fun _ _ hc => absurd hc hslash

theorem closing?_hexDigit {c : Char} (h : (hexValue? c).isSome) (rest : List Char) :
    closing? (c :: rest) = (closing? rest).map fun (inside, after) => (c :: inside, after) := by
  refine closing?_cons ?_ ?_ rest
  · rintro rfl
    exact absurd h (by decide)
  · rintro rfl
    exact absurd h (by decide)

theorem closing?_item_append {item : List Char} (h : IsItem item) (rest : List Char) :
    closing? (item ++ rest) =
      (closing? rest).map fun (inside, after) => (item ++ inside, after) := by
  cases h with
  | plain h => exact closing?_cons h.quote h.backslash rest
  | short h => rfl
  | @unit a b c d h =>
    have hunit : closing? ('\\' :: 'u' :: a :: b :: c :: d :: rest) =
        (closing? (a :: b :: c :: d :: rest)).map
          fun (inside, after) => ('\\' :: 'u' :: inside, after) := rfl
    simp only [List.cons_append, List.nil_append, hunit, closing?_hexDigit (h a (by simp)),
      closing?_hexDigit (h b (by simp)), closing?_hexDigit (h c (by simp)),
      closing?_hexDigit (h d (by simp)), Option.map_map]
    rfl

theorem closing?_flatten_append {items : List (List Char)} (h : ∀ item ∈ items, IsItem item)
    (after : List Char) :
    closing? (items.flatten ++ '"' :: after) = some (items.flatten, after) := by
  induction items with
  | nil => rfl
  | cons item items ih =>
    have hitem := h item List.mem_cons_self
    rw [List.flatten_cons, List.append_assoc, closing?_item_append hitem,
      ih fun other hother => h other (List.mem_cons_of_mem _ hother)]
    rfl

/-- Between two quotes an escaped text is a literal for the text. -/
theorem standsFor_escape (cs : List Char) : StandsFor (escape cs) cs := by
  have hitems : ∀ item ∈ cs.map escapeChar, IsItem item := by
    intro item hitem
    obtain ⟨c, -, rfl⟩ := List.mem_map.1 hitem
    exact isItem_escapeChar c
  have hcloses := closing?_flatten_append hitems
  rw [← List.flatMap_def] at hcloses
  refine ⟨⟨cs.map escapeChar, hitems, rfl⟩, ?_, hcloses⟩
  have hclosing : closing? (escape cs ++ ['"']) = some (escape cs, []) := hcloses []
  rw [quote, List.cons_append, literal?, hclosing]
  exact unescape?_escape cs

/-- A text without quotes, backslashes and controls is escaped already. -/
theorem escape_of_plain {cs : List Char} (h : ∀ c ∈ cs, IsPlain c) : escape cs = cs := by
  induction cs with
  | nil => rfl
  | cons c cs ih =>
    have hcons : escape (c :: cs) = escapeChar c ++ escape cs := List.flatMap_cons
    have hrest : escape cs = cs := ih fun other hother => h other (List.mem_cons_of_mem _ hother)
    rw [hcons, (h c List.mem_cons_self).escapeChar_eq, hrest, List.singleton_append]

end Placeholder.Text.JsonString
