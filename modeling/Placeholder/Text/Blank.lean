import Placeholder.Text.Ranges
import Placeholder.Text.Runs

/-!
# Blanks

Which characters are blank, and texts without the blanks at their ends.  A blank is a character
with the Unicode property White_Space, so a no-break space is one and a zero-width space is not.
-/

namespace Placeholder.Text

/-- The property White_Space. -/
def blanks : Ranges :=
  [(0x9, 0xD), (0x20, 0x20), (0x85, 0x85), (0xA0, 0xA0), (0x1680, 0x1680), (0x2000, 0x200A),
    (0x2028, 0x2029), (0x202F, 0x202F), (0x205F, 0x205F), (0x3000, 0x3000)]

/-- Whether the character is blank. -/
def isBlank (c : Char) : Bool := blanks.contains c

/-- The text without its leading blanks. -/
def trimStart (cs : List Char) : List Char := cs.dropWhile isBlank

/-- The text without its trailing blanks. -/
def trimEnd (cs : List Char) : List Char := (trimStart cs.reverse).reverse

/-- The text without the blanks at its two ends. -/
def trim (cs : List Char) : List Char := trimEnd (trimStart cs)

@[simp] theorem trim_nil : trim [] = [] := rfl

theorem trimStart_of_forall_blank {cs : List Char} (h : ∀ c ∈ cs, isBlank c = true) :
    trimStart cs = [] := by
  induction cs with
  | nil => rfl
  | cons c cs ih =>
    rw [trimStart, List.dropWhile_cons_of_pos (h c (by simp))]
    exact ih fun x hx => h x (by simp [hx])

theorem trim_of_forall_blank {cs : List Char} (h : ∀ c ∈ cs, isBlank c = true) : trim cs = [] := by
  rw [trim, trimStart_of_forall_blank h]
  rfl

theorem trimStart_append {blank cs : List Char} (h : ∀ c ∈ blank, isBlank c = true) :
    trimStart (blank ++ cs) = trimStart cs := by
  rw [trimStart, List.dropWhile_append_of_pos h, trimStart]

theorem trimEnd_append {blank cs : List Char} (h : ∀ c ∈ blank, isBlank c = true) :
    trimEnd (cs ++ blank) = trimEnd cs := by
  have hr : ∀ c ∈ blank.reverse, isBlank c = true := fun c hc => h c (List.mem_reverse.1 hc)
  rw [trimEnd, List.reverse_append, trimStart_append hr, trimEnd]

/-- Blanks before a text do not count once it is trimmed. -/
theorem trim_blank_append {blank cs : List Char} (h : ∀ c ∈ blank, isBlank c = true) :
    trim (blank ++ cs) = trim cs := by
  rw [trim, trimStart_append h, trim]

/-- Blanks after a text do not count once it is trimmed. -/
theorem trim_append_blank {blank cs : List Char} (h : ∀ c ∈ blank, isBlank c = true) :
    trim (cs ++ blank) = trim cs := by
  obtain ⟨run, rest, rfl, hrun, hrest⟩ := exists_run isBlank cs
  rw [List.append_assoc, trim_blank_append hrun, trim_blank_append hrun]
  cases rest with
  | nil => rw [List.nil_append, trim_of_forall_blank h, trim_nil]
  | cons c rest =>
    have hstart : ∀ after : List Char, trimStart (c :: rest ++ after) = c :: rest ++ after :=
      fun _ => dropWhile_eq_self_of_head? hrest
    have hself : trimStart (c :: rest) = c :: rest := dropWhile_eq_self_of_head? hrest
    rw [trim, hstart, trimEnd_append h, trim, hself]

/-- A text is its trimmed form with blanks before and after it. -/
theorem exists_trim (cs : List Char) :
    ∃ lead trail, cs = lead ++ (trim cs ++ trail) ∧ (∀ c ∈ lead, isBlank c = true) ∧
      ∀ c ∈ trail, isBlank c = true := by
  obtain ⟨lead, rest, rfl, hlead, hrest⟩ := exists_run isBlank cs
  obtain ⟨trail, body, hbody, htrail, hend⟩ := exists_run isBlank rest.reverse
  have hsplit : rest = body.reverse ++ trail.reverse := by
    rw [← List.reverse_append, ← hbody, List.reverse_reverse]
  have htrim : trim (lead ++ rest) = body.reverse := by
    rw [trim_blank_append hlead, trim, trimStart, dropWhile_eq_self_of_head? hrest, trimEnd, hbody,
      trimStart, dropWhile_append_of_head? htrail hend]
  refine ⟨lead, trail.reverse, ?_, hlead, fun c hc => htrail c (List.mem_reverse.1 hc)⟩
  rw [htrim, ← hsplit]

@[simp] theorem trim_trim (cs : List Char) : trim (trim cs) = trim cs := by
  obtain ⟨lead, trail, hcs, hlead, htrail⟩ := exists_trim cs
  calc
    trim (trim cs) = trim (lead ++ (trim cs ++ trail)) := by
      rw [trim_blank_append hlead, trim_append_blank htrail]
    _ = trim cs := congrArg trim hcs.symm

theorem isBlank_getLast?_trim (cs : List Char) : ∀ c ∈ (trim cs).getLast?, isBlank c = false := by
  rw [trim, trimEnd, List.getLast?_reverse]
  exact head?_dropWhile_eq_false

theorem trim_eq_self {cs : List Char} (hstart : ∀ c ∈ cs.head?, isBlank c = false)
    (hend : ∀ c ∈ cs.getLast?, isBlank c = false) : trim cs = cs := by
  have hreverse : ∀ c ∈ cs.reverse.head?, isBlank c = false := by
    rwa [List.head?_reverse]
  rw [trim, trimStart, dropWhile_eq_self_of_head? hstart, trimEnd, trimStart,
    dropWhile_eq_self_of_head? hreverse, List.reverse_reverse]

end Placeholder.Text
