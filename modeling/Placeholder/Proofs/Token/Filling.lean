import Placeholder.Proofs.Token.Scanning

/-!
# Filling

What a text becomes when its tokens are replaced.  `Text.slice` is the part of a text between two
bounds, and `splice` puts given texts where tokens stand and copies the slices between them.

Main statement: replacing the tokens of a text asks for the text of each token that a scan finds,
in order and once, and then splices these texts in (`replaceM_eq_splice`).  Where each token is
replaced by itself, the text stays (`spliceText_raw`).
-/

namespace Placeholder

namespace Text

/-- The characters of a text, which begins at the given place, that stand between two bounds. -/
def slice (place first last : Nat) : List Char → List Char
  | [] => []
  | c :: cs =>
    if first ≤ place ∧ place < last then c :: slice (place + c.utf8Size) first last cs
    else slice (place + c.utf8Size) first last cs

variable {place first last : Nat}

theorem slice_append (as bs : List Char) :
    slice place first last (as ++ bs) =
      slice place first last as ++ slice (place + utf8Length as) first last bs := by
  induction as generalizing place with
  | nil => rfl
  | cons a as ih =>
    have hplace : place + utf8Length (a :: as) = place + a.utf8Size + utf8Length as := by
      rw [utf8Length]
      omega
    rw [List.cons_append, slice, slice, hplace, ih]
    split
    · rw [List.cons_append]
    · rfl

theorem slice_eq_nil_of_le {cs : List Char} (h : place + utf8Length cs ≤ first) :
    slice place first last cs = [] := by
  induction cs generalizing place with
  | nil => rfl
  | cons c cs ih =>
    have hsize : 0 < c.utf8Size := c.utf8Size_pos
    rw [utf8Length] at h
    rw [slice, if_neg (by omega), ih (by omega)]

theorem slice_eq_nil_of_last_le {cs : List Char} (h : last ≤ place) :
    slice place first last cs = [] := by
  induction cs generalizing place with
  | nil => rfl
  | cons c cs ih => rw [slice, if_neg (by omega), ih (by omega)]

/-- Where the text has begun, it does not matter how far before it the slice begins. -/
theorem slice_congr_first {first' : Nat} {cs : List Char} (h : first ≤ place)
    (h' : first' ≤ place) : slice place first last cs = slice place first' last cs := by
  induction cs generalizing place with
  | nil => rfl
  | cons c cs ih =>
    rw [slice, slice, ih (by omega) (by omega)]
    by_cases hlast : place < last
    · rw [if_pos ⟨h, hlast⟩, if_pos ⟨h', hlast⟩]
    · rw [if_neg (fun hc => hlast hc.2), if_neg (fun hc => hlast hc.2)]

/-- Of a divided text a slice that begins at the division is a slice of the second part. -/
theorem slice_append_of_le {before after : List Char} (hfirst : utf8Length before ≤ first) :
    slice 0 first last (before ++ after) = slice (utf8Length before) first last after := by
  rw [slice_append, slice_eq_nil_of_le (by omega), List.nil_append, Nat.zero_add]

end Text

namespace Token

/-- The text from a place on, with a text in the place of each token. -/
def splice (cs : List Char) (place : Nat) : List (Token × String) → List Char
  | [] => Text.slice 0 place (Text.utf8Length cs) cs
  | (token, text) :: rest =>
    Text.slice 0 place token.start cs ++ (text.toList ++ splice cs token.stop rest)

/-- The text with a text in the place of each of its tokens. -/
def spliceText (text : String) (texts : List String) : String :=
  String.ofList (splice text.toList 0 ((allIn text).zip texts))

/-- A character in front of all tokens that are still to be filled is copied. -/
theorem splice_gap {before after : List Char} {c : Char} {filled : List (Token × String)}
    (h : ∀ pair ∈ filled, Text.utf8Length before + c.utf8Size ≤ pair.1.start) :
    splice (before ++ c :: after) (Text.utf8Length before) filled =
      c :: splice (before ++ c :: after) (Text.utf8Length before + c.utf8Size) filled := by
  have hsize : 0 < c.utf8Size := c.utf8Size_pos
  -- A slice that goes beyond the character begins with it.
  have hslice : ∀ last, Text.utf8Length before + c.utf8Size ≤ last →
      Text.slice 0 (Text.utf8Length before) last (before ++ c :: after) =
        c :: Text.slice 0 (Text.utf8Length before + c.utf8Size) last (before ++ c :: after) := by
    intro last hlast
    rw [Text.slice_append_of_le (Nat.le_refl _), Text.slice_append_of_le (by omega), Text.slice,
      Text.slice, if_pos ⟨Nat.le_refl _, by omega⟩, if_neg (by omega),
      Text.slice_congr_first (Nat.le_add_right _ _) (Nat.le_refl _)]
  cases filled with
  | nil =>
    rw [splice, splice]
    refine hslice _ ?_
    rw [Text.utf8Length_append, Text.utf8Length]
    omega
  | cons pair rest =>
    obtain ⟨token, text⟩ := pair
    rw [splice, splice, hslice token.start (h _ List.mem_cons_self), List.cons_append]

variable {m : Type → Type} [Monad m] [LawfulMonad m]

/-- The pieces after some text are filled by asking for a text for each token among them, in order,
and splicing the texts in. -/
theorem fill_eq_splice (render : Token → m String) (place : Nat) (cs : List Char) :
    ∀ before : List Char, place = Text.utf8Length before →
      Piece.fill render (Piece.ofText place cs) = do
        let texts ← (tokensFrom place cs).mapM render
        return splice (before ++ cs) place ((tokensFrom place cs).zip texts) := by
  induction place, cs using scan_induction with
  | nil place =>
    intro before hplace
    rw [tokensFrom_nil, Piece.ofText_nil, List.mapM_nil, pure_bind, Piece.fill, List.zip_nil_left,
      splice, List.append_nil, Text.slice_eq_nil_of_le (by omega)]
  | found place cs token rest h ih =>
    intro before hplace
    obtain ⟨hcs, hstart, hstop, -⟩ := front?_spec h
    have hbefore : token.stop = Text.utf8Length (before ++ token.raw.toList) := by
      rw [Text.utf8Length_append]
      omega
    have hnone : Text.slice 0 place token.start (before ++ cs) = [] := by
      rw [Text.slice_append_of_le (by omega), Text.slice_eq_nil_of_last_le (by omega)]
    rw [tokensFrom_of_front? h, Piece.ofText_of_front? h, Piece.fill, List.mapM_cons,
      ih (before ++ token.raw.toList) hbefore]
    simp only [bind_assoc, pure_bind, List.zip_cons_cons, splice, hnone, List.nil_append]
    rw [hcs, List.append_assoc]
  | gap place c cs h ih =>
    intro before hplace
    have hbefore : place + c.utf8Size = Text.utf8Length (before ++ [c]) := by
      rw [Text.utf8Length_append, Text.utf8Length, Text.utf8Length_nil]
      omega
    have hgap : ∀ texts : List String,
        splice (before ++ c :: cs) place ((tokensFrom (place + c.utf8Size) cs).zip texts) =
          c :: splice (before ++ c :: cs) (place + c.utf8Size)
            ((tokensFrom (place + c.utf8Size) cs).zip texts) := by
      intro texts
      rw [hplace]
      refine splice_gap fun pair hpair => ?_
      exact (found_of_mem_tokensFrom _ _ pair.1 (List.of_mem_zip hpair).1).place_le
    rw [tokensFrom_cons h, Piece.ofText_cons h, Piece.fill, ih (before ++ [c]) hbefore]
    simp only [bind_assoc, pure_bind, hgap, List.append_assoc, List.cons_append, List.nil_append]

/-- Replacing the tokens of a text asks once for the text of each token that a scan finds, in order,
and copies what stands before, between and after the tokens. -/
theorem replaceM_eq_splice (text : String) (render : Token → m String) :
    replaceM text render = do
      let texts ← (allIn text).mapM render
      return spliceText text texts := by
  have hfill := fill_eq_splice render 0 text.toList [] rfl
  rw [replaceM, hfill, bind_assoc]
  simp only [pure_bind, List.nil_append]
  rfl

/-- The pieces of a text, with each token put back as it is written, are the text. -/
theorem fill_raw (place : Nat) (cs : List Char) :
    Piece.fill (m := Id) (fun token => pure token.raw) (Piece.ofText place cs) = pure cs := by
  induction place, cs using scan_induction with
  | nil place =>
    rw [Piece.ofText_nil]
    rfl
  | found place cs token rest h ih =>
    obtain ⟨hcs, -⟩ := front?_spec h
    rw [Piece.ofText_of_front? h, Piece.fill, ih, pure_bind, pure_bind, ← hcs]
  | gap place c cs h ih => rw [Piece.ofText_cons h, Piece.fill, ih, pure_bind]

/-- Where each token is replaced by itself, nothing changes. -/
theorem spliceText_raw (text : String) : spliceText text ((allIn text).map raw) = text := by
  have hsplice := replaceM_eq_splice (m := Id) text fun token => pure token.raw
  rw [replaceM, fill_raw, pure_bind, String.ofList_toList, List.mapM_pure, pure_bind] at hsplice
  exact hsplice.symm

end Token

end Placeholder
