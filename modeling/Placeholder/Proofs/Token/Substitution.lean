import Mathlib.Data.List.Forall2
import Placeholder.Proofs.Token.Filling

/-!
# Substitution

What a text becomes when a text is put in the place of each token.  Between the tokens of a text
there are gaps, one more than there are tokens (`gaps`), and each of them is the range of bytes from
the end of a token to the start of the next one (`forall₂_isByteRange_gaps`).  The result is the
gaps and the given texts in turn (`interleave`), and nothing in the given texts is looked at.

Main statement: `substituteM_exact`.
-/

namespace Placeholder

namespace Text

/-! ## Parts of a text -/

/-- The text can be cut at the place: no character goes across it. -/
def CutsAt (text : String) (place : Nat) : Prop :=
  ∃ before after : String, text = before ++ after ∧ before.utf8ByteSize = place

/-- The part has the bytes of the text from the first bound to the second. -/
def IsByteRange (text : String) (bounds : Nat × Nat) (part : String) : Prop :=
  part.toByteArray = text.toByteArray.extract bounds.1 bounds.2

/-- What stands between two bounds of a text. -/
def byteRange (text : String) (bounds : Nat × Nat) : String :=
  String.ofList (slice 0 bounds.1 bounds.2 text.toList)

/-- A slice that goes around all characters has all of them. -/
theorem slice_eq_self {place first last : Nat} {cs : List Char} (hfirst : first ≤ place)
    (hlast : place + utf8Length cs ≤ last) : slice place first last cs = cs := by
  induction cs generalizing place with
  | nil => rfl
  | cons c cs ih =>
    have hsize : 0 < c.utf8Size := c.utf8Size_pos
    rw [utf8Length] at hlast
    rw [slice, if_pos (by omega), ih (by omega) (by omega)]

theorem byteRange_append_append (before part after : String) :
    byteRange (before ++ (part ++ after))
      (before.utf8ByteSize, before.utf8ByteSize + part.utf8ByteSize) = part := by
  rw [byteRange, String.toList_append, String.toList_append, ← utf8Length_toList before,
    ← utf8Length_toList part, slice_append_of_le (Nat.le_refl _), slice_append,
    slice_eq_self (Nat.le_refl _) (Nat.le_refl _), slice_eq_nil_of_last_le (Nat.le_refl _),
    List.append_nil, String.ofList_toList]

theorem isByteRange_append_append (before part after : String) :
    IsByteRange (before ++ (part ++ after))
      (before.utf8ByteSize, before.utf8ByteSize + part.utf8ByteSize) part := by
  have hextract : (part ++ after).toByteArray.extract 0 part.utf8ByteSize = part.toByteArray := by
    rw [String.toByteArray_append]
    exact ByteArray.extract_append_eq_left String.size_toByteArray.symm
  have hshift := ByteArray.extract_append_size_add (a := before.toByteArray)
    (b := (part ++ after).toByteArray) (i := 0) (j := part.utf8ByteSize)
  rw [Nat.add_zero, String.size_toByteArray, ← String.toByteArray_append, hextract] at hshift
  exact hshift.symm

/-- Two places where a text can be cut have a part between them. -/
theorem exists_between {text : String} {first last : Nat} (hfirst : CutsAt text first)
    (hlast : CutsAt text last) (hle : first ≤ last) :
    ∃ before part after : String, text = before ++ (part ++ after) ∧
      before.utf8ByteSize = first ∧ before.utf8ByteSize + part.utf8ByteSize = last := by
  obtain ⟨before, rest, htext, rfl⟩ := hfirst
  obtain ⟨before', after, htext', rfl⟩ := hlast
  have hsplit : before.toList ++ rest.toList = before'.toList ++ after.toList := by
    rw [← String.toList_append, ← String.toList_append, ← htext, htext']
  rw [← utf8Length_toList, ← utf8Length_toList] at hle
  obtain ⟨between, hbefore', hrest⟩ := Token.exists_append_of_utf8Length_le hsplit hle
  refine ⟨before, String.ofList between, after, ?_, rfl, ?_⟩
  · rw [htext, ← String.toList_inj, String.toList_append, hrest]
    simp only [String.toList_append, String.toList_ofList]
  · rw [← utf8Length_toList before', hbefore', utf8Length_append, utf8Length_toList,
      utf8ByteSize_ofList]

theorem isByteRange_byteRange {text : String} {bounds : Nat × Nat} (hfirst : CutsAt text bounds.1)
    (hlast : CutsAt text bounds.2) (hle : bounds.1 ≤ bounds.2) :
    IsByteRange text bounds (byteRange text bounds) := by
  obtain ⟨first, last⟩ := bounds
  obtain ⟨before, part, after, rfl, rfl, rfl⟩ := exists_between hfirst hlast hle
  rw [byteRange_append_append]
  exact isByteRange_append_append before part after

end Text

namespace Token

open Text (CutsAt IsByteRange byteRange)

/-! ## Gaps -/

/-- The bounds of what stands before, between and after some tokens, from a place on. -/
def gapBounds (place stop : Nat) : List Token → List (Nat × Nat)
  | [] => [(place, stop)]
  | token :: rest => (place, token.start) :: gapBounds token.stop stop rest

/-- What stands before, between and after the tokens of a text. -/
def gaps (text : String) : List String :=
  (gapBounds 0 text.utf8ByteSize (allIn text)).map (byteRange text)

/-- A gap, a text, the next gap, and so on. -/
def interleave : List String → List String → String
  | gap :: gaps, text :: texts => gap ++ (text ++ interleave gaps texts)
  | gap :: _, [] => gap
  | [], _ => ""

theorem cutsAt_of_standsIn {text : String} {token : Token} (h : StandsIn text token) :
    CutsAt text token.start ∧ CutsAt text token.stop := by
  obtain ⟨before, after, htext, hstart, hstop⟩ := h
  refine ⟨⟨before, token.raw ++ after, ?_, hstart.symm⟩, before ++ token.raw, after, htext,
    hstop.symm⟩
  rw [htext, String.append_assoc]

/-- All bounds of gaps are places where the text can be cut. -/
theorem isByteRange_of_mem_gapBounds {text : String} {tokens : List Token} {place : Nat}
    (hplace : CutsAt text place) (hle : place ≤ text.utf8ByteSize)
    (hafter : ∀ token ∈ tokens, place ≤ token.start)
    (hstands : ∀ token ∈ tokens, StandsIn text token)
    (hordered : tokens.Pairwise fun first second => first.stop ≤ second.start) :
    ∀ bounds ∈ gapBounds place text.utf8ByteSize tokens,
      IsByteRange text bounds (byteRange text bounds) := by
  induction tokens generalizing place with
  | nil =>
    intro bounds hbounds
    rw [gapBounds, List.mem_singleton] at hbounds
    subst hbounds
    exact Text.isByteRange_byteRange hplace ⟨text, "", String.append_empty.symm, rfl⟩ hle
  | cons token rest ih =>
    intro bounds hbounds
    have htoken := hstands token List.mem_cons_self
    obtain ⟨hstart, hstop⟩ := cutsAt_of_standsIn htoken
    rw [List.pairwise_cons] at hordered
    rcases List.mem_cons.1 hbounds with rfl | hrest
    · exact Text.isByteRange_byteRange hplace hstart (hafter token List.mem_cons_self)
    · refine ih hstop ?_ hordered.1 (fun other hother => hstands other ?_) hordered.2 bounds hrest
      · obtain ⟨before, after, htext, -, hend⟩ := htoken
        rw [hend, htext]
        simp only [String.utf8ByteSize_append]
        omega
      · exact List.mem_cons_of_mem _ hother

/-- The gaps are the ranges of bytes from the end of each token to the start of the next one. -/
theorem forall₂_isByteRange_gaps (text : String) :
    List.Forall₂ (IsByteRange text) (gapBounds 0 text.utf8ByteSize (allIn text)) (gaps text) := by
  rw [gaps, List.forall₂_map_right_iff, List.forall₂_same]
  have hleft := leftmost_allIn text
  exact isByteRange_of_mem_gapBounds ⟨"", text, String.empty_append.symm, rfl⟩ (Nat.zero_le _)
    (fun _ _ => Nat.zero_le _) hleft.stands hleft.ordered

theorem length_gaps (text : String) : (gaps text).length = (allIn text).length + 1 := by
  have hlength : ∀ (tokens : List Token) (place stop : Nat),
      (gapBounds place stop tokens).length = tokens.length + 1 := by
    intro tokens
    induction tokens with
    | nil => exact fun _ _ => rfl
    | cons token rest ih =>
      intro place stop
      rw [gapBounds, List.length_cons, ih, List.length_cons]
  rw [gaps, List.length_map, hlength]

/-! ## The gaps and the texts -/

/-- With a text for each token, the texts are spliced in between the gaps. -/
theorem splice_eq_interleave {text : String} {tokens : List Token} {texts : List String}
    (h : texts.length = tokens.length) (place : Nat) :
    String.ofList (splice text.toList place (tokens.zip texts)) =
      interleave ((gapBounds place text.utf8ByteSize tokens).map (byteRange text)) texts := by
  induction tokens generalizing texts place with
  | nil =>
    rw [List.length_eq_zero_iff.1 h, List.zip_nil_left, splice, gapBounds, List.map_singleton,
      interleave, byteRange, Text.utf8Length_toList]
  | cons token rest ih =>
    cases texts with
    | nil => simp at h
    | cons first others =>
      rw [List.length_cons, List.length_cons, Nat.add_right_cancel_iff] at h
      rw [List.zip_cons_cons, splice, gapBounds, List.map_cons, interleave, ← ih h token.stop,
        String.ofList_append, String.ofList_append, String.ofList_toList]
      rfl

theorem spliceText_eq_interleave {text : String} {texts : List String}
    (h : texts.length = (allIn text).length) :
    spliceText text texts = interleave (gaps text) texts :=
  splice_eq_interleave h 0

theorem interleave_raw (text : String) :
    interleave (gaps text) ((allIn text).map raw) = text := by
  rw [← spliceText_eq_interleave (List.length_map _), spliceText_raw]

/-! ## Asking for the texts -/

section

variable {m : Type → Type} [Monad m] [LawfulMonad m]

/-- What follows a walk over items is only given lists with a result for each item. -/
theorem mapM_bind_congr {α β γ : Type} (f : α → m β) (items : List α) {next next' : List β → m γ}
    (h : ∀ results, results.length = items.length → next results = next' results) :
    items.mapM f >>= next = items.mapM f >>= next' := by
  induction items generalizing next next' with
  | nil =>
    rw [List.mapM_nil, pure_bind, pure_bind]
    exact h [] rfl
  | cons item rest ih =>
    simp only [List.mapM_cons, bind_assoc, pure_bind]
    refine bind_congr fun first => ih fun results hresults => h (first :: results) ?_
    rw [List.length_cons, hresults, List.length_cons]

theorem replaceM_eq_interleave (text : String) (render : Token → m String) :
    replaceM text render = do
      let texts ← (allIn text).mapM render
      return interleave (gaps text) texts := by
  rw [replaceM_eq_splice]
  exact mapM_bind_congr render _ fun texts htexts => by rw [spliceText_eq_interleave htexts]

/-- The text of what substituting gives is what replacing gives. -/
theorem text_substituteM (text : String) (render : Token → m String) :
    Replaced.text <$> substituteM text render = replaceM text render := by
  unfold substituteM
  split
  · next hnone =>
    have hall : allIn text = [] := List.isEmpty_iff.1 hnone
    have hraw := interleave_raw text
    rw [hall, List.map_nil] at hraw
    rw [replaceM_eq_interleave, hall, List.mapM_nil, pure_bind, hraw, map_pure]
    rfl
  · rw [map_bind]
    simp only [map_pure, Replaced.text, bind_pure]

/-- Whatever the text and whatever is done to render a token, substituting renders the tokens that a
scan finds, each once, in order and as the scan gives them, and puts the gaps and the rendered texts
together in turn.  The gaps are one more than the tokens, and each is the range of bytes from the
end of a token, or the start of the text, to the start of the next token, or the end of the text.
So nothing changes if each token is rendered as it is written.  The text is given back as it is
exactly if no token occurs in it.  The engine's own way to replace tokens gives the same text. -/
theorem substituteM_exact (text : String) (render : Token → m String) :
    (substituteM text render = do
      let texts ← (allIn text).mapM render
      return if occursIn text then .rebuilt (interleave (gaps text) texts) else .kept text) ∧
    (gaps text).length = (allIn text).length + 1 ∧
    List.Forall₂ (IsByteRange text) (gapBounds 0 text.utf8ByteSize (allIn text)) (gaps text) ∧
    interleave (gaps text) ((allIn text).map raw) = text ∧
    Replaced.text <$> substituteM text render = replaceM text render := by
  refine ⟨?_, length_gaps text, forall₂_isByteRange_gaps text, interleave_raw text,
    text_substituteM text render⟩
  have hoccurs := occursIn_eq_true_iff text
  unfold substituteM
  cases hall : allIn text with
  | nil =>
    have hnone : occursIn text = false := by
      rw [← Bool.not_eq_true, hoccurs]
      exact fun hne => hne hall
    rw [List.mapM_nil, pure_bind, hnone]
    rfl
  | cons token rest =>
    have hsome : occursIn text = true := hoccurs.2 (by simp [hall])
    rw [replaceM_eq_interleave, hall, hsome, bind_assoc]
    simp only [pure_bind]
    rfl

end

/-- Two tokens side by side, between characters of two bytes.  Each is rendered as it is written,
with a number that counts the tokens and looks like a reference to a group. -/
theorem substituteM_counted :
    let text := "é{{ a }}{{b: 1}}ß"
    let render : Token → StateM Nat String := fun token => do
      let count ← getModify (· + 1)
      return token.raw ++ "$" ++ toString count
    gapBounds 0 text.utf8ByteSize (allIn text) = [(0, 2), (9, 9), (17, 19)] ∧
    gaps text = ["é", "", "ß"] ∧
    Id.run ((substituteM text render).run 0) = (.rebuilt "é{{ a }}$0{{b: 1}}$1ß", 2) := by
  intro text render
  have hbounds : gapBounds 0 text.utf8ByteSize (allIn text) = [(0, 2), (9, 9), (17, 19)] := by
    decide +kernel
  have hgaps : gaps text = ["é", "", "ß"] := by
    decide +kernel
  obtain ⟨hsubstitute, -⟩ := substituteM_exact text render
  refine ⟨hbounds, hgaps, ?_⟩
  rw [hsubstitute, hgaps]
  decide +kernel

end Token

end Placeholder
