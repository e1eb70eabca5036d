import Placeholder.Proofs.Token.Scanning

/-!
# Cutting a text

What a scan finds in two texts put together.  A token that goes over the cut can hide tokens of both
texts; where there is none, the scan of the whole is the scan of the first text and then the scan of
the second, whose places are moved by the length of the first.

There are three groups of lemmas.

* Moving.  The place at which a text begins counts only for the bounds of its tokens.
* The cut.  `CutFits` says that the scan of the whole finds no token over the cut.
  `ofText_append` follows the scan of the first text: where it finds a token, so does the scan of
  the whole, and where it finds none, a token of the whole would go over the cut.
* Where a cut fits: after a closing brace that no other one follows, and at both ends of a token.
-/

namespace Placeholder

/-! ## Moving -/

namespace Token

/-- The token of a text that has been moved by some bytes. -/
def shift (offset : Nat) (token : Token) : Token :=
  { token with start := offset + token.start, stop := offset + token.stop }

theorem shift_shift (offset further : Nat) (token : Token) :
    (token.shift offset).shift further = token.shift (further + offset) := by
  rw [shift, shift, shift, Nat.add_assoc, Nat.add_assoc]

theorem ofBody_add (offset start : Nat) (inner : List Char) (body : TokenBody) :
    ofBody (offset + start) inner body = (ofBody start inner body).shift offset := by
  rw [ofBody, ofBody, shift, Nat.add_assoc]

theorem front?_add (offset start : Nat) (cs : List Char) :
    front? (offset + start) cs =
      (front? start cs).map fun found => (found.1.shift offset, found.2) := by
  unfold front?
  split
  · dsimp only
    split
    · rw [Option.map_map]
      exact congrArg (Option.map · _) (funext fun body => by rw [ofBody_add]; rfl)
    · rfl
  · rfl

end Token

namespace Piece

/-- The piece of a text that has been moved by some bytes. -/
def shift (offset : Nat) : Piece → Piece
  | .gap c => .gap c
  | .found token => .found (token.shift offset)

theorem token?_shift (offset : Nat) (piece : Piece) :
    (piece.shift offset).token? = piece.token?.map (Token.shift offset) := by
  cases piece <;> rfl

theorem ofText_add (offset place : Nat) (cs : List Char) :
    ofText (offset + place) cs = (ofText place cs).map (shift offset) := by
  induction place, cs using Token.scan_induction with
  | nil place => rw [ofText_nil, ofText_nil, List.map_nil]
  | found place cs token rest h ih =>
    have hfront : Token.front? (offset + place) cs = some (token.shift offset, rest) := by
      rw [Token.front?_add, h, Option.map_some]
    rw [ofText_of_front? h, ofText_of_front? hfront, List.map_cons, ← ih]
    rfl
  | gap place c cs h ih =>
    have hfront : Token.front? (offset + place) (c :: cs) = none := by
      rw [Token.front?_add, h, Option.map_none]
    rw [ofText_cons h, ofText_cons hfront, List.map_cons, ← ih, Nat.add_assoc]
    rfl

end Piece

namespace Token

variable {place : Nat} {cs rest : List Char} {token : Token}

theorem filterMap_token?_map_shift (offset : Nat) (pieces : List Piece) :
    (pieces.map (Piece.shift offset)).filterMap Piece.token? =
      (pieces.filterMap Piece.token?).map (shift offset) := by
  rw [List.filterMap_map, List.map_filterMap]
  exact congrArg (List.filterMap · pieces) (funext fun piece => Piece.token?_shift offset piece)

/-! ## The cut -/

/-- A token in front of a text stays there if the text goes on. -/
theorem front?_append (h : front? place cs = some (token, rest)) (more : List Char) :
    front? place (cs ++ more) = some (token, rest ++ more) := by
  obtain ⟨written, hwf, rfl, rfl⟩ := front?_eq_some_iff.1 h
  exact front?_eq_some_iff.2 ⟨written, hwf, List.append_assoc .., rfl⟩

/-- A token in front of a text is there already if the text ends after it. -/
theorem front?_of_append {before more : List Char}
    (h : front? place (before ++ more) = some (token, rest))
    (hstop : token.stop ≤ place + Text.utf8Length before) :
    ∃ between, front? place before = some (token, between) := by
  obtain ⟨hcs, -, hend, -⟩ := front?_spec h
  obtain ⟨between, hbefore, -⟩ := exists_append_of_utf8Length_le hcs.symm (by omega)
  obtain ⟨written, hwf, -, rfl⟩ := front?_eq_some_iff.1 h
  have hraw : (written.token place).raw.toList = written.text := String.toList_ofList
  exact ⟨between, front?_eq_some_iff.2 ⟨written, hwf, by rw [hbefore, hraw], rfl⟩⟩

/-- The place is not strictly inside of any of the tokens. -/
def Between (tokens : List Token) (place : Nat) : Prop :=
  ∀ token ∈ tokens, ¬ (token.start < place ∧ place < token.stop)

/-- Where two texts are put together, no token that a scan of the whole finds goes over the cut. -/
def CutFits (first second : String) : Prop := Between (allIn (first ++ second)) first.utf8ByteSize

theorem ofText_append (place : Nat) (before after : List Char)
    (hcut : Between (tokensFrom place (before ++ after)) (place + Text.utf8Length before)) :
    Piece.ofText place (before ++ after) =
      Piece.ofText place before ++ Piece.ofText (place + Text.utf8Length before) after := by
  induction place, before using scan_induction with
  | nil place => rw [Piece.ofText_nil, List.nil_append, List.nil_append, Text.utf8Length_nil,
      Nat.add_zero]
  | found place before token rest h ih =>
    have hwhole := front?_append h after
    obtain ⟨hbefore, -, hstop, -⟩ := front?_spec h
    have hplace : place + Text.utf8Length before = token.stop + Text.utf8Length rest := by
      rw [hbefore, Text.utf8Length_append]
      omega
    rw [tokensFrom_of_front? hwhole, hplace] at hcut
    rw [Piece.ofText_of_front? h, Piece.ofText_of_front? hwhole, hplace, List.cons_append,
      ih fun other hother => hcut other (List.mem_cons_of_mem _ hother)]
  | gap place c before h ih =>
    have hplace : place + Text.utf8Length (c :: before) =
        place + c.utf8Size + Text.utf8Length before := by
      rw [Text.utf8Length, Nat.add_assoc]
    cases hwhole : front? place (c :: before ++ after) with
    | none =>
      rw [List.cons_append] at hwhole hcut ⊢
      rw [tokensFrom_cons hwhole, hplace] at hcut
      rw [Piece.ofText_cons h, Piece.ofText_cons hwhole, hplace, List.cons_append, ih hcut]
    | some found =>
      -- A token that the first text does not have by itself reaches into the second one.
      obtain ⟨token, rest⟩ := found
      have hstart := (front?_spec hwhole).2.1
      have hsize : 0 < c.utf8Size := c.utf8Size_pos
      have hmem : token ∈ tokensFrom place (c :: before ++ after) := by
        rw [tokensFrom_of_front? hwhole]
        exact List.mem_cons_self
      have hover := hcut token hmem
      obtain ⟨between, hfront⟩ := front?_of_append hwhole (by omega)
      rw [h] at hfront
      simp at hfront

theorem ofText_append_of_cutFits {first second : String} (hcut : CutFits first second) :
    Piece.ofText 0 (first ++ second).toList =
      Piece.ofText 0 first.toList ++
        (Piece.ofText 0 second.toList).map (Piece.shift first.utf8ByteSize) := by
  have hlen : 0 + Text.utf8Length first.toList = first.utf8ByteSize := by
    rw [Text.utf8Length_toList, Nat.zero_add]
  rw [CutFits, allIn_eq_tokensFrom, String.toList_append, ← hlen] at hcut
  rw [String.toList_append, ofText_append 0 _ _ hcut, hlen, ← Piece.ofText_add, Nat.add_zero]

/-- A scan of two texts put together finds the tokens of the first one and then those of the
second. -/
theorem allIn_append {first second : String} (hcut : CutFits first second) :
    allIn (first ++ second) =
      allIn first ++ (allIn second).map (shift first.utf8ByteSize) := by
  rw [allIn, ofText_append_of_cutFits hcut, List.filterMap_append, filterMap_token?_map_shift]
  rfl

/-- A parameter that is not closed swallows the beginning of the next text. -/
example : ¬ CutFits "\x7b\x7b a: " "{{ b }}" := by
  rw [CutFits, Between]
  decide +kernel

/-! ## Where a cut fits -/

/-- A first part of a token that ends in a closing brace leaves nothing or one closing brace. -/
theorem head?_of_getLast?_text {written : WrittenToken} (hwf : written.WellFormed)
    {before after : List Char} (h : written.text = before ++ after)
    (hlast : before.getLast? = some '}') (hafter : after ≠ []) : after.head? = some '}' := by
  have hclose : '}' ∉ '{' :: '{' :: written.inner := by
    have hinner := WrittenToken.not_mem_inner hwf
    simp only [List.mem_cons, not_or]
    exact ⟨by decide, by decide, hinner⟩
  obtain ⟨start, rfl⟩ := List.getLast?_eq_some_iff.1 hlast
  rw [WrittenToken.text, List.append_assoc] at h
  rcases List.append_eq_append_iff.1 h with ⟨between, -, hbraces⟩ | ⟨between, hinner, hbraces⟩
  · -- The first part takes the inner text and at least one of the braces.
    cases between with
    | nil =>
      obtain ⟨-, rfl⟩ := List.cons.inj hbraces
      rfl
    | cons c between =>
      have hlen := congrArg List.length hbraces
      simp only [List.length_append, List.length_cons, List.length_nil] at hlen
      have hnil : after = [] := List.eq_nil_of_length_eq_zero (by omega)
      exact absurd hnil hafter
  · -- Else the closing brace in which it ends would stand in the inner text.
    cases between with
    | nil =>
      obtain ⟨-, rfl⟩ := List.cons.inj hbraces
      rfl
    | cons c between =>
      obtain ⟨rfl, -⟩ := List.cons.inj hbraces
      rw [hinner] at hclose
      simp at hclose

/-- A token over a cut is divided by it into two parts, neither of which is empty. -/
theorem exists_parts_of_over {before after : List Char} (hfound : Found 0 (before ++ after) token)
    (hstart : token.start < Text.utf8Length before)
    (hstop : Text.utf8Length before < token.stop) :
    ∃ skipped front back rest : List Char, front ≠ [] ∧ back ≠ [] ∧ before = skipped ++ front ∧
      token.raw.toList = front ++ back ∧ after = back ++ rest := by
  obtain ⟨skipped, left, hcs, hfirst, hlast⟩ := hfound.stands
  rw [Nat.zero_add] at hfirst
  obtain ⟨front, rfl, hrest⟩ := exists_append_of_utf8Length_le hcs.symm (by omega)
  rw [Text.utf8Length_append] at hstart hstop
  obtain ⟨back, hraw, hafter⟩ := exists_append_of_utf8Length_le hrest.symm (by omega)
  refine ⟨skipped, front, back, left, ?_, ?_, rfl, hraw, hafter⟩
  · rintro rfl
    rw [Text.utf8Length_nil] at hstart
    omega
  · rintro rfl
    rw [List.append_nil] at hraw
    rw [hraw] at hlast
    omega

theorem cutFits_of_brace {first second : String} (hfirst : first.toList.getLast? = some '}')
    (hsecond : second.toList.head? ≠ some '}') : CutFits first second := by
  intro token hmem hover
  rw [allIn_eq_tokensFrom, String.toList_append] at hmem
  rw [← Text.utf8Length_toList] at hover
  have hfound := found_of_mem_tokensFrom _ _ token hmem
  obtain ⟨written, hwf, hraw, -⟩ := ofText?_eq_some_iff.1 hfound.reads
  obtain ⟨skipped, front, back, rest, hfront, hback, hbefore, hparts, hafter⟩ :=
    exists_parts_of_over hfound hover.1 hover.2
  have hlast : front.getLast? = some '}' := by
    rwa [hbefore, List.getLast?_append_of_ne_nil _ hfront] at hfirst
  have hhead := head?_of_getLast?_text hwf (hraw.symm.trans hparts) hlast hback
  rw [hafter, List.head?_append_of_ne_nil _ hback] at hsecond
  exact hsecond hhead

/-- The tokens of a scan do not go over the bounds of one of them. -/
theorem between_start {text : String} (hmem : token ∈ allIn text) :
    Between (allIn text) token.start := by
  intro other hother hover
  have hne : other ≠ token := fun e => by
    rw [e] at hover
    omega
  have hlt := (leftmost_allIn text).start_lt_stop hmem
  rcases (leftmost_allIn text).disjoint hother hmem hne with h | h <;> omega

/-- Whatever comes after a text that is one token, it is not part of it. -/
theorem cutFits_of_whole {first : String} (h : ofText? first = some token) (second : String) :
    CutFits first second := by
  obtain ⟨written, hwf, htext, rfl⟩ := ofText?_eq_some_iff.1 h
  have hfront : front? 0 (first ++ second).toList = some (written.token 0, second.toList) := by
    rw [String.toList_append, htext]
    exact WrittenToken.front?_text_append hwf 0 _
  have hstop : (written.token 0).stop = first.utf8ByteSize :=
    ((ofText?_eq_some_iff_allIn first _).1 h).2.2
  intro other hother hover
  rw [allIn_eq_tokensFrom, tokensFrom_of_front? hfront] at hother
  rcases List.mem_cons.1 hother with rfl | hother
  · omega
  · have hle := (found_of_mem_tokensFrom _ _ other hother).place_le
    omega

/-- A token of a scan can be cut out: the texts before and after it are scanned as if they stood
alone. -/
theorem exists_around {text : String} (hmem : token ∈ allIn text) :
    ∃ before after : String, text = before ++ (token.raw ++ after) ∧
      token.start = before.utf8ByteSize ∧ CutFits before (token.raw ++ after) ∧
        allIn text = allIn before ++ token :: (allIn after).map (shift token.stop) := by
  obtain ⟨before, after, htext, hstart, hstop⟩ := (leftmost_allIn text).stands token hmem
  rw [String.append_assoc] at htext
  have hreads := (leftmost_allIn text).reads token hmem
  have hbefore : CutFits before (token.raw ++ after) := by
    rw [CutFits, ← htext, ← hstart]
    exact between_start hmem
  have hafter : CutFits token.raw after := cutFits_of_whole hreads after
  have hraw := ((ofText?_eq_some_iff_allIn token.raw _).1 hreads).1
  refine ⟨before, after, htext, hstart, hbefore, ?_⟩
  rw [String.utf8ByteSize_append, ← hstart] at hstop
  have hshift : shift token.start ∘ shift token.raw.utf8ByteSize = shift token.stop :=
    funext fun other => by rw [Function.comp_apply, shift_shift, hstop]
  have htoken : shift token.start { token with start := 0, stop := token.raw.utf8ByteSize } =
      token := by
    rw [shift, Nat.add_zero, ← hstop]
  rw [htext, allIn_append hbefore, allIn_append hafter, hraw, ← hstart, List.map_append,
    List.map_map, List.map_singleton, List.singleton_append, hshift, htoken]

end Token

/-! ## Filling -/

namespace Piece

variable {m : Type → Type} [Monad m]

/-- Pieces that have been moved are filled as before if what is rendered does not depend on the
place. -/
theorem fill_map_shift {render : Token → m String} (offset : Nat)
    (hrender : ∀ token, render (Token.shift offset token) = render token) (pieces : List Piece) :
    fill render (pieces.map (shift offset)) = fill render pieces := by
  induction pieces with
  | nil => rfl
  | cons piece rest ih =>
    cases piece with
    | gap c => rw [List.map_cons, shift, fill, fill, ih]
    | found token => rw [List.map_cons, shift, fill, fill, ih, hrender]

/-- Pieces are filled from left to right. -/
theorem fill_append [LawfulMonad m] (render : Token → m String) (first second : List Piece) :
    fill render (first ++ second) = do
      let before ← fill render first
      let after ← fill render second
      return before ++ after := by
  induction first with
  | nil => simp only [List.nil_append, fill, pure_bind, bind_pure]
  | cons piece rest ih =>
    cases piece with
    | gap c => simp only [List.cons_append, fill, ih, bind_assoc, pure_bind]
    | found token =>
      simp only [List.cons_append, fill, ih, bind_assoc, pure_bind, List.append_assoc]

end Piece

/-- Replacing the tokens of two texts put together replaces those of the first one and then those of
the second. -/
theorem Token.replaceM_append {m : Type → Type} [Monad m] [LawfulMonad m] {first second : String}
    {render : Token → m String} (hcut : CutFits first second)
    (hrender : ∀ offset token, render (Token.shift offset token) = render token) :
    replaceM (first ++ second) render = do
      let before ← replaceM first render
      let after ← replaceM second render
      return before ++ after := by
  rw [replaceM, replaceM, replaceM, ofText_append_of_cutFits hcut, Piece.fill_append,
    Piece.fill_map_shift _ (hrender _)]
  simp only [bind_assoc, pure_bind, String.ofList_append]

end Placeholder
