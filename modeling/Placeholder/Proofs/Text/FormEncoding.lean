import Placeholder.Modifier.BuiltIn

/-!
# What form encoding keeps

An encoded text is written byte after byte, and no byte is written with a percent sign or a plus
sign anywhere but in front.  So a percent sign or a plus sign shows where the writing of a byte
begins (`flatMap_eq_append_cons`), and nothing that is looked for can reach over the end of one
byte into the next.

Main statement: the encoded text of a value uses few characters, stands for the bytes of the text of
the value, and has a plus sign exactly where the text has a space
(`BuiltInModifier.urlEncode_exact`).
-/

namespace Placeholder

/-- If a mark only ever begins what is written of an item, then a mark in what is written of a list
is the beginning of one item. -/
theorem flatMap_eq_append_cons {α β : Type} {write : α → List β} {mark : β}
    (hmark : ∀ item, mark ∉ (write item).tail) {items : List α} {before after : List β}
    (h : items.flatMap write = before ++ mark :: after) :
    ∃ front item back, items = front ++ item :: back ∧ before = front.flatMap write ∧
      write item ++ back.flatMap write = mark :: after := by
  induction items generalizing before with
  | nil =>
    have hlength := congrArg List.length h
    simp at hlength
  | cons item rest ih =>
    rw [List.flatMap_cons] at h
    obtain ⟨gap, rfl, hrest⟩ | ⟨gap, hitem, hafter⟩ := List.append_eq_append_iff.1 h
    · obtain ⟨front, marked, back, rfl, rfl, hmarked⟩ := ih hrest
      exact ⟨item :: front, marked, back, rfl, rfl, hmarked⟩
    · cases before with
      | nil => exact ⟨[], item, rest, rfl, rfl, h⟩
      | cons first before =>
        cases gap with
        | nil =>
          rw [List.append_nil] at hitem
          have hrest : rest.flatMap write = [] ++ mark :: after := hafter.symm
          obtain ⟨front, marked, back, rfl, hnil, hmarked⟩ := ih hrest
          refine ⟨item :: front, marked, back, rfl, ?_, hmarked⟩
          rw [List.flatMap_cons, ← hnil, List.append_nil, hitem]
        | cons other gap =>
          obtain ⟨rfl, -⟩ := List.cons.inj hafter
          have hmem : mark ∈ (write item).tail := by
            rw [hitem]
            simp
          exact absurd hmem (hmark item)

namespace Text

/-! ## Spaces among the bytes of a text -/

/-- The bytes of a text begin with the bytes of one character only. -/
theorem utf8EncodeChar_append_inj {c d : Char} {front back : List UInt8}
    (h : String.utf8EncodeChar c ++ front = String.utf8EncodeChar d ++ back) : c = d := by
  have hread (e : Char) (bytes : List UInt8) :
      (String.utf8EncodeChar e ++ bytes).toByteArray.utf8DecodeChar? 0 = some e := by
    rw [List.toByteArray_append]
    exact ByteArray.utf8DecodeChar?_utf8EncodeChar_append
  have hc := hread c front
  rw [h, hread d back] at hc
  exact (Option.some.inj hc).symm

/-- Texts with the same bytes are the same. -/
theorem utf8_inj {cs ds : List Char} : utf8 cs = utf8 ds ↔ cs = ds := by
  refine ⟨fun h => ?_, congrArg utf8⟩
  have hbytes : cs.utf8Encode = ds.utf8Encode := congrArg List.toByteArray h
  rw [← String.toByteArray_ofList, ← String.toByteArray_ofList, String.toByteArray_inj] at hbytes
  exact String.ofList_injective hbytes

/-- The bytes of a character after the first are no space. -/
theorem space_notMem_tail_utf8EncodeChar (c : Char) : 0x20 ∉ (String.utf8EncodeChar c).tail := by
  intro hmem
  obtain ⟨i, hi, hspace⟩ := List.getElem_of_mem hmem
  rw [List.getElem_tail] at hspace
  have hfirst : UInt8.IsUTF8FirstByte 0x20 := by decide
  rw [← hspace, UInt8.isUTF8FirstByte_getElem_utf8EncodeChar] at hfirst
  omega

/-- A space among the bytes of a text is a space of the text. -/
theorem utf8_eq_append_space_iff {cs : List Char} {front back : List UInt8} :
    utf8 cs = front ++ 0x20 :: back ↔
      ∃ before after, cs = before ++ ' ' :: after ∧ front = utf8 before ∧ back = utf8 after := by
  constructor
  · intro h
    obtain ⟨before, c, after, rfl, hfront, hc⟩ :=
      flatMap_eq_append_cons space_notMem_tail_utf8EncodeChar h
    obtain rfl : c = ' ' := utf8EncodeChar_append_inj (d := ' ') hc
    exact ⟨before, after, rfl, hfront, (List.cons.inj hc).2.symm⟩
  · rintro ⟨before, after, rfl, rfl, rfl⟩
    exact utf8_append before (' ' :: after)

namespace Form

/-! ## What is written of a byte -/

/-- The digits that follow a percent sign. -/
def upperHexDigits : List Char := "0123456789ABCDEF".toList

/-- A character that an encoded text may have. -/
def IsAllowed (c : Char) : Prop := c.isAlphanum ∨ c ∈ ['-', '_', '.', '+', '%']

instance (c : Char) : Decidable (IsAllowed c) := inferInstanceAs (Decidable (_ ∨ _))

/-- What the first pass writes of a byte: itself, or a percent sign and two digits. -/
theorem percentByte_cases (b : UInt8) :
    (isPlain b = true ∧ percentByte b = [Char.ofNat b.toNat]) ∨
      ∃ high ∈ upperHexDigits, ∃ low ∈ upperHexDigits, percentByte b = ['%', high, low] := by
  have hmem : ∀ n, n < 16 → upperHexDigit n ∈ upperHexDigits := by decide
  have hlt := b.toNat_lt
  unfold percentByte
  split
  · next hplain => exact .inl ⟨hplain, rfl⟩
  · exact .inr ⟨_, hmem _ (by omega), _, hmem _ (by omega), rfl⟩

/-- A mark that is no digit can only begin what is written of a byte. -/
theorem notMem_tail_percentByte {mark : Char} (h : mark ∉ upperHexDigits) (b : UInt8) :
    mark ∉ (percentByte b).tail := by
  obtain ⟨-, hb⟩ | ⟨high, hhigh, low, hlow, hb⟩ := percentByte_cases b
  · rw [hb]
    exact List.not_mem_nil
  · rw [hb]
    intro hmem
    obtain rfl | hmem := List.mem_cons.1 hmem
    · exact h hhigh
    · obtain rfl := List.mem_singleton.1 hmem
      exact h hlow

theorem notMem_tail_encodeByte {mark : Char} (h : mark ∉ upperHexDigits) (b : UInt8) :
    mark ∉ (encodeByte b).tail := by
  unfold encodeByte
  split
  · exact List.not_mem_nil
  · exact notMem_tail_percentByte h b

theorem isAllowed_of_mem_upperHexDigits {c : Char} (h : c ∈ upperHexDigits) : IsAllowed c := by
  have hall : upperHexDigits.all (fun digit => digit.isAlphanum) = true := by decide
  exact .inl (List.all_eq_true.1 hall c h)

/-- A plain byte is a letter, a digit or one of three signs. -/
theorem isAllowed_of_isPlain {b : UInt8} (h : isPlain b = true) :
    IsAllowed (Char.ofNat b.toNat) := by
  have hplain : ∀ n, n < 128 → isPlain (UInt8.ofNat n) = true → IsAllowed (Char.ofNat n) := by
    decide
  have hlt : b.toNat < 128 := by
    simp [isPlain] at h
    omega
  apply hplain _ hlt
  rwa [UInt8.ofNat_toNat]

theorem isAllowed_of_mem_encodeByte {b : UInt8} {c : Char} (h : c ∈ encodeByte b) :
    IsAllowed c := by
  unfold encodeByte at h
  split at h
  · obtain rfl := List.mem_singleton.1 h
    decide
  · obtain ⟨hplain, hb⟩ | ⟨high, hhigh, low, hlow, hb⟩ := percentByte_cases b
    · rw [hb] at h
      obtain rfl := List.mem_singleton.1 h
      exact isAllowed_of_isPlain hplain
    · rw [hb] at h
      simp only [List.mem_cons, List.not_mem_nil, or_false] at h
      obtain rfl | rfl | rfl := h
      · decide
      · exact isAllowed_of_mem_upperHexDigits hhigh
      · exact isAllowed_of_mem_upperHexDigits hlow

/-- A percent sign in front takes the two digits after it, and nothing else. -/
theorem digits_of_encodeByte_append {b : UInt8} {rest after : List Char}
    (h : encodeByte b ++ rest = '%' :: after) :
    ∃ high ∈ upperHexDigits, ∃ low ∈ upperHexDigits,
      after = high :: low :: rest ∧ encodeByte b = ['%', high, low] := by
  unfold encodeByte at h ⊢
  split at h
  · next hspace => simp at h
  · next hspace =>
    rw [if_neg hspace]
    obtain ⟨hplain, hb⟩ | ⟨high, hhigh, low, hlow, hb⟩ := percentByte_cases b
    · rw [hb] at h
      exact absurd (List.cons.inj h).1 (utf8EncodeChar_of_isPlain hplain).1
    · rw [hb] at h
      exact ⟨high, hhigh, low, hlow, (List.cons.inj h).2.symm, hb⟩

/-- A plus sign in front is what is written of a space. -/
theorem eq_space_of_encodeByte_append {b : UInt8} {rest after : List Char}
    (h : encodeByte b ++ rest = '+' :: after) : b = 0x20 ∧ rest = after := by
  unfold encodeByte at h
  split at h
  · next hspace => exact ⟨hspace, (List.cons.inj h).2⟩
  · obtain ⟨hplain, hb⟩ | ⟨high, -, low, -, hb⟩ := percentByte_cases b
    · rw [hb] at h
      exact absurd (List.cons.inj h).1 (utf8EncodeChar_of_isPlain hplain).2.1
    · rw [hb] at h
      simp at h

/-- What the second pass looks for is written of a space only. -/
theorem eq_space_of_percentByte_append {b : UInt8} {rest after : List Char}
    (h : percentByte b ++ rest = '%' :: '2' :: '0' :: after) : b = 0x20 ∧ rest = after := by
  unfold percentByte at h
  split at h
  · next hplain => exact absurd (List.cons.inj h).1 (utf8EncodeChar_of_isPlain hplain).1
  · obtain ⟨-, hdigits⟩ := List.cons.inj h
    obtain ⟨hhigh, hdigits⟩ := List.cons.inj hdigits
    obtain ⟨hlow, hrest⟩ := List.cons.inj hdigits
    exact ⟨eq_space_of_upperHexDigit hhigh hlow, hrest⟩

/-! ## What is written of a text -/

theorem percentEncode_append (as bs : List Char) :
    percentEncode (as ++ bs) = percentEncode as ++ percentEncode bs := by
  rw [percentEncode, utf8_append, List.flatMap_append, percentEncode, percentEncode]

theorem encode_append (as bs : List Char) : encode (as ++ bs) = encode as ++ encode bs := by
  rw [encode_eq_flatMap, utf8_append, List.flatMap_append, encode_eq_flatMap, encode_eq_flatMap]

/-- The first pass gives `%20` for the spaces of a text and nowhere else. -/
theorem percentEncode_eq_append_iff {cs before after : List Char} :
    percentEncode cs = before ++ '%' :: '2' :: '0' :: after ↔
      ∃ front back, cs = front ++ ' ' :: back ∧
        before = percentEncode front ∧ after = percentEncode back := by
  constructor
  · intro h
    obtain ⟨front, b, back, hbytes, rfl, hb⟩ :=
      flatMap_eq_append_cons (notMem_tail_percentByte (by decide)) h
    obtain ⟨rfl, rfl⟩ := eq_space_of_percentByte_append hb
    obtain ⟨front, back, rfl, rfl, rfl⟩ := utf8_eq_append_space_iff.1 hbytes
    exact ⟨front, back, rfl, rfl, rfl⟩
  · rintro ⟨front, back, rfl, rfl, rfl⟩
    exact percentEncode_append front (' ' :: back)

/-- Both passes together give a plus sign for the spaces of a text and nowhere else. -/
theorem encode_eq_append_plus_iff {cs before after : List Char} :
    encode cs = before ++ '+' :: after ↔
      ∃ front back, cs = front ++ ' ' :: back ∧ before = encode front ∧ after = encode back := by
  constructor
  · intro h
    rw [encode_eq_flatMap] at h
    obtain ⟨front, b, back, hbytes, rfl, hb⟩ :=
      flatMap_eq_append_cons (notMem_tail_encodeByte (by decide)) h
    obtain ⟨rfl, rfl⟩ := eq_space_of_encodeByte_append hb
    obtain ⟨front, back, rfl, rfl, rfl⟩ := utf8_eq_append_space_iff.1 hbytes
    exact ⟨front, back, rfl, (encode_eq_flatMap front).symm, (encode_eq_flatMap back).symm⟩
  · rintro ⟨front, back, rfl, rfl, rfl⟩
    rw [encode_append, encode_eq_flatMap (' ' :: back), encode_eq_flatMap back]
    rfl

/-- A percent sign, the two digits that belong to it and what stands around them are read by
themselves. -/
theorem exists_digits_of_encode_eq {cs before after : List Char}
    (h : encode cs = before ++ '%' :: after) :
    ∃ high ∈ upperHexDigits, ∃ low ∈ upperHexDigits, ∃ rest, after = high :: low :: rest ∧
      ∃ front b back, utf8 cs = front ++ b :: back ∧ decode? before = some front ∧
        decode? ['%', high, low] = some [b] ∧ decode? rest = some back := by
  rw [encode_eq_flatMap] at h
  obtain ⟨front, b, back, hbytes, rfl, hb⟩ :=
    flatMap_eq_append_cons (notMem_tail_encodeByte (by decide)) h
  obtain ⟨high, hhigh, low, hlow, rfl, hdigits⟩ := digits_of_encodeByte_append hb
  refine ⟨high, hhigh, low, hlow, _, rfl, front, b, back, hbytes,
    decode?_flatMap_encodeByte front, ?_, decode?_flatMap_encodeByte back⟩
  have hread := decode?_flatMap_encodeByte [b]
  rwa [List.flatMap_singleton, hdigits] at hread

theorem encode_inj {as bs : List Char} : encode as = encode bs ↔ as = bs := by
  refine ⟨fun h => ?_, congrArg encode⟩
  have hread := decode?_encode as
  rw [h, decode?_encode] at hread
  exact (utf8_inj.1 (Option.some.inj hread)).symm

end Form

end Text

namespace BuiltInModifier

open Text.Form

/-! ## The modifier -/

/-- Every value can be encoded, and what is given is a string.  It has letters, digits and a few
signs only.  A percent sign in it takes the two digits after it, and the text around them is read
without them.  Read as a whole, the string gives the bytes of the text of the value.  The first pass
writes `%20` for the spaces of the text and nowhere else, the second pass writes a plus sign for
these, and so a plus sign or a `%20` of the text itself can still be told from a space.  Values are
encoded alike exactly if their texts are the same. -/
theorem urlEncode_exact {σ : Type} (value : Value) (state : σ) :
    ∃ encoded : String,
      urlEncode.toModifier.transform value state = (.ok (.string encoded), state) ∧
      (∀ c ∈ encoded.toList, IsAllowed c) ∧
      (∀ before after, encoded.toList = before ++ '%' :: after →
        ∃ high ∈ upperHexDigits, ∃ low ∈ upperHexDigits, ∃ rest, after = high :: low :: rest ∧
          ∃ front b back, Text.utf8 value.text.toList = front ++ b :: back ∧
            decode? before = some front ∧ decode? ['%', high, low] = some [b] ∧
            decode? rest = some back) ∧
      decode? encoded.toList = some (Text.utf8 value.text.toList) ∧
      encoded.toList = plusForSpaces (percentEncode value.text.toList) ∧
      (∀ before after,
        percentEncode value.text.toList = before ++ '%' :: '2' :: '0' :: after ↔
          ∃ front back, value.text.toList = front ++ ' ' :: back ∧
            before = percentEncode front ∧ after = percentEncode back) ∧
      (∀ before after, encoded.toList = before ++ '+' :: after ↔
        ∃ front back, value.text.toList = front ++ ' ' :: back ∧
          before = encode front ∧ after = encode back) ∧
      (∀ front back, value.text.toList = front ++ '+' :: back →
        encoded.toList = encode front ++ "%2B".toList ++ encode back) ∧
      (∀ front back, value.text.toList = front ++ "%20".toList ++ back →
        encoded.toList = encode front ++ "%2520".toList ++ encode back) ∧
      ∀ (other : Value) (next : σ),
        (urlEncode.toModifier.transform other next).1 = .ok (.string encoded) ↔
          other.text = value.text := by
  have hencoded : (String.ofList (encode value.text.toList)).toList = encode value.text.toList :=
    String.toList_ofList
  refine ⟨String.ofList (encode value.text.toList), rfl, ?_, ?_, ?_, hencoded, ?_, ?_, ?_, ?_, ?_⟩
  · rw [hencoded, encode_eq_flatMap]
    intro c hc
    obtain ⟨b, -, hcb⟩ := List.mem_flatMap.1 hc
    exact isAllowed_of_mem_encodeByte hcb
  · rw [hencoded]
    exact fun before after h => exists_digits_of_encode_eq h
  · rw [hencoded, decode?_encode]
  · exact fun before after => percentEncode_eq_append_iff
  · rw [hencoded]
    exact fun before after => encode_eq_append_plus_iff
  · intro front back htext
    have hplus : encode ['+'] = "%2B".toList := by decide
    rw [hencoded, htext, ← List.singleton_append, encode_append, encode_append, hplus,
      List.append_assoc]
  · intro front back htext
    have hmark : encode "%20".toList = "%2520".toList := by decide
    rw [hencoded, htext, encode_append, encode_append, hmark]
  · intro other next
    show Except.ok (Value.string (String.ofList (encode other.text.toList))) = _ ↔ _
    rw [Except.ok.injEq, Value.string.injEq, String.ofList_inj, encode_inj, String.toList_inj]

end BuiltInModifier

end Placeholder
