import Placeholder.Proofs.Text.JsonLiteral
import Placeholder.Value

/-!
# Texts of numbers

The texts of all values but strings are made of digits, points, signs and the letters of the texts
for what is not a number, so they need no escape inside a JSON string (`Value.plainText_text`).
-/

namespace Placeholder

open Text.JsonString (IsPlain)

theorem isPlain_of_mem_toDigits {n : Nat} {c : Char} (h : c ∈ Nat.toDigits 10 n) : IsPlain c := by
  have hdigit : (decide ('0'.val ≤ c.val) && decide (c.val ≤ '9'.val)) = true :=
    Nat.isDigit_of_mem_toDigits (by decide) (by decide) h
  rw [Bool.and_eq_true, decide_eq_true_iff, decide_eq_true_iff, UInt32.le_iff_toNat_le,
    UInt32.le_iff_toNat_le] at hdigit
  have hbounds : 48 ≤ c.toNat ∧ c.toNat ≤ 57 := hdigit
  refine ⟨?_, ?_, by omega⟩
  · rintro rfl
    exact absurd hbounds.1 (by decide)
  · rintro rfl
    exact absurd hbounds.2 (by decide)

/-- Every character of the text is plain. -/
def PlainText (text : String) : Prop := ∀ c ∈ text.toList, IsPlain c

theorem plainText_ofList {cs : List Char} (h : ∀ c ∈ cs, IsPlain c) :
    PlainText (String.ofList cs) := by
  rwa [PlainText, String.toList_ofList]

theorem PlainText.append {first second : String} (h : PlainText first) (h' : PlainText second) :
    PlainText (first ++ second) := by
  intro c hc
  rw [String.toList_append] at hc
  rcases List.mem_append.1 hc with hc | hc
  · exact h c hc
  · exact h' c hc

/-- The texts that stand beside digits. -/
theorem plainText_of_mem {text : String}
    (h : text ∈ ["", "-", "1", "NaN", "inf"]) : PlainText text := by
  have hall : (["", "-", "1", "NaN", "inf"].all fun text => text.toList.all fun c =>
      decide (c ≠ '"' ∧ c ≠ '\\' ∧ 0x20 ≤ c.toNat)) = true := by
    decide
  intro c hc
  have htext := List.all_eq_true.1 hall text h
  obtain ⟨hquote, hslash, hcontrol⟩ := of_decide_eq_true (List.all_eq_true.1 htext c hc)
  exact ⟨hquote, hslash, hcontrol⟩

theorem plainText_nat (n : Nat) : PlainText n.repr :=
  plainText_ofList fun _ hc => isPlain_of_mem_toDigits hc

theorem plainText_int (i : Int) : PlainText (toString i) := by
  cases i with
  | ofNat n => exact plainText_nat n
  | negSucc n => exact (plainText_of_mem (by simp)).append (plainText_nat _)

namespace Binary64

theorem Decimal.plainText_positional (d : Decimal) : PlainText d.positional := by
  have hdigits : ∀ c ∈ Nat.toDigits 10 d.digits, IsPlain c := fun _ => isPlain_of_mem_toDigits
  have hzero : IsPlain '0' := ⟨by decide, by decide, by decide⟩
  have hpoint : IsPlain '.' := ⟨by decide, by decide, by decide⟩
  have hzeros : ∀ n, ∀ c ∈ List.replicate n '0', IsPlain c := by
    intro n c hc
    rw [List.eq_of_mem_replicate hc]
    exact hzero
  unfold positional
  dsimp only
  split
  · refine plainText_ofList fun c hc => ?_
    rcases List.mem_append.1 hc with hc | hc
    · exact hdigits c hc
    · exact hzeros _ c hc
  · split
    · refine plainText_ofList fun c hc => ?_
      rcases List.mem_append.1 hc with hc | hc
      · exact hdigits c (List.mem_of_mem_take hc)
      · rcases List.mem_cons.1 hc with rfl | hc
        · exact hpoint
        · exact hdigits c (List.mem_of_mem_drop hc)
    · refine plainText_ofList fun c hc => ?_
      simp only [List.cons_append, List.mem_cons, List.mem_append] at hc
      rcases hc with rfl | rfl | hc | hc
      · exact hzero
      · exact hpoint
      · exact hzeros _ c hc
      · exact hdigits c hc

theorem plainText_text (x : Binary64) : PlainText x.text := by
  unfold text textWith
  split
  · exact plainText_of_mem (by simp)
  · refine PlainText.append ?_ ?_
    · split
      · exact plainText_of_mem (by simp)
      · exact plainText_of_mem (by simp)
    · split
      · exact Decimal.plainText_positional _
      · exact plainText_of_mem (by simp)

end Binary64

/-- The text of a value that is no string. -/
theorem Value.plainText_text {v : Value} (h : v.isString = false) : PlainText v.text := by
  cases v with
  | string s => simp [isString] at h
  | integer i => exact plainText_int i.toInt
  | float x => exact x.plainText_text
  | boolean b =>
    cases b with
    | true => exact plainText_of_mem (by simp [text])
    | false => exact plainText_of_mem (by simp [text])
  | null => exact plainText_of_mem (by simp [text])

end Placeholder
