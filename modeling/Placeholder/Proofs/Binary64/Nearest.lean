import Placeholder.Binary64.Rounding

/-!
# Nearest doubles

Distances between doubles and quotients are compared as whole numbers: a double is counted in
multiples of the smallest positive double (`signed`), and the quotient is multiplied out.

The doubles of one sign lie on a grid.  With `doublings` and `significand` the order of the
magnitude bits is the order of the numbers (`grid_le`), also where the significand has just grown
by one bit.  So between a multiple of a power of two and the next one, which are the neighbours that
a quotient is rounded to, there is no other double, and none can be nearer than both.

Main statement: `isNearest_ofRatio`.
-/

namespace Placeholder.Binary64

/-- The number that a finite double is, as a multiple of the smallest positive double. -/
def signed (x : Binary64) : Int := if x.negative then -(x.scaled : Int) else x.scaled

/-- How far a finite double is from a quotient.  The unit is the smallest positive double divided
by the denominator. -/
def distance (x : Binary64) (num : Int) (den : Nat) : Nat :=
  (x.signed * den - num * Nat.pow 2 1074).natAbs

/-- No finite double is nearer to the quotient, and if another one is as near, then this one has an
even significand. -/
structure IsNearest (x : Binary64) (num : Int) (den : Nat) : Prop where
  finite : x.isFinite = true
  closest (y : Binary64) (hy : y.isFinite = true) : x.distance num den ≤ y.distance num den
  even (y : Binary64) (hy : y.isFinite = true) (hne : y.signed ≠ x.signed)
    (htie : y.distance num den = x.distance num den) : x.significand % 2 = 0

/-! ## The grid -/

theorem two_pow_52 : Nat.pow 2 52 = 4503599627370496 := by decide

theorem two_pow_53 : Nat.pow 2 53 = 9007199254740992 := by decide

theorem two_pow_pos (k : Nat) : 0 < Nat.pow 2 k := Nat.pow_pos (by decide)

theorem two_pow_mul (k l : Nat) : Nat.pow 2 k * Nat.pow 2 l = Nat.pow 2 (k + l) :=
  (Nat.pow_add 2 k l).symm

/-- A number of doublings and a significand that a double can have.  The significand may have just
become too long, which the next number of doublings makes up for. -/
structure OnGrid (doublings significand : Nat) : Prop where
  le : significand ≤ Nat.pow 2 53
  full : 0 < doublings → Nat.pow 2 52 ≤ significand

theorem magnitude_eq (x : Binary64) :
    x.magnitude = x.doublings * Nat.pow 2 52 + x.significand := by
  simp only [doublings, significand, exponentField, fractionField, two_pow_52]
  split <;> omega

theorem onGrid (x : Binary64) : OnGrid x.doublings x.significand := by
  constructor
  · simp only [significand, exponentField, fractionField, two_pow_52, two_pow_53]
    split <;> omega
  · simp only [doublings, significand, exponentField, fractionField, two_pow_52]
    split <;> omega

/-- One more bit of the significand is as much as one more doubling. -/
theorem two_pow_53_mul (n : Nat) :
    Nat.pow 2 53 * Nat.pow 2 n = Nat.pow 2 52 * Nat.pow 2 (n + 1) := by
  rw [two_pow_mul, two_pow_mul, Nat.add_comm n 1, ← Nat.add_assoc]

/-- In the order of the grid the numbers grow. -/
theorem grid_le {e q e' q' : Nat} (h : OnGrid e q) (h' : OnGrid e' q')
    (hle : e * Nat.pow 2 52 + q ≤ e' * Nat.pow 2 52 + q') :
    q * Nat.pow 2 e ≤ q' * Nat.pow 2 e' := by
  rcases Nat.lt_trichotomy e e' with hlt | rfl | hgt
  · have hfull := h'.full (by omega)
    have hpow : Nat.pow 2 (e + 1) ≤ Nat.pow 2 e' := Nat.pow_le_pow_right (by decide) hlt
    calc q * Nat.pow 2 e ≤ Nat.pow 2 53 * Nat.pow 2 e := Nat.mul_le_mul_right _ h.le
      _ = Nat.pow 2 52 * Nat.pow 2 (e + 1) := two_pow_53_mul e
      _ ≤ q' * Nat.pow 2 e' := Nat.mul_le_mul hfull hpow
  · exact Nat.mul_le_mul_right _ (by omega)
  · -- Both are the same place: the second significand has just become too long.
    obtain ⟨rfl, rfl, rfl⟩ : e = e' + 1 ∧ q = Nat.pow 2 52 ∧ q' = Nat.pow 2 53 := by
      have hle' := h'.le
      have hfull := h.full (by omega)
      rw [two_pow_53] at hle'
      rw [two_pow_52] at hfull hle
      rw [two_pow_52, two_pow_53]
      omega
    exact Nat.le_of_eq (two_pow_53_mul e').symm

section

variable {x : Binary64} {e q : Nat}

/-- Doubles with smaller magnitude bits than a place of the grid are smaller numbers. -/
theorem scaled_le (h : OnGrid e q) (hle : x.magnitude ≤ e * Nat.pow 2 52 + q) :
    x.scaled ≤ q * Nat.pow 2 e := by
  rw [magnitude_eq] at hle
  exact grid_le x.onGrid h hle

theorem le_scaled (h : OnGrid e q) (hle : e * Nat.pow 2 52 + q ≤ x.magnitude) :
    q * Nat.pow 2 e ≤ x.scaled := by
  rw [magnitude_eq] at hle
  exact grid_le h x.onGrid hle

theorem scaled_eq (h : OnGrid e q) (heq : x.magnitude = e * Nat.pow 2 52 + q) :
    x.scaled = q * Nat.pow 2 e :=
  Nat.le_antisymm (scaled_le h (Nat.le_of_eq heq)) (le_scaled h (Nat.le_of_eq heq.symm))

/-- Whether the significand is even can be seen from the place. -/
theorem significand_mod_two (heq : x.magnitude = e * Nat.pow 2 52 + q) :
    x.significand % 2 = q % 2 := by
  have hplace := x.magnitude_eq
  rw [heq, two_pow_52] at hplace
  omega

theorem mul_two_pow_mul (k e den : Nat) : k * Nat.pow 2 e * den = k * (den * Nat.pow 2 e) := by
  rw [Nat.mul_assoc, Nat.mul_comm (Nat.pow 2 e)]

/-- No double is between two neighbours on the grid. -/
theorem scaled_mul_le_or_le (h : OnGrid e q) (hnext : OnGrid e (q + 1)) (y : Binary64) (den : Nat) :
    y.scaled * den ≤ q * (den * Nat.pow 2 e) ∨
      q * (den * Nat.pow 2 e) + den * Nat.pow 2 e ≤ y.scaled * den := by
  rw [← Nat.succ_mul, ← mul_two_pow_mul, ← mul_two_pow_mul]
  rcases Nat.lt_or_ge (e * Nat.pow 2 52 + q) y.magnitude with habove | hbelow
  · exact .inr (Nat.mul_le_mul_right den (le_scaled hnext habove))
  · exact .inl (Nat.mul_le_mul_right den (scaled_le h hbelow))

end

/-! ## Rounding -/

/-- A quotient is rounded down where less than half is lost, and up where more than half is; of two
numbers that are as near the even one is taken. -/
theorem roundDiv_cases (num den : Nat) :
    roundDiv num den = num / den ∧
        (2 * (num % den) < den ∨ 2 * (num % den) = den ∧ num / den % 2 = 0) ∨
      roundDiv num den = num / den + 1 ∧
        (den < 2 * (num % den) ∨ 2 * (num % den) = den ∧ (num / den + 1) % 2 = 0) := by
  unfold roundDiv
  dsimp only
  split <;> omega

/-- Without its last bits a number has at most fifty-three bits, and no fewer if bits were left
out. -/
theorem onGrid_shifted (n : Nat) :
    n / Nat.pow 2 (n.log2 - 52) < Nat.pow 2 53 ∧
      (0 < n.log2 - 52 → Nat.pow 2 52 ≤ n / Nat.pow 2 (n.log2 - 52)) := by
  constructor
  · rw [Nat.div_lt_iff_lt_mul (two_pow_pos _), two_pow_mul]
    have hlog : n < Nat.pow 2 (n.log2 + 1) := Nat.lt_log2_self
    exact Nat.lt_of_lt_of_le hlog (Nat.pow_le_pow_right (by decide) (by omega))
  · intro hbits
    have hne : n ≠ 0 := by
      rintro rfl
      simp at hbits
    rw [Nat.le_div_iff_mul_le (two_pow_pos _), two_pow_mul]
    exact Nat.le_trans (Nat.pow_le_pow_right (by decide) (by omega)) (Nat.log2_self_le hne)

/-- The place of the grid that `size / den` is rounded to. -/
def rounded (size den : Nat) : Nat :=
  let e := (size / den).log2 - 52
  e * Nat.pow 2 52 + roundDiv size (den * Nat.pow 2 e)

theorem nearestMagnitude_eq_min (num den : Nat) :
    nearestMagnitude num den = min infiniteMagnitude (rounded (num * Nat.pow 2 1074) den) := rfl

/-! ## Sizes -/

/-- How far the size of a finite double is from `size / den`.  The unit is that of `distance`. -/
def sizeDistance (x : Binary64) (size den : Nat) : Nat :=
  (((x.scaled * den : Nat) : Int) - size).natAbs

/-- As `IsNearest`, without the signs. -/
structure IsNearestSize (x : Binary64) (size den : Nat) : Prop where
  closest (y : Binary64) : x.sizeDistance size den ≤ y.sizeDistance size den
  even (y : Binary64) (hne : y.scaled ≠ x.scaled)
    (htie : y.sizeDistance size den = x.sizeDistance size den) : x.significand % 2 = 0

/-- What is rounded to the grid is one of the two neighbours of the quotient, and the nearer one. -/
theorem isNearestSize_of_rounded {x : Binary64} {size den : Nat} (hden : 0 < den)
    (hx : x.magnitude = rounded size den) : x.IsNearestSize size den := by
  obtain ⟨hlt, hfull⟩ := onGrid_shifted (size / den)
  rw [Nat.div_div_eq_div_mul] at hlt hfull
  rw [rounded] at hx
  generalize (size / den).log2 - 52 = e at *
  have hcases := roundDiv_cases size (den * Nat.pow 2 e)
  have hdiv := Nat.div_add_mod' size (den * Nat.pow 2 e)
  have hmod := Nat.mod_lt size (Nat.mul_pos hden (two_pow_pos e))
  generalize size / (den * Nat.pow 2 e) = q at *
  generalize size % (den * Nat.pow 2 e) = r at *
  have hdown : OnGrid e q := ⟨Nat.le_of_lt hlt, hfull⟩
  have hup : OnGrid e (q + 1) := ⟨hlt, fun he => Nat.le_succ_of_le (hfull he)⟩
  have hplace : ∀ k, OnGrid e k → roundDiv size (den * Nat.pow 2 e) = k →
      x.scaled * den = k * (den * Nat.pow 2 e) ∧ x.significand % 2 = k % 2 := by
    rintro k hk rfl
    exact ⟨by rw [scaled_eq hk hx, mul_two_pow_mul], significand_mod_two hx⟩
  have hnext : (q + 1) * (den * Nat.pow 2 e) = q * (den * Nat.pow 2 e) + den * Nat.pow 2 e :=
    Nat.succ_mul q _
  have hother := fun y => scaled_mul_le_or_le hdown hup y den
  refine ⟨fun y => ?_, fun y hne htie => ?_⟩
  · have hy := hother y
    unfold sizeDistance
    rcases hcases with ⟨hround, hlost⟩ | ⟨hround, hlost⟩
    · have hscaled := (hplace q hdown hround).1
      omega
    · have hscaled := (hplace (q + 1) hup hround).1
      omega
  · have hy := hother y
    have hne : y.scaled * den ≠ x.scaled * den := fun heq =>
      hne (Nat.eq_of_mul_eq_mul_right hden heq)
    unfold sizeDistance at htie
    rcases hcases with ⟨hround, hlost⟩ | ⟨hround, hlost⟩
    · obtain ⟨hscaled, hparity⟩ := hplace q hdown hround
      omega
    · obtain ⟨hscaled, hparity⟩ := hplace (q + 1) hup hround
      omega

/-! ## Signs -/

theorem signed_mul (x : Binary64) (den : Nat) :
    x.signed * den =
      if x.negative then -((x.scaled * den : Nat) : Int) else ((x.scaled * den : Nat) : Int) := by
  rw [signed, Int.natCast_mul]
  split
  · rw [Int.neg_mul]
  · rfl

theorem int_mul_natCast (num : Int) (n : Nat) :
    num * n =
      if num < 0 then -((num.natAbs * n : Nat) : Int) else ((num.natAbs * n : Nat) : Int) := by
  rw [Int.natCast_mul]
  split
  · next hneg => rw [Int.ofNat_natAbs_of_nonpos (Int.le_of_lt hneg), Int.neg_mul, Int.neg_neg]
  · next hpos => rw [Int.natAbs_of_nonneg (Int.not_lt.1 hpos)]

/-- With the same sign the distance is that of the sizes, else it is their sum. -/
theorem distance_eq (x : Binary64) (num : Int) (den : Nat) :
    x.distance num den =
      if x.negative = decide (num < 0) then x.sizeDistance (num.natAbs * Nat.pow 2 1074) den
      else x.scaled * den + num.natAbs * Nat.pow 2 1074 := by
  rw [distance, sizeDistance, signed_mul, int_mul_natCast]
  generalize Nat.pow 2 1074 = unit
  cases x.negative <;> by_cases hneg : num < 0 <;>
    simp only [hneg, if_true, if_false, decide_true, decide_false, Bool.false_eq_true,
      reduceCtorEq] <;> omega

/-- What is nearest in size, and has the sign of the quotient, is nearest. -/
theorem IsNearestSize.isNearest {x : Binary64} {num : Int} {den : Nat} (hden : 0 < den)
    (hfinite : x.isFinite = true) (hsign : x.negative = decide (num < 0))
    (h : x.IsNearestSize (num.natAbs * Nat.pow 2 1074) den) : x.IsNearest num den := by
  have hx := distance_eq x num den
  rw [if_pos hsign] at hx
  have hy := fun y => distance_eq y num den
  generalize num.natAbs * Nat.pow 2 1074 = size at *
  have hle : ∀ y : Binary64, y.sizeDistance size den ≤ y.scaled * den + size := fun y => by
    unfold sizeDistance
    omega
  have hzero : x.sizeDistance size den ≤ size := by
    have hzeroSize : (zero false).sizeDistance size den = size := by
      have hzeroScaled : (zero false).scaled = 0 := rfl
      rw [sizeDistance, hzeroScaled, Nat.zero_mul]
      omega
    exact Nat.le_trans (h.closest (zero false)) (Nat.le_of_eq hzeroSize)
  refine ⟨hfinite, fun y _ => ?_, fun y _ hne htie => ?_⟩
  · have hnearest := h.closest y
    have hother := hle y
    rw [hx, hy]
    split <;> omega
  · have hnearest := h.closest y
    rw [hx, hy] at htie
    split at htie
    · next hsame =>
      refine h.even y (fun hscaled => hne ?_) htie
      rw [signed, signed, hsame, hsign, hscaled]
    · -- Only a zero is as near from the other side, and a zero has no sign as a number.
      have hnone : y.scaled * den = 0 := by omega
      have hyScaled : y.scaled = 0 := (Nat.mul_eq_zero.1 hnone).resolve_right (by omega)
      have hother := hle y
      refine h.even y (fun hscaled => hne ?_) (by omega)
      rw [signed, signed, ← hscaled, hyScaled]
      split <;> split <;> rfl

/-! ## Nearest doubles -/

/-- Where the double for a quotient is finite, it is the nearest one. -/
theorem isNearest_ofRatio (num : Int) {den : Nat} (hden : 0 < den)
    (hfinite : (ofRatio (decide (num < 0)) num.natAbs den).isFinite = true) :
    (ofRatio (decide (num < 0)) num.natAbs den).IsNearest num den := by
  have hmagnitude : nearestMagnitude num.natAbs den =
      rounded (num.natAbs * Nat.pow 2 1074) den := by
    have hlt : nearestMagnitude num.natAbs den < infiniteMagnitude := of_decide_eq_true hfinite
    rw [nearestMagnitude_eq_min] at hlt ⊢
    omega
  exact (isNearestSize_of_rounded hden hmagnitude).isNearest hden hfinite rfl

theorem mul_two_pow_div_lt {num den k : Nat} (l : Nat) (hden : 0 < den)
    (h : num / den < Nat.pow 2 k) : num * Nat.pow 2 l / den < Nat.pow 2 (k + l) := by
  rw [Nat.div_lt_iff_lt_mul hden] at h ⊢
  rw [← two_pow_mul, Nat.mul_right_comm]
  exact Nat.mul_lt_mul_of_pos_right h (two_pow_pos l)

theorem log2_sub_le {n k : Nat} (hk : k ≤ 2097) (h : n < Nat.pow 2 k) : n.log2 - 52 ≤ 2044 := by
  by_cases hn : n = 0
  · simp [hn]
  · have hlog := (Nat.log2_lt hn).2 h
    omega

/-- A quotient that is not too large is not rounded to the place of an infinity. -/
theorem rounded_lt {size den k : Nat} (hk : k ≤ 2097) (h : size / den < Nat.pow 2 k) :
    rounded size den < infiniteMagnitude := by
  obtain ⟨hlt, -⟩ := onGrid_shifted (size / den)
  rw [Nat.div_div_eq_div_mul] at hlt
  have hdoublings := log2_sub_le hk h
  rw [rounded]
  generalize (size / den).log2 - 52 = e at *
  have hcases := roundDiv_cases size (den * Nat.pow 2 e)
  rw [two_pow_53] at hlt
  rw [infiniteMagnitude, two_pow_52]
  omega

theorem isFinite_ofInt {i : Int} {k : Nat} (hk : k ≤ 1023) (h : i.natAbs < Nat.pow 2 k) :
    (ofInt i).isFinite = true := by
  refine decide_eq_true ?_
  show nearestMagnitude i.natAbs 1 < infiniteMagnitude
  rw [nearestMagnitude_eq_min]
  generalize hunit : 1074 = l
  have hquotient : i.natAbs / 1 < Nat.pow 2 k := Nat.lt_of_le_of_lt (Nat.div_le_self _ 1) h
  have hsize := mul_two_pow_div_lt l Nat.one_pos hquotient
  exact Nat.lt_of_le_of_lt (Nat.min_le_right _ _) (rounded_lt (by omega) hsize)

/-- A whole number that is not too large has a nearest double, and it is the one that is
computed. -/
theorem isNearest_ofInt {i : Int} {k : Nat} (hk : k ≤ 1023) (h : i.natAbs < Nat.pow 2 k) :
    (ofInt i).IsNearest i 1 :=
  isNearest_ofRatio i Nat.one_pos (isFinite_ofInt hk h)

end Placeholder.Binary64
