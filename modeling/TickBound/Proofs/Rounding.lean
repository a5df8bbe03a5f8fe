import Mathlib.Algebra.Order.Field.Power
import Mathlib.Algebra.Order.Field.Rat
import Mathlib.Tactic.Linarith
import Mathlib.Tactic.Positivity
import Mathlib.Tactic.Ring
import TickBound.Number.Real

/-!
# Rounding to floating-point values

A magnitude is given by its bits, and it is a whole number of units, the least magnitudes above zero.
The value nearest to a number is specified by distances alone, and there is one such value: magnitudes
grow with their bits, so it is enough to compare it with its two neighbours. The value that is computed
for a decimal is the nearest one.
-/

namespace TickBound

namespace Number

/-! ## Magnitudes -/

/-- A magnitude by its bits, in units of the least one above zero: the field of the exponent and the
fraction below it. -/
def units (bits : Nat) : Nat :=
  if bits / 2 ^ 52 = 0 then bits % 2 ^ 52
  else (2 ^ 52 + bits % 2 ^ 52) * 2 ^ (bits / 2 ^ 52 - 1)

/-- A magnitude by its bits. Infinity is taken for `2 ^ 1024`, which comes after the largest finite
one. -/
def magnitude (bits : Nat) : ℚ :=
  units bits / unitsPerOne

example : magnitude 0x3FD0000000000000 = 1 / 4 := by decide +kernel

example : magnitude infinityBits = 2 ^ 1024 := by decide +kernel

theorem units_of_mantissa {k m : Nat} (lead : k = 0 ∨ 2 ^ 52 ≤ m) (places : m ≤ 2 ^ 53) :
    units (k * 2 ^ 52 + m) = m * 2 ^ k := by
  unfold units
  rcases Nat.lt_or_ge m (2 ^ 52) with small | large
  · have none : k = 0 := lead.resolve_right (Nat.not_le.mpr small)
    have field : (k * 2 ^ 52 + m) / 2 ^ 52 = 0 := by omega
    have fraction : (k * 2 ^ 52 + m) % 2 ^ 52 = m := by omega
    rw [if_pos field, fraction, none, Nat.pow_zero, Nat.mul_one]
  · rcases Nat.lt_or_eq_of_le places with below | rfl
    · have field : (k * 2 ^ 52 + m) / 2 ^ 52 = k + 1 := by omega
      have fraction : 2 ^ 52 + (k * 2 ^ 52 + m) % 2 ^ 52 = m := by omega
      rw [if_neg (by omega), fraction, field, Nat.add_sub_cancel]
    · have field : (k * 2 ^ 52 + 2 ^ 53) / 2 ^ 52 = k + 2 := by omega
      have fraction : (k * 2 ^ 52 + 2 ^ 53) % 2 ^ 52 = 0 := by omega
      rw [if_neg (by omega), fraction, field]
      change (2 ^ 52 + 0) * 2 ^ (k + 1) = 2 ^ 53 * 2 ^ k
      rw [Nat.pow_succ]
      omega

theorem exists_mantissa (bits : Nat) :
    ∃ k m, bits = k * 2 ^ 52 + m ∧ (k = 0 ∨ 2 ^ 52 ≤ m) ∧ m < 2 ^ 53 := by
  by_cases small : bits < 2 ^ 52
  · exact ⟨0, bits, by omega, .inl rfl, by omega⟩
  · exact ⟨bits / 2 ^ 52 - 1, 2 ^ 52 + bits % 2 ^ 52, by omega, .inr (by omega), by omega⟩

theorem units_strictMono : StrictMono units := by
  refine strictMono_nat_of_lt_succ fun bits => ?_
  obtain ⟨k, m, rfl, lead, places⟩ := exists_mantissa bits
  have next : k = 0 ∨ 2 ^ 52 ≤ m + 1 := lead.imp_right Nat.le_succ_of_le
  rw [Nat.add_assoc, units_of_mantissa lead places.le, units_of_mantissa next places]
  exact Nat.mul_lt_mul_of_pos_right (Nat.lt_succ_self m) (Nat.two_pow_pos k)

theorem unitsPerOne_pos : (0 : ℚ) < unitsPerOne :=
  Nat.cast_pos.mpr (by decide +kernel)

theorem magnitude_strictMono : StrictMono magnitude := by
  intro bits other less
  have more : (units bits : ℚ) < units other := Nat.cast_lt.mpr (units_strictMono less)
  exact div_lt_div_of_pos_right more unitsPerOne_pos

/-! ## The nearest magnitude -/

/-- The bits of the value nearest to `q`: no other magnitude is nearer, and the last bit is zero if
another one is as near. -/
structure IsNearest (q : ℚ) (bits : Nat) : Prop where
  within : bits ≤ infinityBits
  closest : ∀ other ≤ infinityBits, |q - magnitude bits| ≤ |q - magnitude other|
  even : ∀ other ≤ infinityBits, other ≠ bits → |q - magnitude other| = |q - magnitude bits| →
    bits % 2 = 0

theorem sum_of_abs_sub_eq {q a b : ℚ} (same : |q - a| = |q - b|) (other : a ≠ b) : 2 * q = a + b := by
  rcases abs_eq_abs.mp same with equal | opposite
  · exact absurd (sub_right_injective equal) other
  · linarith

section Neighbours

variable {q : ℚ} {bits other : Nat}

/-- There is one nearest value: of two that are equally near, one has a last bit that is not zero, or
there is one between them that is nearer. -/
theorem IsNearest.unique (h : IsNearest q bits) (h' : IsNearest q other) : bits = other := by
  by_contra different
  wlog less : bits < other generalizing bits other
  · exact this h' h (Ne.symm different) (by omega)
  have same : |q - magnitude bits| = |q - magnitude other| :=
    (h.closest other h'.within).antisymm (h'.closest bits h.within)
  have even := h.even other h'.within (Ne.symm different) same.symm
  have even' := h'.even bits h.within different same
  have between : magnitude bits < magnitude (bits + 1) := magnitude_strictMono (Nat.lt_succ_self bits)
  have between' : magnitude (bits + 1) < magnitude other := magnitude_strictMono (by omega)
  have middle := sum_of_abs_sub_eq same (between.trans between').ne
  have nearer : |q - magnitude (bits + 1)| < q - magnitude bits :=
    abs_sub_lt_iff.mpr ⟨by linarith, by linarith⟩
  have closest := h.closest (bits + 1) (by have := h'.within; omega)
  rw [abs_of_pos (by linarith)] at closest
  exact absurd nearer closest.not_gt

/-- `q` is nearer to a magnitude than to the next one, or as near if the last bit is zero. -/
def BelowNext (q : ℚ) (bits : Nat) : Prop :=
  2 * q < magnitude bits + magnitude (bits + 1) ∨
    2 * q = magnitude bits + magnitude (bits + 1) ∧ bits % 2 = 0

/-- `q` is nearer to a magnitude than to the one before, or as near if the last bit is zero. -/
def AbovePrevious (q : ℚ) (bits : Nat) : Prop :=
  ∀ less, less + 1 = bits → magnitude less + magnitude bits < 2 * q ∨
    magnitude less + magnitude bits = 2 * q ∧ bits % 2 = 0

theorem belowNext_of_le (h : q ≤ magnitude bits) : BelowNext q bits := by
  have next : magnitude bits < magnitude (bits + 1) := magnitude_strictMono (Nat.lt_succ_self bits)
  exact .inl (by linarith)

theorem abovePrevious_of_le (h : magnitude bits ≤ q) : AbovePrevious q bits := by
  rintro less rfl
  have next : magnitude less < magnitude (less + 1) := magnitude_strictMono (Nat.lt_succ_self less)
  exact .inl (by linarith)

theorem BelowNext.le (h : BelowNext q bits) : 2 * q ≤ magnitude bits + magnitude (bits + 1) :=
  h.elim le_of_lt fun tie => tie.1.le

theorem AbovePrevious.le {less : Nat} (h : AbovePrevious q (less + 1)) :
    magnitude less + magnitude (less + 1) ≤ 2 * q :=
  (h less rfl).elim le_of_lt fun tie => tie.1.le

theorem BelowNext.closer (h : BelowNext q bits) (less : bits < other) :
    |q - magnitude bits| ≤ |q - magnitude other| ∧
      (|q - magnitude other| = |q - magnitude bits| → bits % 2 = 0) := by
  have further : magnitude bits < magnitude other := magnitude_strictMono less
  have next : magnitude (bits + 1) ≤ magnitude other := magnitude_strictMono.monotone less
  have middle := h.le
  constructor
  · have distance := neg_abs_le (q - magnitude other)
    exact abs_le.mpr ⟨by linarith, by linarith⟩
  · intro same
    have middle' := sum_of_abs_sub_eq same further.ne'
    exact (h.resolve_left (by linarith)).2

theorem AbovePrevious.closer (h : AbovePrevious q bits) (less : other < bits) :
    |q - magnitude bits| ≤ |q - magnitude other| ∧
      (|q - magnitude other| = |q - magnitude bits| → bits % 2 = 0) := by
  obtain ⟨previous, rfl⟩ := Nat.exists_eq_succ_of_ne_zero (Nat.ne_zero_of_lt less)
  have further : magnitude other < magnitude (previous + 1) := magnitude_strictMono less
  have before : magnitude other ≤ magnitude previous :=
    magnitude_strictMono.monotone (Nat.le_of_lt_succ less)
  have middle := h.le
  constructor
  · have distance := le_abs_self (q - magnitude other)
    exact abs_le.mpr ⟨by linarith, by linarith⟩
  · intro same
    have middle' := sum_of_abs_sub_eq same further.ne
    exact ((h previous rfl).resolve_left (by linarith)).2

theorem AbovePrevious.of_lt (h : AbovePrevious q bits) (less : other < bits) :
    AbovePrevious q other := by
  obtain ⟨previous, rfl⟩ := Nat.exists_eq_succ_of_ne_zero (Nat.ne_zero_of_lt less)
  have before : magnitude other ≤ magnitude previous :=
    magnitude_strictMono.monotone (Nat.le_of_lt_succ less)
  have further : magnitude other < magnitude (previous + 1) := magnitude_strictMono less
  have middle := h.le
  exact abovePrevious_of_le (by linarith)

/-- A magnitude is the nearest one as soon as its two neighbours are not nearer. -/
theorem IsNearest.of_neighbours (within : bits ≤ infinityBits)
    (below : bits < infinityBits → BelowNext q bits) (above : AbovePrevious q bits) :
    IsNearest q bits := by
  have closer : ∀ other ≤ infinityBits, other ≠ bits →
      |q - magnitude bits| ≤ |q - magnitude other| ∧
        (|q - magnitude other| = |q - magnitude bits| → bits % 2 = 0) := by
    intro other within' different
    rcases Nat.lt_or_gt_of_ne different with less | more
    · exact above.closer less
    · exact (below (Nat.lt_of_lt_of_le more within')).closer more
  refine ⟨within, fun other within' => ?_, fun other within' different =>
    (closer other within' different).2⟩
  by_cases same : other = bits
  · rw [same]
  · exact (closer other within' same).1

theorem AbovePrevious.isNearest_infinity (h : AbovePrevious q infinityBits) :
    IsNearest q infinityBits :=
  .of_neighbours le_rfl (fun less => absurd less (lt_irrefl _)) h

end Neighbours

/-! ## Rounding -/

/-- A quotient is at most half away from the nearest whole number, and less if that one is odd. -/
theorem nearestWhole_spec (num : Nat) {den : Nat} (pos : 0 < den) :
    let whole := nearestWhole num den
    (2 * num < 2 * (whole * den) + den ∨ 2 * num = 2 * (whole * den) + den ∧ whole % 2 = 0) ∧
      (2 * (whole * den) < 2 * num + den ∨ 2 * (whole * den) = 2 * num + den ∧ whole % 2 = 0) := by
  have parts : num / den * den + num % den = num := Nat.div_add_mod' num den
  have rest : num % den < den := Nat.mod_lt num pos
  have next : (num / den + 1) * den = num / den * den + den := Nat.succ_mul _ _
  unfold nearestWhole
  cases order : compare (2 * (num % den)) den with
  | lt =>
      rw [Nat.compare_eq_lt] at order
      dsimp only
      omega
  | gt =>
      rw [Nat.compare_eq_gt] at order
      dsimp only
      omega
  | eq =>
      rw [Nat.compare_eq_eq] at order
      dsimp only
      by_cases even : num / den % 2 = 0
      · rw [if_pos even]
        omega
      · rw [if_neg even, next]
        omega

/-- With `k` chosen for a quotient, 53 places hold its multiple of `2 ^ k`, and none is unused unless
`k` is zero. -/
theorem mantissa_bounds (num : Nat) {den : Nat} (pos : 0 < den) :
    let k := (num / den).log2 - 52
    (k = 0 ∨ 2 ^ 52 * (den * 2 ^ k) ≤ num) ∧ num < 2 ^ 53 * (den * 2 ^ k) := by
  intro k
  have power (n : Nat) : 2 ^ n * (den * 2 ^ k) = 2 ^ (n + k) * den := by
    rw [Nat.pow_add, Nat.mul_comm den, Nat.mul_assoc]
  rw [power, power]
  constructor
  · by_cases none : k = 0
    · exact .inl none
    · have some : num / den ≠ 0 := by
        intro zero
        exact none (by simp [k, zero])
      have log : 52 + k = (num / den).log2 := by omega
      rw [log]
      exact .inr ((Nat.le_div_iff_mul_le pos).mp (Nat.log2_self_le some))
  · rw [← Nat.div_lt_iff_lt_mul pos]
    calc num / den < 2 ^ ((num / den).log2 + 1) := Nat.lt_log2_self
      _ ≤ 2 ^ (53 + k) := Nat.pow_le_pow_right (by omega) (by omega)

section Fraction

variable {num den bits other : Nat}

theorem div_le_magnitude_iff (pos : 0 < den) :
    (num / den : ℚ) ≤ magnitude bits ↔ num * unitsPerOne ≤ units bits * den := by
  rw [magnitude, div_le_div_iff₀ (Nat.cast_pos.mpr pos) unitsPerOne_pos]
  exact_mod_cast Iff.rfl

theorem magnitude_le_div_iff (pos : 0 < den) :
    magnitude bits ≤ (num / den : ℚ) ↔ units bits * den ≤ num * unitsPerOne := by
  rw [magnitude, div_le_div_iff₀ unitsPerOne_pos (Nat.cast_pos.mpr pos)]
  exact_mod_cast Iff.rfl

theorem lt_middle_iff (pos : 0 < den) :
    2 * (num / den : ℚ) < magnitude bits + magnitude other ↔
      2 * (num * unitsPerOne) < (units bits + units other) * den := by
  rw [magnitude, magnitude, ← add_div, ← mul_div_assoc,
    div_lt_div_iff₀ (Nat.cast_pos.mpr pos) unitsPerOne_pos, mul_assoc]
  exact_mod_cast Iff.rfl

theorem middle_lt_iff (pos : 0 < den) :
    magnitude bits + magnitude other < 2 * (num / den : ℚ) ↔
      (units bits + units other) * den < 2 * (num * unitsPerOne) := by
  rw [magnitude, magnitude, ← add_div, ← mul_div_assoc,
    div_lt_div_iff₀ unitsPerOne_pos (Nat.cast_pos.mpr pos), mul_assoc]
  exact_mod_cast Iff.rfl

theorem eq_middle_iff (pos : 0 < den) :
    2 * (num / den : ℚ) = magnitude bits + magnitude other ↔
      2 * (num * unitsPerOne) = (units bits + units other) * den := by
  rw [magnitude, magnitude, ← add_div, ← mul_div_assoc,
    div_eq_div_iff (Nat.cast_pos.mpr pos).ne' unitsPerOne_pos.ne', mul_assoc]
  exact_mod_cast Iff.rfl

end Fraction

section Mantissa

variable {num den k m : Nat}

theorem belowNext_of_mantissa (pos : 0 < den) (lead : k = 0 ∨ 2 ^ 52 ≤ m) (places : m ≤ 2 ^ 53)
    (room : num * unitsPerOne < 2 ^ 53 * (den * 2 ^ k))
    (near : 2 * (num * unitsPerOne) < 2 * (m * (den * 2 ^ k)) + den * 2 ^ k ∨
      2 * (num * unitsPerOne) = 2 * (m * (den * 2 ^ k)) + den * 2 ^ k ∧ m % 2 = 0) :
    BelowNext (num / den) (k * 2 ^ 52 + m) := by
  have own := units_of_mantissa lead places
  rcases Nat.lt_or_eq_of_le places with below | rfl
  · have next := units_of_mantissa (lead.imp_right Nat.le_succ_of_le) below
    have middle : (m * 2 ^ k + (m + 1) * 2 ^ k) * den = 2 * (m * (den * 2 ^ k)) + den * 2 ^ k := by
      ring
    rw [BelowNext, lt_middle_iff pos, eq_middle_iff pos, Nat.add_assoc, own, next, middle]
    exact near.imp_right (And.imp_right fun even => by omega)
  · -- rounded up to one more place: the number itself is below
    apply belowNext_of_le
    rw [div_le_magnitude_iff pos, own, Nat.mul_assoc, Nat.mul_comm (2 ^ k)]
    exact room.le

theorem abovePrevious_of_mantissa (pos : 0 < den) (lead : k = 0 ∨ 2 ^ 52 ≤ m) (places : m ≤ 2 ^ 53)
    (full : k = 0 ∨ 2 ^ 52 * (den * 2 ^ k) ≤ num * unitsPerOne)
    (near : 2 * (m * (den * 2 ^ k)) < 2 * (num * unitsPerOne) + den * 2 ^ k ∨
      2 * (m * (den * 2 ^ k)) = 2 * (num * unitsPerOne) + den * 2 ^ k ∧ m % 2 = 0) :
    AbovePrevious (num / den) (k * 2 ^ 52 + m) := by
  have own := units_of_mantissa lead places
  by_cases first : k ≠ 0 ∧ m = 2 ^ 52
  · -- the magnitude before is only half a step away, but the number is not below
    obtain ⟨some, rfl⟩ := first
    apply abovePrevious_of_le
    rw [magnitude_le_div_iff pos, own, Nat.mul_assoc, Nat.mul_comm (2 ^ k)]
    exact full.resolve_left some
  · intro less next
    obtain ⟨n, rfl⟩ : ∃ n, m = n + 1 := Nat.exists_eq_succ_of_ne_zero (by omega)
    obtain rfl : less = k * 2 ^ 52 + n := by omega
    have previous := units_of_mantissa (k := k) (m := n) (by omega) (by omega)
    have middle : (n * 2 ^ k + (n + 1) * 2 ^ k) * den + den * 2 ^ k =
        2 * ((n + 1) * (den * 2 ^ k)) := by
      ring
    rw [middle_lt_iff pos, eq_comm, eq_middle_iff pos, previous, own]
    omega

end Mantissa

theorem mantissa_lead {k m step least : Nat} (pos : 0 < step) (full : k = 0 ∨ 2 ^ 52 * step ≤ least)
    (near : 2 * least ≤ 2 * (m * step) + step) : k = 0 ∨ 2 ^ 52 ≤ m := by
  refine full.imp_right fun full => ?_
  by_contra small
  have less : m * step ≤ (2 ^ 52 - 1) * step := Nat.mul_le_mul_right _ (by omega)
  omega

theorem mantissa_places {m step least : Nat} (room : least < 2 ^ 53 * step)
    (near : 2 * (m * step) ≤ 2 * least + step) : m ≤ 2 ^ 53 := by
  by_contra large
  have more : (2 ^ 53 + 1) * step ≤ m * step := Nat.mul_le_mul_right _ (by omega)
  omega

theorem isNearest_nearestBits (num : Nat) {den : Nat} (pos : 0 < den) :
    IsNearest (num / den) (nearestBits num den) := by
  let least := num * unitsPerOne
  let k := (least / den).log2 - 52
  let m := nearestWhole least (den * 2 ^ k)
  have pos' : 0 < den * 2 ^ k := Nat.mul_pos pos (Nat.two_pow_pos k)
  obtain ⟨full, room⟩ := mantissa_bounds least pos
  obtain ⟨nearBelow, nearAbove⟩ := nearestWhole_spec least pos'
  have lead : k = 0 ∨ 2 ^ 52 ≤ m :=
    mantissa_lead pos' full (nearBelow.elim le_of_lt fun tie => tie.1.le)
  have places : m ≤ 2 ^ 53 :=
    mantissa_places room (nearAbove.elim le_of_lt fun tie => tie.1.le)
  have below := belowNext_of_mantissa pos lead places room nearBelow
  have above := abovePrevious_of_mantissa pos lead places full nearAbove
  change IsNearest _ (min (k * 2 ^ 52 + m) infinityBits)
  rcases Nat.lt_or_ge infinityBits (k * 2 ^ 52 + m) with beyond | within
  · rw [Nat.min_eq_right beyond.le]
    exact (above.of_lt beyond).isNearest_infinity
  · rw [Nat.min_eq_left within]
    exact .of_neighbours within (fun _ => below) above

/-! ## Decimals -/

theorem isNearest_infinityBits {q : ℚ} (h : 10 ^ 400 ≤ q) : IsNearest q infinityBits := by
  have beyond : units infinityBits ≤ 10 ^ 400 * unitsPerOne := by decide +kernel
  have magnitude_le : magnitude infinityBits ≤ 10 ^ 400 := by
    rw [magnitude, div_le_iff₀ unitsPerOne_pos]
    exact_mod_cast beyond
  exact (abovePrevious_of_le (magnitude_le.trans h)).isNearest_infinity

theorem isNearest_zero {q : ℚ} (h : q ≤ 1 / 10 ^ 400) : IsNearest q 0 := by
  have units_zero : units 0 = 0 := by decide
  have units_one : units 1 = 1 := by decide
  have small : 2 * unitsPerOne < 10 ^ 400 := by decide +kernel
  have small' : (2 * unitsPerOne : ℚ) < 10 ^ 400 := by exact_mod_cast small
  have less : 2 * q < magnitude 0 + magnitude 1 := by
    rw [magnitude, magnitude, units_zero, units_one, Nat.cast_zero, Nat.cast_one, zero_div, zero_add,
      lt_div_iff₀ unitsPerOne_pos]
    calc 2 * q * unitsPerOne = q * (2 * unitsPerOne) := by ring
      _ ≤ 1 / 10 ^ 400 * (2 * unitsPerOne) :=
          mul_le_mul_of_nonneg_right h (mul_nonneg zero_le_two unitsPerOne_pos.le)
      _ < 1 := by rwa [one_div_mul_eq_div, div_lt_one (by positivity)]
  exact .of_neighbours (Nat.zero_le _) (fun _ => .inl less) fun _ next => nomatch next

theorem ten_pow_le {n : Nat} (some : n ≠ 0) : 10 ^ (n.log2 * 3 / 10) ≤ n := by
  have power : (10 ^ (n.log2 * 3 / 10)) ^ 10 ≤ (2 ^ n.log2) ^ 10 := by
    calc (10 ^ (n.log2 * 3 / 10)) ^ 10 = 10 ^ (n.log2 * 3 / 10 * 10) := (Nat.pow_mul ..).symm
      _ ≤ 10 ^ (3 * n.log2) := Nat.pow_le_pow_right (by decide) (by omega)
      _ = (10 ^ 3) ^ n.log2 := Nat.pow_mul ..
      _ ≤ (2 ^ 10) ^ n.log2 := Nat.pow_le_pow_left (by decide) _
      _ = (2 ^ n.log2) ^ 10 := Nat.pow_right_comm ..
  exact ((Nat.pow_le_pow_iff_left (by decide)).mp power).trans (Nat.log2_self_le some)

theorem lt_ten_pow (n : Nat) : n < 10 ^ (n.log2 / 3 + 1) := by
  calc n < 2 ^ (n.log2 + 1) := Nat.lt_log2_self
    _ ≤ 2 ^ (3 * (n.log2 / 3 + 1)) := Nat.pow_le_pow_right (by decide) (by omega)
    _ = (2 ^ 3) ^ (n.log2 / 3 + 1) := Nat.pow_mul ..
    _ ≤ 10 ^ (n.log2 / 3 + 1) := Nat.pow_le_pow_left (by decide) _

theorem ten_zpow (power : Int) : (10 : ℚ) ^ power = 10 ^ power.toNat / 10 ^ (-power).toNat := by
  rw [← zpow_natCast, ← zpow_natCast, ← zpow_sub₀ (by norm_num), Int.toNat_sub_toNat_neg]

/-- The value that is computed for a decimal is the nearest one. -/
theorem isNearest_magnitudeBits (digits : Nat) (power : Int) :
    IsNearest (digits * 10 ^ power) (magnitudeBits digits power) := by
  have ten : (1 : ℚ) ≤ 10 := by norm_num
  have scale : (0 : ℚ) < 10 ^ power := by positivity
  unfold magnitudeBits
  extract_lets bits
  split
  · next zero =>
      refine isNearest_zero ?_
      rw [zero, Nat.cast_zero, zero_mul]
      positivity
  · next some =>
      split
      · next large =>
          refine isNearest_infinityBits ?_
          have lead : (10 ^ (digits.log2 * 3 / 10) : ℚ) ≤ digits := by exact_mod_cast ten_pow_le some
          calc (10 ^ 400 : ℚ) = 10 ^ (400 : Int) := rfl
            _ ≤ 10 ^ ((digits.log2 * 3 / 10 : Nat) + power) := zpow_le_zpow_right₀ ten (by omega)
            _ = 10 ^ (digits.log2 * 3 / 10) * 10 ^ power := by rw [zpow_add₀ (by norm_num), zpow_natCast]
            _ ≤ digits * 10 ^ power := mul_le_mul_of_nonneg_right lead scale.le
      · split
        · next small =>
            refine isNearest_zero ?_
            have lead : (digits : ℚ) ≤ 10 ^ (digits.log2 / 3 + 1) := by
              exact_mod_cast (lt_ten_pow digits).le
            calc (digits * 10 ^ power : ℚ) ≤ 10 ^ (digits.log2 / 3 + 1) * 10 ^ power :=
                  mul_le_mul_of_nonneg_right lead scale.le
              _ = 10 ^ ((digits.log2 / 3 + 1 : Nat) + power) := by
                  rw [zpow_add₀ (by norm_num), zpow_natCast]
              _ ≤ 10 ^ (-400 : Int) := zpow_le_zpow_right₀ ten (by omega)
              _ = 1 / 10 ^ 400 := by rw [zpow_neg, one_div]; rfl
        · rw [ten_zpow, ← mul_div_assoc]
          exact_mod_cast isNearest_nearestBits (digits * 10 ^ power.toNat) (Nat.pow_pos (by decide))

end Number

end TickBound
