import Mathlib.Data.Nat.Digits.Lemmas
import TickBound.Number.Real

/-!
# Numerals and their numbers

The digits of a number are those of positional notation in their usual order, so they stand for the
number, a bound on the number bounds how many there are, and only zero begins with a zero. Padding with
zeros up to a width changes none of this but the last.
-/

namespace TickBound

namespace Number

variable {base : Nat}

/-! ## Digits -/

theorem digitsOnto_eq (two : 2 ≤ base) {fuel n : Nat} (enough : n < fuel) (low : List Nat) :
    digitsOnto base fuel n low = (if n = 0 then [0] else (Nat.digits base n).reverse) ++ low := by
  induction fuel generalizing n low with
  | zero => omega
  | succ fuel ih =>
      rw [digitsOnto]
      split
      · next small =>
          by_cases zero : n = 0
          · simp [zero]
          · rw [if_neg zero, Nat.digits_of_lt base n zero small]
            rfl
      · next large =>
          have pos : 0 < n := by omega
          have less : n / base < n := Nat.div_lt_self pos two
          have more : n / base ≠ 0 := Nat.div_ne_zero_iff.mpr ⟨by omega, by omega⟩
          rw [ih (by omega), if_neg more, if_neg (by omega), Nat.digits_def' two pos]
          simp

theorem digits_eq (two : 2 ≤ base) (n : Nat) :
    digits base n = if n = 0 then [0] else (Nat.digits base n).reverse := by
  rw [digits, digitsOnto_eq two (Nat.lt_succ_self n), List.append_nil]

theorem digits_lt (two : 2 ≤ base) {n d : Nat} (h : d ∈ digits base n) : d < base := by
  rw [digits_eq two] at h
  split at h
  · rw [List.mem_singleton] at h
    omega
  · exact Nat.digits_lt_base two (List.mem_reverse.mp h)

theorem ofDigits_eq (ds : List Nat) : ofDigits base ds = Nat.ofDigits base ds.reverse := by
  have swap : (fun n d => n * base + d) = fun n d => d + base * n := by
    funext n d
    rw [Nat.mul_comm, Nat.add_comm]
  rw [ofDigits, Nat.ofDigits_eq_foldr, List.foldr_reverse, swap]
  rfl

theorem ofDigits_digits (two : 2 ≤ base) (n : Nat) : ofDigits base (digits base n) = n := by
  rw [digits_eq two]
  split
  · next zero => simp [zero, ofDigits]
  · rw [ofDigits_eq, List.reverse_reverse, Nat.ofDigits_digits]

theorem length_digits_le (two : 2 ≤ base) {k : Nat} (pos : 0 < k) (n : Nat) :
    (digits base n).length ≤ k ↔ n < base ^ k := by
  rw [digits_eq two]
  split
  · next zero =>
      rw [zero, List.length_singleton]
      exact ⟨fun _ => Nat.pow_pos (by omega), fun _ => pos⟩
  · rw [List.length_reverse, Nat.digits_length_le_iff two]

theorem digits_ne_nil (two : 2 ≤ base) (n : Nat) : digits base n ≠ [] := by
  rw [digits_eq two]
  split
  · simp
  · next pos => simpa [Nat.digits_eq_nil_iff_eq_zero] using pos

/-- Only zero has a numeral that begins with a zero. -/
theorem head?_digits (two : 2 ≤ base) {n : Nat} (h : (digits base n).head? = some 0) : n = 0 := by
  rw [digits_eq two] at h
  split at h
  · assumption
  · next pos =>
      have some : Nat.digits base n ≠ [] := Nat.digits_ne_nil_iff_ne_zero.mpr pos
      rw [List.head?_reverse, List.getLast?_eq_some_getLast some, Option.some.injEq] at h
      exact absurd h (Nat.getLast_digit_ne_zero base pos)

/-! ## Padding -/

/-- The digits of `n` behind as many zeros as make `width` of them. -/
def paddedDigits (base width n : Nat) : List Nat :=
  List.replicate (width - (digits base n).length) 0 ++ digits base n

theorem paddedDigits_lt (two : 2 ≤ base) {width n d : Nat} (h : d ∈ paddedDigits base width n) :
    d < base := by
  rcases List.mem_append.mp h with zero | digit
  · rw [List.eq_of_mem_replicate zero]
    omega
  · exact digits_lt two digit

theorem length_paddedDigits (two : 2 ≤ base) {width n : Nat} (pos : 0 < width)
    (small : n < base ^ width) : (paddedDigits base width n).length = width := by
  have fits := (length_digits_le two pos n).mpr small
  simp only [paddedDigits, List.length_append, List.length_replicate]
  omega

/-- Leading zeros count for nothing. -/
theorem ofDigits_zeros (k : Nat) (ds : List Nat) :
    ofDigits base (List.replicate k 0 ++ ds) = ofDigits base ds := by
  have zeros : (List.replicate k 0).foldl (fun n d => n * base + d) 0 = 0 := by
    induction k with
    | zero => rfl
    | succ k ih => simpa [List.replicate_succ] using ih
  rw [ofDigits, List.foldl_append, zeros, ofDigits]

theorem ofDigits_paddedDigits (two : 2 ≤ base) (width n : Nat) :
    ofDigits base (paddedDigits base width n) = n := by
  rw [paddedDigits, ofDigits_zeros, ofDigits_digits two]

theorem padZeros_map {char : Nat → Char} (zero : char 0 = '0') (width n : Nat) :
    padZeros width ((digits base n).map char) = (paddedDigits base width n).map char := by
  simp [padZeros, paddedDigits, zero]

theorem codeDigits_eq (width n : Nat) :
    codeDigits width n = (paddedDigits 16 width n).map smallDigitChar :=
  padZeros_map rfl width n

theorem hexPadded_natCast (width n : Nat) :
    hexPadded width n = String.ofList ((paddedDigits 16 width n).map digitChar) := by
  rw [hexPadded, sign, if_neg (by omega), List.nil_append, Int.natAbs_natCast, List.length_nil,
    Nat.sub_zero, padZeros_map rfl]

/-! ## Characters of digits -/

def isCapitalHex (c : Char) : Bool :=
  ('0' ≤ c && c ≤ '9') || ('A' ≤ c && c ≤ 'F')

theorem isCapitalHex_digitChar : ∀ d < 16, isCapitalHex (digitChar d) = true := by
  decide

theorem digitIn?_smallDigitChar : ∀ d < 16, digitIn? 16 (smallDigitChar d) = some d := by
  decide

theorem isPlainDigit_digitChar : ∀ d < 10, isPlainDigit (digitChar d) = true := by
  decide

theorem toNat_digitChar : ∀ d < 10, (digitChar d).toNat - 0x30 = d := by
  decide

/-! ## Decimal numerals -/

theorem isPlainDigit_of_mem {n : Nat} {c : Char} (h : c ∈ decimalDigits n) :
    isPlainDigit c = true := by
  obtain ⟨d, digit, rfl⟩ := List.mem_map.mp h
  exact isPlainDigit_digitChar d (digits_lt (by decide) digit)

theorem plainDigits_decimalDigits (n : Nat) : plainDigits (decimalDigits n) = n := by
  have values : (decimalDigits n).map (fun c => c.toNat - 0x30) = digits 10 n := by
    rw [decimalDigits, List.map_map]
    apply (List.map_congr_left _).trans (List.map_id _)
    intro d digit
    exact toNat_digitChar d (digits_lt (by decide) digit)
  rw [plainDigits, values, ofDigits_digits (by decide)]

theorem length_decimalDigits_le {n : Int} (fits : fitsDecimal n = true) :
    (decimalDigits n.natAbs).length ≤ decimalLimit := by
  have pos : 0 < decimalLimit := by decide
  unfold fitsDecimal at fits
  -- the limit itself is never written out
  generalize decimalLimit = limit at pos fits ⊢
  rw [decimalDigits, List.length_map, length_digits_le (by decide) pos]
  exact of_decide_eq_true fits

/-- The limit is more than eight digits. -/
theorem fitsDecimal_of_lt {n : Int} (small : n.natAbs < 10 ^ 8) : fitsDecimal n = true := by
  have long : 8 ≤ decimalLimit := by decide
  unfold fitsDecimal
  generalize decimalLimit = limit at long ⊢
  have more : Nat.pow 10 8 ≤ Nat.pow 10 limit := Nat.pow_le_pow_right (by decide) long
  exact decide_eq_true (Nat.lt_of_lt_of_le small more)

/-- The least number whose decimal text is too long. -/
def leastTooLong : Nat :=
  Nat.pow 10 decimalLimit

theorem fitsDecimal_iff {n : Int} (nonneg : 0 ≤ n) : fitsDecimal n = true ↔ n < leastTooLong := by
  obtain ⟨m, rfl⟩ := Int.eq_ofNat_of_zero_le nonneg
  unfold fitsDecimal leastTooLong
  generalize decimalLimit = limit
  rw [decide_eq_true_iff, Int.natAbs_natCast, Int.ofNat_lt]

theorem fitsDecimal_leastTooLong : fitsDecimal leastTooLong = false := by
  cases fits : fitsDecimal leastTooLong with
  | false => rfl
  | true => exact absurd ((fitsDecimal_iff (Int.natCast_nonneg _)).mp fits) (Int.lt_irrefl _)

theorem lt_leastTooLong : 0x1000000 < leastTooLong := by
  have long : 8 ≤ decimalLimit := by decide
  unfold leastTooLong
  generalize decimalLimit = limit at long ⊢
  have more : Nat.pow 10 8 ≤ Nat.pow 10 limit := Nat.pow_le_pow_right (by decide) long
  exact Nat.lt_of_lt_of_le (by decide) more

theorem exists_decimalDigits (n : Nat) :
    ∃ d more, decimalDigits n = digitChar d :: more ∧ d < 10 := by
  obtain ⟨d, more, digits⟩ := List.exists_cons_of_ne_nil (digits_ne_nil (by decide : 2 ≤ 10) n)
  have digit : d < 10 := digits_lt (by decide) (digits ▸ List.mem_cons_self)
  exact ⟨d, _, by rw [decimalDigits, digits, List.map_cons], digit⟩

/-- A decimal numeral that begins with a zero has no other digit. -/
theorem decimalDigits_of_zero {n : Nat} {cs : List Char} (h : decimalDigits n = '0' :: cs) :
    cs = [] := by
  have chars : ∀ d < 10, digitChar d = '0' → d = 0 := by decide
  obtain ⟨d, ds, digits, zero, rest⟩ := List.map_eq_cons_iff.mp h
  have digit : d < 10 := digits_lt (by decide) (digits ▸ List.mem_cons_self)
  obtain rfl := chars d digit zero
  have begins : (Number.digits 10 n).head? = some 0 := by rw [digits, List.head?_cons]
  obtain rfl := head?_digits (by decide) begins
  exact (List.cons.inj h).2.symm

/-! ## Signs -/

inductive SignText : List Char → Bool → Prop
  | none : SignText [] false
  | plus : SignText ['+'] false
  | minus : SignText ['-'] true

theorem takeSign_of_ne {c : Char} {rest : List Char} (minus : c ≠ '-') (plus : c ≠ '+') :
    takeSign (c :: rest) = (false, c :: rest) := by
  unfold takeSign
  split
  · next same => exact absurd (List.cons.inj same).1 minus
  · next same => exact absurd (List.cons.inj same).1 plus
  · rfl

theorem exists_sign (cs : List Char) :
    ∃ sign, cs = sign ++ (takeSign cs).2 ∧ SignText sign (takeSign cs).1 := by
  unfold takeSign
  split
  · exact ⟨['-'], rfl, .minus⟩
  · exact ⟨['+'], rfl, .plus⟩
  · exact ⟨[], rfl, .none⟩

theorem takeSign_append {sign rest : List Char} {negative : Bool} (h : SignText sign negative)
    (plain : ∀ c ∈ rest.head?, c ≠ '-' ∧ c ≠ '+') : takeSign (sign ++ rest) = (negative, rest) := by
  cases h with
  | plus | minus => rfl
  | none =>
      cases rest with
      | nil => rfl
      | cons c rest => exact takeSign_of_ne (plain c (by simp)).1 (plain c (by simp)).2

end Number

end TickBound
