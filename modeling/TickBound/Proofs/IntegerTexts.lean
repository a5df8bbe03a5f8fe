import TickBound.Proofs.NumberTexts

/-!
# Texts of integers that choose their base

Which texts are integers when the base is not agreed on: a mark in front of the digits chooses it, and
digits without a mark are decimal, within the limit and with a leading zero only for zero. Every number
has such texts in every base.
-/

namespace TickBound

namespace Number

variable {base : Nat}

def baseLetters : List (Char × Nat) :=
  [('x', 16), ('X', 16), ('o', 8), ('O', 8), ('b', 2), ('B', 2)]

/-- A zero of any script and the letter of the base, and then there may be one underscore. -/
inductive BaseMark (base : Nat) : List Char → Prop
  | mark {zero letter : Char} :
      Text.decimalDigit? zero = some 0 → (letter, base) ∈ baseLetters → BaseMark base [zero, letter]
  | spaced {zero letter : Char} :
      Text.decimalDigit? zero = some 0 → (letter, base) ∈ baseLetters →
        BaseMark base [zero, letter, '_']

/-- The text of a natural number that chooses its base. -/
inductive NaturalText : List Char → Nat → Prop
  | decimal {cs : List Char} {ds : List Nat} :
      DigitsText 10 cs ds → ds.length ≤ decimalLimit → (ds.head? = some 0 → ofDigits 10 ds = 0) →
        NaturalText cs (ofDigits 10 ds)
  | marked {base : Nat} {mark cs : List Char} {ds : List Nat} :
      BaseMark base mark → DigitsText base cs ds → NaturalText (mark ++ cs) (ofDigits base ds)

def IntegerText : List Char → Int → Prop :=
  SignedText fun negative body n => ∃ m, NaturalText body m ∧ signed negative m = n

/-! ## Marks -/

theorem markBase?_eq_some {c : Char} : markBase? c = some base ↔ (c, base) ∈ baseLetters := by
  unfold markBase? baseLetters
  simp only [Bool.or_eq_true, decide_eq_true_eq, List.mem_cons, Prod.mk.injEq, List.not_mem_nil,
    or_false]
  split
  · next isX =>
      rcases isX with rfl | rfl <;> simp [eq_comm]
  · split
    · next isO => rcases isO with rfl | rfl <;> simp [eq_comm]
    · split
      · next isB => rcases isB with rfl | rfl <;> simp [eq_comm]
      · next notX notO notB =>
          simp only [not_or] at notX notO notB
          simp [notX, notO, notB]

/-- The letter of a mark is a digit in none of the scripts and no underscore. -/
theorem not_digit_of_mem_baseLetters {c : Char} (h : (c, base) ∈ baseLetters) :
    c ≠ '_' ∧ ∀ d, ¬ DigitOf 10 c d := by
  have letters : ∀ entry ∈ baseLetters,
      entry.1 ≠ '_' ∧ Text.decimalDigit? entry.1 = none := by
    decide
  obtain ⟨plain, none⟩ := letters _ h
  refine ⟨plain, fun d digit => ?_⟩
  obtain ⟨small, digit⟩ := digit
  rw [none] at digit
  simp only [reduceCtorEq, false_or] at digit
  omega

theorem markBase?_plain (c : Char) : markBase? (plainDigit c) = markBase? c := by
  cases h : Text.decimalDigit? c with
  | none => rw [plainDigit_of_none h]
  | some d =>
      have digits : ∀ d < 10, markBase? (digitChar d) = none := by decide
      rw [plainDigit_of_digit h, digits d (decimalDigit?_lt h)]
      cases found : markBase? c with
      | none => rfl
      | some base =>
          have digit : DigitOf 10 c d := ⟨decimalDigit?_lt h, .inl h⟩
          exact absurd digit ((not_digit_of_mem_baseLetters (markBase?_eq_some.mp found)).2 d)

def ChoosesBase (cs : List Char) : Prop :=
  ∃ zero letter rest base, cs = zero :: letter :: rest ∧ Text.decimalDigit? zero = some 0 ∧
    (letter, base) ∈ baseLetters

theorem DigitsText.not_choosesBase {cs : List Char} {ds : List Nat} (h : DigitsText 10 cs ds) :
    ¬ ChoosesBase cs := by
  rintro ⟨zero, letter, rest, base, rfl, -, isLetter⟩
  have other := not_digit_of_mem_baseLetters isLetter
  cases h.second with
  | inl underscore => exact other.1 underscore
  | inr digit =>
      obtain ⟨d, digit⟩ := digit
      exact other.2 d digit

theorem natural?_of_mark {zero letter : Char} (isZero : Text.decimalDigit? zero = some 0)
    (isLetter : (letter, base) ∈ baseLetters) (rest : List Char) :
    natural? ((zero :: letter :: rest).map plainDigit) =
      (digitRun? base ((afterMark rest).map plainDigit)).map (ofDigits base) := by
  rw [List.map_cons, List.map_cons, plainDigit_eq_zero.mpr isZero, natural?, markBase?_plain,
    markBase?_eq_some.mpr isLetter, afterMark_plain]

theorem natural?_of_not_mark {cs : List Char} (h : ¬ ChoosesBase cs) :
    natural? (cs.map plainDigit) = plainDecimal? (cs.map plainDigit) := by
  unfold natural?
  split
  · next c rest whole =>
      obtain ⟨zero, cs, rfl, isZero, begins⟩ := List.map_eq_cons_iff.mp whole
      obtain ⟨letter, cs, rfl, rfl, -⟩ := List.map_eq_cons_iff.mp begins
      rw [markBase?_plain]
      split
      · next base found =>
          exact absurd ⟨zero, letter, cs, base, rfl, plainDigit_eq_zero.mp isZero,
            markBase?_eq_some.mp found⟩ h
      · rw [whole]
  · rfl

/-! ## What reads as an integer -/

theorem plainDecimal?_plain {cs : List Char} {n : Nat} :
    plainDecimal? (cs.map plainDigit) = some n ↔
      ∃ ds, DigitsText 10 cs ds ∧ ds.length ≤ decimalLimit ∧ (ds.head? = some 0 → n = 0) ∧
        ofDigits 10 ds = n := by
  rw [plainDecimal?, Option.bind_eq_bind, Option.bind_eq_some_iff]
  simp only [digitRun?_plain, Bool.and_eq_true, decide_eq_true_eq]
  refine exists_congr fun ds => and_congr_right fun _ => ?_
  generalize decimalLimit = limit
  split
  · next long => simp only [reduceCtorEq, false_iff, not_and]; omega
  · next short =>
      split
      · next zero =>
          simp only [reduceCtorEq, false_iff, not_and]
          intro _ only value
          exact zero.2 (value ▸ only zero.1)
      · next other =>
          simp only [Option.some.injEq]
          constructor
          · rintro rfl
            refine ⟨by omega, fun zero => ?_, rfl⟩
            by_contra more
            exact other ⟨zero, more⟩
          · exact fun h => h.2.2

theorem natural?_plain {cs : List Char} {n : Nat} :
    natural? (cs.map plainDigit) = some n ↔ NaturalText cs n := by
  constructor
  · intro read
    by_cases chooses : ChoosesBase cs
    · obtain ⟨zero, letter, rest, base, rfl, isZero, isLetter⟩ := chooses
      rw [natural?_of_mark isZero isLetter] at read
      obtain ⟨ds, run, rfl⟩ := Option.map_eq_some_iff.mp read
      cases digitRun?_afterMark.mp run with
      | inl digits => exact .marked (.mark isZero isLetter) digits
      | inr spaced =>
          obtain ⟨more, rfl, digits⟩ := spaced
          exact .marked (.spaced isZero isLetter) digits
    · rw [natural?_of_not_mark chooses] at read
      obtain ⟨ds, digits, short, zero, rfl⟩ := plainDecimal?_plain.mp read
      exact .decimal digits short zero
  · intro h
    cases h with
    | decimal digits short zero =>
        rw [natural?_of_not_mark digits.not_choosesBase]
        exact plainDecimal?_plain.mpr ⟨_, digits, short, zero, rfl⟩
    | marked isMark digits =>
        cases isMark with
        | mark isZero isLetter =>
            have run := digitRun?_afterMark.mpr (.inl digits)
            exact (natural?_of_mark isZero isLetter _).trans (Option.map_eq_some_iff.mpr ⟨_, run, rfl⟩)
        | spaced isZero isLetter =>
            have run := digitRun?_afterMark.mpr (.inr ⟨_, rfl, digits⟩)
            exact (natural?_of_mark isZero isLetter _).trans (Option.map_eq_some_iff.mpr ⟨_, run, rfl⟩)

theorem NaturalText.isCompact {cs : List Char} {n : Nat} (h : NaturalText cs n) : IsCompact cs := by
  cases h with
  | decimal digits => exact digits.isCompact
  | marked isMark digits =>
      cases isMark with
      | mark isZero | spaced isZero =>
          have zero : DigitOf 10 _ 0 := ⟨by decide, .inl isZero⟩
          exact digits.isCompact.onto zero.isBlank_eq_false zero.not_sign

/-- The integers that are read are those of the texts of integers. -/
theorem integer?_eq_some {cs : List Char} {n : Int} : integer? cs = some n ↔ IntegerText cs n := by
  rw [IntegerText, signedText_iff]
  · rw [integer?, numberText, takeSign_plain]
    simp only [Option.map_eq_some_iff, natural?_plain]
  · intro negative body n isBody
    obtain ⟨m, natural, -⟩ := isBody
    exact natural.isCompact

end Number

end TickBound
