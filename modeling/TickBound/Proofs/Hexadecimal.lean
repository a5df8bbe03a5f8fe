import TickBound.Proofs.NumberTexts

/-!
# Hexadecimal texts

Which texts are integers in base 16, a base that is agreed on: a mark may stand in front of the digits,
and there may be any number of them.
-/

namespace TickBound

namespace Number

/-! ## Hexadecimal integers -/

/-- A zero of any script and an x, and then there may be one underscore. -/
inductive HexMark : List Char → Prop
  | none : HexMark []
  | mark {zero x : Char} : Text.decimalDigit? zero = some 0 → x = 'x' ∨ x = 'X' → HexMark [zero, x]
  | spaced {zero x : Char} :
      Text.decimalDigit? zero = some 0 → x = 'x' ∨ x = 'X' → HexMark [zero, x, '_']

inductive HexText : List Char → Int → Prop
  | between {before sign mark digits after : List Char} {negative : Bool} {ds : List Nat} :
      (∀ c ∈ before, isNumberBlank c = true) → (∀ c ∈ after, isNumberBlank c = true) →
        SignText sign negative → HexMark mark → DigitsText 16 digits ds →
          HexText (before ++ (sign ++ (mark ++ digits)) ++ after) (signed negative (ofDigits 16 ds))

theorem hexNatural?_marked {x : Char} (h : x = 'x' ∨ x = 'X') (rest : List Char) :
    hexNatural? ('0' :: x :: rest) = (digitRun? 16 (afterMark rest)).map (ofDigits 16) := by
  simp [hexNatural?, h]

theorem hexNatural?_unmarked {cs : List Char}
    (h : ∀ x rest, cs = '0' :: x :: rest → ¬ (x = 'x' ∨ x = 'X')) :
    hexNatural? cs = (digitRun? 16 cs).map (ofDigits 16) := by
  unfold hexNatural?
  split
  · next x rest =>
      have plain := h x rest rfl
      simp only [Bool.or_eq_true, decide_eq_true_eq] at plain ⊢
      rw [if_neg plain]
  · rfl

theorem plainDigit_eq_x {c : Char} : plainDigit c = 'x' ∨ plainDigit c = 'X' ↔ c = 'x' ∨ c = 'X' := by
  rw [plainDigit_eq_iff (by decide) (by decide), plainDigit_eq_iff (by decide) (by decide)]

theorem not_digitOf_x {x : Char} (h : x = 'x' ∨ x = 'X') {d : Nat} : ¬ DigitOf 16 x d := by
  rintro ⟨small, digit⟩
  have none : Text.decimalDigit? x = none := by
    rcases h with rfl | rfl <;> decide
  have code : x.toNat = 0x78 ∨ x.toNat = 0x58 := by
    rcases h with rfl | rfl
    · exact .inl rfl
    · exact .inr rfl
  rw [none] at digit
  simp only [reduceCtorEq, false_or] at digit
  omega

def IsMarked (cs : List Char) : Prop :=
  ∃ zero x rest, cs = zero :: x :: rest ∧ Text.decimalDigit? zero = some 0 ∧ (x = 'x' ∨ x = 'X')

theorem DigitsText.not_isMarked {cs : List Char} {ds : List Nat} (h : DigitsText 16 cs ds) :
    ¬ IsMarked cs := by
  rintro ⟨zero, x, rest, rfl, -, isX⟩
  rcases h.second with rfl | ⟨d, digit⟩
  · revert isX
    decide
  · exact not_digitOf_x isX digit

theorem hexNatural?_of_marked {zero x : Char} (isZero : Text.decimalDigit? zero = some 0)
    (isX : x = 'x' ∨ x = 'X') (rest : List Char) :
    hexNatural? ((zero :: x :: rest).map plainDigit) =
      (digitRun? 16 ((afterMark rest).map plainDigit)).map (ofDigits 16) := by
  rw [List.map_cons, List.map_cons, plainDigit_eq_zero.mpr isZero,
    hexNatural?_marked (plainDigit_eq_x.mpr isX), afterMark_plain]

theorem hexNatural?_of_not_marked {cs : List Char} (h : ¬ IsMarked cs) :
    hexNatural? (cs.map plainDigit) = (digitRun? 16 (cs.map plainDigit)).map (ofDigits 16) := by
  refine hexNatural?_unmarked fun x rest begins isX => h ?_
  obtain ⟨zero, cs, rfl, isZero, begins⟩ := List.map_eq_cons_iff.mp begins
  obtain ⟨x', cs, rfl, rfl, -⟩ := List.map_eq_cons_iff.mp begins
  exact ⟨zero, x', cs, rfl, plainDigit_eq_zero.mp isZero, plainDigit_eq_x.mp isX⟩

theorem hexNatural?_plain {cs : List Char} {n : Nat} :
    hexNatural? (cs.map plainDigit) = some n ↔
      ∃ mark digits ds, cs = mark ++ digits ∧ HexMark mark ∧ DigitsText 16 digits ds ∧
        ofDigits 16 ds = n := by
  constructor
  · intro read
    by_cases marked : IsMarked cs
    · obtain ⟨zero, x, rest, rfl, isZero, isX⟩ := marked
      rw [hexNatural?_of_marked isZero isX] at read
      obtain ⟨ds, run, value⟩ := Option.map_eq_some_iff.mp read
      cases digitRun?_afterMark.mp run with
      | inl digits => exact ⟨[zero, x], rest, ds, rfl, .mark isZero isX, digits, value⟩
      | inr spaced =>
          obtain ⟨more, rfl, digits⟩ := spaced
          exact ⟨[zero, x, '_'], more, ds, rfl, .spaced isZero isX, digits, value⟩
    · rw [hexNatural?_of_not_marked marked] at read
      obtain ⟨ds, run, value⟩ := Option.map_eq_some_iff.mp read
      exact ⟨[], cs, ds, rfl, .none, digitRun?_plain.mp run, value⟩
  · rintro ⟨mark, digits, ds, rfl, isMark, isDigits, rfl⟩
    cases isMark with
    | none =>
        rw [List.nil_append, hexNatural?_of_not_marked isDigits.not_isMarked,
          digitRun?_plain.mpr isDigits]
        rfl
    | mark isZero isX =>
        have run := digitRun?_afterMark.mpr (.inl isDigits)
        exact (hexNatural?_of_marked isZero isX _).trans (Option.map_eq_some_iff.mpr ⟨_, run, rfl⟩)
    | spaced isZero isX =>
        have run := digitRun?_afterMark.mpr (.inr ⟨_, rfl, isDigits⟩)
        exact (hexNatural?_of_marked isZero isX _).trans (Option.map_eq_some_iff.mpr ⟨_, run, rfl⟩)

/-! ## What reads as a hexadecimal integer -/

theorem HexMark.isCompact {mark digits : List Char} {ds : List Nat} (h : HexMark mark)
    (isDigits : DigitsText 16 digits ds) : IsCompact (mark ++ digits) := by
  cases h with
  | none => exact isDigits.isCompact
  | mark isZero | spaced isZero =>
      have zero : DigitOf 16 _ 0 := ⟨by decide, .inl isZero⟩
      exact isDigits.isCompact.onto zero.isBlank_eq_false zero.not_sign

theorem hexText_iff {cs : List Char} {n : Int} :
    HexText cs n ↔
      SignedText (fun negative body n => ∃ mark digits ds, body = mark ++ digits ∧ HexMark mark ∧
        DigitsText 16 digits ds ∧ signed negative (ofDigits 16 ds) = n) cs n := by
  constructor
  · intro h
    cases h with
    | between ahead behind isSign isMark isDigits =>
        exact .between ahead behind isSign ⟨_, _, _, rfl, isMark, isDigits, rfl⟩
  · intro h
    cases h with
    | between ahead behind isSign isBody =>
        obtain ⟨mark, digits, ds, rfl, isMark, isDigits, rfl⟩ := isBody
        exact .between ahead behind isSign isMark isDigits

/-- The integers that are read are those of hexadecimal texts. -/
theorem hexInteger?_eq_some {cs : List Char} {n : Int} :
    hexInteger? cs = some n ↔ HexText cs n := by
  rw [hexText_iff, signedText_iff]
  · rw [hexInteger?, numberText, takeSign_plain]
    simp only [Option.map_eq_some_iff, hexNatural?_plain]
    constructor
    · intro read
      obtain ⟨m, ⟨mark, digits, ds, rest, isMark, isDigits, rfl⟩, value⟩ := read
      exact ⟨mark, digits, ds, rest, isMark, isDigits, value⟩
    · intro isBody
      obtain ⟨mark, digits, ds, rest, isMark, isDigits, value⟩ := isBody
      exact ⟨_, ⟨mark, digits, ds, rest, isMark, isDigits, rfl⟩, value⟩
  · intro negative body n isBody
    obtain ⟨mark, digits, ds, rfl, isMark, isDigits, -⟩ := isBody
    exact isMark.isCompact isDigits

end Number

end TickBound
