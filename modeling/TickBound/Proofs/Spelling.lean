import TickBound.Json.Printer
import TickBound.Proofs.Grammar

/-!
# Strings that are written and read

A string is read from its text as it was written, whatever follows the text. Only a half of a pair
of code units that stands right before its other half does not come back as it was: reading joins
them to the character that they stand for. All characters of the text are visible ones or spaces.
-/

namespace TickBound

/-! ## Halves of pairs -/

/-- A half is one of a pair of code units, and no other number. -/
def Mark.IsSound : Mark → Prop
  | .char _ => True
  | .half unit => 0xD800 ≤ unit ∧ unit < 0xE000

def DataText.IsSound (text : DataText) : Prop :=
  ∀ mark ∈ text.marks, mark.IsSound

/-- The text that comes back when the text is written and read. -/
def DataText.reread (text : DataText) : DataText :=
  ⟨Mark.join text.marks⟩

namespace Json

/-! ## Code units -/

/-- An escape has four digits that stand for the code unit. -/
theorem unitEscape_eq {n : Nat} (small : n < 16 ^ 4) :
    ∃ a b c d, unitEscape n = ['\\', 'u', a, b, c, d] ∧ codeUnit? a b c d = some n := by
  have four : (Number.paddedDigits 16 4 n).length = 4 :=
    Number.length_paddedDigits (by decide) (by decide) small
  have value := Number.ofDigits_paddedDigits (by decide : 2 ≤ 16) 4 n
  have digit : ∀ d ∈ Number.paddedDigits 16 4 n, d < 16 :=
    fun d mem => Number.paddedDigits_lt (by decide) mem
  obtain ⟨a, b, c, d, digits⟩ := List.length_eq_four.mp four
  rw [unitEscape, Number.codeDigits_eq]
  rw [digits] at value digit ⊢
  refine ⟨_, _, _, _, rfl, ?_⟩
  have back (e : Nat) (mem : e ∈ [a, b, c, d]) :
      Number.digitIn? 16 (Number.smallDigitChar e) = some e :=
    Number.digitIn?_smallDigitChar e (digit e mem)
  simp [codeUnit?, back, value]

/-! ## Marks -/

def IsVisible (c : Char) : Prop :=
  0x20 ≤ c.toNat ∧ c.toNat ≤ 0x7E

instance (c : Char) : Decidable (IsVisible c) :=
  inferInstanceAs (Decidable (_ ∧ _))

/-- The characters of a text are tested one by one, never all characters that there are. -/
theorem visible_of_all {cs : List Char} (h : cs.all (IsVisible ·) = true) : ∀ c ∈ cs, IsVisible c :=
  fun c mem => of_decide_eq_true (List.all_eq_true.mp h c mem)

/-- What is written of a character is a visible one, an escape by a letter, or one or two by code
units. -/
inductive Spelling (c : Char) : List Char → Prop
  | plain (visible : IsVisible c) (other : c ≠ '"' ∧ c ≠ '\\') : Spelling c [c]
  | letter {e : Char} (escape : escaped? e = some c) (other : e ≠ 'u') : Spelling c ['\\', e]
  | unit (small : c.toNat < 0x10000) : Spelling c (unitEscape c.toNat)
  | pair (large : 0x10000 ≤ c.toNat) :
      Spelling c (unitEscape (0xD800 + (c.toNat - 0x10000) / 0x400) ++
        unitEscape (0xDC00 + (c.toNat - 0x10000) % 0x400))

theorem spelling_writtenChar (c : Char) : Spelling c (writtenChar c) := by
  unfold writtenChar
  split
  · next h => exact .letter (by rw [h]; rfl) (by decide)
  split
  · next h => exact .letter (by rw [h]; rfl) (by decide)
  split
  · next h => exact .letter (by rw [h]; rfl) (by decide)
  split
  · next h => exact .letter (by rw [h]; rfl) (by decide)
  split
  · next h => exact .letter (by rw [h]; rfl) (by decide)
  split
  · next h => exact .letter (by rw [h]; rfl) (by decide)
  split
  · next h => exact .letter (by rw [h]; rfl) (by decide)
  split
  · next quote backslash _ _ _ _ _ visible =>
      simp only [Bool.and_eq_true, decide_eq_true_eq] at visible
      exact .plain visible ⟨quote, backslash⟩
  · unfold unitsEscape
    dsimp only
    split
    · next small => exact .unit small
    · next large => exact .pair (Nat.le_of_not_lt large)

theorem toNat_of_escaped {e c : Char} (h : escaped? e = some c) : c.toNat < 0x10000 := by
  unfold escaped? at h
  split at h <;> first | (cases h; decide) | cases h

theorem pairedUnits_eq {c : Char} (large : 0x10000 ≤ c.toNat) :
    pairedUnits (0xD800 + (c.toNat - 0x10000) / 0x400) (0xDC00 + (c.toNat - 0x10000) % 0x400) =
      .char c := by
  have same : 0x10000 + (0xD800 + (c.toNat - 0x10000) / 0x400 - 0xD800) * 0x400 +
      (0xDC00 + (c.toNat - 0x10000) % 0x400 - 0xDC00) = c.toNat := by
    omega
  rw [pairedUnits, same, Char.ofNat_toNat]

theorem MarksText.append {cs ds : List Char} {marks more : List Mark} (first : MarksText cs marks)
    (second : MarksText ds more) : MarksText (cs ++ ds) (marks ++ more) := by
  induction first with
  | nil => exact second
  | cons isMark _ ih =>
      rw [List.append_assoc]
      exact .cons isMark ih

theorem MarksText.single {cs : List Char} {mark : Mark} (text : MarkText cs mark) :
    MarksText cs [mark] := by
  simpa using MarksText.cons text .nil

theorem markText_unit {n : Nat} (small : n < 16 ^ 4) (high : isHighSurrogate n = false)
    (low : isLowSurrogate n = false) : MarkText (unitEscape n) (.char (Char.ofNat n)) := by
  obtain ⟨a, b, c, d, text, value⟩ := unitEscape_eq small
  rw [text]
  exact .unit value high low

theorem markText_half {n : Nat} (half : isHighSurrogate n = true ∨ isLowSurrogate n = true) :
    MarkText (unitEscape n) (.half n) := by
  have small : n < 16 ^ 4 := by
    rw [isHighSurrogate_iff, isLowSurrogate_iff] at half
    omega
  obtain ⟨a, b, c, d, text, value⟩ := unitEscape_eq small
  rw [text]
  exact .half value half

/-- The marks that a mark is written as: a character from U+10000 on as two halves. -/
def unitsOf : Mark → List Mark
  | .half unit => [.half unit]
  | .char c =>
      if c.toNat < 0x10000 then [.char c]
      else [.half (0xD800 + (c.toNat - 0x10000) / 0x400), .half (0xDC00 + (c.toNat - 0x10000) % 0x400)]

theorem unitsOf_of_lt {c : Char} (small : c.toNat < 0x10000) : unitsOf (.char c) = [.char c] :=
  if_pos small

theorem unitsOf_of_ge {c : Char} (large : 0x10000 ≤ c.toNat) :
    unitsOf (.char c) =
      [.half (0xD800 + (c.toNat - 0x10000) / 0x400), .half (0xDC00 + (c.toNat - 0x10000) % 0x400)] :=
  if_neg (Nat.not_lt.mpr large)

theorem isHighSurrogate_first (c : Char) :
    isHighSurrogate (0xD800 + (c.toNat - 0x10000) / 0x400) = true := by
  have valid : c.toNat < 0xD800 ∨ 0xDFFF < c.toNat ∧ c.toNat < 0x110000 := c.valid
  rw [isHighSurrogate_iff]
  omega

theorem isLowSurrogate_second (c : Char) :
    isLowSurrogate (0xDC00 + (c.toNat - 0x10000) % 0x400) = true := by
  rw [isLowSurrogate_iff]
  omega

theorem marksText_char (c : Char) : MarksText (writtenChar c) (unitsOf (.char c)) := by
  have valid : c.toNat < 0xD800 ∨ 0xDFFF < c.toNat ∧ c.toNat < 0x110000 := c.valid
  have spelling := spelling_writtenChar c
  generalize writtenChar c = spelled at spelling ⊢
  cases spelling with
  | plain visible other =>
      have small : c.toNat < 0x10000 := by
        have := visible.2
        omega
      rw [unitsOf_of_lt small]
      exact .single (.plain visible.1 other.1 other.2)
  | letter escape =>
      rw [unitsOf_of_lt (toNat_of_escaped escape)]
      exact .single (.letter escape)
  | unit small =>
      have high : isHighSurrogate c.toNat = false := by
        rw [Bool.eq_false_iff, Ne, isHighSurrogate_iff]
        omega
      have low : isLowSurrogate c.toNat = false := by
        rw [Bool.eq_false_iff, Ne, isLowSurrogate_iff]
        omega
      have text := markText_unit (by omega) high low
      rw [Char.ofNat_toNat] at text
      rw [unitsOf_of_lt small]
      exact .single text
  | pair large =>
      rw [unitsOf_of_ge large]
      exact (MarksText.single (markText_half (.inl (isHighSurrogate_first c)))).append
        (.single (markText_half (.inr (isLowSurrogate_second c))))

theorem marksText_mark {mark : Mark} (sound : mark.IsSound) :
    MarksText (writtenMark mark) (unitsOf mark) := by
  cases mark with
  | char c => exact marksText_char c
  | half unit =>
      have half : isHighSurrogate unit = true ∨ isLowSurrogate unit = true := by
        have := sound.1
        have := sound.2
        rw [isHighSurrogate_iff, isLowSurrogate_iff]
        omega
      exact .single (markText_half half)

theorem marksText_written {marks : List Mark} (sound : ∀ mark ∈ marks, mark.IsSound) :
    MarksText (marks.flatMap writtenMark) (marks.flatMap unitsOf) := by
  induction marks with
  | nil => exact .nil
  | cons mark more ih =>
      rw [List.forall_mem_cons] at sound
      rw [List.flatMap_cons, List.flatMap_cons]
      exact (marksText_mark sound.1).append (ih sound.2)

/-- The marks that marks are written as are joined to the same ones. -/
theorem join_unitsOf (marks : List Mark) :
    Mark.join (marks.flatMap unitsOf) = Mark.join marks := by
  fun_induction Mark.join marks with
  | case1 high low more joined ih =>
      rw [Bool.and_eq_true] at joined
      rw [← ih]
      exact join_pair joined.1 joined.2 _
  | case2 high low more apart ih =>
      rw [← ih]
      refine join_cons fun n same isHigh m others next => ?_
      cases same
      cases next
      simpa [isHigh] using apart
  | case3 mark more other ih =>
      rw [← ih, List.flatMap_cons]
      cases mark with
      | char c =>
          by_cases small : c.toNat < 0x10000
          · rw [unitsOf_of_lt small]
            exact join_char c _
          · have large := Nat.le_of_not_lt small
            rw [unitsOf_of_ge large, ← pairedUnits_eq large]
            exact join_pair (isHighSurrogate_first c) (isLowSurrogate_second c) _
      | half unit =>
          refine join_cons fun n same _ low others next => ?_
          cases more with
          | nil => cases next
          | cons mark more =>
              cases mark with
              | half unit' => exact (other unit unit' more rfl rfl).elim
              | char c =>
                  rw [List.flatMap_cons] at next
                  by_cases small : c.toNat < 0x10000
                  · rw [unitsOf_of_lt small] at next
                    cases next
                  · rw [unitsOf_of_ge (Nat.le_of_not_lt small)] at next
                    cases next
                    exact isLowSurrogate_of_high (isHighSurrogate_first c)
  | case4 => rfl

/-- Where there are no halves there is nothing to join. -/
theorem join_map_char (cs : List Char) : Mark.join (cs.map .char) = cs.map .char := by
  induction cs with
  | nil => rfl
  | cons c cs ih => rw [List.map_cons, join_char, ih]

/-! ## Strings -/

theorem stringText_written {s : DataText} (sound : s.IsSound) :
    StringText (writtenString s) s.reread := by
  rw [DataText.reread, ← join_unitsOf]
  exact .quoted (marksText_written sound)

/-! ## Visible text -/

theorem visible_unitEscape (n : Nat) : ∀ c ∈ unitEscape n, IsVisible c := by
  have digits : ∀ d < 16, IsVisible (Number.smallDigitChar d) := by decide
  intro c mem
  rw [unitEscape, Number.codeDigits_eq, List.mem_cons, List.mem_cons, List.mem_map] at mem
  rcases mem with rfl | rfl | ⟨d, digit, rfl⟩
  · decide
  · decide
  · exact digits d (Number.paddedDigits_lt (by decide) digit)

theorem visible_of_escaped {e c : Char} (h : escaped? e = some c) : IsVisible e := by
  unfold escaped? at h
  split at h <;> first | decide | cases h

theorem visible_writtenMark (mark : Mark) : ∀ c ∈ writtenMark mark, IsVisible c := by
  cases mark with
  | half unit => exact visible_unitEscape unit
  | char c =>
      have spelling := spelling_writtenChar c
      rw [writtenMark]
      generalize writtenChar c = spelled at spelling ⊢
      cases spelling with
      | plain visible other =>
          rw [List.forall_mem_singleton]
          exact visible
      | letter escape other =>
          have letter := visible_of_escaped escape
          have backslash : IsVisible '\\' := by decide
          simpa using ⟨backslash, letter⟩
      | unit small => exact visible_unitEscape _
      | pair large =>
          intro d mem
          rcases List.mem_append.mp mem with mem | mem
          · exact visible_unitEscape _ d mem
          · exact visible_unitEscape _ d mem

theorem visible_writtenString (s : DataText) : ∀ c ∈ writtenString s, IsVisible c := by
  have quote : IsVisible '"' := by decide
  have marks : ∀ c ∈ s.marks.flatMap writtenMark, IsVisible c := by
    intro c mem
    obtain ⟨mark, -, mem⟩ := List.mem_flatMap.mp mem
    exact visible_writtenMark mark c mem
  intro c mem
  rw [writtenString, List.mem_cons, List.mem_append, List.mem_singleton] at mem
  rcases mem with rfl | mem | rfl
  · exact quote
  · exact marks c mem
  · exact quote

end Json

namespace DataText

/-! ## Texts of characters -/

theorem isSound_ofChars (cs : List Char) : (ofChars cs).IsSound := by
  intro mark mem
  obtain ⟨c, -, rfl⟩ := List.mem_map.mp mem
  trivial

theorem reread_ofChars (cs : List Char) : (ofChars cs).reread = ofChars cs :=
  congrArg mk (Json.join_map_char cs)

end DataText

end TickBound
