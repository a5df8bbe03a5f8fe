import TickBound.Proofs.SettingFields

/-!
# Spellings of the calibration offset

A number can be written as an offset in four bases, with single underscores between its digits, a sign
and blanks around it. However it is written, it is read back, and below zero it is refused.
-/

namespace TickBound

namespace Number

/-- The number written out: in decimal digits, within the limit and without leading zeros, or in the
digits of another base behind its mark. -/
inductive Writes (n : Nat) : List Char → Prop
  | decimal {cs : List Char} :
      fitsDecimal n = true → DigitsText 10 cs (digits 10 n) → Writes n cs
  | marked {base zeros : Nat} {mark cs : List Char} :
      BaseMark base mark → DigitsText base cs (List.replicate zeros 0 ++ digits base n) →
        Writes n (mark ++ cs)

theorem two_le_of_baseMark {base : Nat} {mark : List Char} (h : BaseMark base mark) : 2 ≤ base := by
  have bases : ∀ entry ∈ baseLetters, 2 ≤ entry.2 := by decide
  cases h with
  | mark _ letter | spaced _ letter => exact bases _ letter

theorem length_digits_of_fits {n : Nat} (fits : fitsDecimal n = true) :
    (digits 10 n).length ≤ decimalLimit := by
  have short := length_decimalDigits_le fits
  rwa [Int.natAbs_natCast, decimalDigits, List.length_map] at short

/-- What is written out is a text of the number. -/
theorem Writes.naturalText {n : Nat} {cs : List Char} (h : Writes n cs) : NaturalText cs n := by
  cases h with
  | decimal fits digits =>
      have text := NaturalText.decimal digits (length_digits_of_fits fits) fun zero => by
        rw [head?_digits (by decide) zero]
        rfl
      rwa [ofDigits_digits (by decide)] at text
  | marked isMark digits =>
      have two := two_le_of_baseMark isMark
      have text := NaturalText.marked isMark digits
      rwa [ofDigits_zeros, ofDigits_digits two] at text

/-- Blanks around a number that is written out are trimmed off. -/
theorem integerText_of_writes {before sign body after : List Char} {negative : Bool} {n : Nat}
    (blank : ∀ c ∈ before ++ after, Text.isBlank c = true) (isSign : SignText sign negative)
    (written : Writes n body) :
    IntegerText (Text.trimmed (String.ofList (before ++ (sign ++ body) ++ after))).toList
      (signed negative n) := by
  rw [List.forall_mem_append] at blank
  have ends := written.naturalText.isCompact.ends_of_sign isSign
  have trimmed : Text.trim (before ++ (sign ++ body) ++ after) = sign ++ body :=
    Text.trimBy_between blank.1 blank.2 ends.1 ends.2
  have text : IntegerText ([] ++ (sign ++ body) ++ []) (signed negative n) :=
    .between (by simp) (by simp) isSign ⟨n, written.naturalText, rfl⟩
  rw [Text.trimmed, String.toList_ofList, String.toList_ofList, trimmed]
  simpa using text

end Number

namespace Settings

variable {vars : Variables} {settings : Settings} {text : String} {n : Int}

def withOffset (vars : Variables) (text : String) : Variables := fun name =>
  if name = Variable.calibrationOffset.key then some text else vars name

theorem withOffset_of_ne {v : Variable} (other : v ≠ .calibrationOffset) :
    withOffset vars text v.key = vars v.key :=
  if_neg fun same => other (Variable.key_inj same)

/-- An offset in the place of another one is given by its own text, and the other settings as before. -/
theorem gives_withOffset (fine : read vars = .ok settings)
    (spelled : Number.IntegerText (Text.trimmed text).toList n) (v : Variable) :
    Gives (withOffset vars text) v (({ settings with calibrationOffset := n } : Settings).field v) := by
  by_cases offset : v = .calibrationOffset
  · subst offset
    unfold Gives withOffset
    rw [if_pos rfl]
    exact spelled
  · have same : ({ settings with calibrationOffset := n } : Settings).field v = settings.field v := by
      cases v with
      | calibrationOffset => exact absurd rfl offset
      | _ => rfl
    rw [gives_of_key (withOffset_of_ne offset), same]
    exact gives_of_read fine v

theorem read_withOffset (fine : read vars = .ok settings)
    (spelled : Number.IntegerText (Text.trimmed text).toList n) :
    read (withOffset vars text) =
      if n < 0 then .error .offsetNegative else .ok { settings with calibrationOffset := n } := by
  have accepted := accepted_of_read fine
  have converted := convert_eq_ok.mpr (gives_withOffset fine spelled)
  split
  · next below => exact read_eq_error.mpr (.inr ⟨_, converted, check_eq_error.mpr (.offset accepted.probe below)⟩)
  · next above =>
      have accepted' : Accepted { settings with calibrationOffset := n } :=
        ⟨accepted.probe, Int.not_lt.mp above, accepted.level⟩
      exact read_eq_ok.mpr ⟨converted, check_eq_ok.mpr accepted'⟩

/-- Every number that is written out is read back as the offset: in decimal, hexadecimal, octal or
binary digits with underscores between them, with or without a plus and between any blanks. With a minus
a number above zero is refused, by a message about the offset. -/
theorem offset_read_back {vars : Variables} {settings : Settings} {before sign body after : List Char}
    {negative : Bool} {n : Nat} (fine : read vars = .ok settings)
    (blank : ∀ c ∈ before ++ after, Text.isBlank c = true)
    (isSign : Number.SignText sign negative) (written : Number.Writes n body) :
    let text := String.ofList (before ++ (sign ++ body) ++ after)
    (negative = false →
      read (withOffset vars text) = .ok { settings with calibrationOffset := n }) ∧
    (negative = true → 0 < n →
      ∃ fault, read (withOffset vars text) = .error fault ∧
        (Fault.settings fault).kind? = some .settings ∧
        ∃ wording, fault.message = Variable.calibrationOffset.key ++ wording) := by
  intro text
  have spelled := Number.integerText_of_writes blank isSign written
  have reads := read_withOffset fine spelled
  constructor
  · rintro rfl
    exact reads
  · rintro rfl pos
    have below : Number.signed true n < 0 := by
      rw [Number.signed, if_pos rfl]
      omega
    rw [if_pos below] at reads
    exact ⟨.offsetNegative, reads, rfl, message_names .offsetNegative⟩

def probed : Variables := fun name =>
  if name = Variable.probe.key then some "192.168.4.1" else none

theorem read_probed : read probed = .ok { probe := "192.168.4.1" } := by
  rfl

/-- Thirty-one in hexadecimal digits, with and without a minus. -/
theorem offset_read_back_hexadecimal :
    read (withOffset probed "\t+0X_1_f ") = .ok { probe := "192.168.4.1", calibrationOffset := 31 } ∧
      ∃ fault, read (withOffset probed "\t-0X_1_f ") = .error fault := by
  have blank : ∀ c ∈ ['\t'] ++ [' '], Text.isBlank c = true := by
    rw [List.forall_mem_append, List.forall_mem_singleton, List.forall_mem_singleton]
    decide
  have written : Number.Writes 31 ['0', 'X', '_', '1', '_', 'f'] := by
    have one : Number.DigitOf 16 '1' 1 := ⟨by decide, .inl (by decide)⟩
    have fifteen : Number.DigitOf 16 'f' 15 := ⟨by decide, .inr ⟨by decide, by decide, .inr rfl⟩⟩
    have digits : Number.DigitsText 16 ['1', '_', 'f'] (List.replicate 0 0 ++ Number.digits 16 31) :=
      .spaced one (.one fifteen)
    exact .marked (.spaced (by decide) (by decide)) digits
  have plus := offset_read_back read_probed blank .plus written
  have minus := offset_read_back read_probed blank .minus written
  obtain ⟨fault, refused, -⟩ := minus.2 rfl (by decide)
  exact ⟨plus.1 rfl, fault, refused⟩

end Settings

end TickBound
