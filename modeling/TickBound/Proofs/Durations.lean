import TickBound.Proofs.RealOrder
import TickBound.Proofs.SettingFields
import TickBound.Proofs.Waiting

/-!
# Durations

A duration that is read is above zero, unless it is not a number: not-a-number is not zero or less, so
the test lets it pass. A wait from any time on for a duration above zero has a deadline that can be
reached, and a deadline at not-a-number is never reached.
-/

namespace TickBound

namespace Number

/-! ## Texts of not-a-number -/

def NanText (cs : List Char) : Prop :=
  SignedText (fun _ body (_ : Unit) => Spells "nan" body) cs ()

theorem RealBody.isNaN_iff {negative : Bool} {cs : List Char} {x : Float}
    (h : RealBody negative cs x) : x.isNaN = true ↔ Spells "nan" cs := by
  have minus : ¬ (Float.ofBits 0xFFF0000000000000).isNaN := by decide +kernel
  have plus : ¬ (Float.ofBits 0x7FF0000000000000).isNaN := by decide +kernel
  have nan : (Float.ofBits 0x7FF8000000000000).isNaN = true := by decide +kernel
  cases h with
  | decimal text nearest =>
      have other : ¬ Spells "nan" cs := by
        intro spells
        have none := unsignedReal?_of_letters (isLetter_of_nan spells)
        have some := unsignedReal?_eq_some.mpr text
        rw [basicText?_of_letters (isLetter_of_nan spells), Option.bind_some, none] at some
        cases some
      exact iff_of_false (ofMagnitude_isNumber nearest.within) other
  | infinity spells =>
      have other := not_nan_of_inf spells
      cases negative with
      | true => exact iff_of_false minus other
      | false => exact iff_of_false plus other
  | nan spells => exact iff_of_true nan spells

/-- A text stands for not-a-number exactly when it names it. -/
theorem isNaN_iff_text {cs : List Char} {x : Float} (h : RealText cs x) :
    x.isNaN = true ↔ NanText cs := by
  rw [RealText, signedText_iff RealBody.isCompact] at h
  rw [NanText, signedText_iff, h.isNaN_iff]
  intro _ body _ spells
  exact RealBody.isCompact (.nan spells : RealBody false body _)

end Number

namespace Settings

def durations (settings : Settings) : List (Variable × Float) :=
  [(.haltTimeout, settings.haltTimeout), (.httpTimeout, settings.httpTimeout),
    (.flashTimeout, settings.flashTimeout)]

theorem defaults_positive :
    0 < defaults.haltTimeout ∧ 0 < defaults.httpTimeout ∧ 0 < defaults.flashTimeout := by
  refine ⟨?_, ?_, ?_⟩ <;> decide +kernel

/-- A duration that is read is the default or the value of a text, and then it is not zero or less. -/
theorem durations_of_read {vars : Variables} {settings : Settings} (h : read vars = .ok settings)
    {v : Variable} {x : Float} (duration : (v, x) ∈ settings.durations) :
    vars v.key = none ∧ 0 < x ∨
      ∃ text, vars v.key = some text ∧ Number.RealText (Text.trimmed text).toList x ∧ ¬ x ≤ 0 := by
  have halt := gives_iff.mp (gives_of_read h .haltTimeout)
  have http := gives_iff.mp (gives_of_read h .httpTimeout)
  have flash := gives_iff.mp (gives_of_read h .flashTimeout)
  have above {y default : Float} (positive : 0 < default) (usual : y = default) : 0 < y :=
    usual ▸ positive
  simp only [durations, List.mem_cons, Prod.mk.injEq, List.not_mem_nil, or_false] at duration
  rcases duration with ⟨rfl, rfl⟩ | ⟨rfl, rfl⟩ | ⟨rfl, rfl⟩
  · exact halt.imp_left (And.imp_right (above defaults_positive.1))
  · exact http.imp_left (And.imp_right (above defaults_positive.2.1))
  · exact flash.imp_left (And.imp_right (above defaults_positive.2.2))

/-- Every duration that is read is above zero unless it is not a number, which it is exactly when the
text of its variable names not-a-number. From any time on, a wait for a duration above zero has a
deadline that the clock can reach. A wait for not-a-number has none: its deadline is after no reading of
the clock, and no poll that shows no halt decides it. -/
theorem durations_above_zero {vars : Variables} {settings : Settings}
    (h : read vars = .ok settings) :
    ∀ v x, (v, x) ∈ settings.durations →
      (0 < x ↔ ¬ x.isNaN) ∧
      (x.isNaN ↔ ∃ text, vars v.key = some text ∧ Number.NanText (Text.trimmed text).toList) ∧
      (0 < x → ∀ now : Float, now.isFinite → ∃ later, now + x ≤ later) ∧
      (x.isNaN → ∀ now : Float, (∀ later, ¬ now + x ≤ later) ∧
        ∀ (link : Link) (late : Fault) (i : Nat) (w : Word), (link.reply i).word? = some w →
          w.getLsbD 17 = false → link.verdict? late (now + x) i = none) := by
  intro v x duration
  have number (above : 0 < x) : ¬ x.isNaN := fun nan => Number.not_lt_of_isNaN nan above
  have kinds := durations_of_read h duration
  refine ⟨⟨number, fun notNaN => ?_⟩, ?_, fun above now finite => ?_, fun nan now => ?_⟩
  · rcases kinds with ⟨-, above⟩ | ⟨text, -, -, notLow⟩
    · exact above
    · exact (Number.not_le_zero.mp notLow).resolve_left notNaN
  · rcases kinds with ⟨unset, above⟩ | ⟨text, set, real, -⟩
    · constructor
      · exact fun nan => absurd nan (number above)
      · rintro ⟨text, set, -⟩
        cases unset.symm.trans set
    · rw [Number.isNaN_iff_text real]
      constructor
      · exact fun named => ⟨text, set, named⟩
      · rintro ⟨text', set', named⟩
        cases set.symm.trans set'
        exact named
  · exact ⟨now + x, Number.le_self_of_isNumber (Number.add_isNumber finite above)⟩
  · have never (later : Float) : ¬ now + x ≤ later :=
      Number.not_le_of_isNaN (Number.isNaN_add_of_isNaN nan)
    refine ⟨never, fun link late i w came running => ?_⟩
    rw [Link.verdict?_of_word came, running, if_neg Bool.false_ne_true, if_neg (never _)]

def haltingAfter (text : String) : Variables := fun name =>
  if name = Variable.probe.key then some "192.168.4.1"
  else if name = Variable.haltTimeout.key then some text
  else none

theorem read_quarter :
    read (haltingAfter "0.25") = .ok { probe := "192.168.4.1", haltTimeout := 0.25 } := by
  decide +kernel

theorem durations_above_zero_quarter :
    ∃ settings, read (haltingAfter "0.25") = .ok settings ∧ 0 < settings.haltTimeout := by
  have halt := durations_above_zero read_quarter .haltTimeout 0.25 List.mem_cons_self
  exact ⟨_, read_quarter, halt.1.mpr (by decide +kernel)⟩

/-- Not-a-number passes for a duration, and it is not above zero. -/
theorem duration_of_nan :
    ∃ settings, read (haltingAfter "nan") = .ok settings ∧ ¬ 0 < settings.haltTimeout := by
  refine ⟨{ probe := "192.168.4.1", haltTimeout := Float.ofBits 0x7FF8000000000000 }, rfl, ?_⟩
  exact Number.not_lt_of_isNaN (by decide +kernel)

end Settings

end TickBound
