import TickBound.Proofs.CounterReads
import TickBound.Proofs.Numerals

/-!
# Counts of cycles

The counter goes down and has 24 bits, so what it lost between the markers is known only up to a multiple
of `2 ^ 24`. The plain difference of both counts is right as long as the counter did not wrap, and below
zero if it did.
-/

namespace TickBound

namespace Sample

/-- A counter that lost `d` shows a plain difference of `d`, or one below zero if it wrapped. -/
theorem difference_of_lost {s e d : Nat} (hs : s < 0x1000000) (hd : d < 0x1000000)
    (he : (e : Int) = ((s : Int) - d) % 0x1000000) :
    (s : Int) - e = if d ≤ s then (d : Int) else d - 0x1000000 := by
  split
  · omega
  · omega

theorem cycles_eq_ok {sample : Sample} {n : Int} :
    sample.cycles = .ok n ↔ 0 ≤ sample.elapsed ∧ n = sample.elapsed := by
  rw [cycles]
  split
  · next h =>
      simp only [reduceCtorEq, false_iff]
      omega
  · next h =>
      simp only [Except.ok.injEq]
      omega

theorem cycles_of_neg {sample : Sample} (h : sample.elapsed < 0) (nonneg : 0 ≤ sample.offset) :
    sample.cycles =
      if sample.offset < Number.leastTooLong then
        .error (.calibration sample.start sample.stop sample.offset)
      else .error (.outside .decimalTooLong) := by
  rw [cycles, if_pos h, Fault.showing, apply_ite Except.error]
  simp only [Number.fitsDecimal_iff nonneg]

theorem measure_of_take {core : Core} {timeout : Float} {offset : Int} {c : Connection}
    {sample : Sample} (h : ((take core timeout offset).run c).result = .ok sample) :
    ((measure core timeout offset).run c).result = sample.cycles := by
  rw [measure, Act.run_bind, Course.follow_of_ok h]
  rfl

/-- A count is never below zero, and never more than the counter can lose less the offset. -/
theorem bounds_of_cycles {words : Word × Word} {offset n : Int}
    (h : (ofWords offset words).cycles = .ok n) : 0 ≤ n ∧ n ≤ 0xFFFFFF - offset := by
  obtain ⟨nonneg, rfl⟩ := cycles_eq_ok.mp h
  have le : words.1.toNat % 0x1000000 ≤ 0xFFFFFF := by omega
  simp only [elapsed, ofWords] at nonneg ⊢
  omega

/-- The cycles that two words make, by what the counter lost between them. -/
theorem cycles_of_lost {s d : Nat} {offset : Int} {words : Word × Word} (nonneg : 0 ≤ offset)
    (hs : s < 0x1000000) (hd : d < 0x1000000) (first : words.1.toNat % 0x1000000 = s)
    (second : ((words.2.toNat % 0x1000000 : Nat) : Int) = ((s : Int) - d) % 0x1000000) :
    (ofWords offset words).cycles =
      if offset ≤ d ∧ d ≤ s then .ok (d - offset)
      else if offset < Number.leastTooLong then
        .error (.calibration s (words.2.toNat % 0x1000000 : Nat) offset)
      else .error (.outside .decimalTooLong) := by
  have lost := difference_of_lost hs hd second
  have elapsed : (ofWords offset words).elapsed =
      (s : Int) - (words.2.toNat % 0x1000000 : Nat) - offset := by
    rw [← first]
    rfl
  -- a counter that wrapped lost more than it showed at first, so the difference is below zero
  by_cases inside : offset ≤ d ∧ d ≤ s
  · rw [if_pos inside, cycles_eq_ok, elapsed, lost, if_pos inside.2]
    omega
  · have negative : (ofWords offset words).elapsed < 0 := by
      rw [elapsed, lost]
      split <;> omega
    rw [if_neg inside, cycles_of_neg negative nonneg, ← first]
    rfl

/-- A counter that wrapped is never miscounted: the count is what the counter lost less the offset, and
otherwise there is none. -/
theorem measure_detects_wrap (core : Core) (timeout : Float) {offset : Int} (nonneg : 0 ≤ offset)
    (c : Connection) :
    let xs := exchanges ((take core timeout offset).run c).events
    let result := ((measure core timeout offset).run c).result
    (∀ (s d : Nat) (words : Word × Word), s < 0x1000000 → d < 0x1000000 →
      Protocol.sampling.Completes xs words → words.1.toNat % 0x1000000 = s →
      ((words.2.toNat % 0x1000000 : Nat) : Int) = ((s : Int) - d) % 0x1000000 →
        result =
          if offset ≤ d ∧ d ≤ s then .ok (d - offset)
          else if offset < Number.leastTooLong then
            .error (.calibration s (words.2.toNat % 0x1000000 : Nat) offset)
          else .error (.outside .decimalTooLong)) ∧
    ∀ n, result = .ok n → 0 ≤ n ∧ n ≤ 0xFFFFFF - offset := by
  constructor
  · intro s d words hs hd complete first second
    rw [measure_of_take (take_result.mpr ⟨words, complete, rfl⟩)]
    exact cycles_of_lost nonneg hs hd first second
  · intro n counted
    rw [measure, Act.run_bind, Course.follow_result_ok] at counted
    obtain ⟨sample, taken, cycles⟩ := counted
    obtain ⟨words, -, rfl⟩ := take_result.mp taken
    exact bounds_of_cycles cycles

def lowered : Reply := .answered 200 "\x7b\"data\": \"0xAA02FF00\"\x7d"

theorem word?_lowered : lowered.word? = some 0xAA02FF00#32 :=
  Reply.word?_answered (by decide +kernel)

theorem measure_promptly :
    ((measure {} 30 0x10).run (promptly ready ready lowered)).result = .ok 0xF0 := by
  have taken := (take_promptly word?_ready word?_ready word?_lowered 30 0x10).1
  obtain ⟨words, complete, same⟩ := take_result.mp taken
  simp only [ofWords, mk.injEq, Int.natCast_inj] at same
  refine (measure_detects_wrap {} 30 (by decide) _).1 0x30000 0x100 words (by decide) (by decide)
    complete same.1.symm ?_
  rw [← same.2.1]
  rfl

/-- An offset too long to be shown stops the report of a negative count. -/
theorem measure_unreported :
    ∃ words : Word × Word,
      Protocol.sampling.Completes
        (exchanges ((take {} 30 Number.leastTooLong).run (promptly ready ready lowered)).events)
        words ∧
      words.1.toNat % 0x1000000 = 0x30000 ∧
      ((words.2.toNat % 0x1000000 : Nat) : Int) = (0x30000 - 0x100) % 0x1000000 ∧
      ((measure {} 30 Number.leastTooLong).run (promptly ready ready lowered)).result =
        .error (.outside .decimalTooLong) := by
  have taken :=
    (take_promptly word?_ready word?_ready word?_lowered 30 Number.leastTooLong).1
  obtain ⟨words, complete, same⟩ := take_result.mp taken
  simp only [ofWords, mk.injEq, Int.natCast_inj] at same
  refine ⟨words, complete, same.1.symm, by rw [← same.2.1]; rfl, ?_⟩
  rw [measure_of_take taken, cycles_of_neg]
  · exact if_neg (Int.lt_irrefl _)
  · have small := Number.lt_leastTooLong
    simp only [elapsed, ofWords]
    omega
  · have small := Number.lt_leastTooLong
    simp only [ofWords]
    omega

end Sample

end TickBound
