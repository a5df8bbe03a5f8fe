import TickBound.Proofs.Measurement

/-!
# Failing fast

A request fails by its reply, and a program by its end. An activity that fails fast stops at the first
such event, so that nothing happens behind it, and has no result. Sequencing keeps this, so it is shown
operation by operation; beside it goes what the fault at the end can be put down to.
-/

namespace TickBound

/-! ## Failed events -/

/-- The text is an object with a hexadecimal number under `data`. -/
def HoldsWord (text : String) : Prop :=
  ∃ members digits n,
    Json.read text = .ok (.object members) ∧
    Json.Members.get? members "data" = some (.string digits) ∧
    digits.whole?.bind Number.hexInteger? = some n

/-- The reply gives the request what it was for. -/
def Reply.Serves : Reply → Request → Prop
  | .answered status text, .reset => status = 200 ∧ ReportsConnected text
  | .answered status text, .read _ => status = 200 ∧ HoldsWord text
  | .answered status _, .write _ _ => status = 200
  | .refused _, _ => False
  | .broken _, _ => False

def Outcome.Succeeds : Outcome → Prop
  | .ended code _ _ => code = 0
  | .notFound | .denied | .timedOut => False

def Event.Fails : Event → Prop
  | .requested _ request _ reply => ¬ reply.Serves request
  | .ran _ _ _ outcome => ¬ outcome.Succeeds
  | _ => False

def Calm (events : List Event) : Prop :=
  ∀ event ∈ events, ¬ event.Fails

theorem Calm.nil : Calm [] := by
  simp [Calm]

theorem Calm.append {first second : List Event} (h : Calm first) (h' : Calm second) :
    Calm (first ++ second) := by
  intro event mem
  rcases List.mem_append.mp mem with mem | mem
  · exact h event mem
  · exact h' event mem

theorem calm_singleton {event : Event} : Calm [event] ↔ ¬ event.Fails := by
  simp [Calm]

/-- Wherever an event has failed, nothing follows but that the session is closed, and `stopped` holds. -/
def EndsAtFailure (stopped : Prop) (events : List Event) : Prop :=
  ∀ before event after, events = before ++ event :: after → event.Fails →
    (after = [] ∨ after = [.closed]) ∧ stopped

theorem EndsAtFailure.of_calm {stopped : Prop} {events : List Event} (h : Calm events) :
    EndsAtFailure stopped events := by
  intro before event after split fails
  exact absurd fails (h event (by simp [split]))

/-- Behind calm events a failure ends everything if it does so without them. -/
theorem EndsAtFailure.behind {stopped : Prop} {first second : List Event} (calm : Calm first)
    (h : EndsAtFailure stopped second) : EndsAtFailure stopped (first ++ second) := by
  intro before event after split fails
  rcases List.append_eq_append_iff.mp split with ⟨more, rfl, rest⟩ | ⟨more, rfl, rest⟩
  · exact h more event after rest fails
  · cases more with
    | nil => exact h [] event after rest.symm fails
    | cons other more =>
        obtain ⟨rfl, -⟩ := List.cons.inj rest
        exact absurd fails (calm event (by simp))

/-- A failed event that comes last, or with nothing but a close behind it. -/
theorem EndsAtFailure.of_last {stopped : Prop} {calm closing : List Event} {last : Event}
    (h : Calm calm) (close : closing = [] ∨ closing = [.closed]) (stop : stopped) :
    EndsAtFailure stopped (calm ++ last :: closing) := by
  apply EndsAtFailure.behind h
  intro before event after split fails
  cases before with
  | nil =>
      obtain ⟨-, rfl⟩ := List.cons.inj split
      exact ⟨close, stop⟩
  | cons other before =>
      obtain ⟨-, rest⟩ := List.cons.inj split
      have mem : event ∈ closing := by simp [rest]
      rcases close with rfl | rfl
      · simp at mem
      · obtain rfl := List.mem_singleton.mp mem
        exact fails.elim

theorem EndsAtFailure.external {stopped : Prop} {events : List Event}
    (h : EndsAtFailure stopped events) : EndsAtFailure stopped (external events) := by
  intro before event after split fails
  obtain ⟨first, second, rfl, -, found⟩ := List.filter_eq_append_iff.mp split
  obtain ⟨skipped, rest, rfl, -, -, shown⟩ := List.filter_eq_cons_iff.mp found
  obtain ⟨last, stop⟩ := h (first ++ skipped) event rest (by simp) fails
  refine ⟨?_, stop⟩
  rcases last with rfl | rfl
  · exact .inl shown.symm
  · exact .inr shown.symm

/-! ## Courses that stop at a failure -/

/-- What a fault may be put down to: an event that failed, or nothing that happened. -/
abbrev Blame := Option Event → Fault → Prop

/-- No event has failed but possibly the last one; then there is a fault, which is put down to it. -/
def Course.StopsAtFailure {σ α : Type} (blame : Blame) (course : Course σ α) : Prop :=
  match course.result with
  | .ok _ => Calm course.events
  | .error fault =>
      (Calm course.events ∧ blame none fault) ∨
        ∃ calm last, course.events = calm ++ [last] ∧ Calm calm ∧ last.Fails ∧ blame (some last) fault

namespace Course.StopsAtFailure

variable {σ α : Type} {blame more : Blame} {course : Course σ α} {a : α} {fault : Fault}
  {events : List Event} {final : σ}

theorem of_ok (calm : Calm events) :
    (⟨.ok a, events, final⟩ : Course σ α).StopsAtFailure blame :=
  calm

theorem of_own (calm : Calm events) (own : blame none fault) :
    (⟨.error fault, events, final⟩ : Course σ α).StopsAtFailure blame :=
  .inl ⟨calm, own⟩

theorem of_last {last : Event} (fails : last.Fails) (blamed : blame (some last) fault) :
    (⟨.error fault, [last], final⟩ : Course σ α).StopsAtFailure blame :=
  .inr ⟨[], last, rfl, Calm.nil, fails, blamed⟩

theorem calm (h : course.StopsAtFailure blame) (ok : course.result = .ok a) : Calm course.events := by
  simpa only [StopsAtFailure, ok] using h

theorem blamed (h : course.StopsAtFailure blame) (failed : course.result = .error fault) :
    (Calm course.events ∧ blame none fault) ∨
      ∃ calm last, course.events = calm ++ [last] ∧ Calm calm ∧ last.Fails ∧
        blame (some last) fault := by
  simpa only [StopsAtFailure, failed] using h

/-- The same events with another result or another state behind them. -/
theorem transfer {τ β : Type} {other : Course τ β} (h : course.StopsAtFailure blame)
    (events : other.events = course.events)
    (ok : ∀ b, other.result = .ok b → ∃ a, course.result = .ok a)
    (failed : ∀ fault', other.result = .error fault' →
      ∃ fault, course.result = .error fault ∧
        ∀ last, blame last fault → more last fault') : other.StopsAtFailure more := by
  unfold StopsAtFailure
  rw [events]
  cases result : other.result with
  | ok b =>
      obtain ⟨a, same⟩ := ok b result
      exact h.calm same
  | error fault' =>
      obtain ⟨fault, same, le⟩ := failed fault' result
      rcases h.blamed same with ⟨calm, own⟩ | ⟨calm, last, split, before, fails, blamed⟩
      · exact .inl ⟨calm, le none own⟩
      · exact .inr ⟨calm, last, split, before, fails, le (some last) blamed⟩

/-- Behind calm events a course stops at a failure if it does so without them. -/
theorem behind (calm : Calm events) (h : course.StopsAtFailure blame) :
    (⟨course.result, events ++ course.events, course.final⟩ : Course σ α).StopsAtFailure blame := by
  unfold StopsAtFailure
  dsimp only
  cases result : course.result with
  | ok a => exact calm.append (h.calm result)
  | error fault =>
      rcases h.blamed result with ⟨calm', own⟩ | ⟨before, last, split, calm', rest⟩
      · exact .inl ⟨calm.append calm', own⟩
      · exact .inr ⟨_, last, by rw [split, List.append_assoc], calm.append calm', rest⟩

theorem endsAtFailure (h : course.StopsAtFailure blame) :
    EndsAtFailure (∃ fault, course.result = .error fault) course.events := by
  cases result : course.result with
  | ok a => exact .of_calm (h.calm result)
  | error fault =>
      rcases h.blamed result with ⟨calm, -⟩ | ⟨calm, last, split, before, -, -⟩
      · exact .of_calm calm
      · rw [split]
        exact .of_last before (.inl rfl) ⟨fault, rfl⟩

end Course.StopsAtFailure

/-! ## Activities that fail fast -/

namespace Act

variable {σ τ α β : Type} {blame more : Blame}

def FailsFast (blame : Blame) (act : Act σ α) : Prop :=
  ∀ s, (act.run s).StopsAtFailure blame

namespace FailsFast

open Course.StopsAtFailure (of_ok of_own)

theorem pure (a : α) : (Pure.pure a : Act σ α).FailsFast blame :=
  fun _ => of_ok .nil

theorem fail {fault : Fault} (h : blame none fault) : (Act.fail fault : Act σ α).FailsFast blame :=
  fun _ => of_own .nil h

theorem ofExcept {result : Except Fault α} (h : ∀ fault, result = .error fault → blame none fault) :
    (Act.ofExcept result : Act σ α).FailsFast blame := by
  intro s
  cases result with
  | ok a => exact of_ok .nil
  | error fault => exact of_own .nil (h fault rfl)

theorem reads (f : σ → α) : (Act.reads f).FailsFast blame :=
  fun _ => of_ok .nil

theorem emit {event : Event} (h : ¬ event.Fails) : (Act.emit event : Act σ Unit).FailsFast blame :=
  fun _ => of_ok (calm_singleton.mpr h)

theorem note (level : Level) (source : Source) (text : String) :
    (Act.note level source text : Act σ Unit).FailsFast blame :=
  emit id

theorem change (f : σ → σ) : (Act.change f).FailsFast blame :=
  fun _ => of_ok .nil

/-- What comes second only matters for the results that there can be. -/
theorem bind_of_result {act : Act σ α} {next : α → Act σ β} (first : act.FailsFast blame)
    (second : ∀ a s, (act.run s).result = .ok a → (next a).FailsFast blame) :
    (act >>= next).FailsFast blame := by
  intro s
  have ahead := first s
  rw [run_bind]
  cases h : (act.run s).result with
  | error fault =>
      rw [Course.follow_of_error h]
      exact ahead.blamed h
  | ok a =>
      rw [Course.follow_of_ok h]
      exact (second a s h (act.run s).final).behind (ahead.calm h)

theorem bind {act : Act σ α} {next : α → Act σ β} (first : act.FailsFast blame)
    (second : ∀ a, (next a).FailsFast blame) : (act >>= next).FailsFast blame :=
  first.bind_of_result fun a _ _ => second a

theorem ite {c : Prop} [Decidable c] {act other : Act σ α} (pos : c → act.FailsFast blame)
    (neg : ¬ c → other.FailsFast blame) : (if c then act else other).FailsFast blame := by
  by_cases h : c
  · rw [if_pos h]
    exact pos h
  · rw [if_neg h]
    exact neg h

theorem mapFault {f : Fault → Fault} {act : Act σ α} (h : act.FailsFast blame)
    (le : ∀ last fault, blame last fault → more last (f fault)) :
    (act.mapFault f).FailsFast more := by
  intro s
  apply (h s).transfer
  · rfl
  · intro b ok
    cases same : (act.run s).result with
    | ok a => exact ⟨a, rfl⟩
    | error fault =>
        rw [run_mapFault, same] at ok
        cases ok
  · intro fault' failed
    cases same : (act.run s).result with
    | ok a =>
        rw [run_mapFault, same] at failed
        cases failed
    | error fault =>
        rw [run_mapFault, same] at failed
        cases failed
        exact ⟨fault, rfl, fun last => le last fault⟩

/-- What is done at the end in any case does not show. -/
theorem ensuring {act : Act σ α} {last : Act σ Unit} (h : act.FailsFast blame)
    (silent : ∀ s, (last.run s).events = []) : (act.ensuring last).FailsFast blame := by
  intro s
  apply (h s).transfer
  · change (act.run s).events ++ (last.run (act.run s).final).events = (act.run s).events
    rw [silent, List.append_nil]
  · exact fun b ok => ⟨b, ok⟩
  · exact fun fault failed => ⟨fault, failed, fun _ => id⟩

theorem within {part : τ → σ} {replace : τ → σ → τ} {act : Act σ α} (h : act.FailsFast blame) :
    (act.within part replace).FailsFast blame :=
  fun t => h (part t)

end FailsFast

end Act

end TickBound
