import TickBound.Proofs.Frame

/-!
# Phases

A phase says which external events an activity may leave when it stops somewhere, and which when it gets
through with a result. Phases are put one behind another as activities are, so the phases of an activity
say what its course looks like at every place where it can stop.
-/

namespace TickBound

def external (events : List Event) : List Event :=
  events.filter Event.isExternal

@[simp] theorem external_append (first second : List Event) :
    external (first ++ second) = external first ++ external second :=
  List.filter_append first second

@[simp] theorem external_noted (level : Level) (source : Source) (text : String)
    (events : List Event) : external (.noted level source text :: events) = external events := rfl

@[simp] theorem external_requested (base : String) (request : Request) (timeout : Float)
    (reply : Reply) (events : List Event) :
    external (.requested base request timeout reply :: events) =
      .requested base request timeout reply :: external events := rfl

structure Phase (α : Type) where
  /-- What the phase may leave when it stops without a result. -/
  begun : List Event → Prop
  through : α → List Event → Prop

namespace Phase

variable {α β : Type}

def pure (a : α) : Phase α where
  begun _ := False
  through b events := events = [] ∧ b = a

def bind (p : Phase α) (q : α → Phase β) : Phase β where
  begun events :=
    p.begun events ∨
      ∃ a first rest, events = first ++ rest ∧ p.through a first ∧ (q a).begun rest
  through b events :=
    ∃ a first rest, events = first ++ rest ∧ p.through a first ∧ (q a).through b rest

instance : Monad Phase where
  pure := pure
  bind := bind

/-- Nothing can be seen of this phase, and its result is known to be one of `P`. -/
def known (P : α → Prop) : Phase α where
  begun events := events = []
  through a events := events = [] ∧ P a

def runs (arguments : List String) (input : Option String) (limit : Option Float) :
    Phase Finished where
  begun events := events = [] ∨ ∃ outcome, events = [.ran arguments input limit outcome]
  through finished events :=
    events = [.ran arguments input limit
      (.ended finished.code finished.output finished.errors)]

theorem through_bind {p : Phase α} {q : α → Phase β} {b : β} {events : List Event} :
    (p >>= q).through b events ↔
      ∃ a first rest, events = first ++ rest ∧ p.through a first ∧ (q a).through b rest :=
  Iff.rfl

theorem begun_bind {p : Phase α} {q : α → Phase β} {events : List Event} :
    (p >>= q).begun events ↔
      p.begun events ∨
        ∃ a first rest, events = first ++ rest ∧ p.through a first ∧ (q a).begun rest :=
  Iff.rfl

/-- Wherever the phase stops, its events satisfy `P`. -/
structure Leaves (P : List Event → Prop) (p : Phase α) : Prop where
  begun : ∀ events, p.begun events → P events
  through : ∀ a events, p.through a events → P events

/-! ## What comes only after something else -/

variable {g : Event → Prop} {due : List Event → Prop} {past : List Event}

/-- Behind `past`, an event with `g` stands in the phase only where it is due. -/
def Keeps (g : Event → Prop) (due : List Event → Prop) (past : List Event) (p : Phase α) : Prop :=
  p.Leaves (OnlyAfter g due past)

namespace Keeps

theorem bind {p : Phase α} {q : α → Phase β} (first : p.Keeps g due past)
    (second : ∀ a events, p.through a events → (q a).Keeps g due (past ++ events)) :
    (p >>= q).Keeps g due past where
  begun events h := by
    rcases begun_bind.mp h with h | ⟨a, ahead, rest, rfl, through, h⟩
    · exact first.begun events h
    · exact (first.through a ahead through).append ((second a ahead through).begun rest h)
  through b events h := by
    obtain ⟨a, ahead, rest, rfl, through, h⟩ := through_bind.mp h
    exact (first.through a ahead through).append ((second a ahead through).through b rest h)

theorem pure (a : α) : (Pure.pure a : Phase α).Keeps g due past where
  begun _ h := h.elim
  through b events h := h.1 ▸ .of_absent (by simp)

theorem known (P : α → Prop) : (Phase.known P).Keeps g due past where
  begun events h := .of_absent (by rw [show events = [] from h]; simp)
  through a events h := h.1 ▸ .of_absent (by simp)

theorem runs {arguments : List String} {input : Option String} {limit : Option Float}
    (h : ∀ outcome, g (.ran arguments input limit outcome) → due past) :
    (Phase.runs arguments input limit).Keeps g due past where
  begun events begun := by
    rcases begun with rfl | ⟨outcome, rfl⟩
    · exact .of_absent (by simp)
    · exact .cons (h outcome) (.of_absent (by simp))
  through finished events through := by
    rw [show events = _ from through]
    exact .cons (h _) (.of_absent (by simp))

/-- What is due once is due from then on. -/
theorem of_due (keeps : ∀ past more, due past → due (past ++ more)) (h : due past) (p : Phase α) :
    p.Keeps g due past where
  begun _ _ := .of_past keeps h
  through _ _ _ := .of_past keeps h

theorem of_absent {p : Phase α} (begun : ∀ events, p.begun events → ∀ event ∈ events, ¬ g event)
    (through : ∀ a events, p.through a events → ∀ event ∈ events, ¬ g event) :
    p.Keeps g due past where
  begun events h := .of_absent (begun events h)
  through a events h := .of_absent (through a events h)

end Keeps

end Phase

/-! ## Activities in phases -/

namespace Act

variable {σ τ α β : Type}

/-- From `s` on, the external events are those of the phase, got through exactly if there is a result. -/
def Passes (act : Act σ α) (p : Phase α) (s : σ) : Prop :=
  match (act.run s).result with
  | .ok a => p.through a (external (act.run s).events)
  | .error _ => p.begun (external (act.run s).events)

namespace Passes

variable {act : Act σ α} {p : Phase α} {s : σ}

theorem of_ok (h : act.Passes p s) {a : α} (ok : (act.run s).result = .ok a) :
    p.through a (external (act.run s).events) := by
  simpa only [Passes, ok] using h

theorem of_error (h : act.Passes p s) {fault : Fault} (failed : (act.run s).result = .error fault) :
    p.begun (external (act.run s).events) := by
  simpa only [Passes, failed] using h

theorem intro (ok : ∀ a, (act.run s).result = .ok a → p.through a (external (act.run s).events))
    (failed : ∀ fault, (act.run s).result = .error fault → p.begun (external (act.run s).events)) :
    act.Passes p s := by
  unfold Passes
  split
  · next a h => exact ok a h
  · next fault h => exact failed fault h

theorem leaves (h : act.Passes p s) {P : List Event → Prop} (all : p.Leaves P) :
    P (external (act.run s).events) := by
  cases hr : (act.run s).result with
  | ok a => exact all.through a _ (h.of_ok hr)
  | error fault => exact all.begun _ (h.of_error hr)

theorem bind {next : α → Act σ β} {q : α → Phase β} (first : act.Passes p s)
    (second : ∀ a, (act.run s).result = .ok a → (next a).Passes (q a) (act.run s).final) :
    (act >>= next).Passes (p >>= q) s := by
  cases h : (act.run s).result with
  | ok a =>
      have whole := Course.follow_of_ok h fun a s => (next a).run s
      have rest := second a h
      refine intro (fun b ok => ?_) fun fault failed => ?_
      · rw [run_bind, whole] at ok ⊢
        rw [external_append]
        exact ⟨a, _, _, rfl, first.of_ok h, rest.of_ok ok⟩
      · rw [run_bind, whole] at failed ⊢
        rw [external_append]
        exact .inr ⟨a, _, _, rfl, first.of_ok h, rest.of_error failed⟩
  | error fault =>
      have whole := Course.follow_of_error h fun a s => (next a).run s
      refine intro (fun b ok => ?_) fun _ _ => ?_
      · rw [run_bind, whole] at ok
        cases ok
      · rw [run_bind, whole]
        exact .inl (first.of_error h)

/-- What has a result and leaves no external event may stand in front. -/
theorem skip {next : α → Act σ β} {q : Phase β} {a : α} {t : σ} {events : List Event}
    (course : act.run s = ⟨.ok a, events, t⟩) (silent : external events = [])
    (rest : (next a).Passes q t) : (act >>= next).Passes q s := by
  have whole : (act >>= next).run s =
      ⟨((next a).run t).result, events ++ ((next a).run t).events, ((next a).run t).final⟩ := by
    rw [run_bind, course, Course.follow_ok]
  refine intro (fun b ok => ?_) fun fault failed => ?_
  · rw [whole] at ok ⊢
    rw [external_append, silent]
    exact rest.of_ok ok
  · rw [whole] at failed ⊢
    rw [external_append, silent]
    exact rest.of_error failed

theorem pure (a : α) (s : σ) : (Pure.pure a : Act σ α).Passes (Pure.pure a) s :=
  ⟨rfl, rfl⟩

theorem ite {c : Prop} [Decidable c] {other : Act σ α} {q : Phase α} (pos : c → act.Passes p s)
    (neg : ¬ c → other.Passes q s) :
    (if c then act else other).Passes (if c then p else q) s := by
  by_cases h : c
  · rw [if_pos h, if_pos h]
    exact pos h
  · rw [if_neg h, if_neg h]
    exact neg h

theorem knowing {P : α → Prop} {act : Act σ β} {q : α → Phase β} (a : α) (h : P a)
    (rest : act.Passes (q a) s) : act.Passes (.known P >>= q) s := by
  refine intro (fun b ok => ?_) fun fault failed => ?_
  · exact ⟨a, [], _, rfl, ⟨rfl, h⟩, rest.of_ok ok⟩
  · exact .inr ⟨a, [], _, rfl, ⟨rfl, h⟩, rest.of_error failed⟩

theorem fail (h : p.begun []) (fault : Fault) (s : σ) : (Act.fail fault : Act σ α).Passes p s :=
  h

theorem ofExcept {result : Except Fault α} {P : α → Prop} (h : ∀ a, result = .ok a → P a) (s : σ) :
    (Act.ofExcept result).Passes (.known P) s := by
  refine intro (fun a ok => ⟨rfl, h a ok⟩) fun fault _ => rfl

theorem mapFault {f : Fault → Fault} (h : act.Passes p s) : (act.mapFault f).Passes p s := by
  refine intro (fun a ok => ?_) fun fault failed => ?_
  · rw [run_mapFault] at ok ⊢
    cases hr : (act.run s).result with
    | ok b =>
        rw [hr] at ok
        cases ok
        exact h.of_ok hr
    | error fault =>
        rw [hr] at ok
        cases ok
  · rw [run_mapFault] at failed ⊢
    cases hr : (act.run s).result with
    | ok b =>
        rw [hr] at failed
        cases failed
    | error fault => exact h.of_error hr

theorem ensuring {last : Act σ Unit} (h : act.Passes p s)
    (silent : ∀ t, external (last.run t).events = []) : (act.ensuring last).Passes p s := by
  have events : external ((act.ensuring last).run s).events = external (act.run s).events := by
    change external (_ ++ _) = _
    rw [external_append, silent, List.append_nil]
  refine intro (fun a ok => ?_) fun fault failed => ?_
  · rw [events]
    exact h.of_ok ok
  · rw [events]
    exact h.of_error failed

theorem within {part : τ → σ} {replace : τ → σ → τ} {t : τ} (h : act.Passes p (part t)) :
    (act.within part replace).Passes p t :=
  h

end Passes

end Act

end TickBound
