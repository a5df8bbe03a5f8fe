import TickBound.Proofs.Phases
import TickBound.Proofs.Protocol

/-!
# Deeds

A deed is an external event without what came of it. The deeds of a phase come in an order that is laid
down, and wherever the phase stops they are a first part of it.
-/

namespace TickBound

/-- An external event without what came of it. -/
inductive Deed where
  | sends (base : String) (request : Request) (timeout : Float)
  | closes
  | pauses
  | runs (arguments : List String) (input : Option String) (limit : Option Float)

def Event.deed? : Event → Option Deed
  | .requested base request timeout _ => some (.sends base request timeout)
  | .closed => some .closes
  | .slept _ => some .pauses
  | .ran arguments input limit _ => some (.runs arguments input limit)
  | .noted _ _ _ => none
  | .printed _ => none

def deeds (events : List Event) : List Deed :=
  events.filterMap Event.deed?

@[simp] theorem deeds_nil : deeds [] = [] := rfl

@[simp] theorem deeds_append (first second : List Event) :
    deeds (first ++ second) = deeds first ++ deeds second :=
  List.filterMap_append

@[simp] theorem deeds_requested (base : String) (request : Request) (timeout : Float)
    (reply : Reply) (events : List Event) :
    deeds (.requested base request timeout reply :: events) =
      .sends base request timeout :: deeds events := rfl

/-- What is not external is no deed. -/
theorem deeds_external (events : List Event) : deeds (external events) = deeds events := by
  rw [deeds, external, List.filterMap_filter]
  congr 1
  funext event
  cases event <;> rfl

def Deed.IsRun : Deed → Prop
  | .runs _ _ _ => True
  | _ => False

theorem exchanges_of_deeds {events : List Event} (h : ∀ deed ∈ deeds events, deed.IsRun) :
    exchanges events = [] := by
  induction events with
  | nil => rfl
  | cons event events ih =>
      cases event with
      | requested base request timeout reply => exact (h (.sends base request timeout) (by simp)).elim
      | closed | slept | ran => exact ih fun deed mem => h deed (List.mem_cons_of_mem _ mem)
      | noted | printed => exact ih h

namespace Phase

variable {α β : Type}

/-- Wherever the phase stops, it has done a first part of what is in order. -/
structure InOrder (order : List Deed → Prop) (p : Phase α) : Prop where
  begun : ∀ events, p.begun events → ∃ full, order full ∧ deeds events <+: full
  through : ∀ a events, p.through a events → order (deeds events)

namespace InOrder

variable {order more : List Deed → Prop}

theorem bind {p : Phase α} {q : α → Phase β} (first : p.InOrder order)
    (second : ∀ a, (q a).InOrder more) (some : ∃ full, more full) :
    (p >>= q).InOrder fun full => ∃ ds es, full = ds ++ es ∧ order ds ∧ more es where
  begun events h := by
    rcases begun_bind.mp h with h | ⟨a, ahead, rest, rfl, through, h⟩
    · obtain ⟨ds, ordered, start⟩ := first.begun events h
      obtain ⟨es, rest⟩ := some
      exact ⟨ds ++ es, ⟨ds, es, rfl, ordered, rest⟩, start.trans (List.prefix_append ds es)⟩
    · obtain ⟨es, ordered, start⟩ := (second a).begun rest h
      refine ⟨deeds ahead ++ es, ⟨_, _, rfl, first.through a ahead through, ordered⟩, ?_⟩
      rw [deeds_append]
      exact (List.prefix_append_right_inj _).mpr start
  through b events h := by
    obtain ⟨a, ahead, rest, rfl, through, h⟩ := through_bind.mp h
    rw [deeds_append]
    exact ⟨_, _, rfl, first.through a ahead through, (second a).through b rest h⟩

theorem mono {p : Phase α} (h : p.InOrder order) (le : ∀ full, order full → more full) :
    p.InOrder more where
  begun events begun := by
    obtain ⟨full, ordered, start⟩ := h.begun events begun
    exact ⟨full, le full ordered, start⟩
  through a events through := le _ (h.through a events through)

/-- Deeds that are laid down come one after another. -/
theorem bind_exact {p : Phase α} {q : α → Phase β} {ds es : List Deed}
    (first : p.InOrder (· = ds)) (second : ∀ a, (q a).InOrder (· = es)) :
    (p >>= q).InOrder (· = ds ++ es) := by
  refine (first.bind second ⟨es, rfl⟩).mono fun full ⟨_, _, split, first, second⟩ => ?_
  rw [split, first, second]

theorem pure (a : α) : (Pure.pure a : Phase α).InOrder (· = []) where
  begun _ h := h.elim
  through _ events h := by rw [h.1, deeds_nil]

theorem known (P : α → Prop) : (Phase.known P).InOrder (· = []) where
  begun events h := ⟨[], rfl, by rw [show events = [] from h]; exact List.nil_prefix⟩
  through _ events h := by rw [h.1, deeds_nil]

theorem runs (arguments : List String) (input : Option String) (limit : Option Float) :
    (Phase.runs arguments input limit).InOrder (· = [.runs arguments input limit]) where
  begun events h := by
    refine ⟨_, rfl, ?_⟩
    rcases h with rfl | ⟨outcome, rfl⟩
    · exact List.nil_prefix
    · exact List.prefix_rfl
  through finished events h := by
    rw [show events = _ from h]
    rfl

theorem exchanges_nil {p : Phase α} {full : List Deed} (h : p.InOrder (· = full))
    (runs : ∀ deed ∈ full, deed.IsRun) : p.Leaves (exchanges · = []) where
  begun events begun := by
    obtain ⟨_, rfl, start⟩ := h.begun events begun
    exact exchanges_of_deeds fun deed mem => runs deed (start.subset mem)
  through a events through :=
    exchanges_of_deeds fun deed mem => runs deed (h.through a events through ▸ mem)

theorem leaves {p : Phase α} (h : p.InOrder order) :
    p.Leaves fun events => ∃ full, order full ∧ deeds events <+: full where
  begun := h.begun
  through a events through := ⟨_, h.through a events through, List.prefix_rfl⟩

end InOrder

end Phase

end TickBound
