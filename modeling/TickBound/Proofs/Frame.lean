import TickBound.Bench.Basic
import TickBound.Proofs.Calculus

/-!
# Frames of activities

An activity that respects a frame leaves a part of the state as it is, and every event in it is one that
this part allows, also if it ends at a fault. Every building block keeps this, so what a whole activity
cannot touch is read off its parts.
-/

namespace TickBound

namespace Act

variable {σ τ κ α β : Type} {view : σ → κ} {allows : κ → Event → Prop}

/-- What `view` shows of the state is kept, and it allows every event. -/
def Respects (view : σ → κ) (allows : κ → Event → Prop) (act : Act σ α) : Prop :=
  ∀ s, view (act.run s).final = view s ∧ ∀ event ∈ (act.run s).events, allows (view s) event

namespace Respects

theorem pure (a : α) : (Pure.pure a : Act σ α).Respects view allows :=
  fun _ => ⟨rfl, by simp⟩

theorem fail (fault : Fault) : (Act.fail fault : Act σ α).Respects view allows :=
  fun _ => ⟨rfl, by simp⟩

theorem ofExcept (result : Except Fault α) : (Act.ofExcept result : Act σ α).Respects view allows :=
  fun _ => ⟨rfl, by simp⟩

theorem reads (f : σ → α) : (Act.reads f).Respects view allows :=
  fun _ => ⟨rfl, by simp⟩

theorem emit {event : Event} (h : ∀ k, allows k event) :
    (Act.emit event : Act σ Unit).Respects view allows :=
  fun s => ⟨rfl, by simpa using h (view s)⟩

theorem change {f : σ → σ} (h : ∀ s, view (f s) = view s) :
    (Act.change f).Respects view allows :=
  fun s => ⟨h s, by simp⟩

theorem bind {act : Act σ α} {next : α → Act σ β} (first : act.Respects view allows)
    (second : ∀ a, (next a).Respects view allows) : (act >>= next).Respects view allows := by
  intro s
  obtain ⟨kept, allowed⟩ := first s
  rw [run_bind]
  cases h : (act.run s).result with
  | ok a =>
      obtain ⟨kept', allowed'⟩ := second a (act.run s).final
      rw [Course.follow_of_ok h]
      refine ⟨kept'.trans kept, fun event mem => ?_⟩
      rcases List.mem_append.mp mem with mem | mem
      · exact allowed event mem
      · exact kept ▸ allowed' event mem
  | error fault =>
      rw [Course.follow_of_error h]
      exact ⟨kept, allowed⟩

theorem ite {c : Prop} [Decidable c] {act other : Act σ α} (pos : act.Respects view allows)
    (neg : other.Respects view allows) : (if c then act else other).Respects view allows := by
  split
  · exact pos
  · exact neg

theorem mapFault {f : Fault → Fault} {act : Act σ α} (h : act.Respects view allows) :
    (act.mapFault f).Respects view allows :=
  h

theorem ensuring {act : Act σ α} {last : Act σ Unit} (first : act.Respects view allows)
    (second : last.Respects view allows) : (act.ensuring last).Respects view allows := by
  intro s
  obtain ⟨kept, allowed⟩ := first s
  obtain ⟨kept', allowed'⟩ := second (act.run s).final
  refine ⟨kept'.trans kept, fun event mem => ?_⟩
  rcases List.mem_append.mp mem with mem | mem
  · exact allowed event mem
  · exact kept ▸ allowed' event mem

theorem onFault {p : Fault → Bool} {act : Act σ α} {last : Act σ Unit}
    (first : act.Respects view allows) (second : last.Respects view allows) :
    (act.onFault p last).Respects view allows := by
  intro s
  cases h : (act.run s).result with
  | ok a =>
      simp only [Act.onFault, h]
      exact first s
  | error fault =>
      simp only [Act.onFault, h]
      split
      · exact (first.ensuring second) s
      · exact first s

/-- Where only the events count, the view does not. -/
theorem forget {act : Act σ α} (h : act.Respects view allows) {more : Event → Prop}
    (le : ∀ k event, allows k event → more event) :
    act.Respects (fun _ => ()) fun _ event => more event :=
  fun s => ⟨rfl, fun event mem => le _ event ((h s).2 event mem)⟩

/-- An activity on a part respects what the whole shows, if that is kept with the part. -/
theorem within {part : τ → σ} {replace : τ → σ → τ} {act : Act σ α} {κ' : Type} {whole : τ → κ'}
    {allows' : κ' → Event → Prop} (h : act.Respects view allows)
    (kept : ∀ t s, view s = view (part t) → whole (replace t s) = whole t)
    (allowed : ∀ t event, allows (view (part t)) event → allows' (whole t) event) :
    (act.within part replace).Respects whole allows' :=
  fun t => ⟨kept t _ (h (part t)).1, fun event mem => allowed t event ((h (part t)).2 event mem)⟩

end Respects

def Keeps (inv : σ → Prop) (act : Act σ α) : Prop :=
  ∀ s, inv s → inv (act.run s).final

/-- What can be told from what the activity leaves as it is, is kept. -/
theorem Respects.keeps {act : Act σ α} {inv : σ → Prop} (h : act.Respects view allows)
    (told : ∀ s s', view s' = view s → inv s → inv s') : act.Keeps inv :=
  fun s holds => told s _ (h s).1 holds

namespace Keeps

variable {inv : σ → Prop}

theorem reads (f : σ → α) : (Act.reads f).Keeps inv :=
  fun _ => id

theorem bind {act : Act σ α} {next : α → Act σ β} (first : act.Keeps inv)
    (second : ∀ a, (next a).Keeps inv) : (act >>= next).Keeps inv := by
  intro s holds
  rw [run_bind]
  cases h : (act.run s).result with
  | ok a =>
      rw [Course.follow_of_ok h]
      exact second a _ (first s holds)
  | error fault =>
      rw [Course.follow_of_error h]
      exact first s holds

theorem change {f : σ → σ} (h : ∀ s, inv s → inv (f s)) : (Act.change f).Keeps inv :=
  h

theorem ensuring {act : Act σ α} {last : Act σ Unit} (first : act.Keeps inv)
    (second : last.Keeps inv) : (act.ensuring last).Keeps inv :=
  fun s holds => second _ (first s holds)

theorem within {part : τ → σ} {replace : τ → σ → τ} {act : Act σ α} {whole : τ → Prop}
    (h : act.Keeps inv) (sees : ∀ t, whole t → inv (part t))
    (back : ∀ t s, whole t → inv s → whole (replace t s)) : (act.within part replace).Keeps whole :=
  fun t holds => back t _ holds (h _ (sees t holds))

end Keeps

end Act

end TickBound
