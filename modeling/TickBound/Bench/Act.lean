import TickBound.Bench.Event
import TickBound.Fault.Basic

/-!
# Activities

An activity starts from a state and leaves a course: a result or a fault, the events in their order,
and the final state. A fault ends what follows, but takes back neither events nor changes of the state.
-/

namespace TickBound

/-- What an activity leaves. -/
structure Course (σ α : Type) where
  result : Except Fault α
  events : List Event
  final : σ

namespace Course

variable {σ α β : Type}

/-- Goes on from a result; a fault goes on with nothing. -/
def follow (course : Course σ α) (next : α → σ → Course σ β) : Course σ β :=
  match course.result with
  | .ok a =>
      let tail := next a course.final
      ⟨tail.result, course.events ++ tail.events, tail.final⟩
  | .error fault => ⟨.error fault, course.events, course.final⟩

end Course

/-- An activity on a state. -/
structure Act (σ α : Type) where
  run : σ → Course σ α

namespace Act

variable {σ τ α β : Type}

instance : Monad (Act σ) where
  pure a := ⟨fun s => ⟨.ok a, [], s⟩⟩
  bind act next := ⟨fun s => (act.run s).follow fun a s => (next a).run s⟩

def fail (fault : Fault) : Act σ α :=
  ⟨fun s => ⟨.error fault, [], s⟩⟩

/-- A result or a fault that is already known. -/
def ofExcept (result : Except Fault α) : Act σ α :=
  ⟨fun s => ⟨result, [], s⟩⟩

def emit (event : Event) : Act σ Unit :=
  ⟨fun s => ⟨.ok (), [event], s⟩⟩

def note (level : Level) (source : Source) (text : String) : Act σ Unit :=
  emit (.noted level source text)

/-- What a function of the state says. -/
def reads (f : σ → α) : Act σ α :=
  ⟨fun s => ⟨.ok (f s), [], s⟩⟩

def change (f : σ → σ) : Act σ Unit :=
  ⟨fun s => ⟨.ok (), [], f s⟩⟩

/-- Names the cause of a fault anew. -/
def mapFault (f : Fault → Fault) (act : Act σ α) : Act σ α :=
  ⟨fun s =>
    let course := act.run s
    ⟨course.result.mapError f, course.events, course.final⟩⟩

/-- An activity, and one that is chosen by the fault if it failed. -/
def recover (act : Act σ α) (f : Fault → Act σ α) : Act σ α :=
  ⟨fun s =>
    let course := act.run s
    match course.result with
    | .ok _ => course
    | .error fault =>
        let tail := (f fault).run course.final
        ⟨tail.result, course.events ++ tail.events, tail.final⟩⟩

/-- An activity, and then another one whether or not it failed. A fault of the first stands. -/
def ensuring (act : Act σ α) (last : Act σ Unit) : Act σ α :=
  ⟨fun s =>
    let course := act.run s
    let closing := last.run course.final
    ⟨course.result, course.events ++ closing.events, closing.final⟩⟩

/-- An activity, and another one only if it failed with a fault in `p`. The fault stands. -/
def onFault (p : Fault → Bool) (act : Act σ α) (last : Act σ Unit) : Act σ α :=
  ⟨fun s =>
    let course := act.run s
    match course.result with
    | .ok _ => course
    | .error fault =>
        if p fault then
          let closing := last.run course.final
          ⟨course.result, course.events ++ closing.events, closing.final⟩
        else course⟩

/-- An activity on a part of the state. -/
def within (part : τ → σ) (replace : τ → σ → τ) (act : Act σ α) : Act τ α :=
  ⟨fun t =>
    let course := act.run (part t)
    ⟨course.result, course.events, replace t course.final⟩⟩

/-! ## Courses of the building blocks -/

@[simp] theorem run_pure (a : α) (s : σ) : (pure a : Act σ α).run s = ⟨.ok a, [], s⟩ := rfl

@[simp] theorem run_bind (act : Act σ α) (next : α → Act σ β) (s : σ) :
    (act >>= next).run s = (act.run s).follow fun a s => (next a).run s := rfl

@[simp] theorem run_fail (fault : Fault) (s : σ) :
    (fail fault : Act σ α).run s = ⟨.error fault, [], s⟩ := rfl

@[simp] theorem run_ofExcept (result : Except Fault α) (s : σ) :
    (ofExcept result : Act σ α).run s = ⟨result, [], s⟩ := rfl

@[simp] theorem run_emit (event : Event) (s : σ) : (emit event).run s = ⟨.ok (), [event], s⟩ := rfl

@[simp] theorem run_note (level : Level) (source : Source) (text : String) (s : σ) :
    (note level source text).run s = ⟨.ok (), [.noted level source text], s⟩ := rfl

@[simp] theorem run_reads (f : σ → α) (s : σ) : (reads f).run s = ⟨.ok (f s), [], s⟩ := rfl

@[simp] theorem run_change (f : σ → σ) (s : σ) : (change f).run s = ⟨.ok (), [], f s⟩ := rfl

@[simp] theorem run_mapFault (f : Fault → Fault) (act : Act σ α) (s : σ) :
    (mapFault f act).run s =
      ⟨(act.run s).result.mapError f, (act.run s).events, (act.run s).final⟩ := rfl

@[simp] theorem run_within (part : τ → σ) (replace : τ → σ → τ) (act : Act σ α) (t : τ) :
    (within part replace act).run t =
      ⟨(act.run (part t)).result, (act.run (part t)).events, replace t (act.run (part t)).final⟩ := rfl

end Act

namespace Course

variable {σ α β γ : Type}

@[simp] theorem follow_ok (a : α) (events : List Event) (s : σ) (next : α → σ → Course σ β) :
    (⟨.ok a, events, s⟩ : Course σ α).follow next =
      ⟨(next a s).result, events ++ (next a s).events, (next a s).final⟩ := rfl

@[simp] theorem follow_error (fault : Fault) (events : List Event) (s : σ)
    (next : α → σ → Course σ β) :
    (⟨.error fault, events, s⟩ : Course σ α).follow next = ⟨.error fault, events, s⟩ := rfl

/-- Nothing happens after a course that just hands on its result. -/
theorem follow_pure (course : Course σ α) :
    (course.follow fun a s => ⟨.ok a, [], s⟩) = course := by
  obtain ⟨result, events, s⟩ := course
  cases result <;> simp

theorem follow_assoc (course : Course σ α) (f : α → σ → Course σ β) (g : β → σ → Course σ γ) :
    (course.follow f).follow g = course.follow fun a s => (f a s).follow g := by
  obtain ⟨result, events, s⟩ := course
  cases result with
  | error fault => rfl
  | ok a =>
      simp only [follow_ok]
      obtain ⟨result, more, t⟩ := f a s
      cases result <;> simp

end Course

namespace Act

variable {σ α β : Type}

/-- Activities with the same courses are the same. -/
theorem ext_run {act other : Act σ α} (h : ∀ s, act.run s = other.run s) : act = other := by
  obtain ⟨f⟩ := act
  obtain ⟨g⟩ := other
  exact congrArg Act.mk (funext h)

instance : LawfulMonad (Act σ) :=
  LawfulMonad.mk' (Act σ)
    (fun act => ext_run fun s => Course.follow_pure (act.run s))
    (fun a f => ext_run fun s => by simp)
    (fun act f g => ext_run fun s => Course.follow_assoc _ _ _)

end Act

end TickBound
