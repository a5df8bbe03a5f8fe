import TickBound.Bench.Act

/-!
# Calculus of courses

A course either goes on behind a result or ends at a fault; what is known of the parts of an activity
gives what is known of the whole. Events keep their places, so an order among them is a statement on the
list that a course leaves.
-/

namespace TickBound

namespace Course

variable {σ α β : Type}

theorem follow_of_ok {course : Course σ α} {a : α} (h : course.result = .ok a)
    (next : α → σ → Course σ β) :
    course.follow next =
      ⟨(next a course.final).result, course.events ++ (next a course.final).events,
        (next a course.final).final⟩ := by
  simp [follow, h]

theorem follow_of_error {course : Course σ α} {fault : Fault} (h : course.result = .error fault)
    (next : α → σ → Course σ β) :
    course.follow next = ⟨.error fault, course.events, course.final⟩ := by
  simp [follow, h]

/-- A whole has a result only if both parts have one. -/
theorem follow_result_ok {course : Course σ α} {next : α → σ → Course σ β} {b : β} :
    (course.follow next).result = .ok b ↔
      ∃ a, course.result = .ok a ∧ (next a course.final).result = .ok b := by
  cases h : course.result with
  | ok a => simp [follow_of_ok h]
  | error fault => simp [follow_of_error h]

/-- Events that have happened stay in front, whatever follows. -/
theorem follow_events (course : Course σ α) (next : α → σ → Course σ β) :
    ∃ more, (course.follow next).events = course.events ++ more := by
  cases ended : course.result with
  | ok a =>
      rw [follow_of_ok ended]
      exact ⟨_, rfl⟩
  | error fault =>
      rw [follow_of_error ended]
      exact ⟨[], (List.append_nil _).symm⟩

end Course

theorem mapError_ok {ε ε' α : Type} (f : ε → ε') (a : α) :
    (Except.ok a : Except ε α).mapError f = .ok a := rfl

theorem mapError_error {ε ε' α : Type} (f : ε → ε') (cause : ε) :
    (Except.error cause : Except ε α).mapError f = .error (f cause) := rfl

theorem mapError_eq_ok {ε ε' α : Type} {result : Except ε α} {f : ε → ε'} {a : α} :
    result.mapError f = .ok a ↔ result = .ok a := by
  cases result with
  | ok b => simp only [mapError_ok, Except.ok.injEq]
  | error cause => simp only [mapError_error, reduceCtorEq]

theorem mapError_eq_error {ε ε' α : Type} {result : Except ε α} {f : ε → ε'} {fault : ε'} :
    result.mapError f = .error fault ↔ ∃ cause, result = .error cause ∧ f cause = fault := by
  cases result with
  | ok a =>
      constructor
      · intro same
        cases same
      · rintro ⟨cause, same, -⟩
        cases same
  | error cause =>
      constructor
      · intro same
        cases same
        exact ⟨cause, rfl, rfl⟩
      · rintro ⟨own, same, rfl⟩
        cases same
        rfl

namespace Act

variable {σ α β : Type}

theorem bind_result_ok {act : Act σ α} {next : α → Act σ β} {s : σ} {b : β} :
    ((act >>= next).run s).result = .ok b ↔
      ∃ a, (act.run s).result = .ok a ∧ ((next a).run (act.run s).final).result = .ok b :=
  Course.follow_result_ok

/-- A whole fails where a part of it does. -/
theorem bind_result_error {act : Act σ α} {next : α → Act σ β} {s : σ} {fault : Fault} :
    ((act >>= next).run s).result = .error fault ↔
      (act.run s).result = .error fault ∨
        ∃ a, (act.run s).result = .ok a ∧ ((next a).run (act.run s).final).result = .error fault := by
  cases ended : (act.run s).result with
  | ok a => simp [Course.follow_of_ok ended]
  | error own => simp [Course.follow_of_error ended]

theorem run_bind_of_ok {act : Act σ α} {next : α → Act σ β} {s : σ} {a : α}
    (h : (act.run s).result = .ok a) :
    (act >>= next).run s =
      ⟨((next a).run (act.run s).final).result,
        (act.run s).events ++ ((next a).run (act.run s).final).events,
        ((next a).run (act.run s).final).final⟩ :=
  Course.follow_of_ok h _

theorem run_bind_of_error {act : Act σ α} {next : α → Act σ β} {s : σ} {fault : Fault}
    (h : (act.run s).result = .error fault) :
    (act >>= next).run s = ⟨.error fault, (act.run s).events, (act.run s).final⟩ :=
  Course.follow_of_error h _

theorem run_mapFault_of_ok {f : Fault → Fault} {act : Act σ α} {s : σ} {a : α}
    (h : ((act.mapFault f).run s).result = .ok a) : (act.mapFault f).run s = act.run s := by
  rw [run_mapFault] at h ⊢
  generalize act.run s = course at h ⊢
  obtain ⟨result, events, final⟩ := course
  cases result with
  | ok b => rfl
  | error fault => cases h

theorem run_recover_of_ok {act : Act σ α} {s : σ} {a : α} (h : (act.run s).result = .ok a)
    (f : Fault → Act σ α) : (recover act f).run s = act.run s := by
  simp [recover, h]

theorem run_recover_of_error {act : Act σ α} {s : σ} {fault : Fault}
    (h : (act.run s).result = .error fault) (f : Fault → Act σ α) :
    (recover act f).run s =
      ⟨((f fault).run (act.run s).final).result,
        (act.run s).events ++ ((f fault).run (act.run s).final).events,
        ((f fault).run (act.run s).final).final⟩ := by
  simp [recover, h]

theorem run_onFault_of_ok {p : Fault → Bool} {act : Act σ α} {last : Act σ Unit} {s : σ} {a : α}
    (h : ((onFault p act last).run s).result = .ok a) : (onFault p act last).run s = act.run s := by
  cases hr : (act.run s).result with
  | ok b => simp [onFault, hr]
  | error fault =>
      by_cases hp : p fault
      · simp [onFault, hr, hp] at h
      · simp [onFault, hr, hp]

theorem mapFault_id (act : Act σ α) : mapFault id act = act := by
  apply ext_run
  intro s
  rw [run_mapFault]
  cases act.run s with
  | mk result events final => cases result <;> rfl

theorem mapFault_pure (f : Fault → Fault) (a : α) :
    mapFault f (pure a : Act σ α) = pure a :=
  rfl

theorem mapFault_bind (f : Fault → Fault) (act : Act σ α) (next : α → Act σ β) :
    mapFault f (act >>= next) = mapFault f act >>= fun a => mapFault f (next a) := by
  refine ext_run fun s => ?_
  rw [run_bind, run_mapFault, run_mapFault, run_bind]
  cases h : (act.run s).result with
  | ok a =>
      rw [Course.follow_of_ok h, Course.follow_of_ok rfl]
      rfl
  | error fault =>
      rw [Course.follow_of_error h, Course.follow_of_error rfl]
      rfl

end Act

/-! ## What comes only after something else -/

section Order

variable {α : Type}

/-- Wherever an element of `xs` with `p` stands, what came before it, with `past` in front, satisfies
`g`. -/
def OnlyAfter (p : α → Prop) (g : List α → Prop) (past xs : List α) : Prop :=
  ∀ before x after, xs = before ++ x :: after → p x → g (past ++ before)

variable {p : α → Prop} {g : List α → Prop} {past xs ys : List α}

theorem OnlyAfter.of_absent (h : ∀ x ∈ xs, ¬ p x) : OnlyAfter p g past xs := by
  intro before x after hxs hx
  exact absurd hx (h x (by simp [hxs]))

theorem OnlyAfter.cons {x : α} (head : p x → g past) (tail : OnlyAfter p g (past ++ [x]) xs) :
    OnlyAfter p g past (x :: xs) := by
  intro before y after hxs hy
  cases before with
  | nil =>
      obtain ⟨rfl, -⟩ := List.cons.inj hxs
      simpa using head hy
  | cons z before =>
      obtain ⟨rfl, rest⟩ := List.cons.inj hxs
      simpa using tail before y after rest hy

theorem OnlyAfter.append (first : OnlyAfter p g past xs) (second : OnlyAfter p g (past ++ xs) ys) :
    OnlyAfter p g past (xs ++ ys) := by
  induction xs generalizing past with
  | nil => simpa using second
  | cons x xs ih =>
      refine .cons (fun hx => ?_) (ih ?_ ?_)
      · simpa using first [] x xs rfl hx
      · intro before y after hxs hy
        simpa using first (x :: before) y after (by simp [hxs]) hy
      · simpa using second

theorem OnlyAfter.at (h : OnlyAfter p g past xs) {i : Nat} (hi : i < xs.length) (hx : p xs[i]) :
    g (past ++ xs.take i) :=
  h (xs.take i) xs[i] (xs.drop (i + 1)) (by simp) hx

/-- A condition that a longer past keeps needs to hold of the past only. -/
theorem OnlyAfter.of_past (keeps : ∀ past more, g past → g (past ++ more)) (h : g past) :
    OnlyAfter p g past xs :=
  fun before _ _ _ _ => keeps past before h

end Order

end TickBound
