import TickBound.Proofs.DeskRules

/-!
# What lends no cores

Only three steps change which cores are lent out and to whom: one opens a session, one borrows a core and
one gives it back. A measurement borrows its core as well, but has given it back when it ends, however it
ends.
-/

namespace TickBound

namespace Session

variable {α : Type}

def KeepsLent (act : Act Connection α) : Prop :=
  act.Respects (fun c => c.session.borrowed) fun _ _ => True

theorem keepsLent_of_isCarried {act : Act Connection α} (h : act.IsCarried) : KeepsLent act := by
  intro c
  have kept := congrArg borrowed (h c).1
  exact ⟨kept, fun _ _ => trivial⟩

theorem keepsLent_reconnect : KeepsLent reconnect :=
  reconnect_respects borrowed (fun _ _ => rfl) (fun _ => trivial) fun _ _ => trivial

theorem borrow_of_lent {index : Int} {c : Connection} (h : index ∈ c.session.borrowed) :
    (borrow index).run c = ⟨.error (.showing index (.busy index)), [], c⟩ := by
  rw [borrow, Act.run_bind, Act.run_reads, Course.follow_ok, if_pos (List.contains_iff_mem.mpr h)]
  rfl

theorem borrow_of_free {index : Int} {c : Connection} (h : index ∉ c.session.borrowed) :
    (borrow index).run c =
      ⟨.ok (), [],
        { c with session := { c.session with borrowed := index :: c.session.borrowed } }⟩ := by
  rw [borrow, Act.run_bind, Act.run_reads, Course.follow_ok, if_neg (h ∘ List.contains_iff_mem.mp)]
  rfl

/-- A core that is borrowed for an activity is given back, whatever has become of the activity. -/
theorem keepsLent_borrowing {act : Act Connection α} (index : Int) (h : KeepsLent act) :
    KeepsLent (borrowing index act) := by
  intro c
  refine ⟨?_, fun _ _ => trivial⟩
  by_cases lent : index ∈ c.session.borrowed
  · rw [borrowing, Act.run_bind, borrow_of_lent lent]
    rfl
  · rw [borrowing, Act.run_bind, borrow_of_free lent, Course.follow_ok]
    have kept := (h { c with session := { c.session with borrowed := index :: c.session.borrowed } }).1
    simp only [Act.ensuring, release, Act.run_change, kept, List.erase_cons_head]

end Session

namespace Bench

open Session (keepsLent_of_isCarried)

variable {α : Type}

def KeepsLent (act : Act Bench α) : Prop :=
  act.Respects (fun bench => bench.connection.session.borrowed) fun _ _ => True

theorem keepsLent_onHost (act : Act Host α) : KeepsLent (onHost act) :=
  fun _ => ⟨rfl, fun _ _ => trivial⟩

theorem keepsLent_onConnection {act : Act Connection α} (h : Session.KeepsLent act) :
    KeepsLent (onConnection act) :=
  h.within (fun _ _ kept => kept) fun _ _ => id

variable (settings : Settings)

theorem keepsLent_measureOn : KeepsLent (onConnection (measureOn settings {})) := by
  apply keepsLent_onConnection
  exact Session.keepsLent_borrowing _ (keepsLent_of_isCarried (Sample.isCarried_measure _ _ _))

end Bench

/-! ## The desk -/

/-- Who has which cores: those that are lent out by each session, the handles, and the session that is in
use. -/
structure Lending where
  borrowed : List (List Int)
  handles : List Handle
  current : Nat

namespace Lending

def lentBy (lending : Lending) (session : Nat) : List Int :=
  (lending.borrowed[session]?).getD []

def modify (lending : Lending) (session : Nat) (f : List Int → List Int) : Lending :=
  { lending with borrowed := lending.borrowed.modify session f }

end Lending

namespace Desk

variable {α : Type}

def lending (desk : Desk) : Lending where
  borrowed := desk.sessions.map Session.borrowed
  handles := desk.handles
  current := desk.current

theorem lentBy_lending (desk : Desk) (i : Nat) :
    desk.lending.lentBy i = (desk.session i).borrowed := by
  simp only [Lending.lentBy, lending, session, List.getElem?_map, List.getD_eq_getElem?_getD]
  cases desk.sessions[i]? with
  | none => rfl
  | some session => rfl

/-- What becomes of one bench changes what its session has lent out, and nothing else. -/
theorem lending_putBench {desk : Desk} {i : Nat} {bench : Bench} {f : List Int → List Int}
    (h : bench.connection.session.borrowed = f (desk.session i).borrowed) :
    (desk.putBench i bench).lending = desk.lending.modify i f := by
  have same : (desk.sessions.set i bench.connection.session).map Session.borrowed =
      (desk.sessions.map Session.borrowed).modify i f := by
    apply List.ext_getElem?
    intro j
    rw [List.getElem?_map, List.getElem?_set, List.getElem?_modify, List.getElem?_map]
    by_cases at_i : i = j
    · subst at_i
      by_cases inside : i < desk.sessions.length
      · simp [inside, h, session]
      · simp [inside]
    · simp [at_i]
  simp only [putBench, lending, Lending.modify, same]

def KeepsLending (act : Act Desk α) : Prop :=
  act.Respects lending fun _ _ => True

theorem keepsLending_within {σ : Type} {part : Desk → σ} {replace : Desk → σ → Desk} {act : Act σ α}
    (h : ∀ desk, (replace desk (act.run (part desk)).final).lending = desk.lending) :
    KeepsLending (act.within part replace) :=
  fun desk => ⟨h desk, fun _ _ => trivial⟩

theorem lending_putBench_same {desk : Desk} {i : Nat} {bench : Bench}
    (h : bench.connection.session.borrowed = (desk.session i).borrowed) :
    (desk.putBench i bench).lending = desk.lending := by
  have same : (desk.putBench i bench).lending = desk.lending.modify i id := lending_putBench h
  rw [same, Lending.modify, List.modify_id]

theorem keepsLending_onBench {act : Act Bench α} (i : Nat) (h : Bench.KeepsLent act) :
    KeepsLending (onBench i act) :=
  keepsLending_within fun desk => lending_putBench_same (h (desk.bench i)).1

theorem keepsLending_onHost (act : Act Host α) : KeepsLending (onHost act) :=
  keepsLending_within fun _ => rfl

theorem keepsLending_rules (settings : Settings) :
    Rules settings (fun _ act => Bench.KeepsLent act) fun _ act => KeepsLending act where
  bench := Act.Respects.rules _ _
  desk := Act.Respects.rules _ _
  onBench := keepsLending_onBench
  onHost := keepsLending_onHost
  closed := .emit fun _ => trivial
  hosts _ := Bench.keepsLent_onHost _
  carried h := Bench.keepsLent_onConnection (Session.keepsLent_of_isCarried h)
  connected := Bench.keepsLent_onConnection Session.keepsLent_reconnect
  measured := Bench.keepsLent_measureOn settings
  emitted _ := .emit fun _ => trivial

/-- A survey leaves the cores that are lent out on its bench. -/
theorem keepsLent_next (settings : Settings) (survey : Survey) :
    ((Survey.next settings).run survey).final.bench.connection.session.borrowed =
      survey.bench.connection.session.borrowed := by
  let lent (survey : Survey) : List Int := survey.bench.connection.session.borrowed
  have taken : ∀ path, (Survey.onBench (Bench.record settings path)).Respects lent fun _ _ => True :=
    fun path => ((keepsLending_rules settings).record path).within (fun _ _ kept => kept) fun _ _ => id
  exact (Survey.next_has (Act.Respects.rules lent _) taken (fun _ => .change fun _ => rfl) survey).1

theorem keepsLending_nextRecord (settings : Settings) : KeepsLending (nextRecord settings) := by
  apply Act.Respects.bind (.reads _)
  intro begun
  cases begun with
  | none => exact .fail _
  | some begun =>
      apply keepsLending_within
      intro desk
      exact lending_putBench_same (keepsLent_next settings ⟨desk.bench begun.1, begun.2⟩)

end Desk

namespace Step

open Desk

def MovesCores : Step → Prop
  | attach _ _ _ => True
  | borrow _ _ => True
  | release _ _ => True
  | _ => False

theorem take_keepsLending (settings : Settings) {step : Step} (still : ¬ step.MovesCores) :
    KeepsLending (step.take settings) := by
  apply (keepsLending_rules settings).take step
  · rintro _ _ _ rfl
    exact absurd trivial still
  · rintro _ _ rfl
    exact absurd trivial still
  · rintro _ _ rfl
    exact absurd trivial still
  · exact fun _ _ => .change fun _ => rfl
  · exact fun _ => keepsLending_nextRecord settings

end Step

end TickBound
