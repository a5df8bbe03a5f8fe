import TickBound.Desk.Step
import TickBound.Proofs.BenchFrame

/-!
# What holds of benches holds of steps

Most steps do one thing on the bench of a session or start a program of the host; the others open a
session, move a core or go on with a survey. A property of activities that sequencing keeps therefore
holds of a step as soon as it holds of these few things.
-/

namespace TickBound

namespace Core

/-! ## Single operations on a core -/

theorem isCarried_isHalted : isHalted.IsCarried :=
  (Act.isCarried_readWord _).bind fun _ => .pure _

theorem isCarried_readCounter : readCounter.IsCarried :=
  (Act.isCarried_readWord _).bind fun _ => .pure _

theorem isCarried_waitReady : (waitReady mostPolls).IsCarried :=
  (waitReady_pursues 9).isCarried

theorem isCarried_readRegister (register : Int) : (readRegister register).IsCarried :=
  (Act.isCarried_writeWord _ _).bind fun _ => isCarried_waitReady.bind fun _ =>
    Act.isCarried_readWord _

theorem isCarried_writeRegister (register value : Int) : (writeRegister register value).IsCarried :=
  (Act.isCarried_writeWord _ _).bind fun _ => (Act.isCarried_writeWord _ _).bind fun _ =>
    isCarried_waitReady

end Core

namespace Desk

open Host (KeepsFiles)

/-- The property `P` holds of what is done at the desk as soon as `B` holds of it on a bench, and `B`
holds of what a bench can do. -/
structure Rules (settings : Settings) (B : (α : Type) → Act Bench α → Prop)
    (P : (α : Type) → Act Desk α → Prop) : Prop where
  bench : Act.Rules B
  desk : Act.Rules P
  onBench : ∀ {α : Type} {act : Act Bench α} (i : Nat), B α act → P α (onBench i act)
  onHost : ∀ {α : Type} (act : Act Host α), P α (onHost act)
  closed : P Unit Session.close
  hosts : ∀ {α : Type} {act : Act Host α}, KeepsFiles act → B α (Bench.onHost act)
  carried : ∀ {α : Type} {act : Act Connection α}, act.IsCarried → B α (Bench.onConnection act)
  connected : B Json.Members (Bench.onConnection Session.reconnect)
  measured : B Int (Bench.onConnection (Bench.measureOn settings {}))
  emitted : ∀ event, B Unit (.emit event)

namespace Rules

variable {settings : Settings} {B : (α : Type) → Act Bench α → Prop}
  {P : (α : Type) → Act Desk α → Prop} {α β : Type}

theorem record (rules : Rules settings B P) (path : String) :
    B Record (Bench.record settings path) :=
  Bench.record_has rules.bench rules.hosts rules.connected rules.measured
    (fun _ _ _ => rules.emitted _) path

theorem onCurrent (rules : Rules settings B P) {act : Act Bench α} (h : B α act) :
    P α (Desk.onCurrent act) :=
  rules.desk.bind (rules.desk.reads _) fun i => rules.onBench i h

theorem onSession (rules : Rules settings B P) {act : Act Connection α} (h : act.IsCarried) :
    P α (Desk.onSession act) :=
  rules.onCurrent (rules.carried h)

theorem handle (rules : Rules settings B P) (name : String) : P Handle (Desk.handle name) := by
  apply rules.desk.bind (rules.desk.reads _)
  intro found
  cases found with
  | none => exact rules.desk.fail _
  | some handle => exact rules.desk.pure _

theorem onCore (rules : Rules settings B P) {act : Core → Act Connection α} (choice : CoreChoice)
    (h : ∀ core, (act core).IsCarried) : P α (Desk.onCore choice act) := by
  cases choice with
  | fresh index => exact rules.onSession (h _)
  | handle name =>
      apply rules.desk.bind (rules.handle name)
      exact fun handle => rules.onBench _ (rules.carried (h handle.core))

/-- What is found is only computed behind the activity. -/
theorem found (rules : Rules settings B P) {act : Act Desk α} {f : α → Finding} (h : P α act) :
    P Finding (act >>= fun a => pure (f a)) :=
  rules.desk.bind h fun _ => rules.desk.pure _

/-- A step has the property if it is none of those that open a session, move a core or go on with a
survey, and one of those has it if the thing that it is for does. -/
theorem take (rules : Rules settings B P) (step : Step)
    (attached : ∀ target expected timeout, step = .attach target expected timeout →
      P String (attach target expected timeout))
    (borrowed : ∀ index name, step = .borrow index name → P Unit (borrow index name))
    (released : ∀ name failing, step = .release name failing → P Unit (release name))
    (begun : ∀ path, step = .beginSurvey path → P Unit (beginSurvey path))
    (asked : step = .nextRecord → P (Option Record) (nextRecord settings)) :
    P Finding (step.take settings) := by
  cases step with
  | attach target expected timeout => exact rules.found (attached target expected timeout rfl)
  | borrow index name => exact rules.found (borrowed index name rfl)
  | release name failing => exact rules.found (released name failing rfl)
  | beginSurvey path => exact rules.found (begun path rfl)
  | nextRecord =>
      apply rules.desk.bind (asked rfl)
      intro row
      cases row with
      | none => exact rules.desk.pure _
      | some record => exact rules.desk.pure _
  | reconnect => exact rules.found (rules.onCurrent rules.connected)
  | architecture | status => exact rules.found (rules.onSession (.reads _))
  | close | enterAndLeave => exact rules.found rules.closed
  | read address => exact rules.found (rules.onSession (Act.isCarried_readWord _))
  | write address value => exact rules.found (rules.onSession (Act.isCarried_writeWord _ _))
  | isHalted core => exact rules.found (rules.onCore core fun _ => Core.isCarried_isHalted)
  | halt core timeout =>
      exact rules.found (rules.onCore core fun core => (core.halt_follows timeout).isCarried)
  | waitHalted core timeout =>
      exact rules.found (rules.onCore core fun core => (core.waitHalted_follows timeout).isCarried)
  | resume core => exact rules.found (rules.onCore core fun core => core.resume_pursues.isCarried)
  | reset core => exact rules.found (rules.onCore core fun _ => Core.reset_follows.isCarried)
  | clearBreakpoints core =>
      exact rules.found (rules.onCore core fun _ => Core.clearBreakpoints_follows.isCarried)
  | readRegister core register =>
      exact rules.found (rules.onCore core fun _ => Core.isCarried_readRegister _)
  | writeRegister core register value =>
      exact rules.found (rules.onCore core fun _ => Core.isCarried_writeRegister _ _)
  | readThrough core address =>
      exact rules.found (rules.onCore core fun _ => Act.isCarried_readWord _)
  | readCounter core => exact rules.found (rules.onCore core fun _ => Core.isCarried_readCounter)
  | takeSample core =>
      exact rules.found (rules.onCore core fun core => (Sample.take_follows core _ _).isCarried)
  | measure core =>
      exact rules.found (rules.onCore core fun core => Sample.isCarried_measure core _ _)
  | deploy path =>
      exact rules.found (rules.onCurrent
        (Bench.deploy_has rules.bench rules.hosts rules.connected path))
  | measureImage path =>
      exact rules.found (rules.onCurrent
        (Bench.measureImage_has rules.bench rules.hosts rules.connected rules.measured path))
  | record path => exact rules.found (rules.onCurrent (rules.record _))
  | printTable path =>
      exact rules.found (rules.onCurrent
        (Bench.printTable_has rules.bench rules.record (fun _ => rules.emitted _) path))
  | checkFile | markerCount | checkMarkers | entryAddress => exact rules.found (rules.onHost _)
  | symbolAddress path symbol =>
      apply rules.desk.bind (rules.onHost _)
      intro address
      cases address with
      | none => exact rules.desk.pure _
      | some address => exact rules.desk.pure _
  | explore | bound =>
      exact rules.desk.bind (rules.desk.ofExcept _) fun _ => rules.found (rules.onHost _)
  | images =>
      exact rules.desk.bind (rules.desk.reads _) fun _ => rules.found (rules.desk.ofExcept _)

end Rules

end Desk

end TickBound
