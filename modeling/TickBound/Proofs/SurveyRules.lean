import TickBound.Proofs.Frame
import TickBound.Survey.Basic

/-!
# What holds of records holds of surveys

A survey and a table only look for the next image and take its record. A property of activities that
sequencing keeps therefore holds of them as soon as it holds of every record, of a printed line and of
moving on.
-/

namespace TickBound

/-- Sequencing keeps the property, and whatever neither does nor changes anything has it. -/
structure Act.Rules {σ : Type} (P : (α : Type) → Act σ α → Prop) : Prop where
  still : ∀ {α : Type} {act : Act σ α}, (∀ s, (act.run s).events = [] ∧ (act.run s).final = s) → P α act
  bind : ∀ {α β : Type} {act : Act σ α} {next : α → Act σ β},
    P α act → (∀ a, P β (next a)) → P β (act >>= next)

namespace Act.Rules

variable {σ α : Type} {P : (α : Type) → Act σ α → Prop}

theorem pure (rules : Rules P) (a : α) : P α (Pure.pure a) :=
  rules.still fun _ => ⟨rfl, rfl⟩

theorem fail (rules : Rules P) (fault : Fault) : P α (Act.fail fault) :=
  rules.still fun _ => ⟨rfl, rfl⟩

theorem reads (rules : Rules P) (f : σ → α) : P α (Act.reads f) :=
  rules.still fun _ => ⟨rfl, rfl⟩

theorem ofExcept (rules : Rules P) (result : Except Fault α) : P α (Act.ofExcept result) :=
  rules.still fun _ => ⟨rfl, rfl⟩

end Act.Rules

theorem Act.Respects.rules {σ κ : Type} (view : σ → κ) (allows : κ → Event → Prop) :
    Act.Rules fun _ act => act.Respects view allows where
  still h s := ⟨congrArg view (h s).2, by simp [(h s).1]⟩
  bind := .bind

theorem Act.Keeps.rules {σ : Type} (inv : σ → Prop) : Act.Rules fun _ act => act.Keeps inv where
  still h s holds := (h s).2.symm ▸ holds
  bind := .bind

namespace Bench

variable {P : (α : Type) → Act Bench α → Prop} {settings : Settings}

theorem printAmong_has (rules : Act.Rules P) (taken : ∀ path, P Record (record settings path))
    (printed : ∀ line, P Unit (.emit (.printed line))) (directory : String)
    (found : List FileTree.Entry) : P Unit (printAmong settings directory found) := by
  induction found with
  | nil => exact rules.pure ()
  | cons entry more ih =>
      apply rules.bind (rules.reads _)
      intro files
      apply rules.bind (rules.ofExcept _)
      intro image
      split
      · apply rules.bind (taken _)
        intro record
        exact rules.bind (printed _) fun _ => ih
      · exact ih

theorem printTable_has (rules : Act.Rules P) (taken : ∀ path, P Record (record settings path))
    (printed : ∀ line, P Unit (.emit (.printed line))) (directory : String) :
    P Unit (printTable settings directory) := by
  apply rules.bind (printed _)
  intro _
  apply rules.bind (rules.reads _)
  intro files
  apply rules.bind (rules.ofExcept _)
  exact printAmong_has rules taken printed directory

end Bench

namespace Survey

variable {P : (α : Type) → Act Survey α → Prop} {settings : Settings}

theorem nextAmong_has (rules : Act.Rules P)
    (taken : ∀ path, P Record (onBench (Bench.record settings path)))
    (moved : ∀ progress, P Unit (moveTo progress)) (directory : String)
    (found : List FileTree.Entry) : P (Option Record) (nextAmong settings directory found) := by
  apply rules.bind (rules.reads _)
  intro files
  apply rules.bind (rules.ofExcept _)
  intro image
  cases image with
  | none => exact rules.pure none
  | some image =>
      apply rules.bind (taken _)
      intro record
      exact rules.bind (moved _) fun _ => rules.pure _

theorem next_has (rules : Act.Rules P)
    (taken : ∀ path, P Record (onBench (Bench.record settings path)))
    (moved : ∀ progress, P Unit (moveTo progress)) : P (Option Record) (next settings) := by
  apply rules.bind (rules.reads _)
  intro progress
  apply rules.bind (moved _)
  intro _
  cases progress with
  | ended => exact rules.pure none
  | listing directory found => exact nextAmong_has rules taken moved directory found
  | fresh directory =>
      apply rules.bind (rules.reads _)
      intro files
      apply rules.bind (rules.ofExcept _)
      exact nextAmong_has rules taken moved directory

end Survey

end TickBound
