import TickBound.Proofs.Calculus
import TickBound.Survey.Record

/-!
# Outcomes that are taken

A host has it laid down what becomes of the programs that are started, one after another. An operation
that gets to a result has taken a fixed number of these outcomes, whatever came of them and of anything
else, and it looks at none behind them. So operations that follow each other never get into each other's
outcomes.
-/

namespace TickBound

namespace Host

def skip (host : Host) (n : Nat) : Host :=
  { host with outcomes := host.outcomes.drop n }

theorem skip_skip (host : Host) (m n : Nat) : (host.skip m).skip n = host.skip (m + n) := by
  simp [skip, List.drop_drop]

/-- The hosts differ at most in what becomes of programs behind the next `n`. -/
structure SameFor (n : Nat) (host other : Host) : Prop where
  files : host.files = other.files
  missingTools : host.missingTools = other.missingTools
  outcomes : ∀ i < n, host.outcomes.getD i .notFound = other.outcomes.getD i .notFound

namespace SameFor

variable {m n : Nat} {host other : Host}

theorem mono (h : SameFor n host other) (le : m ≤ n) : SameFor m host other :=
  ⟨h.files, h.missingTools, fun i hi => h.outcomes i (Nat.lt_of_lt_of_le hi le)⟩

theorem skip (h : SameFor (m + n) host other) : SameFor n (host.skip m) (other.skip m) where
  files := h.files
  missingTools := h.missingTools
  outcomes i hi := by
    have shifted := h.outcomes (m + i) (by omega)
    simpa [Host.skip, List.getD_eq_getElem?_getD] using shifted

theorem headD (h : SameFor (n + 1) host other) :
    host.outcomes.headD .notFound = other.outcomes.headD .notFound := by
  simpa [List.headD_eq_head?_getD, List.head?_eq_getElem?, List.getD_eq_getElem?_getD] using
    h.outcomes 0 (Nat.succ_pos n)

end SameFor

end Host

/-! ## Operations by what they take -/

/-- A result leaves the host behind `n` outcomes, and a run depends on nothing of the host behind them. Of
the state apart from the host, all that counts is what `rest` shows. -/
structure Act.Takes {σ κ α : Type} (host : σ → Host) (rest : σ → κ) (n : Nat) (act : Act σ α) :
    Prop where
  final : ∀ s a, (act.run s).result = .ok a → host (act.run s).final = (host s).skip n
  same : ∀ s t, rest s = rest t → (host s).SameFor n (host t) →
    (act.run s).result = (act.run t).result ∧ (act.run s).events = (act.run t).events ∧
      rest (act.run s).final = rest (act.run t).final

namespace Act.Takes

variable {σ κ α β : Type} {host : σ → Host} {rest : σ → κ} {m n : Nat}

theorem pure (a : α) : (Pure.pure a : Act σ α).Takes host rest 0 where
  final _ _ _ := rfl
  same _ _ same _ := ⟨rfl, rfl, same⟩

theorem fail (fault : Fault) : (Act.fail fault : Act σ α).Takes host rest n where
  final _ _ ok := by cases ok
  same _ _ same _ := ⟨rfl, rfl, same⟩

theorem ofExcept (result : Except Fault α) : (Act.ofExcept result : Act σ α).Takes host rest 0 where
  final _ _ _ := rfl
  same _ _ same _ := ⟨rfl, rfl, same⟩

theorem note (level : Level) (source : Source) (text : String) :
    (Act.note level source text : Act σ Unit).Takes host rest 0 where
  final _ _ _ := rfl
  same _ _ same _ := ⟨rfl, rfl, same⟩

theorem bind {act : Act σ α} {next : α → Act σ β} (first : act.Takes host rest m)
    (second : ∀ a, (next a).Takes host rest n) : (act >>= next).Takes host rest (m + n) where
  final s b ok := by
    obtain ⟨a, ended, ok⟩ := bind_result_ok.mp ok
    rw [run_bind_of_ok ended, (second a).final _ b ok, first.final s a ended, Host.skip_skip]
  same s t alike hosts := by
    obtain ⟨results, events, rests⟩ := first.same s t alike (hosts.mono (Nat.le_add_right m n))
    cases ended : (act.run s).result with
    | error fault =>
        rw [run_bind_of_error ended, run_bind_of_error (results ▸ ended)]
        exact ⟨rfl, events, rests⟩
    | ok a =>
        have ended' : (act.run t).result = .ok a := results ▸ ended
        have behind : (host (act.run s).final).SameFor n (host (act.run t).final) := by
          rw [first.final s a ended, first.final t a ended']
          exact hosts.skip
        obtain ⟨results', events', rests'⟩ := (second a).same _ _ rests behind
        rw [run_bind_of_ok ended, run_bind_of_ok ended']
        exact ⟨results', by rw [events, events'], rests'⟩

theorem ite {c : Prop} [Decidable c] {act other : Act σ α} (pos : act.Takes host rest n)
    (neg : other.Takes host rest n) : (if c then act else other).Takes host rest n := by
  split
  · exact pos
  · exact neg

theorem mapFault {f : Fault → Fault} {act : Act σ α} (h : act.Takes host rest n) :
    (act.mapFault f).Takes host rest n where
  final s a ok := by
    have same := run_mapFault_of_ok ok
    rw [same] at ok ⊢
    exact h.final s a ok
  same s t alike hosts := by
    obtain ⟨results, events, rests⟩ := h.same s t alike hosts
    exact ⟨by rw [run_mapFault, run_mapFault, results], events, rests⟩

end Act.Takes

/-! ## Programs of the host -/

def Host.Takes {α : Type} (n : Nat) (act : Act Host α) : Prop :=
  act.Takes id (fun _ => ()) n

namespace Host

open Act.Takes (bind fail)

theorem takes_missingTools : Takes 0 (.reads missingTools) where
  final _ _ _ := rfl
  same _ _ _ hosts := ⟨congrArg Except.ok hosts.missingTools, rfl, rfl⟩

theorem takes_files : Takes 0 (.reads files) where
  final _ _ _ := rfl
  same _ _ _ hosts := ⟨congrArg Except.ok hosts.files, rfl, rfl⟩

theorem takes_start (arguments : List String) (input : Option String) (limit : Option Float) :
    Takes 1 (start arguments input limit) where
  final host _ _ := by simp [start, skip]
  same host other _ hosts := by
    have head : host.outcomes.headD .notFound = other.outcomes.headD .notFound := hosts.headD
    refine ⟨congrArg Except.ok head, ?_, rfl⟩
    change [Event.ran arguments input limit (host.outcomes.headD .notFound)] = [.ran _ _ _ _]
    rw [head]

theorem takes_run (arguments : List String) (input : Option String) (limit : Option Float) :
    Takes 1 (run arguments input limit) := by
  cases arguments with
  | nil => exact .fail _
  | cons program more =>
      refine (takes_start (program :: more) input limit).bind (n := 0) fun outcome => ?_
      cases outcome with
      | ended code output errors => exact .pure _
      | notFound | denied | timedOut => exact .fail _

theorem takes_toolOutput (name : String) (arguments : List String) :
    Takes 1 (toolOutput name arguments) := by
  refine takes_missingTools.bind (n := 1) fun missing => .ite (.fail _) ?_
  exact (takes_run _ _ _).bind (n := 0) fun finished => .ite (.fail _) (.pure _)

end Host

namespace Image

open Host (Takes)

theorem takes_symbolAddress (path symbol : String) : Takes 1 (symbolAddress path symbol) :=
  (Host.takes_toolOutput _ _).bind (n := 0) fun _ => .pure _

theorem takes_inspect (path symbol : String) : Takes 2 (inspect path symbol) := by
  refine (takes_symbolAddress path symbol).bind (n := 1) fun found => ?_
  cases found with
  | none => exact .fail _
  | some address =>
      have counted : Takes 1 (markerCount path symbol) :=
        (Host.takes_toolOutput _ _).bind (n := 0) fun _ => .pure _
      exact counted.bind (n := 0) fun _ => .pure _

theorem takes_checkMarkers (path symbol : String) : Takes 2 (checkMarkers path symbol) :=
  (takes_inspect path symbol).mapFault.bind (n := 0) fun _ => .ite (.fail _) (.note _ _ _)

theorem takes_write (settings : Settings) (path : String) : Takes 1 (write settings path) := by
  have checked : Takes 0 (checkFile path) := Host.takes_files.bind (n := 0) fun _ => .ofExcept _
  refine checked.bind (n := 1) fun _ => .bind (m := 0) (n := 1) (.ofExcept _) fun arguments => ?_
  refine .bind (m := 0) (n := 1) (.note _ _ _) fun _ => .bind (m := 0) (n := 1) (.note _ _ _) fun _ => ?_
  exact (Host.takes_run _ _ _).mapFault.bind (n := 0) fun _ => .ite (.fail _) (.pure _)

end Image

theorem Engine.takes_entryAddress (path entry : String) : Host.Takes 1 (entryAddress path entry) := by
  refine (Image.takes_symbolAddress path entry).mapFault.bind (n := 0) fun found => ?_
  cases found with
  | none => exact .fail _
  | some address => exact .pure _

def Settings.checkRuns (settings : Settings) : Nat :=
  if settings.verifyMarkers then 3 else 1

theorem Bench.takes_preflight (settings : Settings) (path : String) :
    Host.Takes settings.checkRuns (preflight settings path) := by
  have entry : Host.Takes 1
      (Engine.entryAddress path settings.entrySymbol >>= fun _ => (pure () : Act Host Unit)) :=
    (Engine.takes_entryAddress path settings.entrySymbol).bind (n := 0) fun _ => .pure _
  unfold preflight Settings.checkRuns
  split
  · exact (Image.takes_checkMarkers _ _).bind (n := 1) fun _ => entry
  · exact entry

/-! ## The bench -/

/-- Of the connection anything may count, but what it brings does not change what is taken. -/
def Bench.Takes {α : Type} (n : Nat) (act : Act Bench α) : Prop :=
  act.Takes Bench.host Bench.connection n

namespace Bench

variable {α : Type}

theorem onHost_bind {β : Type} (act : Act Host α) (next : α → Act Host β) :
    onHost (act >>= next) = onHost act >>= fun a => onHost (next a) := by
  refine Act.ext_run fun bench => ?_
  cases ended : (act.run bench.host).result with
  | ok a =>
      have ended' : ((onHost act).run bench).result = .ok a := ended
      rw [Act.run_bind_of_ok ended', onHost, Act.run_within, Act.run_bind_of_ok ended]
      rfl
  | error fault =>
      have ended' : ((onHost act).run bench).result = .error fault := ended
      rw [Act.run_bind_of_error ended', onHost, Act.run_within, Act.run_bind_of_error ended]
      rfl

theorem takes_onHost {n : Nat} {act : Act Host α} (h : Host.Takes n act) : Takes n (onHost act) where
  final bench a ok := h.final bench.host a ok
  same bench other alike hosts := by
    obtain ⟨results, events, -⟩ := h.same bench.host other.host rfl hosts
    exact ⟨results, events, alike⟩

theorem takes_onConnection (act : Act Connection α) : Takes 0 (onConnection act) where
  final _ _ _ := rfl
  same bench other alike _ := by
    obtain ⟨host, connection⟩ := bench
    obtain ⟨host', connection'⟩ := other
    obtain rfl : connection = connection' := alike
    exact ⟨rfl, rfl, rfl⟩

theorem takes_measureImage (settings : Settings) (path : String) :
    Takes 1 (measureImage settings path) := by
  have deployed : Takes 1 (Image.deploy settings path) :=
    (takes_onHost (Image.takes_write settings path)).bind (n := 0) fun _ =>
      (takes_onConnection _).bind (n := 0) fun _ => .pure _
  exact deployed.bind (n := 0) fun _ => takes_onConnection _

end Bench

end TickBound
