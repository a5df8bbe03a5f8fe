import TickBound.Desk.Step
import TickBound.Proofs.BenchFrame
import TickBound.Proofs.Numerals

/-!
# Traffic with the probe

Every request goes below the address of the session that it belongs to, and has that session's bound on
its time. Unless a word is written by hand, words are written only to the registers through which a core
is controlled, and every one of them is sent as eight digits. What the probe answers decides which of
these writes come and what some of them hold, but none of this.
-/

namespace TickBound

/-! ## Writes that control a core -/

/-- The registers that control a core: DHCSR, DCRSR, DCRDR, DEMCR, AIRCR, and the breakpoint comparators,
of which there are fifteen at most. -/
def Register.IsControl (address : Int) : Prop :=
  address = 0xE000EDF0 ∨ address = 0xE000EDF4 ∨ address = 0xE000EDF8 ∨ address = 0xE000EDFC ∨
    address = 0xE000ED0C ∨ ∃ i : Nat, i < 15 ∧ address = 0xE0002008 + 4 * i

namespace Request

def url (base : String) (request : Request) : String :=
  base ++ request.place

/-- The value is sent as eight capital hexadecimal digits behind `0x`. -/
def IsSentAsWord (value : Int) : Prop :=
  ∃ digits : List Char, dataText value = "0x" ++ String.ofList digits ∧ digits.length = 8 ∧
    ∀ c ∈ digits, Number.isCapitalHex c = true

theorem isSentAsWord {value : Int} (nonneg : 0 ≤ value) (below : value < 0x100000000) :
    IsSentAsWord value := by
  obtain ⟨n, rfl⟩ := Int.eq_ofNat_of_zero_le nonneg
  refine ⟨(Number.paddedDigits 16 8 n).map Number.digitChar, ?_, ?_, ?_⟩
  · rw [dataText, ← Number.hexPadded_natCast]
  · have small : n < 16 ^ 8 := by omega
    rw [List.length_map, Number.length_paddedDigits (by decide) (by decide) small]
  · intro c mem
    obtain ⟨d, digit, rfl⟩ := List.mem_map.mp mem
    exact Number.isCapitalHex_digitChar d (Number.paddedDigits_lt (by decide) digit)

/-- Every request goes below the place of the target. -/
theorem target_isPrefix (base : String) (request : Request) :
    (base ++ "/target/").toList <+: (request.url base).toList := by
  have place : "/target/".toList <+: request.place.toList := by
    unfold Request.place
    cases request <;> simp
  rw [Request.url, String.toList_append, String.toList_append]
  exact (List.prefix_append_right_inj _).mpr place

end Request

/-- A write that controls a core. One to DHCSR has the key in its upper half, without which it has no
effect, and keeps the core under debug control. -/
structure ControlWrite (address value : Int) : Prop where
  place : Register.IsControl address
  nonneg : 0 ≤ value
  below : value < 0x100000000
  text : Request.IsSentAsWord value
  key : address = 0xE000EDF0 → value / 0x10000 = 0xA05F ∧ value % 2 = 1

namespace ControlWrite

theorem of_other {address value : Int} (place : Register.IsControl address)
    (other : address ≠ 0xE000EDF0) (nonneg : 0 ≤ value) (below : value < 0x100000000) :
    ControlWrite address value where
  place := place
  nonneg := nonneg
  below := below
  text := Request.isSentAsWord nonneg below
  key same := absurd same other

theorem of_word {address : Int} (place : Register.IsControl address)
    (other : address ≠ 0xE000EDF0) (w : Word) : ControlWrite address w.toNat := by
  have := w.isLt
  exact of_other place other (by omega) (by omega)

theorem dhcsr (order : Control) : ControlWrite Register.dhcsr order.word.toNat := by
  have small := order.word.isLt
  have key : order.word.toNat / 0x10000 = 0xA05F ∧ order.word.toNat % 2 = 1 := by
    cases order <;> decide
  refine ⟨.inl rfl, by omega, by omega, Request.isSentAsWord (by omega) (by omega), fun _ => ?_⟩
  omega

theorem dcrsr {selector : Int} (nonneg : 0 ≤ selector) (below : selector < 0x100000000) :
    ControlWrite Register.dcrsr selector :=
  of_other (.inr (.inl rfl)) (by decide) nonneg below

theorem dcrdr (w : Word) : ControlWrite Register.dcrdr w.toNat :=
  of_word (.inr (.inr (.inl rfl))) (by decide) w

theorem demcr (w : Word) : ControlWrite Register.demcr w.toNat :=
  of_word (.inr (.inr (.inr (.inl rfl)))) (by decide) w

theorem aircr : ControlWrite Register.aircr systemReset.toNat :=
  of_word (.inr (.inr (.inr (.inr (.inl rfl))))) (by decide) _

theorem comparator {i : Nat} (few : i < 15) : ControlWrite (Register.bpComp i) 0 := by
  have place : ((Register.bpComp i : Nat) : Int) = 0xE0002008 + 4 * i := by
    simp only [Register.bpComp]
    omega
  have control : Register.IsControl (Register.bpComp i) :=
    .inr (.inr (.inr (.inr (.inr ⟨i, few, place⟩))))
  exact of_other control (by omega) (by decide) (by decide)

end ControlWrite

/-! ## Routes -/

structure Route where
  url : String
  timeout : Float

def Session.route (session : Session) : Route :=
  ⟨session.url, session.timeout⟩

/-- A request goes over the route, and what it writes is permitted. -/
def Route.Carries (permits : Int → Int → Prop) (route : Route) : Event → Prop
  | .requested base request timeout _ =>
      base = route.url ∧ timeout = route.timeout ∧
        ∀ address value, request = .write address value → permits address value
  | _ => True

variable {permits : Int → Int → Prop} {α : Type}

theorem Route.Carries.mono {route : Route} {event : Event} {more : Int → Int → Prop}
    (h : route.Carries permits event)
    (le : ∀ address value, permits address value → more address value) :
    route.Carries more event := by
  cases event with
  | requested base request timeout reply =>
      exact ⟨h.1, h.2.1, fun address value same => le address value (h.2.2 address value same)⟩
  | closed | slept | ran | noted | printed => trivial

theorem Route.carries_of_isHostWork (route : Route) {event : Event} (h : event.IsHostWork) :
    route.Carries permits event := by
  cases event with
  | requested | closed | slept | printed => exact h.elim
  | ran | noted => trivial

/-! ## Sessions -/

namespace Session

def KeepsTo (permits : Int → Int → Prop) (act : Act Connection α) : Prop :=
  act.Respects (fun c => c.session.route) (Route.Carries permits)

theorem KeepsTo.mono {act : Act Connection α} {more : Int → Int → Prop} (h : KeepsTo permits act)
    (le : ∀ address value, permits address value → more address value) : KeepsTo more act :=
  fun c => ⟨(h c).1, fun event mem => ((h c).2 event mem).mono le⟩

theorem keepsTo_note (level : Level) (source : Source) (text : String) :
    KeepsTo permits (Act.note level source text) :=
  .emit fun _ => trivial

theorem keepsTo_readWord (address : Int) : KeepsTo permits (readWord address) :=
  readWord_respects route fun _ => ⟨rfl, rfl, by simp⟩

theorem keepsTo_writeWord {address value : Int} (h : permits address value) :
    KeepsTo permits (writeWord address value) := by
  apply writeWord_respects route
  intro c
  refine ⟨rfl, rfl, ?_⟩
  rintro _ _ ⟨⟩
  exact h

theorem keepsTo_reconnect : KeepsTo permits reconnect :=
  reconnect_respects route (fun _ _ => rfl) (fun _ => ⟨rfl, rfl, by simp⟩) fun _ _ => trivial

theorem keepsTo_borrowing {act : Act Connection α} (index : Int) (h : KeepsTo permits act) :
    KeepsTo permits (borrowing index act) := by
  have borrowed : KeepsTo permits (borrow index) :=
    .bind (.reads _) fun _ => .ite (.fail _) (.change fun _ => rfl)
  exact borrowed.bind fun _ => h.ensuring (.change fun _ => rfl)

/-- A session that is opened keeps to its own route from the first request on. -/
theorem carries_attach (target : String) (expected : Option String) (timeout : Float) (link : Link) :
    ∀ event ∈ ((attach target expected timeout).run link).events,
      Route.Carries permits ⟨address target, timeout⟩ event := by
  let route : Route := ⟨address target, timeout⟩
  have closed {σ : Type} : (close : Act σ Unit).Respects (fun _ => route) (Route.Carries permits) :=
    .emit fun _ => trivial
  have connected :
      KeepsTo permits (Act.onFault (·.isA .attach) reconnect close) :=
    keepsTo_reconnect.onFault (.emit fun _ => trivial)
  have opened : (opening { url := address target, timeout }
      (Act.onFault (·.isA .attach) reconnect close)).Respects (fun _ => route)
        (Route.Carries permits) :=
    fun link => ⟨rfl, (connected ⟨link, { url := address target, timeout }⟩).2⟩
  have whole : (attach target expected timeout).Respects (fun _ => route)
      (Route.Carries permits) := by
    apply opened.bind
    rintro ⟨status, session⟩
    cases expected with
    | none => exact .pure _
    | some name => exact .ite (.pure _) (closed.bind fun _ => .fail _)
  exact (whole link).2

end Session

/-! ## Cores -/

def IsRegisterNumber (register : Int) : Prop :=
  0 ≤ register ∧ register < 0x10000

namespace Core

open Session

theorem keepsTo_isHalted : KeepsTo permits isHalted :=
  (keepsTo_readWord _).bind fun _ => .pure _

theorem keepsTo_control (order : Control) : KeepsTo ControlWrite (control order) :=
  keepsTo_writeWord (.dhcsr order)

theorem keepsTo_pollHalt (late : Fault) (deadline : Float) (budget : Nat) :
    KeepsTo permits (pollHalt late deadline budget) := by
  induction budget with
  | zero => exact keepsTo_isHalted.bind fun _ => .ite (.pure _) (.fail _)
  | succ budget ih =>
      have slept : KeepsTo permits (Connection.onLink (Link.sleep pollInterval)) :=
        fun _ => ⟨rfl, by simp [Connection.onLink, Link.sleep, Route.Carries]⟩
      apply keepsTo_isHalted.bind
      intro halted
      apply Act.Respects.ite (.pure _)
      apply Act.Respects.bind (.reads _)
      intro now
      exact .ite (.fail _) (slept.bind fun _ => ih)

theorem keepsTo_waitHalted (core : Core) (timeout : Float) :
    KeepsTo permits (core.waitHalted timeout) := by
  apply Act.Respects.bind (.bind (.reads _) fun _ => .pure _)
  intro deadline
  exact .bind (.reads _) fun _ => keepsTo_pollHalt _ _ _

theorem keepsTo_halt (core : Core) (timeout : Float) : KeepsTo ControlWrite (core.halt timeout) :=
  (keepsTo_control .halt).bind fun _ => keepsTo_waitHalted core timeout

theorem keepsTo_waitReady (polls : Nat) : KeepsTo permits (waitReady polls) := by
  induction polls with
  | zero => exact .fail _
  | succ polls ih => exact (keepsTo_readWord _).bind fun _ => .ite (.pure _) ih

theorem keepsTo_readRegister (register : Int) :
    KeepsTo (fun address value => IsRegisterNumber register → ControlWrite address value)
      (readRegister register) := by
  apply (keepsTo_writeWord _).bind
  · intro _
    exact (keepsTo_waitReady _).bind fun _ => keepsTo_readWord _
  · intro number
    have := number.2
    exact .dcrsr number.1 (by omega)

/-- What selects a core register to be written still fits a word. -/
theorem writeSelector_bounds {register : Int} (number : IsRegisterNumber register) :
    0 ≤ writeSelector register ∧ writeSelector register < 0x100000000 := by
  obtain ⟨nonneg, below⟩ := number
  unfold writeSelector
  split <;> omega

theorem keepsTo_writeRegister (register value : Int) :
    KeepsTo (fun address value => IsRegisterNumber register → ControlWrite address value)
      (writeRegister register value) := by
  apply (keepsTo_writeWord _).bind
  · intro _
    apply (keepsTo_writeWord _).bind
    · exact fun _ => keepsTo_waitReady _
    · intro number
      have bounds := writeSelector_bounds number
      exact .dcrsr bounds.1 bounds.2
  · exact fun _ => .dcrdr _

theorem keepsTo_resume (core : Core) : KeepsTo ControlWrite core.resume := by
  have number : IsRegisterNumber programCounter := ⟨by decide, by decide⟩
  have read : KeepsTo ControlWrite (readRegister programCounter) :=
    (keepsTo_readRegister _).mono fun _ _ write => write number
  have stepped (pc : Word) : KeepsTo ControlWrite (writeRegister programCounter (pc.toNat + 2)) :=
    (keepsTo_writeRegister _ _).mono fun _ _ write => write number
  have found (pc : Word) : KeepsTo ControlWrite (isAtBreakpoint pc) :=
    (keepsTo_readWord _).bind fun _ => .pure _
  apply read.bind
  intro pc
  apply (found pc).bind
  intro breakpoint
  apply Act.Respects.ite
  · apply (keepsTo_note _ _ _).bind
    intro _
    exact (stepped pc).bind fun _ => keepsTo_control .resume
  · exact keepsTo_control .resume

theorem keepsTo_reset : KeepsTo ControlWrite reset := by
  have last : KeepsTo ControlWrite (do control .resume; writeWord Register.aircr systemReset.toNat) :=
    (keepsTo_control .resume).bind fun _ => keepsTo_writeWord .aircr
  apply (keepsTo_readWord _).bind
  intro demcr
  apply Act.Respects.ite
  · exact (keepsTo_writeWord (.demcr _)).bind fun _ => last
  · exact last

theorem keepsTo_clearFrom {i n : Nat} (few : i + n ≤ 15) : KeepsTo ControlWrite (clearFrom i n) := by
  induction n generalizing i with
  | zero => exact .pure _
  | succ n ih =>
      apply (keepsTo_writeWord (.comparator (by omega))).bind
      exact fun _ => ih (by omega)

theorem keepsTo_clearBreakpoints : KeepsTo ControlWrite clearBreakpoints := by
  apply (keepsTo_readWord _).bind
  intro count
  have few : comparatorCount count ≤ 15 := by
    rw [comparatorCount_eq]
    omega
  apply (keepsTo_clearFrom (by omega : 0 + comparatorCount count ≤ 15)).bind
  exact fun _ => keepsTo_note _ _ _

theorem keepsTo_readCounter : KeepsTo permits readCounter :=
  (keepsTo_readWord _).bind fun _ => .pure _

end Core

namespace Sample

open TickBound.Core TickBound.Session

theorem keepsTo_take (core : Core) (timeout : Float) (offset : Int) :
    KeepsTo ControlWrite (take core timeout offset) := by
  have entered (stage : Stage) : KeepsTo ControlWrite stage.enter := keepsTo_note _ _ _
  apply (entered _).bind
  intro _
  apply (keepsTo_halt core timeout).bind
  intro _
  apply keepsTo_clearBreakpoints.bind
  intro _
  apply (entered _).bind
  intro _
  apply keepsTo_reset.bind
  intro _
  apply (entered _).bind
  intro _
  apply (keepsTo_waitHalted core timeout).bind
  intro _
  apply keepsTo_readCounter.bind
  intro start
  apply (entered _).bind
  intro _
  apply (keepsTo_resume core).bind
  intro _
  apply (keepsTo_waitHalted core timeout).bind
  intro _
  apply keepsTo_readCounter.bind
  intro stop
  apply (entered _).bind
  intro _
  exact (keepsTo_note _ _ _).bind fun _ => .pure _

theorem keepsTo_measure (core : Core) (timeout : Float) (offset : Int) :
    KeepsTo ControlWrite (measure core timeout offset) :=
  (keepsTo_take core timeout offset).bind fun _ => .ofExcept _

end Sample

/-! ## Benches and surveys -/

namespace Bench

open Host (KeepsFiles)

def KeepsTo (permits : Int → Int → Prop) (act : Act Bench α) : Prop :=
  act.Respects (fun bench => bench.connection.session.route) (Route.Carries permits)

theorem keepsTo_onHost {act : Act Host α} (h : KeepsFiles act) : KeepsTo permits (onHost act) :=
  h.within (fun _ _ _ => rfl) fun _ _ work => Route.carries_of_isHostWork _ work

theorem keepsTo_onConnection {act : Act Connection α} (h : Session.KeepsTo permits act) :
    KeepsTo permits (onConnection act) :=
  h.within (fun _ _ kept => kept) fun _ _ => id

theorem keepsTo_connected : KeepsTo permits (onConnection Session.reconnect) :=
  keepsTo_onConnection Session.keepsTo_reconnect

variable (settings : Settings)

theorem keepsTo_measureOn : KeepsTo ControlWrite (onConnection (measureOn settings {})) :=
  keepsTo_onConnection (Session.keepsTo_borrowing _ (Sample.keepsTo_measure _ _ _))

theorem keepsTo_deploy (path : String) : KeepsTo ControlWrite (Image.deploy settings path) :=
  deploy_has (Act.Respects.rules _ _) keepsTo_onHost keepsTo_connected path

theorem keepsTo_measureImage (path : String) : KeepsTo ControlWrite (measureImage settings path) :=
  measureImage_has (Act.Respects.rules _ _) keepsTo_onHost keepsTo_connected
    (keepsTo_measureOn settings) path

theorem keepsTo_record (path : String) : KeepsTo ControlWrite (record settings path) :=
  record_has (Act.Respects.rules _ _) keepsTo_onHost keepsTo_connected (keepsTo_measureOn settings)
    (fun _ _ _ => .emit fun _ => trivial) path

theorem keepsTo_printTable (directory : String) :
    KeepsTo ControlWrite (printTable settings directory) :=
  printTable_has (Act.Respects.rules _ _) (keepsTo_record settings)
    (fun _ => .emit fun _ => trivial) directory

end Bench

theorem Survey.keepsTo_next (settings : Settings) :
    (next settings).Respects (fun survey => survey.bench.connection.session.route)
      (Route.Carries ControlWrite) := by
  apply next_has (Act.Respects.rules _ _)
  · exact fun path => (Bench.keepsTo_record settings path).within (fun _ _ kept => kept) fun _ _ => id
  · exact fun _ => .change fun _ => rfl

/-! ## The desk -/

namespace Desk

def CoreChoice.session (desk : Desk) : CoreChoice → Session
  | .fresh _ => desk.session desk.current
  | .handle name =>
      match desk.handle? name with
      | some lent => desk.session lent.session
      | none => desk.session desk.current

def Sends (permits : Int → Int → Prop) (session : Desk → Session) (act : Act Desk α) : Prop :=
  ∀ desk, ∀ event ∈ (act.run desk).events, (session desk).route.Carries permits event

variable {session : Desk → Session}

theorem Sends.mono {act : Act Desk α} {more : Int → Int → Prop} (h : Sends permits session act)
    (le : ∀ address value, permits address value → more address value) : Sends more session act :=
  fun desk event mem => (h desk event mem).mono le

/-- An activity that is over any route does not depend on the session. -/
theorem sends_of_any {act : Act Desk α}
    (h : ∀ route : Route, act.Respects (fun _ => route) (Route.Carries permits)) :
    Sends permits session act :=
  fun desk => (h (session desk).route desk).2

/-- What is only computed behind an activity sends nothing. -/
theorem Sends.bind_still {β : Type} {act : Act Desk α} {next : α → Act Desk β}
    (h : Sends permits session act) (still : ∀ a desk, ((next a).run desk).events = []) :
    Sends permits session (act >>= next) := by
  intro desk event mem
  rw [Act.run_bind] at mem
  apply h desk event
  cases result : (act.run desk).result with
  | ok a =>
      rw [Course.follow_of_ok result] at mem
      simpa [still] using mem
  | error fault =>
      rw [Course.follow_of_error result] at mem
      exact mem

/-- What is only computed ahead of an activity sends nothing. -/
theorem Sends.behind_still {β : Type} {act : Act Desk α} {next : α → Act Desk β}
    (still : ∀ desk, (act.run desk).events = [] ∧ (act.run desk).final = desk)
    (h : ∀ a, Sends permits session (next a)) : Sends permits session (act >>= next) := by
  intro desk event mem
  obtain ⟨silent, same⟩ := still desk
  rw [Act.run_bind] at mem
  cases result : (act.run desk).result with
  | ok a =>
      rw [Course.follow_of_ok result, silent, same, List.nil_append] at mem
      exact h a desk event mem
  | error fault =>
      rw [Course.follow_of_error result, silent] at mem
      cases mem

theorem sends_onBench {act : Act Bench α} {i : Nat} (desk : Desk) (h : Bench.KeepsTo permits act) :
    ∀ event ∈ ((onBench i act).run desk).events, (desk.session i).route.Carries permits event :=
  (h (desk.bench i)).2

theorem sends_onCurrent {act : Act Bench α} (h : Bench.KeepsTo permits act) :
    Sends permits (fun desk => desk.session desk.current) (onCurrent act) :=
  fun desk => sends_onBench desk h

theorem sends_onSession {act : Act Connection α} (h : Session.KeepsTo permits act) :
    Sends permits (fun desk => desk.session desk.current) (onSession act) :=
  sends_onCurrent (Bench.keepsTo_onConnection h)

theorem sends_onCore {act : Core → Act Connection α} (choice : CoreChoice)
    (h : ∀ core, Session.KeepsTo permits (act core)) :
    Sends permits (fun desk => choice.session desk) (onCore choice act) := by
  cases choice with
  | fresh index => exact sends_onSession (h _)
  | handle name =>
      intro desk event mem
      cases found : desk.handle? name with
      | none => simp [onCore, handle, found] at mem
      | some lent =>
          simp only [CoreChoice.session, found]
          apply sends_onBench desk (Bench.keepsTo_onConnection (h lent.core))
          simpa [onCore, handle, found] using mem

theorem sends_onHost {act : Act Host α} (h : Host.KeepsFiles act) :
    Sends permits session (onHost act) :=
  fun desk event mem => Route.carries_of_isHostWork _ ((h desk.host).2 event mem)

theorem sends_attach (target : String) (expected : Option String) (timeout : Float) :
    Sends permits (fun _ => { url := Session.address target, timeout })
      (attach target expected timeout) := by
  apply Sends.bind_still
  · exact fun desk => Session.carries_attach target expected timeout desk.link
  · exact fun _ _ => rfl

theorem sends_giveBack (lent : Handle) (route : Route) :
    (giveBack lent).Respects (fun _ => route) (Route.Carries permits) := by
  have released : (onBench lent.session (Bench.onConnection (Session.release lent.core.index))).Respects
      (fun _ => route) (Route.Carries permits) :=
    fun _ => ⟨rfl, by simp [onBench, Bench.onConnection, Session.release]⟩
  exact .ite (released.bind fun _ => .change fun _ => rfl) (.pure _)

theorem sends_handle (name : String) (route : Route) :
    (handle name).Respects (fun _ => route) (Route.Carries permits) := by
  apply Act.Respects.bind (.reads _)
  intro found
  cases found with
  | none => exact .fail _
  | some lent => exact .pure _

theorem sends_borrow (index : Int) (name : String) : Sends permits session (borrow index name) := by
  apply sends_of_any
  intro route
  have taken : (Session.borrow index).Respects (fun _ => route) (Route.Carries permits) :=
    .bind (.reads _) fun _ => .ite (.fail _) (.change fun _ => rfl)
  have current : (onSession (Session.borrow index)).Respects (fun _ => route)
      (Route.Carries permits) :=
    fun desk => ⟨rfl, (taken (desk.bench desk.current).connection).2⟩
  apply current.bind
  intro _
  apply Act.Respects.bind (.reads _)
  intro found
  cases found with
  | none => exact .change fun _ => rfl
  | some older => exact (sends_giveBack older route).bind fun _ => .change fun _ => rfl

theorem sends_release (name : String) : Sends permits session (release name) :=
  sends_of_any fun route => (sends_handle name route).bind fun lent => sends_giveBack lent route

def surveyed (desk : Desk) : Session :=
  match desk.survey with
  | some begun => desk.session begun.1
  | none => desk.session desk.current

theorem sends_nextRecord (settings : Settings) :
    Sends ControlWrite surveyed (nextRecord settings) := by
  intro desk event mem
  cases begun : desk.survey with
  | none => simp [nextRecord, begun] at mem
  | some begun' =>
      obtain ⟨i, progress⟩ := begun'
      simp only [surveyed, begun]
      apply (Survey.keepsTo_next settings ⟨desk.bench i, progress⟩).2
      simpa [nextRecord, begun] using mem

end Desk

/-! ## Steps -/

namespace Step

open Desk

/-- The session that a step acts on; it is the one that is opened where the step opens one. -/
def session (desk : Desk) : Step → Session
  | attach target _ timeout => { url := Session.address target, timeout }
  | isHalted core => core.session desk
  | halt core _ => core.session desk
  | waitHalted core _ => core.session desk
  | resume core => core.session desk
  | reset core => core.session desk
  | clearBreakpoints core => core.session desk
  | readRegister core _ => core.session desk
  | writeRegister core _ _ => core.session desk
  | readThrough core _ => core.session desk
  | readCounter core => core.session desk
  | takeSample core => core.session desk
  | measure core => core.session desk
  | nextRecord => desk.surveyed
  | _ => desk.session desk.current

/-- The step writes no word by hand, and a core register that it names can be named. -/
def IsControl : Step → Prop
  | write _ _ => False
  | readRegister _ register => IsRegisterNumber register
  | writeRegister _ register _ => IsRegisterNumber register
  | _ => True

def Permits (step : Step) (address value : Int) : Prop :=
  step.IsControl → ControlWrite address value

theorem sends_found {step : Step} {α : Type} {act : Act Desk α} {f : α → Finding}
    (h : Sends step.Permits (fun desk => step.session desk) act) :
    Sends step.Permits (fun desk => step.session desk) (act >>= fun a => pure (f a)) :=
  h.bind_still fun _ _ => rfl

theorem sends_take (settings : Settings) (step : Step) :
    Sends step.Permits (fun desk => step.session desk) (step.take settings) := by
  have control {α : Type} {act : Act Connection α} (h : Session.KeepsTo ControlWrite act) :
      Session.KeepsTo step.Permits act :=
    h.mono fun _ _ write _ => write
  have bench {α : Type} {act : Act Bench α} (h : Bench.KeepsTo ControlWrite act) :
      Sends step.Permits (fun desk => desk.session desk.current) (onCurrent act) :=
    (sends_onCurrent h).mono fun _ _ write _ => write
  have closed : Sends step.Permits (fun desk => desk.session desk.current) Session.close :=
    sends_of_any fun _ => .emit fun _ => trivial
  cases step with
  | attach target expected timeout => exact sends_found (sends_attach target expected timeout)
  | reconnect => exact sends_found (sends_onSession Session.keepsTo_reconnect)
  | architecture => exact sends_found (sends_onSession (.reads _))
  | status => exact sends_found (sends_onSession (.reads _))
  | close => exact sends_found closed
  | enterAndLeave => exact sends_found closed
  | read address => exact sends_found (sends_onSession (Session.keepsTo_readWord _))
  | write address value =>
      exact sends_found (sends_onSession (Session.keepsTo_writeWord fun byHand => byHand.elim))
  | borrow index name => exact sends_found (sends_borrow index name)
  | release name failing => exact sends_found (sends_release name)
  | isHalted core => exact sends_found (sends_onCore core fun _ => Core.keepsTo_isHalted)
  | halt core timeout =>
      exact sends_found (sends_onCore core fun core => control (Core.keepsTo_halt core timeout))
  | waitHalted core timeout =>
      exact sends_found (sends_onCore core fun core => Core.keepsTo_waitHalted core timeout)
  | resume core =>
      exact sends_found (sends_onCore core fun core => control (Core.keepsTo_resume core))
  | reset core => exact sends_found (sends_onCore core fun _ => control Core.keepsTo_reset)
  | clearBreakpoints core =>
      exact sends_found (sends_onCore core fun _ => control Core.keepsTo_clearBreakpoints)
  | readRegister core register =>
      exact sends_found (sends_onCore core fun _ => Core.keepsTo_readRegister register)
  | writeRegister core register value =>
      exact sends_found (sends_onCore core fun _ => Core.keepsTo_writeRegister register value)
  | readThrough core address =>
      exact sends_found (sends_onCore core fun _ => Session.keepsTo_readWord _)
  | readCounter core => exact sends_found (sends_onCore core fun _ => Core.keepsTo_readCounter)
  | takeSample core =>
      exact sends_found (sends_onCore core fun core => control (Sample.keepsTo_take core _ _))
  | measure core =>
      exact sends_found (sends_onCore core fun core => control (Sample.keepsTo_measure core _ _))
  | measureImage path => exact sends_found (bench (Bench.keepsTo_measureImage settings path))
  | checkFile path => exact sends_found (sends_onHost (Image.keepsFiles_checkFile _))
  | deploy path => exact sends_found (bench (Bench.keepsTo_deploy settings path))
  | symbolAddress path symbol =>
      apply (sends_onHost (Image.keepsFiles_symbolAddress _ _)).bind_still
      intro found desk
      cases found <;> rfl
  | markerCount path symbol => exact sends_found (sends_onHost (Image.keepsFiles_markerCount _ _))
  | checkMarkers path symbol => exact sends_found (sends_onHost (Image.keepsFiles_checkMarkers _ _))
  | entryAddress path symbol => exact sends_found (sends_onHost (Engine.keepsFiles_entryAddress _ _))
  | explore path symbol given =>
      exact .behind_still (fun _ => ⟨rfl, rfl⟩) fun options =>
        sends_found (sends_onHost (Engine.keepsFiles_explore settings options path symbol))
  | bound path symbol given =>
      exact .behind_still (fun _ => ⟨rfl, rfl⟩) fun options =>
        sends_found (sends_onHost (Engine.keepsFiles_bound settings options path symbol))
  | images path =>
      exact .behind_still (fun _ => ⟨rfl, rfl⟩) fun files => sends_found (sends_of_any fun _ => .ofExcept _)
  | record path => exact sends_found (bench (Bench.keepsTo_record settings _))
  | beginSurvey path =>
      exact sends_found (sends_of_any fun _ => .change fun _ => rfl)
  | nextRecord =>
      apply ((sends_nextRecord settings).mono fun _ _ write _ => write).bind_still
      intro row desk
      cases row <;> rfl
  | printTable path => exact sends_found (bench (Bench.keepsTo_printTable settings path))

/-- The requests of a step stay in the frame of the session that it acts on, whatever the probe answers
and however the step ends. -/
theorem take_keeps_traffic (settings : Settings) (desk : Desk) (step : Step) (base : String)
    (request : Request) (timeout : Float) (reply : Reply)
    (sent : .requested base request timeout reply ∈ ((step.take settings).run desk).events) :
    base = (step.session desk).url ∧ timeout = (step.session desk).timeout ∧
      ((step.session desk).url ++ "/target/").toList <+: (request.url base).toList ∧
      (step.IsControl → ∀ address value, request = .write address value →
        ControlWrite address value) := by
  obtain ⟨same, bounded, permitted⟩ := sends_take settings step desk _ sent
  have same : base = (step.session desk).url := same
  refine ⟨same, bounded, ?_, ?_⟩
  · rw [← same]
    exact Request.target_isPrefix base request
  · exact fun control address value write => permitted address value write control

/-- A value below zero is written as a word to the last register that can be named, and the link has no
reply to it. -/
theorem take_keeps_traffic_wrapping :
    let settings : Settings := { probe := "192.168.4.1" }
    let session : Session := { url := "http://192.168.4.1/api" }
    let desk : Desk := { host := ⟨[], [], .empty⟩, link := { answers := [] }, sessions := [session] }
    let step : Step := .writeRegister (.fresh 0) 0xFFFF (-1)
    .requested session.url (.write 0xE000EDF8 0xFFFFFFFF) session.timeout Link.exhausted.reply ∈
        ((step.take settings).run desk).events ∧
      ControlWrite 0xE000EDF8 0xFFFFFFFF := by
  intro settings session desk step
  have sent : .requested session.url (.write 0xE000EDF8 0xFFFFFFFF) session.timeout
      Link.exhausted.reply ∈ ((step.take settings).run desk).events := .head _
  have traffic := take_keeps_traffic settings desk step _ _ _ _ sent
  exact ⟨sent, traffic.2.2.2 ⟨by decide, by decide⟩ _ _ rfl⟩

end Step

end TickBound
