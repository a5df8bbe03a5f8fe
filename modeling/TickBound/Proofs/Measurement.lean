import TickBound.Proofs.BenchFrame
import TickBound.Proofs.Phases

/-!
# The phases of a measurement

An image is checked, written to the target, measured on it and explored by the engine. Each operation is
compared with its phase, which names the programs that are started and what has to come of them before
the measurement goes on.
-/

namespace TickBound

/-- The path name leads to a file that begins with the four bytes of an image. -/
def FileTree.HasImage (files : FileTree) (path : String) : Prop :=
  ∃ bytes, files.readFile (Path.normal path) = .ok bytes ∧ bytes.take 4 = [0x7F, 0x45, 0x4C, 0x46]

/-- The text reports a target that is connected. -/
def ReportsConnected (text : String) : Prop :=
  ∃ members status,
    Json.read text = .ok (.object members) ∧
    Json.Members.getD members "status" (.object []) = .object status ∧
    (Json.Members.getD status "connected" (.bool false)).isTruthy = true

namespace Phase

def tool (line : List String) : Phase String := do
  let finished ← runs line none none
  known fun output => finished.code = 0 ∧ output = finished.output

/-- A listing that has the symbol, for its address. -/
def listing (path symbol : String) : Phase Nat := do
  let output ← tool ["/usr/bin/arm-none-eabi-nm", path]
  known fun address => SymbolLine.find? output.toList symbol.toList = some address

/-- A listing that has the symbol and a disassembly of it, for the address and the number of markers. -/
def inspection (path symbol : String) : Phase (Nat × Nat) := do
  let output ← tool ["/usr/bin/arm-none-eabi-nm", path]
  let address ← known fun address => SymbolLine.find? output.toList symbol.toList = some address
  let listing ← tool ["/usr/bin/arm-none-eabi-objdump", "-d", "--disassemble=" ++ symbol, path]
  known fun found => found = (address, Disassembly.countMarkers listing.toList)

def marking (path symbol : String) : Phase Unit := do
  let found ← inspection path symbol
  known fun _ => found.2 = 2

def checking (settings : Settings) (path : String) : Phase Unit := do
  if settings.verifyMarkers then marking path settings.entrySymbol
  let _ ← listing path settings.entrySymbol

def flashing (settings : Settings) (files : FileTree) (path : String) (flash : List String) :
    Phase Unit := do
  known fun _ => files.HasImage path
  let finished ← runs flash none (some settings.flashTimeout)
  known fun _ => finished.code = 0

/-- A request to set up the connection again, and a reply that reports the target connected. -/
def connecting (session : Session) : Phase Json.Members where
  begun events := ∃ reply, events = [.requested session.url .reset session.timeout reply]
  through _ events := ∃ text,
    events = [.requested session.url .reset session.timeout (.answered 200 text)] ∧
      ReportsConnected text

def deploying (settings : Settings) (files : FileTree) (path : String) (flash : List String)
    (session : Session) : Phase Unit := do
  flashing settings files path flash
  let _ ← connecting session

/-- The protocol of a sample over the session, and a count from the words of a complete sample. -/
def sampling (session : Session) (offset : Int) : Phase Int where
  begun events := (∀ event ∈ events, session.Carries event) ∧
    Protocol.sampling.Begins (exchanges events)
  through n events := (∀ event ∈ events, session.Carries event) ∧
    ∃ words, Protocol.sampling.Completes (exchanges events) words ∧
      (Sample.ofWords offset words).cycles = .ok n

def measuring (settings : Settings) (files : FileTree) (path : String) (flash : List String)
    (session : Session) : Phase Int := do
  deploying settings files path flash session
  sampling session settings.calibrationOffset

def exploring (settings : Settings) (path : String) (explore : List String) : Phase (List Nat) := do
  let _ ← listing path settings.entrySymbol
  let finished ← runs explore (some ({} : EngineOptions).text) none
  known fun bounds => finished.code = 0 ∧ Bounds.parse finished.output = .ok bounds

def bounding (settings : Settings) (path : String) (explore : List String) : Phase Nat := do
  let bounds ← exploring settings path explore
  known fun bound => Bounds.worst bounds = .ok bound

def recording (settings : Settings) (files : FileTree) (path : String) (flash explore : List String)
    (session : Session) : Phase Record := do
  checking settings path
  let measured ← measuring settings files path flash session
  let bound ← bounding settings path explore
  known fun record => record = ⟨Path.name path, measured, bound⟩

end Phase

/-! ## Programs of the host -/

namespace Host

def behind (host : Host) : Host :=
  { host with outcomes := host.outcomes.tail }

theorem run_start {host : Host} {outcome : Outcome} (h : host.outcomes.headD .notFound = outcome)
    (arguments : List String) (input : Option String) (limit : Option Float) :
    (start arguments input limit).run host =
      ⟨.ok outcome, [.ran arguments input limit outcome], host.behind⟩ := by
  subst h
  rfl

theorem run_passes (arguments : List String) (input : Option String) (limit : Option Float)
    (host : Host) : (run arguments input limit).Passes (.runs arguments input limit) host := by
  cases arguments with
  | nil => exact .inl rfl
  | cons program more =>
      unfold Act.Passes
      cases h : host.outcomes.headD .notFound with
      | ended code output errors =>
          rw [run, Act.run_bind, run_start h]
          rfl
      | notFound | denied | timedOut =>
          rw [run, Act.run_bind, run_start h]
          exact .inr ⟨_, rfl⟩

theorem toolOutput_passes (name : String) (arguments : List String) (host : Host) :
    (toolOutput name arguments).Passes (.tool (toolPlace name :: arguments)) host := by
  refine .skip (Act.run_reads _ _) rfl ?_
  split
  · exact .fail (Or.inl (Or.inl rfl)) _ _
  · refine .bind (run_passes _ _ _ _) fun finished _ => ?_
    split
    · exact .fail rfl _ _
    · next ok => exact ⟨rfl, by simpa using ok, rfl⟩

end Host

namespace Image

theorem inspect_passes (path symbol : String) (host : Host) :
    (inspect path symbol).Passes (.inspection path symbol) host := by
  rw [inspect, symbolAddress, bind_assoc]
  refine .bind (Host.toolOutput_passes _ _ _) fun output _ => ?_
  rw [pure_bind]
  cases h : SymbolLine.find? output.toList symbol.toList with
  | none => exact .fail (Or.inl rfl) _ _
  | some address =>
      refine .knowing address ?_ ?_
      · rfl
      · change (markerCount path symbol >>= fun count => pure (address, count)).Passes _ _
        rw [markerCount, bind_assoc]
        exact .bind (Host.toolOutput_passes _ _ _) fun listing _ => ⟨rfl, rfl⟩

theorem checkMarkers_passes (path symbol : String) (host : Host) :
    (checkMarkers path symbol).Passes (.marking path symbol) host := by
  refine .bind (.mapFault (inspect_passes path symbol host)) fun found _ => ?_
  obtain ⟨address, count⟩ := found
  change (if count ≠ markersPerRegion then _ else _ : Act Host Unit).Passes _ _
  split
  · exact .fail rfl _ _
  · next both => exact ⟨rfl, by simpa [markersPerRegion] using both⟩

theorem checkFile_passes (path : String) (host : Host) :
    (checkFile path).Passes (.known fun _ => host.files.HasImage path) host := by
  refine .skip (Act.run_reads _ _) rfl (.ofExcept (fun _ checked => ?_) _)
  simp only [check] at checked
  split at checked
  · cases checked
  · split at checked
    · cases checked
    · next bytes read =>
        split at checked
        · next marked => exact ⟨bytes, read, marked⟩
        · cases checked

theorem write_passes {settings : Settings} {path : String} {flash : List String}
    (h : settings.flashArguments path = .ok flash) (host : Host) :
    (write settings path).Passes (.flashing settings host.files path flash) host := by
  refine .bind (checkFile_passes path host) fun _ _ => ?_
  rw [h]
  refine .skip (Act.run_ofExcept _ _) rfl ?_
  refine .skip (Act.run_note _ _ _ _) rfl (.skip (Act.run_note _ _ _ _) rfl ?_)
  refine .bind (.mapFault (Host.run_passes _ _ _ _)) fun finished _ => ?_
  split
  · exact .fail rfl _ _
  · next ended => exact ⟨rfl, by simpa using ended⟩

end Image

namespace Engine

theorem entryAddress_passes (path entry : String) (host : Host) :
    (entryAddress path entry).Passes (.listing path entry) host := by
  rw [entryAddress, Image.symbolAddress, Act.mapFault_bind, bind_assoc]
  refine .bind (.mapFault (Host.toolOutput_passes _ _ _)) fun output _ => ?_
  rw [Act.mapFault_pure, pure_bind]
  cases h : SymbolLine.find? output.toList entry.toList with
  | none => exact .fail rfl _ _
  | some address => exact ⟨rfl, rfl⟩

theorem explore_passes {settings : Settings} {path : String} {explore : List String}
    (h : settings.exploreArguments path settings.entrySymbol = .ok explore) (host : Host) :
    (Engine.explore settings {} path settings.entrySymbol).Passes
      (.exploring settings path explore) host := by
  refine .bind (entryAddress_passes _ _ _) fun address _ => ?_
  refine .skip (Act.run_note _ _ _ _) rfl ?_
  rw [h]
  refine .skip (Act.run_ofExcept _ _) rfl ?_
  refine .bind (.mapFault (Host.run_passes _ _ _ _)) fun finished _ => ?_
  split
  · exact .fail rfl _ _
  · next ended =>
      cases parsed : Bounds.parse finished.output with
      | error fault => exact .fail rfl _ _
      | ok bounds => exact ⟨rfl, by simpa using ended, rfl⟩

theorem bound_passes {settings : Settings} {path : String} {explore : List String}
    (h : settings.exploreArguments path settings.entrySymbol = .ok explore) (host : Host) :
    (bound settings {} path settings.entrySymbol).Passes (.bounding settings path explore) host := by
  refine .bind (explore_passes h host) fun bounds _ => .ofExcept (fun bound worst => ?_) _
  cases hw : Bounds.worst bounds with
  | error fault =>
      rw [hw] at worst
      cases worst
  | ok most =>
      rw [hw] at worst
      cases worst
      rfl

end Engine

/-! ## The connection -/

namespace Session

theorem reportsConnected_of_statusIn {url text : String} {status : Json.Members}
    (h : statusIn url text = .ok status) : ReportsConnected text := by
  unfold statusIn at h
  split at h
  · cases h
  · next members parsed =>
      split at h
      · next reported =>
          split at h
          · next connected => exact ⟨members, _, parsed, reported, connected⟩
          · cases h
      · cases h
  · cases h

theorem reconnect_passes (c : Connection) : reconnect.Passes (.connecting c.session) c := by
  unfold Act.Passes
  cases told : answer c.session.url c.link.next.1 with
  | error fault =>
      rw [reconnect_of_unanswered told]
      exact ⟨_, rfl⟩
  | ok status =>
      obtain ⟨text, came, reported⟩ := told_of_answer told
      rw [reconnect_of_answer told, Connection.sent, came]
      exact ⟨text, rfl, reportsConnected_of_statusIn reported⟩

end Session

theorem exchanges_external (events : List Event) : exchanges (external events) = exchanges events := by
  induction events with
  | nil => rfl
  | cons event events ih =>
      cases event with
      | requested base request timeout reply =>
          rw [external_requested, exchanges_requested, exchanges_requested, ih]
      | closed | slept | ran | noted | printed => exact ih

theorem mem_external {event : Event} {events : List Event} (h : event ∈ external events) :
    event ∈ events :=
  (List.mem_filter.mp h).1

namespace Sample

theorem measure_events (core : Core) (timeout : Float) (offset : Int) (c : Connection) :
    ((measure core timeout offset).run c).events = ((take core timeout offset).run c).events := by
  rw [measure, Act.run_bind]
  cases h : ((take core timeout offset).run c).result with
  | ok sample => simp [Course.follow_of_ok h]
  | error fault => simp [Course.follow_of_error h]

theorem measure_passes (core : Core) (timeout : Float) (offset : Int) (c : Connection) :
    (measure core timeout offset).Passes (.sampling c.session offset) c := by
  have carried : ∀ event ∈ external ((measure core timeout offset).run c).events,
      c.session.Carries event := by
    intro event mem
    rw [measure_events] at mem
    exact ((take_follows core timeout offset).isCarried c).2 event (mem_external mem)
  have requests : exchanges (external ((measure core timeout offset).run c).events) =
      exchanges ((take core timeout offset).run c).events := by
    rw [exchanges_external, measure_events]
  refine .intro (fun n ok => ⟨carried, ?_⟩) fun fault _ => ⟨carried, ?_⟩
  · rw [measure, Act.run_bind, Course.follow_result_ok] at ok
    obtain ⟨sample, taken, cycles⟩ := ok
    obtain ⟨words, complete, rfl⟩ := take_result.mp taken
    exact ⟨words, requests ▸ complete, cycles⟩
  · rw [requests]
    exact take_begins core timeout offset c

end Sample

namespace Bench

theorem measureOn_passes (settings : Settings) (core : Core) (c : Connection) :
    (measureOn settings core).Passes (.sampling c.session settings.calibrationOffset) c := by
  have none : (Phase.sampling c.session settings.calibrationOffset).begun [] := by
    simpa [Phase.sampling] using Protocol.Begins.nothing _
  by_cases lent : c.session.borrowed.contains core.index
  · -- nothing is sent, which begins the protocol
    have busy : (Session.borrow core.index).run c =
        ⟨.error (.showing core.index (.busy core.index)), [], c⟩ := by
      rw [Session.borrow, Act.run_bind, Act.run_reads, Course.follow_ok, if_pos lent]
      rfl
    unfold Act.Passes
    rw [measureOn, Session.borrowing, Act.run_bind, busy]
    exact none
  · have taken : (Session.borrow core.index).run c =
        ⟨.ok (), [], { c with session :=
          { c.session with borrowed := core.index :: c.session.borrowed } }⟩ := by
      rw [Session.borrow, Act.run_bind, Act.run_reads, Course.follow_ok, if_neg lent]
      rfl
    refine .skip taken rfl ?_
    refine .ensuring ?_ fun _ => rfl
    exact Sample.measure_passes core _ _ _

theorem preflight_passes (settings : Settings) (path : String) (host : Host) :
    (preflight settings path).Passes (.checking settings path) host := by
  refine .ite (fun _ => ?_) fun _ => ?_
  · refine .bind (Image.checkMarkers_passes _ _ _) fun _ _ => ?_
    exact .bind (Engine.entryAddress_passes _ _ _) fun _ _ => .pure _ _
  · exact .bind (Engine.entryAddress_passes _ _ _) fun _ _ => .pure _ _

variable {settings : Settings} {path : String} {flash explore : List String}

theorem deploy_passes (h : settings.flashArguments path = .ok flash) (bench : Bench) :
    (Image.deploy settings path).Passes
      (.deploying settings bench.host.files path flash bench.connection.session) bench :=
  .bind (.within (Image.write_passes h _)) fun _ _ =>
    .bind (.within (Session.reconnect_passes _)) fun _ _ => .pure _ _

theorem measureImage_passes (h : settings.flashArguments path = .ok flash) (bench : Bench) :
    (measureImage settings path).Passes
      (.measuring settings bench.host.files path flash bench.connection.session) bench := by
  refine .bind (deploy_passes h bench) fun _ _ => ?_
  -- the session behind the deployment is another one, but it carries the same
  have same : ((Image.deploy settings path).run bench).final.connection.session.Carries =
      bench.connection.session.Carries :=
    congrArg Prod.snd (keepsFrame_deploy settings path bench).1
  have sampled := measureOn_passes settings {}
    ((Image.deploy settings path).run bench).final.connection
  simp only [Phase.sampling, same] at sampled
  exact .within sampled

theorem record_passes (hf : settings.flashArguments path = .ok flash)
    (he : settings.exploreArguments path settings.entrySymbol = .ok explore) (bench : Bench) :
    (record settings path).Passes
      (.recording settings bench.host.files path flash explore bench.connection.session) bench := by
  refine .bind (.within (preflight_passes settings path _)) fun _ _ => ?_
  have same := congrArg Prod.fst (keepsFrame_preflight settings path bench).1
  refine .bind ?_ fun measured _ => .bind (.within (Engine.bound_passes he _)) fun bound _ => ?_
  · have measured := measureImage_passes hf ((onHost (preflight settings path)).run bench).final
    simp only [frame] at same
    rw [same] at measured
    exact measured
  · generalize Number.fitsDecimal measured = fits
    cases fits with
    | false => exact (rfl : (Phase.known _).begun [])
    | true => exact ⟨rfl, rfl⟩

end Bench

end TickBound
