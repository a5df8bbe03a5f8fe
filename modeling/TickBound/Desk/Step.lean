import TickBound.Desk.Basic

/-!
# Steps at the desk

The single things that can be done at a desk, each of which gives a finding or a fault. A fault of one
step does not keep the next one from being taken.
-/

namespace TickBound

inductive Step where
  | attach (target : String) (expected : Option String) (timeout : Float)
  | reconnect
  | architecture
  | status
  | close
  /-- Uses the session for nothing and closes it. -/
  | enterAndLeave
  | read (address : Int)
  | write (address value : Int)
  | borrow (index : Int) (name : String)
  /-- Gives a core back, whether or not the work on it came to its end. -/
  | release (name : String) (failing : Bool)
  | isHalted (core : Desk.CoreChoice)
  | halt (core : Desk.CoreChoice) (timeout : Float)
  | waitHalted (core : Desk.CoreChoice) (timeout : Float)
  | resume (core : Desk.CoreChoice)
  | reset (core : Desk.CoreChoice)
  | clearBreakpoints (core : Desk.CoreChoice)
  | readRegister (core : Desk.CoreChoice) (register : Int)
  | writeRegister (core : Desk.CoreChoice) (register value : Int)
  | readThrough (core : Desk.CoreChoice) (address : Int)
  | readCounter (core : Desk.CoreChoice)
  | takeSample (core : Desk.CoreChoice)
  | measure (core : Desk.CoreChoice)
  | measureImage (path : String)
  | checkFile (path : String)
  | deploy (path : String)
  | symbolAddress (path symbol : String)
  | markerCount (path symbol : String)
  | checkMarkers (path symbol : String)
  | entryAddress (path symbol : String)
  | explore (path symbol : String) (options : Json.Members)
  | bound (path symbol : String) (options : Json.Members)
  | images (path : String)
  | record (path : String)
  | beginSurvey (path : String)
  | nextRecord
  | printTable (path : String)

inductive Finding where
  | nothing
  | flag (value : Bool)
  | number (value : Int)
  | text (value : String)
  | value (value : Json)
  | sample (value : Sample)
  | bounds (values : List Nat)
  | images (paths : List String)
  | record (value : Record)

namespace Step

/-- A step that finds nothing. -/
def silent {σ : Type} (act : Act σ Unit) : Act σ Finding := do
  act
  pure .nothing

def take (settings : Settings) : Step → Act Desk Finding
  | attach target expected timeout => do
      pure (.text (← Desk.attach target expected timeout))
  | reconnect => do pure (.value (.object (← Desk.onSession Session.reconnect)))
  | architecture => do
      pure (.value (← Desk.onSession (.reads fun c => c.session.architecture)))
  | status => do
      pure (.value (.object (← Desk.onSession (.reads fun c => c.session.status))))
  | close => silent Session.close
  | enterAndLeave => do
      Session.close
      pure (.flag true)
  | read address => do pure (.number (← Desk.onSession (Session.readWord address)).toNat)
  | write address value => silent (Desk.onSession (Session.writeWord address value))
  | borrow index name => do
      Desk.borrow index name
      pure (.number index)
  | release name _ => do
      Desk.release name
      pure (.flag false)
  | isHalted core => do pure (.flag (← Desk.onCore core fun _ => Core.isHalted))
  | halt core timeout => silent (Desk.onCore core (·.halt timeout))
  | waitHalted core timeout => silent (Desk.onCore core (·.waitHalted timeout))
  | resume core => silent (Desk.onCore core (·.resume))
  | reset core => silent (Desk.onCore core fun _ => Core.reset)
  | clearBreakpoints core => silent (Desk.onCore core fun _ => Core.clearBreakpoints)
  | readRegister core register => do
      pure (.number (← Desk.onCore core fun _ => Core.readRegister register).toNat)
  | writeRegister core register value =>
      silent (Desk.onCore core fun _ => Core.writeRegister register value)
  | readThrough core address => do
      pure (.number (← Desk.onCore core fun _ => Session.readWord address).toNat)
  | readCounter core => do pure (.number (← Desk.onCore core fun _ => Core.readCounter))
  | takeSample core => do
      pure (.sample (← Desk.onCore core fun core =>
        Sample.take core settings.haltTimeout settings.calibrationOffset))
  | measure core => do
      pure (.number (← Desk.onCore core fun core =>
        Sample.measure core settings.haltTimeout settings.calibrationOffset))
  | measureImage path => do pure (.number (← Desk.onCurrent (Bench.measureImage settings path)))
  | checkFile path => silent (Desk.onHost (Image.checkFile path))
  | deploy path => silent (Desk.onCurrent (Image.deploy settings path))
  | symbolAddress path symbol => do
      match ← Desk.onHost (Image.symbolAddress path symbol) with
      | some address => pure (.number address)
      | none => pure .nothing
  | markerCount path symbol => do
      pure (.number (← Desk.onHost (Image.markerCount path symbol)))
  | checkMarkers path symbol => silent (Desk.onHost (Image.checkMarkers path symbol))
  | entryAddress path symbol => do
      pure (.number (← Desk.onHost (Engine.entryAddress path symbol)))
  | explore path symbol given => do
      let options ← .ofExcept (EngineOptions.ofMembers given)
      pure (.bounds (← Desk.onHost (Engine.explore settings options path symbol)))
  | bound path symbol given => do
      let options ← .ofExcept (EngineOptions.ofMembers given)
      pure (.number (← Desk.onHost (Engine.bound settings options path symbol)))
  | images path => do
      let files ← .reads fun desk => desk.host.files
      pure (.images (← .ofExcept (Corpus.images files path)))
  | record path => do
      pure (.record (← Desk.onCurrent (Bench.record settings (Path.normal path))))
  | beginSurvey path => silent (Desk.beginSurvey path)
  | nextRecord => do
      match ← Desk.nextRecord settings with
      | some row => pure (.text row.text)
      | none => pure .nothing
  | printTable path => silent (Desk.onCurrent (Bench.printTable settings path))

end Step

namespace Desk

/-- Takes steps one after another, with what came of each. -/
def takeAll (settings : Settings) : List Step → Desk → List (Except Fault Finding × List Event)
  | [], _ => []
  | step :: more, desk =>
      let course := (step.take settings).run desk
      (course.result, course.events) :: takeAll settings more course.final

end Desk

end TickBound
