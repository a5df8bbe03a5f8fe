import TickBound.Bench.Link
import TickBound.Json.Display
import TickBound.Json.Reader
import TickBound.Probe.Register

/-!
# Sessions with a target

A session is the one connection to a target behind a probe. It reads and writes words of target memory
and lends out each core at most once at a time. Setting the connection up again changes the session only
if it succeeds.
-/

namespace TickBound

structure Session where
  url : String
  /-- The bound on every request, in seconds. -/
  timeout : Float := 5.0
  /-- What the target last reported of itself. -/
  status : Json.Members := []
  /-- The cores that are lent out. -/
  borrowed : List Int := []

/-- A session and the link that it goes over. -/
structure Connection where
  link : Link
  session : Session

def Connection.onLink {α : Type} (act : Act Link α) : Act Connection α :=
  act.within Connection.link fun c link => { c with link }

namespace Session

/-- What stands for a part of the status that the target does not report. -/
def unreported : Json := .string "unknown"

/-- The target's own name for what it is. -/
def architecture (session : Session) : Json :=
  Json.Members.getD session.status "mcu" unreported

def transfer (request : Request) : Act Connection Reply := do
  let session ← .reads Connection.session
  Connection.onLink (Link.request session.url session.timeout request)

def close {σ : Type} : Act σ Unit :=
  .emit .closed

/-! ## Words of memory -/

/-- The word that the body of a reply holds: a string of hexadecimal digits under `data`, of which the
low 32 bits count. -/
def wordIn? (text : String) : Option Word :=
  match Json.read text with
  | .ok (.object members) =>
      match Json.Members.get? members "data" with
      | some (.string digits) => (digits.whole?.bind Number.hexInteger?).map (BitVec.ofInt 32)
      | _ => none
  | _ => none

def readWord (address : Int) : Act Connection Word := do
  match ← transfer (.read address) with
  | .broken reason => .fail (.outside (.transport reason))
  | .refused reason => .fail (.memory (.readFailed address reason))
  | .answered status text =>
      if status ≠ 200 then .fail (.memory (.readFailed address text))
      else
        match wordIn? text with
        | some w => pure w
        | none => .fail (.memory (.readUnusable address text))

def writeWord (address value : Int) : Act Connection Unit := do
  match ← transfer (.write address value) with
  | .broken reason => .fail (.outside (.transport reason))
  | .refused reason => .fail (.memory (.writeFailed address reason))
  | .answered status text =>
      if status ≠ 200 then .fail (.memory (.writeFailed address text)) else pure ()

/-! ## Setting up the connection -/

/-- The status that the body of a reply reports, if it says that the target is connected. -/
def statusIn (url text : String) : Except Fault Json.Members :=
  match Json.read text with
  | .error refusal => .error (.outside (.statusText refusal))
  | .ok (.object members) =>
      match Json.Members.getD members "status" (.object []) with
      | .object status =>
          if (Json.Members.getD status "connected" (.bool false)).isTruthy then .ok status
          else .error (.attach (.notConnected url))
      | _ => .error (.outside .statusShape)
  | .ok _ => .error (.outside .statusShape)

/-- What is reported of a target that is connected. -/
def welcome (status : Json.Members) : String :=
  let mcu := (Json.Members.getD status "mcu" unreported).display.shown
  let idcode := (Json.Members.getD status "idcode" unreported).display.shown
  s!"Target connected: MCU {mcu} IDCODE {idcode}"

/-- Sets up the connection to the target again. The depth of what the target answers is not limited. -/
def reconnect : Act Connection Json.Members := do
  let url ← .reads fun c => c.session.url
  match ← transfer .reset with
  | .broken reason => .fail (.outside (.transport reason))
  | .refused reason => .fail (.attach (.unreachable url reason))
  | .answered code text =>
      if code ≠ 200 then .fail (.attach (.resetRefused text))
      else
        let status ← .ofExcept (statusIn url text)
        .change fun c => { c with session := { c.session with status } }
        .note .info .probe (welcome status)
        pure status

/-- The address of the probe of that name: a host gets a scheme, and slashes at the end of an address do
not count. -/
def address (target : String) : String :=
  let cs := target.toList
  if "http".toList.isPrefixOf cs then
    String.ofList (cs.reverse.dropWhile (· = '/')).reverse ++ "/api"
  else "http://" ++ target ++ "/api"

/-- Runs an activity on a new session, which is part of its result. -/
def opening {α : Type} (session : Session) (act : Act Connection α) : Act Link (α × Session) :=
  ⟨fun link =>
    let course := act.run ⟨link, session⟩
    ⟨course.result.map fun a => (a, course.final.session), course.events, course.final.link⟩⟩

/-- Opens a session with the target behind a probe, which has to report the expected name; an empty
expectation lets every target pass. -/
def attach (target : String) (expected : Option String) (timeout : Float) : Act Link Session := do
  let connected := Act.onFault (·.isA .attach) reconnect close
  let (status, session) ← opening { url := address target, timeout } connected
  let reported := (Json.Members.getD status "mcu" unreported).display
  match expected with
  | none => pure session
  | some name =>
      if name = "" || reported.mentions name then pure session
      else
        close
        .fail (.attach (.otherTarget name reported.shown))

/-! ## Lending cores -/

/-- Takes a core, unless it is lent out already. -/
def borrow (index : Int) : Act Connection Unit := do
  if (← .reads fun c => c.session.borrowed).contains index then
    .fail (.showing index (.busy index))
  else
    .change fun c => { c with session := { c.session with borrowed := index :: c.session.borrowed } }

def release (index : Int) : Act Connection Unit :=
  .change fun c => { c with session := { c.session with borrowed := c.session.borrowed.erase index } }

def borrowing {α : Type} (index : Int) (act : Act Connection α) : Act Connection α := do
  borrow index
  act.ensuring (release index)

end Session

end TickBound
