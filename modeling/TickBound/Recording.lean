import TickBound.Bench.Basic
import TickBound.Json.Printer

/-!
# Recorded worlds

A world can be laid down as a data value: the replies of the probe, what becomes of the programs that
are started, the tools that are missing, and the files. What a recording does not mention is absent.
-/

namespace TickBound

namespace Recording

/-! ## Parts of a value -/

/-- The members of an object; anything else has none. -/
def membersOf : Json → Json.Members
  | .object members => members
  | _ => []

/-- The items of an array; anything else has none. -/
def itemsOf : Json → List Json
  | .array items => items
  | _ => []

/-- A string, or the default. -/
def stringOr (default : String) : Option Json → String
  | some (.string s) => s.shown
  | _ => default

/-- An integer, also as a string of digits, or the default. -/
def integerOr (default : Int) : Option Json → Int
  | some (.int n) => n
  | some (.string s) =>
      let (negative, digits) := Number.takeSign s.chars
      Number.signed negative (Number.plainDigits digits)
  | _ => default

/-- A number, also by name, or the default. -/
def realOr (default : Float) : Option Json → Float
  | some (.real x) => x
  | some (.int n) => Number.nearestReal (n < 0) n.natAbs 0
  | some (.string s) => (Number.real? s.chars).getD default
  | _ => default

/-! ## Replies -/

/-- The reply with a word under `data`. -/
def wordReply (n : Int) : Reply :=
  .answered 200 (Json.object [("data", .string (Request.dataText n))]).text

/-- One reply by its members. -/
def replyOf (members : Json.Members) : Answer :=
  let reply := match Json.Members.get? members "raise" with
    | some cause =>
        let message := stringOr "" (Json.Members.get? members "message")
        if stringOr "" (some cause) = "os" then .broken message else .refused message
    | none =>
        .answered (integerOr 200 (Json.Members.get? members "status"))
          (stringOr "" (Json.Members.get? members "text"))
  ⟨reply, realOr 0 (Json.Members.get? members "took")⟩

mutual

/-- The replies that a value stands for: an empty object, a word, a reply of its own, or the same
replies several times over. -/
def answersOf : Json → List Answer
  | .null => [⟨.answered 200 (Json.object []).text, 0⟩]
  | .int n => [⟨wordReply n, 0⟩]
  | .object members =>
      match repeated? members with
      | some answers =>
          (List.replicate (integerOr 1 (Json.Members.get? members "times")).toNat answers).flatten
      | none => [replyOf members]
  | _ => []

/-- The replies under `reply`. -/
def repeated? : List (DataText × Json) → Option (List Answer)
  | [] => none
  | (name, value) :: more => if name = "reply" then some (answersOf value) else repeated? more

end

/-! ## Programs and files -/

/-- What becomes of a program. -/
def outcomeOf (value : Json) : Outcome :=
  let members := membersOf value
  match Json.Members.get? members "raise" with
  | some cause =>
      match stringOr "" (some cause) with
      | "permission" => .denied
      | "timeout" => .timedOut
      | _ => .notFound
  | none =>
      .ended (integerOr 0 (Json.Members.get? members "rc"))
        (stringOr "" (Json.Members.get? members "stdout"))
        (stringOr "" (Json.Members.get? members "stderr"))

/-- Bytes by their hexadecimal digits. -/
def bytesOf : List Char → List UInt8
  | a :: b :: rest =>
      let high := (Number.digitIn? 16 a).getD 0
      let low := (Number.digitIn? 16 b).getD 0
      UInt8.ofNat (high * 16 + low) :: bytesOf rest
  | _ => []

/-- The bytes of a file of which nothing else is said: just the mark of an image. -/
def usualBytes : String := "7f454c46"

/-- Where the working directory of a recorded world lies; a recording does not tell. -/
def workplace : FileTree.Place := ["tmp", "recording"]

/-- A file, a directory or a link, with its place. -/
def nodeOf (value : Json) : FileTree.Place × FileNode :=
  let members := membersOf value
  let below := (Path.components (stringOr "" (Json.Members.get? members "path")).toList).map String.ofList
  let node := match Json.Members.get? members "link" with
    | some (.string target) => .link target.shown
    | _ =>
        if ((Json.Members.get? members "dir").getD .null).isTruthy then .directory
        else .file (bytesOf (stringOr usualBytes (Json.Members.get? members "hex")).toList)
  (workplace ++ below, node)

/-! ## Worlds -/

def listOf (members : Json.Members) (name : String) : List Json :=
  itemsOf ((Json.Members.get? members name).getD .null)

def host (members : Json.Members) : Host where
  outcomes := (listOf members "procs").map outcomeOf
  missingTools := (listOf members "missing_tools").map fun tool => stringOr "" (some tool)
  files := { nodes := (listOf members "files").map nodeOf, here := workplace }

def link (members : Json.Members) : Link where
  answers := (listOf members "http").flatMap answersOf
  clock := realOr 0 (Json.Members.get? members "clock")
  tick := realOr 0 (Json.Members.get? members "tick")

def world (members : Json.Members) : World :=
  ⟨host members, link members⟩

end Recording

end TickBound
