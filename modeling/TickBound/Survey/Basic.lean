import TickBound.Survey.Corpus
import TickBound.Survey.Record

/-!
# Surveys

A survey takes the records of a corpus one at a time, as they are asked for. The first fault ends it:
what is asked for after that is not there. A table is a survey whose records are printed as they come.
-/

namespace TickBound

/-- How far a survey has come. -/
inductive Progress where
  | fresh (directory : String)
  | listing (directory : String) (entries : List FileTree.Entry)
  | ended

/-- A bench and how far the survey on it has come. -/
structure Survey where
  bench : Bench
  progress : Progress

namespace Survey

def onBench {α : Type} (act : Act Bench α) : Act Survey α :=
  act.within Survey.bench fun survey bench => { survey with bench }

/-- Leaves the survey at a point. -/
def moveTo (progress : Progress) : Act Survey Unit :=
  .change fun survey => { survey with progress }

/-- Takes the record of the next image among the entries. -/
def nextAmong (settings : Settings) (directory : String) (entries : List FileTree.Entry) :
    Act Survey (Option Record) := do
  let files ← .reads fun survey => survey.bench.host.files
  match ← .ofExcept (Corpus.nextImage files directory entries) with
  | none => pure none
  | some (path, more) => do
      let record ← onBench (Bench.record settings path)
      moveTo (.listing directory more)
      pure (some record)

/-- Takes the next record. The survey counts as ended until the record is there. -/
def next (settings : Settings) : Act Survey (Option Record) := do
  let progress ← .reads Survey.progress
  moveTo .ended
  match progress with
  | .ended => pure none
  | .listing directory entries => nextAmong settings directory entries
  | .fresh directory => do
      let files ← .reads fun survey => survey.bench.host.files
      nextAmong settings directory (← .ofExcept (Corpus.entries files directory))

end Survey

/-! ## Tables -/

namespace Record

/-- Both numbers can be shown. -/
def Fits (record : Record) : Prop :=
  Number.fitsDecimal record.measured = true ∧ Number.fitsDecimal record.bound = true

instance decidableFits : DecidablePred Fits := fun record =>
  inferInstanceAs (Decidable (Number.fitsDecimal record.measured = true ∧
    Number.fitsDecimal record.bound = true))

variable {σ : Type}

/-- Prints rows one after another, up to a number that cannot be shown. -/
def printRows : List Record → Act σ Unit
  | [] => pure ()
  | record :: more => do
      if record.Fits then .emit (.printed record.text) else .fail (.outside .decimalTooLong)
      printRows more

/-- Prints the table of records that are there. -/
def print (records : List Record) : Act σ Unit := do
  .emit (.printed heading)
  printRows records

end Record

namespace Bench

/-- Takes and prints the records of the images among the entries. -/
def printAmong (settings : Settings) (directory : String) :
    List FileTree.Entry → Act Bench Unit
  | [] => pure ()
  | entry :: more => do
      let files ← .reads fun bench => bench.host.files
      if ← .ofExcept (Corpus.isImage files directory entry) then
        let record ← record settings (Path.normal (Path.entry directory entry.name))
        .emit (.printed record.text)
      printAmong settings directory more

/-- Prints the table of a corpus, each row as soon as its record is there. -/
def printTable (settings : Settings) (directory : String) : Act Bench Unit := do
  .emit (.printed Record.heading)
  let files ← .reads fun bench => bench.host.files
  printAmong settings directory (← .ofExcept (Corpus.entries files directory))

end Bench

end TickBound
