import TickBound.Bench.Act
import TickBound.Bench.Basic
import TickBound.Bench.Event
import TickBound.Bench.FileTree
import TickBound.Bench.Host
import TickBound.Bench.Link
import TickBound.Bench.Path
import TickBound.Bench.Program
import TickBound.Command.Layout
import TickBound.Command.NumberLayout
import TickBound.Command.Template
import TickBound.Command.Words
import TickBound.Console
import TickBound.Desk.Basic
import TickBound.Desk.Step
import TickBound.Engine.Bounds
import TickBound.Engine.Explore
import TickBound.Engine.Options
import TickBound.Fault.Basic
import TickBound.Fault.Kind
import TickBound.Image.Flash
import TickBound.Image.Markers
import TickBound.Image.Symbols
import TickBound.Json.Basic
import TickBound.Json.DataText
import TickBound.Json.Display
import TickBound.Json.Flaw
import TickBound.Json.Printer
import TickBound.Json.Progress
import TickBound.Json.Reader
import TickBound.Level
import TickBound.Main
import TickBound.Number.Dyadic
import TickBound.Number.Integer
import TickBound.Number.Numeral
import TickBound.Number.Real
import TickBound.Number.RealText
import TickBound.Probe.Core
import TickBound.Probe.Register
import TickBound.Probe.Sample
import TickBound.Probe.Session
import TickBound.Proofs.Accounts
import TickBound.Proofs.BenchFrame
import TickBound.Proofs.Calculus
import TickBound.Proofs.CounterReads
import TickBound.Proofs.Counts
import TickBound.Proofs.DecimalTexts
import TickBound.Proofs.Deeds
import TickBound.Proofs.Deployment
import TickBound.Proofs.DeskRules
import TickBound.Proofs.Durations
import TickBound.Proofs.EngineOutput
import TickBound.Proofs.Estimates
import TickBound.Proofs.FailFast
import TickBound.Proofs.FailureEnds
import TickBound.Proofs.FailureReports
import TickBound.Proofs.FileWalk
import TickBound.Proofs.Follows
import TickBound.Proofs.Frame
import TickBound.Proofs.Grammar
import TickBound.Proofs.Hexadecimal
import TickBound.Proofs.Independence
import TickBound.Proofs.IntegerTexts
import TickBound.Proofs.Lending
import TickBound.Proofs.LendingFrame
import TickBound.Proofs.Lines
import TickBound.Proofs.LogLevels
import TickBound.Proofs.MarkerGate
import TickBound.Proofs.Measurement
import TickBound.Proofs.NumberTexts
import TickBound.Proofs.Numerals
import TickBound.Proofs.OffsetSpellings
import TickBound.Proofs.Opening
import TickBound.Proofs.OptionTexts
import TickBound.Proofs.Outcomes
import TickBound.Proofs.OutputLines
import TickBound.Proofs.Phases
import TickBound.Proofs.ProgramFailures
import TickBound.Proofs.Programs
import TickBound.Proofs.Protocol
import TickBound.Proofs.Pursuit
import TickBound.Proofs.Readback
import TickBound.Proofs.RealOrder
import TickBound.Proofs.Recognition
import TickBound.Proofs.Reconnection
import TickBound.Proofs.RecordAccounts
import TickBound.Proofs.RecordOrder
import TickBound.Proofs.Requests
import TickBound.Proofs.Resuming
import TickBound.Proofs.Rounding
import TickBound.Proofs.Sampling
import TickBound.Proofs.SettingFields
import TickBound.Proofs.SurveyFold
import TickBound.Proofs.SurveyRules
import TickBound.Proofs.SurveyYields
import TickBound.Proofs.Templates
import TickBound.Proofs.Traffic
import TickBound.Proofs.Trimming
import TickBound.Proofs.Waiting
import TickBound.Proofs.WordReads
import TickBound.Proofs.WordTransfer
import TickBound.Recording
import TickBound.Settings.Basic
import TickBound.Settings.Reader
import TickBound.Survey.Basic
import TickBound.Survey.Corpus
import TickBound.Survey.Record
import TickBound.Text.Blank
import TickBound.Text.DecimalDigit
import TickBound.Text.Letter
import TickBound.Text.Line
import TickBound.Text.Lower
import TickBound.Text.Printable
import TickBound.Text.Quoted
import TickBound.Thing.Attribute
import TickBound.Thing.Basic
import TickBound.Thing.Entry
import TickBound.Thing.Kind
import TickBound.Thing.OfCollection
import TickBound.Thing.OfKind
import TickBound.Thing.OfNumber
import TickBound.Thing.OfOperation
import TickBound.Thing.OfText
import TickBound.Proofs.Fields
import TickBound.Proofs.SymbolListings
import TickBound.Proofs.Disassemblies
import TickBound.Proofs.CorpusFiles
import TickBound.Proofs.TableTexts
import TickBound.Proofs.EntryNames
import TickBound.Proofs.RegisterTransfers
import TickBound.Proofs.Addresses
import TickBound.Proofs.Respelling
import TickBound.Proofs.RawSeparators
