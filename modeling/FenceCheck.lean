import FenceCheck.Bundle.Basic
import FenceCheck.Bundle.Locate
import FenceCheck.Cli.Command
import FenceCheck.Cli.Parse
import FenceCheck.Cli.Switch
import FenceCheck.Cli.Usage
import FenceCheck.Config.Basic
import FenceCheck.Config.Load
import FenceCheck.Console.Basic
import FenceCheck.Console.Call
import FenceCheck.Datum.Basic
import FenceCheck.Datum.Calendar
import FenceCheck.Datum.Fault
import FenceCheck.Datum.Shown
import FenceCheck.Datum.Slots
import FenceCheck.Diagnostic
import FenceCheck.Document.Block
import FenceCheck.Document.Fence
import FenceCheck.Document.Selection
import FenceCheck.Document.Walk
import FenceCheck.Failure
import FenceCheck.Files.Change
import FenceCheck.Files.Content
import FenceCheck.Files.Lookup
import FenceCheck.Files.Node
import FenceCheck.Json.Basic
import FenceCheck.Json.Printer
import FenceCheck.Json.Reader
import FenceCheck.Machine.Basic
import FenceCheck.Machine.Program
import FenceCheck.Machine.Scene
import FenceCheck.Main
import FenceCheck.Number.Amount
import FenceCheck.Number.Binary64
import FenceCheck.Number.Power
import FenceCheck.Number.Shortest
import FenceCheck.Path
import FenceCheck.Proofs.BlockBoundary
import FenceCheck.Proofs.BlockCourse
import FenceCheck.Proofs.BlockMessage
import FenceCheck.Proofs.BlockPipeline
import FenceCheck.Proofs.BlockStart
import FenceCheck.Proofs.BundlingNeed
import FenceCheck.Proofs.ByteFences
import FenceCheck.Proofs.ColorCodes
import FenceCheck.Proofs.CommandStart
import FenceCheck.Proofs.ConfigFailure
import FenceCheck.Proofs.ConfigLayer
import FenceCheck.Proofs.ConfigNumber
import FenceCheck.Proofs.ConfigPrecedence
import FenceCheck.Proofs.ConfigSource
import FenceCheck.Proofs.ConfigText
import FenceCheck.Proofs.ConsoleAnswer
import FenceCheck.Proofs.ConsoleEnding
import FenceCheck.Proofs.ConsolePieces
import FenceCheck.Proofs.ConsoleRecord
import FenceCheck.Proofs.ConsoleRefusal
import FenceCheck.Proofs.ConsoleStanding
import FenceCheck.Proofs.ConsoleStyles
import FenceCheck.Proofs.DiagnosticText
import FenceCheck.Proofs.DiscoveredItems
import FenceCheck.Proofs.DocumentOrder
import FenceCheck.Proofs.DocumentWalk
import FenceCheck.Proofs.ErrorStream
import FenceCheck.Proofs.Fallible
import FenceCheck.Proofs.FencePairing
import FenceCheck.Proofs.FenceRendering
import FenceCheck.Proofs.FileLookup
import FenceCheck.Proofs.FileWriting
import FenceCheck.Proofs.FirstMeaning
import FenceCheck.Proofs.FloatInteger
import FenceCheck.Proofs.FloatNearest
import FenceCheck.Proofs.FloatRange
import FenceCheck.Proofs.FloatShortest
import FenceCheck.Proofs.HostNoise
import FenceCheck.Proofs.HostReading
import FenceCheck.Proofs.HostReport
import FenceCheck.Proofs.JsonAscii
import FenceCheck.Proofs.JsonLine
import FenceCheck.Proofs.JsonNumber
import FenceCheck.Proofs.JsonObject
import FenceCheck.Proofs.JsonOrder
import FenceCheck.Proofs.JsonOutput
import FenceCheck.Proofs.JsonPiece
import FenceCheck.Proofs.JsonRoundTrip
import FenceCheck.Proofs.JsonText
import FenceCheck.Proofs.LayerUnion
import FenceCheck.Proofs.LineText
import FenceCheck.Proofs.LinkedDocuments
import FenceCheck.Proofs.LiveCourse
import FenceCheck.Proofs.LiveOutput
import FenceCheck.Proofs.LiveRegion
import FenceCheck.Proofs.LogLine
import FenceCheck.Proofs.LossyText
import FenceCheck.Proofs.MarkerWords
import FenceCheck.Proofs.NearestBundler
import FenceCheck.Proofs.NumberText
import FenceCheck.Proofs.PageWords
import FenceCheck.Proofs.PathText
import FenceCheck.Proofs.PatternMeaning
import FenceCheck.Proofs.PoolCompletion
import FenceCheck.Proofs.PoolFaults
import FenceCheck.Proofs.PoolInvariant
import FenceCheck.Proofs.PoolLedger
import FenceCheck.Proofs.PoolStep
import FenceCheck.Proofs.RepeatedCleaning
import FenceCheck.Proofs.ReportFile
import FenceCheck.Proofs.ReportFit
import FenceCheck.Proofs.ReportViews
import FenceCheck.Proofs.RequireCall
import FenceCheck.Proofs.RunAgreement
import FenceCheck.Proofs.RunBounds
import FenceCheck.Proofs.RunConsole
import FenceCheck.Proofs.RunFigures
import FenceCheck.Proofs.RunSchedule
import FenceCheck.Proofs.SchemaFit
import FenceCheck.Proofs.ScreenText
import FenceCheck.Proofs.StartedProgram
import FenceCheck.Proofs.StrictText
import FenceCheck.Proofs.SuiteReading
import FenceCheck.Proofs.SwitchReading
import FenceCheck.Proofs.Terminal
import FenceCheck.Proofs.TidyText
import FenceCheck.Proofs.TypedPath
import FenceCheck.Proofs.WorkRecord
import FenceCheck.Proofs.WrittenJson
import FenceCheck.Proofs.XmlDocument
import FenceCheck.Proofs.XmlReading
import FenceCheck.Report.Junit
import FenceCheck.Report.Payload
import FenceCheck.Run.Basic
import FenceCheck.Run.Discovery
import FenceCheck.Run.Outcome
import FenceCheck.Run.Pool
import FenceCheck.Run.Summary
import FenceCheck.Sandbox.HostLine
import FenceCheck.Sandbox.Run
import FenceCheck.Schema.Basic
import FenceCheck.Schema.Catalog
import FenceCheck.Schema.Check
import FenceCheck.Session.Context
import FenceCheck.Session.Launch
import FenceCheck.Session.Log
import FenceCheck.Session.Transcript
import FenceCheck.Shell.Arithmetic
import FenceCheck.Shell.Expansion
import FenceCheck.Shell.Format
import FenceCheck.Shell.Glob
import FenceCheck.Shell.Launch
import FenceCheck.Shell.Native
import FenceCheck.Shell.Process
import FenceCheck.Shell.Run
import FenceCheck.Shell.Script
import FenceCheck.Shell.Token
import FenceCheck.Source.PageGlobal
import FenceCheck.Source.Reference
import FenceCheck.Text.Blank
import FenceCheck.Text.CodePoint
import FenceCheck.Text.Digit
import FenceCheck.Text.Form
import FenceCheck.Text.Hex
import FenceCheck.Text.Line
import FenceCheck.Text.LowerCase
import FenceCheck.Text.Numeral
import FenceCheck.Text.Pattern
import FenceCheck.Text.Printable
import FenceCheck.Text.Quoted
import FenceCheck.Text.Utf8
import FenceCheck.Text.Word
import FenceCheck.Toml.Literal
import FenceCheck.Toml.Reader
import FenceCheck.Toml.Table
import FenceCheck.Xml.Element
import FenceCheck.Yaml.Cursor
import FenceCheck.Yaml.Lexeme
import FenceCheck.Yaml.Node
import FenceCheck.Yaml.Plain
import FenceCheck.Yaml.Reader
import FenceCheck.Yaml.Scalar
import FenceCheck.Yaml.Token
