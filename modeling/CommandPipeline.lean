import CommandPipeline.Main
import CommandPipeline.Proofs.Interpolation.Token
import CommandPipeline.Proofs.Interpolation.Scan
import CommandPipeline.Proofs.Interpolation.Dependence
import CommandPipeline.Proofs.Interpolation.Boundary
import CommandPipeline.Proofs.Interpolation.Words
import CommandPipeline.Proofs.Language.Form
import CommandPipeline.Proofs.Language.Outline
import CommandPipeline.Proofs.Language.Plain
import CommandPipeline.Proofs.Language.Fault
import CommandPipeline.Proofs.Language.Written
import CommandPipeline.Proofs.Language.Layout
import CommandPipeline.Proofs.Language.Drawing
import CommandPipeline.Proofs.Language.Grammar
import CommandPipeline.Proofs.Language.Order
import CommandPipeline.Proofs.Run.Agreement
import CommandPipeline.Proofs.Run.Composition
import CommandPipeline.Proofs.Run.Course
import CommandPipeline.Proofs.Run.Protocol
import CommandPipeline.Proofs.Run.Scope
import CommandPipeline.Proofs.Run.Occasion
import CommandPipeline.Proofs.Run.Simulation
import CommandPipeline.Proofs.Run.Unread
import CommandPipeline.Proofs.Run.Exchange
import CommandPipeline.Proofs.Run.Recorded
import CommandPipeline.Proofs.Run.Blank
import CommandPipeline.Proofs.Command.Starting
import CommandPipeline.Proofs.Platform.Appending
import CommandPipeline.Proofs.Platform.Starting
import CommandPipeline.Proofs.Platform.Echo
import CommandPipeline.Proofs.Platform.Tools
import CommandPipeline.Proofs.Platform.Subshell
import CommandPipeline.Proofs.Platform.Quotes
import CommandPipeline.Proofs.Log.Lines
import CommandPipeline.Proofs.CommandLine.RunLog
import CommandPipeline.Proofs.CommandLine.Checks
import CommandPipeline.Proofs.Json.Codec
import CommandPipeline.Proofs.Json.Document
import CommandPipeline.Proofs.Json.Text
import CommandPipeline.Proofs.CommandLine.Streams
import CommandPipeline.Proofs.CommandLine.Reasons
import CommandPipeline.Proofs.CommandLine.JsonOutput
import CommandPipeline.Proofs.Json.Report
import CommandPipeline.Proofs.Text.Utf8
import CommandPipeline.Proofs.Command.Settling
import CommandPipeline.Proofs.Run.Arguments
import CommandPipeline.Proofs.Number.Rounding
import CommandPipeline.Proofs.Duration.Units
import CommandPipeline.Proofs.Duration.Order
import CommandPipeline.Proofs.Language.Turns
import CommandPipeline.Proofs.CommandLine.StepNumbers
