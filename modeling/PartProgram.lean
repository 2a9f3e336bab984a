import PartProgram.Main
import PartProgram.Stream
import PartProgram.Proofs.Text.LossyLines
import PartProgram.Proofs.Line.LineEnd
import PartProgram.Proofs.Line.Flaws
import PartProgram.Proofs.Machine.Step
import PartProgram.Proofs.Controller.Effects
import PartProgram.Proofs.Controller.Agreement
import PartProgram.Proofs.Controller.SameWork
import PartProgram.Proofs.Stream.Draining
import PartProgram.Proofs.Controller.Trace
import PartProgram.Proofs.Controller.Halting
import PartProgram.Proofs.Controller.LineLog
import PartProgram.Proofs.Controller.Course
import PartProgram.Proofs.Controller.Reuse
import PartProgram.Proofs.Controller.LineStep
import PartProgram.Proofs.Controller.Narration
import PartProgram.Proofs.Controller.Strictness
import PartProgram.Proofs.Controller.Wording
import PartProgram.Proofs.Stream.Verdict
import PartProgram.Proofs.Machine.Position
import PartProgram.Proofs.Machine.History
import PartProgram.Proofs.Toolpath.Chain
import PartProgram.Proofs.Toolpath.Recall
import PartProgram.Proofs.Summary.Tally
import PartProgram.Proofs.Summary.Account
import PartProgram.Proofs.Machine.Axis
import PartProgram.Proofs.Machine.Repetition
import PartProgram.Proofs.Line.AxisWords
import PartProgram.Proofs.Controller.Coverage
import PartProgram.Proofs.Controller.Classification
import PartProgram.Proofs.Controller.Increments
import PartProgram.Proofs.Controller.AbsolutePosition
import PartProgram.Proofs.Number.Exact
import PartProgram.Proofs.Summary.Enclosure
import PartProgram.Proofs.Summary.Pace
import PartProgram.Proofs.Toolpath.Arcs
import PartProgram.Proofs.Controller.BrokenLine
import PartProgram.Proofs.Machine.Relabelling
import PartProgram.Proofs.Line.Numeral
import PartProgram.Proofs.Number.Code
import PartProgram.Proofs.Line.Reading
import PartProgram.Proofs.Line.Regions
import PartProgram.Proofs.Line.Writing
import PartProgram.Proofs.Line.Returns
import PartProgram.Proofs.Stream.LineTexts
import PartProgram.Proofs.Line.Binding
import PartProgram.Proofs.Controller.RetractHeight
import PartProgram.Proofs.Stream.Laziness
import PartProgram.Proofs.Stream.Failure
import PartProgram.Proofs.Number.Extreme
import PartProgram.Proofs.Summary.Box
import PartProgram.Proofs.Text.Plain
import PartProgram.Proofs.Controller.Repetition
import PartProgram.Proofs.Report.Messages
import PartProgram.Proofs.Report.Lines
