import LineTemplates.Main
import LineTemplates.Pattern.Evaluation
import LineTemplates.Proofs.Argument.Negation
import LineTemplates.Proofs.Argument.SignFolding
import LineTemplates.Proofs.Argument.WrittenNumbers
import LineTemplates.Proofs.CaseFile.Layout
import LineTemplates.Proofs.CaseFile.LineEnds
import LineTemplates.Proofs.CaseFile.TriedLines
import LineTemplates.Proofs.CaseFile.Verdict
import LineTemplates.Proofs.Pattern.Simplification
import LineTemplates.Proofs.Program.ParsedLines
import LineTemplates.Proofs.Program.Requests
import LineTemplates.Proofs.Program.SuiteRun
import LineTemplates.Proofs.Program.WatchOnce
import LineTemplates.Proofs.Program.WholeSet
import LineTemplates.Proofs.Registry.CapturedText
import LineTemplates.Proofs.Registry.QuotedText
import LineTemplates.Proofs.Registry.RefusedLines
import LineTemplates.Proofs.Segment.Joined
import LineTemplates.Proofs.Template.Faults
import LineTemplates.Proofs.Template.Groups
import LineTemplates.Proofs.Template.Source
import LineTemplates.Proofs.Walk.Blanks
import LineTemplates.Proofs.Walk.Lanes
import LineTemplates.Proofs.Walk.LiteralText
import LineTemplates.Proofs.Watch.ForcedPass
import LineTemplates.Proofs.Watch.Loop
import LineTemplates.Proofs.Watch.Quiet
import LineTemplates.Proofs.Watch.Registration
import LineTemplates.Text.Quoted
