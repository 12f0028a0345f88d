import ScenarioRunner.Document.Remarks
import ScenarioRunner.Event.Log
import ScenarioRunner.Options
import ScenarioRunner.Report
import ScenarioRunner.Run.Session
import ScenarioRunner.Summary
import ScenarioRunner.Proofs.Document.Printed
import ScenarioRunner.Proofs.Document.Unlocated
import ScenarioRunner.Proofs.Text.Cut
import ScenarioRunner.Proofs.Document.PrintedRoles
import ScenarioRunner.Proofs.Document.PrintedSteps
import ScenarioRunner.Proofs.Document.Recovery
import ScenarioRunner.Proofs.Document.PrintedLines
import ScenarioRunner.Proofs.Document.RoundTrip
import ScenarioRunner.Proofs.Document.Canonical
import ScenarioRunner.Proofs.Pattern.Split
import ScenarioRunner.Proofs.Pattern.Matching
import ScenarioRunner.Proofs.Pattern.Source
import ScenarioRunner.Proofs.Event
import ScenarioRunner.Proofs.KeyedList
import ScenarioRunner.Proofs.Report.Isolation
import ScenarioRunner.Proofs.Plan.Groups
import ScenarioRunner.Proofs.Plan.Names
import ScenarioRunner.Proofs.Run.Interleaving
import ScenarioRunner.Proofs.Report.Scenario
import ScenarioRunner.Proofs.Run.Merged
import ScenarioRunner.Proofs.Report.Verdict
import ScenarioRunner.Proofs.Report.Reconstruction
import ScenarioRunner.Proofs.Suite.Registered
import ScenarioRunner.Proofs.Run.Gathered
import ScenarioRunner.Proofs.Run.Scheduled
import ScenarioRunner.Proofs.Registry
import ScenarioRunner.Proofs.Run.Course
import ScenarioRunner.Proofs.Run.Scenario
import ScenarioRunner.Proofs.Message.Opening
import ScenarioRunner.Proofs.Message.Resolved
import ScenarioRunner.Proofs.Message.Evaluated
import ScenarioRunner.Proofs.Message.Printed
import ScenarioRunner.Proofs.Feature.Columns
import ScenarioRunner.Proofs.Feature.Substitution
import ScenarioRunner.Proofs.Feature.Outline
import ScenarioRunner.Proofs.Plan.Located
import ScenarioRunner.Proofs.Run.Results
import ScenarioRunner.Proofs.Run.Filtered
import ScenarioRunner.Proofs.Document.Sections
import ScenarioRunner.Proofs.Run.Verdict
import ScenarioRunner.Proofs.Message.Inserted
import ScenarioRunner.Proofs.Scheme.Reference
import ScenarioRunner.Proofs.Registry.Lookup
import ScenarioRunner.Proofs.Plan.Tree
import ScenarioRunner.Proofs.Suggestion.Fitting
import ScenarioRunner.Proofs.Run.Missing
import ScenarioRunner.Proofs.Message.Loaded
import ScenarioRunner.Proofs.Suite.Mirrored
import ScenarioRunner.Proofs.Run.Counted
import ScenarioRunner.Proofs.Plan.Numbered
import ScenarioRunner.Proofs.Document.Comments
import ScenarioRunner.Proofs.Document.DocStrings
import ScenarioRunner.Proofs.Run.Keys
import ScenarioRunner.Proofs.Document.Layout
import ScenarioRunner.Proofs.Document.Tags
import ScenarioRunner.Proofs.Document.Locations
import ScenarioRunner.Proofs.Feature.Split
import ScenarioRunner.Proofs.Json.Ordered
import ScenarioRunner.Proofs.Message.Flattened
import ScenarioRunner.Proofs.Feature.Expanded
import ScenarioRunner.Proofs.Message.Balanced
import ScenarioRunner.Proofs.Message.Closed
import ScenarioRunner.Proofs.Message.Unknown
import ScenarioRunner.Proofs.Suggestion.Placeholders
import ScenarioRunner.Proofs.Source.Listed
import ScenarioRunner.Proofs.Document.Gathered
import ScenarioRunner.Proofs.Message.InPlace
