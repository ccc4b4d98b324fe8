import PushGoals.Main
import PushGoals.Script
import PushGoals.Rule.Tree
import PushGoals.Push.Display
import PushGoals.Files.Tree
import PushGoals.Proofs.Guard.Answer
import PushGoals.Proofs.Passes
import PushGoals.Proofs.Guard.Memory
import PushGoals.Proofs.Rule.Answer
import PushGoals.Proofs.Rule.Evaluation
import PushGoals.Proofs.Goal.Merging
import PushGoals.Proofs.Prediction.Observers
import PushGoals.Proofs.Prediction.Sharpening
import PushGoals.Proofs.Decision
import PushGoals.Proofs.Prediction.Outlook
import PushGoals.Proofs.Prediction.Soundness
import PushGoals.Proofs.Guard.Standard
import PushGoals.Proofs.Prediction.Monotonicity
import PushGoals.Proofs.Replay
import PushGoals.Proofs.Rule.Replay
import PushGoals.Proofs.Prediction.Agreement
import PushGoals.Proofs.Goal.Flattening
import PushGoals.Proofs.Additive
import PushGoals.Proofs.Isolation
import PushGoals.Proofs.Guard.SharedMemory
import PushGoals.Proofs.RulesFile.Meaning
import PushGoals.Proofs.History
import PushGoals.Proofs.Prediction.Abandonment
import PushGoals.Proofs.Prediction.Containment
import PushGoals.Proofs.Prediction.Alarm
import PushGoals.Proofs.Guard.Formula
import PushGoals.Proofs.Guard.Identity
import PushGoals.Proofs.Guard.Naming
import PushGoals.Proofs.Prediction.Determinacy
import PushGoals.Proofs.Recency
import PushGoals.Proofs.OneSet
import PushGoals.Proofs.Rule.FirstMatch
import PushGoals.Proofs.Written.Tree
import PushGoals.Proofs.Graph.Reading
import PushGoals.Proofs.Counters
import PushGoals.Proofs.Guard.Composite
import PushGoals.Proofs.Guard.ScopeState
import PushGoals.Proofs.Rule.Standard
import PushGoals.Proofs.Rule.Views
import PushGoals.Proofs.Prediction.Listing
import PushGoals.Proofs.Prediction.Transparency
import PushGoals.Proofs.Rule.Enrichment
import PushGoals.Proofs.Rule.Paths
import PushGoals.Proofs.Rule.Stages
import PushGoals.Proofs.RulesFile.Acceptance
import PushGoals.Proofs.Push.Coherence
import PushGoals.Proofs.Files.LookUps
import PushGoals.Proofs.Files.Changes
import PushGoals.Proofs.CommandLine.Report
import PushGoals.Proofs.Prediction.Skipping
import PushGoals.Proofs.Counting
import PushGoals.Proofs.RulesFile.Strictness
