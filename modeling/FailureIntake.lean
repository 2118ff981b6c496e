import FailureIntake.Statistics
import FailureIntake.Batch.Json
import FailureIntake.Failure.Json
import FailureIntake.Pipeline
import FailureIntake.Config.FileTree
import FailureIntake.Config.Source
import FailureIntake.Observability.Installation
import FailureIntake.Proofs.Submission.Records
import FailureIntake.Proofs.Submission.Filing
import FailureIntake.Proofs.Submission.Acknowledgement
import FailureIntake.Proofs.Submission.DecisionTable
import FailureIntake.Proofs.Queue.Traffic
import FailureIntake.Proofs.Queue.Delivery
import FailureIntake.Proofs.Submission.Accounting
import FailureIntake.Proofs.Submission.Concurrency
import FailureIntake.Proofs.Queue.Steps
import FailureIntake.Proofs.Queue.Waiting
import FailureIntake.Proofs.Queue.Slots
import FailureIntake.Proofs.Queue.Capacity
import FailureIntake.Proofs.Queue.Statistics
import FailureIntake.Proofs.Queue.Closing
import FailureIntake.Proofs.Submission.Closing
import FailureIntake.Proofs.Config.Capacity
import FailureIntake.Proofs.Observability.Registry
import FailureIntake.Proofs.Submission.Metering
import FailureIntake.Proofs.Submission.Reconciliation
import FailureIntake.Proofs.Submission.Shape
import FailureIntake.Proofs.Failure.Json
import FailureIntake.Proofs.Config.Interpolation
import FailureIntake.Proofs.Config.Merging
import FailureIntake.Proofs.Config.LineBreaks
import FailureIntake.Proofs.Yaml.Transfer
import FailureIntake.Proofs.Config.SingleDocument
import FailureIntake.Proofs.Failure.Fields
import FailureIntake.Proofs.Failure.Consistency
import FailureIntake.Proofs.Yaml.Words
import FailureIntake.Proofs.Yaml.Lines
import FailureIntake.Proofs.Yaml.Outline
import FailureIntake.Proofs.Yaml.Numbers
import FailureIntake.Proofs.Config.RoundTrip
import FailureIntake.Proofs.Submission.Indexing
import FailureIntake.Proofs.Config.Reporting
import FailureIntake.Proofs.Config.Precedence
import FailureIntake.Proofs.Yaml.Spelling
import FailureIntake.Proofs.Yaml.Records
import FailureIntake.Proofs.Yaml.Reordering
import FailureIntake.Proofs.Config.Language
import FailureIntake.Proofs.Submission.Events
import FailureIntake.Proofs.Submission.Causes
import FailureIntake.Proofs.Queue.Routes
import FailureIntake.Proofs.Submission.DeepestCause
import FailureIntake.Proofs.Config.Listing
import FailureIntake.Proofs.TypePath
import FailureIntake.Proofs.Failure.Reordering
import FailureIntake.Proofs.Config.Extension
import FailureIntake.Proofs.Config.SourceOrder
