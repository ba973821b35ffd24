import CommitPolicy.CommandLine.Consulted
import CommitPolicy.Config.Display
import CommitPolicy.Config.Environment
import CommitPolicy.Config.Load
import CommitPolicy.Config.Save
import CommitPolicy.History.Report
import CommitPolicy.Log.Observer
import CommitPolicy.Main
import CommitPolicy.Memo.Steps
import CommitPolicy.Message.Comments
import CommitPolicy.Message.Record
import CommitPolicy.Release
import CommitPolicy.Text.Order
import CommitPolicy.Toml.Document
import CommitPolicy.Validator.Basic
import CommitPolicy.Yaml.Document
import CommitPolicy.Proofs.Message.Header
import CommitPolicy.Proofs.Message.Footer
import CommitPolicy.Proofs.Message.Split
import CommitPolicy.Proofs.Validator.Deadline
import CommitPolicy.Proofs.Validator.Policy
import CommitPolicy.Proofs.Memo.Shared
import CommitPolicy.Proofs.Memo.SingleFlight
import CommitPolicy.Proofs.Validator.Session
import CommitPolicy.Proofs.Memo.Recency
import CommitPolicy.Proofs.Memo.Steps
import CommitPolicy.Proofs.Validator.BatchCounts
import CommitPolicy.Proofs.History.Report
import CommitPolicy.Proofs.Config.SaveLoad
import CommitPolicy.Proofs.Text.Case
import CommitPolicy.Proofs.Message.Breaking
import CommitPolicy.Proofs.Message.Attempt
import CommitPolicy.Proofs.Message.Malformed
import CommitPolicy.Proofs.Message.Scan
import CommitPolicy.Proofs.Message.Reference
import CommitPolicy.Proofs.Validator.Breaking
import CommitPolicy.Proofs.Validator.Ticket
import CommitPolicy.Proofs.Config.Source
import CommitPolicy.Proofs.Config.Precedence
import CommitPolicy.Proofs.Config.Mishap
import CommitPolicy.Proofs.Console.Markup
import CommitPolicy.Proofs.CommandLine.Loading
import CommitPolicy.Proofs.Memo.Places
import CommitPolicy.Proofs.Memo.Cleared
import CommitPolicy.Proofs.Memo.Inclusion
import CommitPolicy.Proofs.Memo.Failing
import CommitPolicy.Proofs.Policy.Looser
import CommitPolicy.Proofs.Validator.Looser
import CommitPolicy.Proofs.Message.Padding
import CommitPolicy.Proofs.Validator.OptionalTicket
import CommitPolicy.Proofs.Message.Comments
import CommitPolicy.Proofs.Validator.Acts
import CommitPolicy.Proofs.Validator.Observers
import CommitPolicy.Proofs.Policy.Faults
import CommitPolicy.Proofs.Config.Documents
import CommitPolicy.Proofs.Files.Path
import CommitPolicy.Proofs.Config.LogFile
import CommitPolicy.Proofs.Validator.Log
import CommitPolicy.Proofs.Message.ErrorLine
import CommitPolicy.Proofs.CommandLine.Verdicts
import CommitPolicy.Proofs.Policy.Ordering
