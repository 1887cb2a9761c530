import JobRelay.Access.Description
import JobRelay.Book.Email
import JobRelay.Book.Listing
import JobRelay.Command.Run
import JobRelay.Config.Load
import JobRelay.Config.LogLevel
import JobRelay.Gateway.Handle
import JobRelay.Lifecycle.Dispatch
import JobRelay.Main
import JobRelay.Monitor.Generator
import JobRelay.Service.Failure
import JobRelay.Proofs.Access.Authenticity
import JobRelay.Proofs.Access.EventSignature
import JobRelay.Proofs.Access.NonceVerdict
import JobRelay.Proofs.Access.RateLog
import JobRelay.Proofs.Access.SignedArrival
import JobRelay.Proofs.Book.StoredTimes
import JobRelay.Proofs.Gateway.Authority
import JobRelay.Proofs.Gateway.Forwarding
import JobRelay.Proofs.Gateway.Openings
import JobRelay.Proofs.Gateway.Redelivery
import JobRelay.Proofs.Money.Blocklist
import JobRelay.Proofs.Money.Commuting
import JobRelay.Proofs.Money.Debt
import JobRelay.Proofs.Money.OnceOnly
import JobRelay.Proofs.Money.Records
import JobRelay.Proofs.Money.SettlementEffect
import JobRelay.Proofs.Money.StoredSums
import JobRelay.Proofs.Monitor.AlertRuns
import JobRelay.Proofs.Monitor.Checks
import JobRelay.Proofs.Monitor.OpenAlerts
import JobRelay.Proofs.Monitor.StuckJobs
import JobRelay.Proofs.Session.Dispatching
import JobRelay.Proofs.Session.Legible
import JobRelay.Proofs.Session.Mailbox
import JobRelay.Proofs.Service.Pauses
