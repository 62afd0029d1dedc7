import RetryTickets.Bench.Session
import RetryTickets.Main
import RetryTickets.Proofs.Actions
import RetryTickets.Proofs.Tickets
import RetryTickets.Proofs.Calls
import RetryTickets.Proofs.Operations
import RetryTickets.Proofs.Replay
import RetryTickets.Proofs.Agreement
import RetryTickets.Proofs.Atomicity
import RetryTickets.Proofs.Records
import RetryTickets.Proofs.Trees
import RetryTickets.Proofs.Walks
import RetryTickets.Proofs.Files
import RetryTickets.Proofs.Directories
import RetryTickets.Proofs.Programs
import RetryTickets.Proofs.Appends
import RetryTickets.Proofs.Snapshots
import RetryTickets.Proofs.Paths
import RetryTickets.Proofs.Creation
import RetryTickets.Proofs.DataDirectories
import RetryTickets.Proofs.Consoles
import RetryTickets.Proofs.Requests
import RetryTickets.Proofs.Launches
import RetryTickets.Proofs.Fates
import RetryTickets.Proofs.Lives
import RetryTickets.Proofs.Attempts
import RetryTickets.Proofs.Entitlement
import RetryTickets.Proofs.Spending
import RetryTickets.Proofs.Expiry
import RetryTickets.Proofs.Independence
import RetryTickets.Proofs.DerivedIds
import RetryTickets.Proofs.Replacement
import RetryTickets.Proofs.LogFormat
import RetryTickets.Proofs.Writes
import RetryTickets.Proofs.SnapshotFormat
import RetryTickets.Proofs.Refusals
import RetryTickets.Proofs.Timeouts
import RetryTickets.Proofs.Prices
import RetryTickets.Proofs.Budgets
import RetryTickets.Proofs.Redeems
import RetryTickets.Proofs.Keepalives
import RetryTickets.Proofs.Payments
import RetryTickets.Proofs.Shortfalls
import RetryTickets.Proofs.Announcements
import RetryTickets.Proofs.Cancels
import RetryTickets.Proofs.CutLogs
import RetryTickets.Proofs.Donations
import RetryTickets.Proofs.LargerBudgets
import RetryTickets.Proofs.Tariffs
import RetryTickets.Proofs.Leftovers
import RetryTickets.Proofs.Digits
import RetryTickets.Proofs.Names
import RetryTickets.Proofs.Inventories
