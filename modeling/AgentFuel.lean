import AgentFuel.Library.Checked
import AgentFuel.Library.Transition
import AgentFuel.Library.RateWindow
import AgentFuel.Solana.Address
import AgentFuel.Solana.Token
import AgentFuel.Vault.Accounting
import AgentFuel.Vault.Lifetime
import AgentFuel.Vault.Freeze
import AgentFuel.Vault.Authority
import AgentFuel.Vault.Pending
import AgentFuel.Vault.Window
import AgentFuel.Vault.Creation
import AgentFuel.Vault.Requests
import AgentFuel.Vault.Splitting
import AgentFuel.Reputation.RateLimit
import AgentFuel.Reputation.ScoreMoves
import AgentFuel.Backend.Admission
import AgentFuel.Backend.Listing
import AgentFuel.Backend.LastWriter
import AgentFuel.Backend.Thresholds
import AgentFuel.Backend.Verdicts
import AgentFuel.Backend.Auth
import AgentFuel.Backend.WsStream
import AgentFuel.Backend.Pagination
import AgentFuel.Backend.ScoreHistory
import AgentFuel.Backend.Backfill
import AgentFuel.Backend.DevAirdrop
import AgentFuel.Backend.SpendRequests
import AgentFuel.Clients.Balance
import AgentFuel.Clients.Batch
import AgentFuel.Clients.Transactions
import AgentFuel.Clients.Guardrails
import AgentFuel.Clients.Layouts
import AgentFuel.Clients.LiveTypescript
import AgentFuel.Clients.MobileWs
import AgentFuel.Clients.MobileChannels
import AgentFuel.Clients.MobileSchedule
import AgentFuel.Clients.PayErrors
import AgentFuel.Clients.PaymentRequired
import AgentFuel.Clients.ReputationFactors
import AgentFuel.Clients.ServiceNames
import AgentFuel.Clients.UpdatePolicy
import AgentFuel.Backend.Alone
import AgentFuel.Backend.Grounds
import AgentFuel.Backend.Announced
import AgentFuel.Clients.Retries
