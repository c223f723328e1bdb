import Stateback.Compensation.Paired
import Stateback.Concurrency.Services
import Stateback.Concurrency.Serial
import Stateback.Recovery.Operator
import Stateback.Recovery.RetrySafety
import Stateback.Invariants.Authorization
import Stateback.Invariants.Attempts
import Stateback.Invariants.Isolation
import Stateback.Invariants.Discoverability
import Stateback.Invariants.Decisions
import Stateback.Invariants.Verdicts
import Stateback.Invariants.WriteOnce
import Stateback.Invariants.Replays
import Stateback.Invariants.Republication
import Stateback.Invariants.Approvals
import Stateback.Invariants.ApprovalReplies
import Stateback.Invariants.Budgets
import Stateback.Application.Actions
import Stateback.Compensation.Carried
import Stateback.Compensation.Cycle
import Stateback.Concurrency.Verifying
import Stateback.Recovery.Reconcilers
import Stateback.Providers.GitHub.Verification
import Stateback.Application.Ids
import Stateback.Application.InputValidation
import Stateback.Application.Search
import Stateback.Domain.Canonical
import Stateback.Messaging.Quarantine
import Stateback.Providers.GitHub.Addresses
import Stateback.Providers.Reference.Served
import Stateback.Concurrency.Boundary
import Stateback.Application.Paging
