import CoinRobotu.Allocation.Balance
import CoinRobotu.Artifact.Sharing
import CoinRobotu.Audit.Evidence
import CoinRobotu.Conflict.Engine
import CoinRobotu.Correlation.Clusters
import CoinRobotu.Futures.Leverage
import CoinRobotu.Governance.Rollback
import CoinRobotu.Intent.Interleavings
import CoinRobotu.KillSwitch.Latching
import CoinRobotu.Live.Verdicts
import CoinRobotu.Mfa.OneTime
import CoinRobotu.Mfa.Persistence
import CoinRobotu.Mfa.Replay
import CoinRobotu.Microstructure.Sizing
import CoinRobotu.Onboarding.Escalation
import CoinRobotu.Paper.Conservation
import CoinRobotu.Paper.MarkPrice
import CoinRobotu.Paper.OrderPath
import CoinRobotu.Policy.Enforcement
import CoinRobotu.Policy.SafeModeStrictness
import CoinRobotu.Portfolio.ExposureTracker
import CoinRobotu.Preview.Duplicates
import CoinRobotu.Quarantine.Finality
import CoinRobotu.Query.Evaluation
import CoinRobotu.RateLimit.Granting
import CoinRobotu.Readiness.ExposurePolicy
import CoinRobotu.Rebalance.Weights
import CoinRobotu.Recovery.Quorum
import CoinRobotu.Replay.Accounting
import CoinRobotu.Revenue.Convergence
import CoinRobotu.Risk.Danger
import CoinRobotu.Risk.Projection
import CoinRobotu.Risk.Renewal
import CoinRobotu.Risk.SafeBounds
import CoinRobotu.Runtime.Announced
import CoinRobotu.Runtime.AtMostOnce
import CoinRobotu.Runtime.Atomicity
import CoinRobotu.Runtime.Cancellation
import CoinRobotu.Runtime.Ordering
import CoinRobotu.Runtime.Reconciliation
import CoinRobotu.Runtime.RetryBudget
import CoinRobotu.Runtime.Rewriting
import CoinRobotu.Safety.Admission
import CoinRobotu.Safety.Canary
import CoinRobotu.Safety.Gate
import CoinRobotu.Signal.Averaging
import CoinRobotu.Signal.Capacity
import CoinRobotu.Signal.ClientIds
import CoinRobotu.Signal.Transitions
import CoinRobotu.Spot.Caps
import CoinRobotu.Spot.Drawdown
import CoinRobotu.Strategies.Throttle
import CoinRobotu.Unified.Liquidation
import CoinRobotu.Unified.Severity
import CoinRobotu.Artifact.Verification
