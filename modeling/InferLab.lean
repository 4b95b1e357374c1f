import InferLab.ControlPlane.Writes
import InferLab.ControlPlane.Votes
import InferLab.ControlPlane.Applied
import InferLab.ControlPlane.Followers
import InferLab.ControlPlane.Bookkeeping
import InferLab.BatchQueue.Order
import InferLab.Worker.CacheModes
import InferLab.Worker.OnlineAttention
import InferLab.ModelArtifacts.Layout
import InferLab.Receiver.Stall
import InferLab.Receiver.Expiry
import InferLab.ServiceAuth.Compilation
import InferLab.ServiceAuth.SignerHandoff
import InferLab.Convergence
import InferLab.Renewer.Acceptance
import InferLab.Gateway.Lifetime
import InferLab.Gateway.RetryBudget
import InferLab.Gateway.CircuitWindow
import InferLab.Gateway.WeightedRoundRobin
import InferLab.Gateway.TokenBucket
import InferLab.ConfigurationAgreement
