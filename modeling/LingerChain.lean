import LingerChain.Main
import LingerChain.Schedule
import LingerChain.Text.Encoding
import LingerChain.Proofs.Grammar
import LingerChain.Proofs.Anonymity
import LingerChain.Proofs.Durations
import LingerChain.Proofs.Reach
import LingerChain.Proofs.Refusal
import LingerChain.Proofs.Depth
import LingerChain.Proofs.Interleaving
import LingerChain.Proofs.Cut
import LingerChain.Proofs.Behaviour
import LingerChain.Proofs.Locality
import LingerChain.Proofs.Outcome
import LingerChain.Proofs.Indifference
import LingerChain.Proofs.Misreading
import LingerChain.Proofs.RoundTrip
import LingerChain.Proofs.Protocol
import LingerChain.Proofs.Policy
import LingerChain.Proofs.UsageLine
import LingerChain.Proofs.Unquoting
