import GuidedDecoding.Feeding
import GuidedDecoding.Main
import GuidedDecoding.Masker.Operation
import GuidedDecoding.Proofs.Calm
import GuidedDecoding.Proofs.Delivery
import GuidedDecoding.Proofs.Filtering
import GuidedDecoding.Proofs.Generation
import GuidedDecoding.Proofs.Calls
import GuidedDecoding.Proofs.Lockstep
import GuidedDecoding.Proofs.Progress
import GuidedDecoding.Session.Operation
import GuidedDecoding.Walkthrough
import GuidedDecoding.Proofs.Stopping
import GuidedDecoding.Proofs.Isolation
import GuidedDecoding.Proofs.Scheduling
import GuidedDecoding.Proofs.Handover
import GuidedDecoding.Proofs.LongestLead
import GuidedDecoding.Proofs.Blame
import GuidedDecoding.Proofs.BetweenItems
import GuidedDecoding.Proofs.Sampling
import GuidedDecoding.Proofs.Munch
import GuidedDecoding.Proofs.Replay
import GuidedDecoding.Proofs.Termination
import GuidedDecoding.Proofs.Benchmarks
import GuidedDecoding.Proofs.Search
