import TwoFlow.Action
import TwoFlow.Config
import TwoFlow.Error
import TwoFlow.Flow
import TwoFlow.History
import TwoFlow.Log
import TwoFlow.Main
import TwoFlow.Model
import TwoFlow.Number.Binary64
import TwoFlow.Number.Decimal
import TwoFlow.Number.Reading
import TwoFlow.Observation
import TwoFlow.Operation
import TwoFlow.Pifo.Basic
import TwoFlow.Pifo.Drain
import TwoFlow.Pifo.Event
import TwoFlow.Pifo.Stats
import TwoFlow.Proofs.Backlog
import TwoFlow.Proofs.Lawful
import TwoFlow.Proofs.Refinement
import TwoFlow.Proofs.Representation
import TwoFlow.Proofs.Simulation
import TwoFlow.Proofs.Transition
import TwoFlow.Property.Checker
import TwoFlow.Property.State
import TwoFlow.Property.Violation
import TwoFlow.Queue
import TwoFlow.Random.ChaCha
import TwoFlow.Random.Source
import TwoFlow.Replay.Options
import TwoFlow.Replay.Run
import TwoFlow.Request
import TwoFlow.Scenario
import TwoFlow.Shared
import TwoFlow.SubQueue
import TwoFlow.SubQueue.Faulty
import TwoFlow.SubQueue.Fifo
import TwoFlow.Target
import TwoFlow.Text.CharRange
import TwoFlow.Text.Ignorable
import TwoFlow.Text.Mark
import TwoFlow.Text.Quoted
import TwoFlow.Text.Structured
import TwoFlow.Text.Unassigned
import TwoFlow.Verification
import TwoFlow.Verification.Violation
import TwoFlow.Workload.Basic
import TwoFlow.Workload.Event
import TwoFlow.Workload.Pattern
import TwoFlow.Workload.Session
import TwoFlow.Proofs.Conservation
import TwoFlow.Proofs.Verification
import TwoFlow.Proofs.Generation
import TwoFlow.Proofs.Replay
import TwoFlow.Proofs.Accounts
import TwoFlow.Proofs.Service
import TwoFlow.Proofs.Inspection
import TwoFlow.Proofs.Soundness
import TwoFlow.Proofs.Comparison
import TwoFlow.Proofs.Draining
import TwoFlow.Proofs.Transparency
import TwoFlow.Proofs.Parametricity
import TwoFlow.Proofs.Substitution
import TwoFlow.Proofs.Waiting
import TwoFlow.Proofs.Independence
import TwoFlow.Proofs.Reconciliation
import TwoFlow.Proofs.Clients
import TwoFlow.Proofs.Rejection
import TwoFlow.Proofs.Erasure
import TwoFlow.Proofs.Commutation
import TwoFlow.Proofs.DrainOrder
import TwoFlow.Proofs.NextPop
import TwoFlow.Proofs.Silence
import TwoFlow.Proofs.FlowOrder
import TwoFlow.Proofs.Traffic
import TwoFlow.Proofs.Reordering
import TwoFlow.Proofs.Reporting
import TwoFlow.Proofs.RoundRobin
