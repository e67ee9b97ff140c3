import Tumblebit.Basic
import Tumblebit.Puzzle.IndexList
import Tumblebit.Puzzle.Puzzle
import Tumblebit.Puzzle.Rsa
import Tumblebit.Puzzle.Promise
import Tumblebit.Puzzle.Quotient
import Tumblebit.Shuffle
import Tumblebit.ShuffleUniform
import Tumblebit.Client.Puzzles
import Tumblebit.Contract.Script
import Tumblebit.Contract.Engine
import Tumblebit.Contract.Contract
import Tumblebit.Contract.RoundTrip
import Tumblebit.Wallet
import Tumblebit.Prog
import Tumblebit.Tumbler.Session
import Tumblebit.Tumbler.Epochs
import Tumblebit.Tumbler.EpochAddress
import Tumblebit.Tumbler.Payee
import Tumblebit.Tumbler.Payer
import Tumblebit.Offer
import Tumblebit.Contract.Spend
import Tumblebit.Tumbler.Run
import Tumblebit.Tumbler.Trace
import Tumblebit.Tumbler.StateMachine
import Tumblebit.Tumbler.LockTime
import Tumblebit.Tumbler.Failures
import Tumblebit.Tumbler.Disclosure
import Tumblebit.Tumbler.Secrets
import Tumblebit.Tumbler.EscrowRefund
import Tumblebit.Tumbler.KeyRelease
import Tumblebit.Tumbler.RefundRun
import Tumblebit.Client.PromiseRun
import Tumblebit.Client.SolverRun
import Tumblebit.Rpc.Server
import Tumblebit.Process
import Tumblebit.Ticker
import Tumblebit.Races
import Tumblebit.Rpc.Robustness
import Tumblebit.Rpc.Scheduling
import Tumblebit.Retries
