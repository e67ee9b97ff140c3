import Tumblebit.Tumbler.Payer

/-!
# The RPC server (`rpc/rpcserver/server.go`)

The tumbler process holds the tumbler, every session created so far and the log. A handler of the
RPC server on an existing session looks its cookie up, takes the session's semaphore (`TryLock`),
runs the session's operations and releases the semaphore when it returns (`defer s.Unlock()`). An
operation's error finalizes the exchange and is answered with a status that hides the failed step. A
panic is never recovered: the deferred `Unlock` runs and the process ends.

`SetupEscrow` and `GetSolutionPromises` open their session through `NewSession` instead. Their
handlers are split at the point where `NewSession` has connected the session, because the process
(`Tumblebit.Process`) lets the ticker run between the two parts.
-/

namespace Tumblebit

/-! ## Requests and responses -/

/-- `SetupEscrowRequest`. -/
structure SetupEscrowRequest where
  address : String
  publicKey : String
  amount : Int
  deriving DecidableEq, Repr

/-- `SetupEscrowResponse`. -/
structure SetupEscrowResponse where
  cookie : Cookie
  epoch : Int
  lockTime : Int
  address : String
  publicKey : String
  escrowScript : Bytes
  escrowTransaction : Bytes
  deriving DecidableEq, Repr

/-- `GetPuzzlePromisesRequest`. -/
structure GetPuzzlePromisesRequest where
  cookie : Bytes
  fakeSetHash : Bytes
  realSetHash : Bytes
  transactionHashes : List Bytes
  deriving DecidableEq, Repr

/-- `GetPuzzlePromisesResponse`. -/
structure GetPuzzlePromisesResponse where
  publicKey : Bytes
  puzzleKey : Bytes
  puzzles : List Bytes
  promises : List Bytes
  deriving DecidableEq, Repr

/-- `FinalizeEscrowRequest`. -/
structure FinalizeEscrowRequest where
  cookie : Bytes
  fakeTxList : Bytes
  realTxList : Bytes
  randomPads : List Bytes
  salt : Bytes
  deriving DecidableEq, Repr

/-- `FinalizeEscrowResponse`. -/
structure FinalizeEscrowResponse where
  escrowHash : Bytes
  secrets : List Bytes
  quotients : List Bytes
  deriving DecidableEq, Repr

/-- `GetSolutionPromisesRequest`. -/
structure GetSolutionPromisesRequest where
  address : String
  epoch : Int
  puzzles : List Bytes
  deriving DecidableEq, Repr

/-- `GetSolutionPromisesResponse`. -/
structure GetSolutionPromisesResponse where
  cookie : Cookie
  promises : List Bytes
  keyHashes : List Bytes
  deriving DecidableEq, Repr

/-- `ValidateSolutionsRequest`. -/
structure ValidateSolutionsRequest where
  cookie : Bytes
  fakePuzzleList : Bytes
  randomFactors : List Bytes
  deriving DecidableEq, Repr

/-- `ValidateSolutionsResponse`. -/
structure ValidateSolutionsResponse where
  secrets : List Bytes
  deriving DecidableEq, Repr

/-- `PaymentOfferRequest`. -/
structure PaymentOfferRequest where
  cookie : Bytes
  amount : Int
  publicKey : String
  escrowHash : Bytes
  escrowScript : Bytes
  escrowTransaction : Bytes
  puzzle : Bytes
  realPuzzleList : Bytes
  randomFactors : List Bytes
  deriving DecidableEq, Repr

/-- A request that opens its session through `NewSession`. -/
inductive NewRequest where
  | setupEscrow (req : SetupEscrowRequest)
  | getSolutionPromises (req : GetSolutionPromisesRequest)
  deriving DecidableEq, Repr

def NewRequest.address : NewRequest → String
  | .setupEscrow req => req.address
  | .getSolutionPromises req => req.address

/-- A request on an existing session, naming it by its cookie. -/
inductive SessionRequest where
  | getPuzzlePromises (req : GetPuzzlePromisesRequest)
  | finalizeEscrow (req : FinalizeEscrowRequest)
  | validateSolutions (req : ValidateSolutionsRequest)
  | paymentOffer (req : PaymentOfferRequest)
  deriving DecidableEq, Repr

/-! ## The process -/

/-- The tumbler process. A session's id is its position in `heap`, where it sits with its ghost events.
`connecting` holds the `NewSession` calls that have connected their session (its id, the cookie
`Connect` returned, the request) and not yet assigned `s.Cookie` and `s.expire`; `actionBatches` and
`expireBatches` are the goroutines the ticker started, each with what it has still to run. -/
structure World where
  tb : Tumbler
  heap : List (Session × List Ghost)
  log : List Effect
  connecting : List (Nat × Cookie × NewRequest)
  actionBatches : List (List DeferredAction)
  expireBatches : List (List Nat)

/-- The handler state of session `sid`, whose record is `s` with ghost events `g`. -/
def World.enter (w : World) (sid : Nat) (s : Session) (g : List Ghost) : Ctx := ⟨sid, s, w.tb, w.log, g⟩

/-- The process once a handler on session `sid` has ended in `c`: sessions are shared, so what the
handler did stays whether it returned or failed. -/
def World.leave (w : World) (sid : Nat) (c : Ctx) : World :=
  { w with tb := c.tb, log := c.log, heap := w.heap.set sid (c.sess, c.ghost) }

/-- Run a handler's computation on session `sid`. -/
def World.onSession {α : Type} (sid : Nat) (m : Prog Ctx α) : Prog World α := fun env w =>
  match w.heap[sid]? with
  | none => .error nilPanic w
  | some (s, g) =>
    match m env (w.enter sid s g) with
    | .ok a c => .ok a (w.leave sid c)
    | .error e c => .error e (w.leave sid c)

/-- A log-only computation of the process. -/
def World.io {α : Type} (m : Prog (List Effect) α) : Prog World α :=
  Prog.focus (·.log) (fun w l => { w with log := l }) m

/-! ## Go's control flow -/

/-- A call whose returned error the caller handles: the error becomes a value, a panic goes on. -/
def Prog.attempt {σ α : Type} (m : Prog σ α) : Prog σ (Except String α) := fun env s =>
  match m env s with
  | .ok a s' => .ok (.ok a) s'
  | .error (.error e) s' => .ok (.error e) s'
  | .error (.panic p) s' => .error (.panic p) s'

/-- `m` with `defer fin`: `fin` runs however `m` ends; a panic of `fin` replaces `m`'s outcome. -/
def Prog.deferring {σ α : Type} (m : Prog σ α) (fin : Prog σ Unit) : Prog σ α := fun env s =>
  match m env s with
  | .ok a s' =>
    match fin env s' with
    | .ok _ s'' => .ok a s''
    | .error e s'' => .error e s''
  | .error e s' =>
    match fin env s' with
    | .ok _ s'' => .error e s''
    | .error e' s'' => .error e' s''

/-! ## Status errors -/

/-- `status.Errorf(code, msg)`, as the client reads it. -/
def rpcStatus (code msg : String) : Fault := .error ("rpc error: code = " ++ code ++ " desc = " ++ msg)

def errInProgress : Fault := rpcStatus "Aborted" "operation in progress"
def errBadCookie : Fault := rpcStatus "InvalidArgument" "bad cookie"
def errTempFailure : Fault := rpcStatus "Internal" "temporary failure"
def errBadAddress : Fault := rpcStatus "InvalidArgument" "bad address"
def errEscrowFailed : Fault := rpcStatus "Unavailable" "escrow failed"
def errBadRequest : Fault := rpcStatus "FailedPrecondition" "bad request"

/-! ## The session's semaphore -/

/-- `TryLock`: take the semaphore if it is free. -/
def Session.tryLock : Prog Ctx Bool := do
  if (← getSess).sersema then pure false
  else do
    modifySess fun s => { s with sersema := true }
    pure true

/-- `Unlock`: free the semaphore, panicking if it was free already. -/
def Session.unlock : Prog Ctx Unit := do
  let held := (← getSess).sersema
  modifySess fun s => { s with sersema := false }
  if !held then throw (.panic "semaphore was already released")

/-! ## Handlers -/

/-- An operation of a handler: its error finalizes the exchange with `reason` and is answered with
`status`. -/
def Server.guard {α : Type} (reason : Nat) (status : Fault) (m : Prog Ctx α) : Prog Ctx α := do
  match ← Prog.attempt m with
  | .ok a => pure a
  | .error _ => do
    Session.finalizeExchange reason
    throw status

/-- The frame of a handler on an existing session: `Lookup`, `TryLock`, the body, and the deferred
`Unlock`. -/
def Server.withSession {α : Type} (cookie : Bytes) (body : Prog Ctx α) : Prog World α := do
  match (← get).tb.lookup cookie with
  | none => throw errBadCookie
  | some sid =>
    World.onSession sid do
      if (← Session.tryLock) then Prog.deferring body Session.unlock
      else throw errInProgress

/-- `tumblerServer.GetPuzzlePromises`. -/
def Server.getPuzzlePromises (req : GetPuzzlePromisesRequest) : Prog World GetPuzzlePromisesResponse :=
  Server.withSession req.cookie do
    let (signatures, pubKey) ← Server.guard reasonInternalError errTempFailure
      (Session.signChallengeHashes req.transactionHashes)
    let promise ← Server.guard reasonFailedExchange errBadRequest
      (Session.getPuzzlePromises ⟨req.fakeSetHash, req.realSetHash, req.transactionHashes, signatures, pubKey⟩)
    pure ⟨promise.publicKey, promise.puzzleKey, promise.puzzles, promise.promises⟩

/-- `tumblerServer.FinalizeEscrow`. -/
def Server.finalizeEscrow (req : FinalizeEscrowRequest) : Prog World FinalizeEscrowResponse :=
  Server.withSession req.cookie do
    let secrets ← Server.guard reasonFailedExchange errBadRequest
      (Session.validatePuzzles ⟨req.fakeTxList, req.realTxList, req.randomPads, req.salt⟩)
    let escrowHash ← Server.guard reasonFailedExchange errBadRequest Session.finalizeEscrow
    pure ⟨escrowHash, secrets.secrets, secrets.quotients⟩

/-- `tumblerServer.ValidateSolutions`. -/
def Server.validateSolutions (req : ValidateSolutionsRequest) : Prog World ValidateSolutionsResponse :=
  Server.withSession req.cookie do
    let secrets ← Server.guard reasonFailedExchange errBadRequest
      (Session.validateSolutions ⟨req.fakePuzzleList, req.randomFactors⟩)
    pure ⟨secrets⟩

/-- `tumblerServer.PaymentOffer`. -/
def Server.paymentOffer (req : PaymentOfferRequest) : Prog World Unit :=
  Server.withSession req.cookie do
    Server.guard reasonFailedExchange errBadRequest
      (Session.paymentOffer ⟨req.amount, req.publicKey, req.escrowHash, req.escrowScript, req.escrowTransaction,
        req.puzzle, req.realPuzzleList, req.randomFactors⟩)

/-- `tumblerServer.SetupEscrow` after `NewSession`. -/
def Server.setupEscrowBody (req : SetupEscrowRequest) : Prog Ctx SetupEscrowResponse := do
  let escrow ← Server.guard reasonFailedExchange errEscrowFailed
    (Session.setupEscrow ⟨req.address, req.publicKey, req.amount⟩)
  pure ⟨(← getSess).cookie, escrow.epoch, escrow.lockTime, escrow.address, escrow.publicKey, escrow.escrowScript,
    escrow.escrowTx⟩

/-- `tumblerServer.GetSolutionPromises` after `NewSession`. -/
def Server.getSolutionPromisesBody (req : GetSolutionPromisesRequest) : Prog Ctx GetSolutionPromisesResponse := do
  let promise ← Server.guard reasonFailedExchange errBadRequest (Session.getSolutionPromises ⟨req.epoch, req.puzzles⟩)
  pure ⟨(← getSess).cookie, promise.promises, promise.keyHashes⟩

end Tumblebit
