import Tumblebit.Prog

/-!
# Sessions, epochs and the tumbler (`tumbler/tumbler.go`, `tumbler/session.go`)

The tumbler keeps its epochs (each with a puzzle key), the sessions by cookie, the list of sessions
waiting to expire (`pending`) and the deferred actions. A session runs one exchange through the
state machine: `ready next` says whether the transition to `next` is allowed, and every handler
latches the state it asked for.

A handler runs in `Prog Ctx`: the state is the session it serves (with its id), the tumbler and the
log. This module gives the tumbler's operations on that state: `getCurrentEpoch`, `getPuzzleKey`,
`getEpochAddress`, `connect`, `lookup`, `disconnect`, `deferAction`, and `finalizeExchange`.
Times are seconds.
-/

namespace Tumblebit

/-! ## States -/

def stateInitial : Nat := 0
def stateEscrowComplete : Nat := 1
def statePuzzlesPromised : Nat := 2
def statePuzzlesValidated : Nat := 3
def stateEscrowPublished : Nat := 4
def maxPayeeState : Nat := 5
def stateSolutionsPromised : Nat := 6
def stateSolutionsValidated : Nat := 7
def stateOfferReceived : Nat := 8
def stateSolutionPublished : Nat := 9
def maxPayerState : Nat := 10

/-- `stateNames`. -/
def stateName : Nat → String
  | 0 => "InitialState"
  | 1 => "EscrowComplete"
  | 2 => "PuzzlesPromised"
  | 3 => "PuzzlesValidated"
  | 4 => "EscrowPublished"
  | 5 => "MaxPayeeState"
  | 6 => "SolutionsPromised"
  | 7 => "SolutionsValidated"
  | 8 => "OfferReceived"
  | 9 => "SolutionPublished"
  | _ => "MaxPayerState"

/-- The reasons of `FinalizeExchange`. -/
def reasonSuccess : Nat := 0
def reasonSessionExpired : Nat := 1
def reasonFailedExchange : Nat := 2
def reasonInternalError : Nat := 3

/-- `ConfirmationInterval`, five minutes. -/
def confirmationInterval : Nat := 300

/-- The package constant `EpochDuration`. -/
def epochDurationConst : Int := 10

/-- An `int32` sum, wrapping around as Go's does. -/
def addInt32 (a b : Int) : Int := (a + b + 2147483648) % 4294967296 - 2147483648

/-! ## Requests -/

/-- `PaymentOffer`, the request of the payer's offer; a deferred action keeps it. -/
structure PaymentOfferReq where
  amount : Int
  publicKey : String
  escrowHash : Bytes
  escrowScript : Bytes
  escrowTx : Bytes
  puzzle : Bytes
  realPuzzleList : Bytes
  realFactors : List Bytes
  deriving DecidableEq, Repr

/-! ## The records -/

/-- A session cookie, `[16]byte`. -/
abbrev Cookie := List UInt8

/-- `Epoch`. -/
structure Epoch where
  address : String
  pubkey : String
  blockHeight : Int
  puzzleKey : PuzzleKey
  deriving DecidableEq, Repr

/-- `deferredAction`; its callback is always `validateOffer` of the session on the argument. -/
structure DeferredAction where
  session : Nat
  argument : PaymentOfferReq
  untilTime : Nat
  deriving DecidableEq, Repr

/-- `Tumbler`; sessions are named by ids, the cookie map gives the id stored under a cookie. -/
structure Tumbler where
  lastEpoch : Int
  epochs : List Epoch
  sessions : Cookie → Option Nat
  actions : List DeferredAction
  pending : List Nat
  epochDuration : Int
  epochRenewal : Int
  puzzleDifficulty : Int

/-- `Session`. `explist` says whether the session still holds its element of `pending`. -/
structure Session where
  sersema : Bool
  finsema : Bool
  cookie : Cookie
  explist : Bool
  expire : Nat
  deadline : Nat
  address : String
  epoch : Int
  contract : Option Contract
  state : Nat
  err : Option String
  puzzles : List Bytes
  secrets : List Bytes
  solutions : List Bytes
  txHashes : List Bytes
  realSetHash : Bytes
  fakeSetHash : Bytes
  realPuzzleList : List Nat
  deriving DecidableEq, Repr

/-- The zero cookie, the value of `Cookie` before it is assigned. -/
def zeroCookie : Cookie := List.replicate 16 0

/-- The fields `NewSession` sets before `Connect`; everything else is Go's zero value. -/
def Session.fresh (address : String) : Session :=
  ⟨false, false, zeroCookie, false, 0, 0, address, 0, none, stateInitial, none, [], [], [], [], [], [], []⟩

/-! ## The state machine -/

/-- `Session.ready`, which reads only the session's state: from the initial state either role may
start; the two final states are never left; any other state may only move to the next one. -/
def readyFrom (state next : Nat) : Except String Unit :=
  if state = stateInitial then
    if next = stateEscrowComplete ∨ next = stateSolutionsPromised then .ok ()
    else .error ("not ready to advance to " ++ stateName next ++ " from " ++ stateName state)
  else if state = stateEscrowPublished ∨ state = stateSolutionPublished then
    .error ("cannot advance past the final stage: requested " ++ stateName next)
  else if next = state + 1 then .ok ()
  else .error ("not ready to advance to " ++ stateName next ++ " from " ++ stateName state)

/-- `Session.ready`. -/
def Session.ready (s : Session) (next : Nat) : Except String Unit := readyFrom s.state next

/-- Ghost events of a session, recorded for the proofs and read by nothing in the model. -/
inductive Ghost where
  /-- `s.state = state`. -/
  | latch (state : Nat)
  /-- `FinalizeExchange(reason)` entered while the session was at `state`. -/
  | finalize (reason : Nat) (state : Nat)
  /-- `getPuzzleKey(s.epoch)` called while the session was at `state` with `s.epoch = epoch`. -/
  | consult (state : Nat) (epoch : Int)
  /-- `Wallet.ValidateOffer` returned true. -/
  | offerValid
  /-- `Wallet.PublishSolution` entered with these keys. -/
  | publishSolution (keys : List Bytes)
  /-- `Wallet.PublishEscrow` entered. -/
  | publishEscrow
  deriving DecidableEq, Repr

/-- The state of a handler: the session it serves, its id, the tumbler, the log and the session's
ghost events. -/
structure Ctx where
  sid : Nat
  sess : Session
  tb : Tumbler
  log : List Effect
  ghost : List Ghost

/-- A log-only computation inside a handler. -/
def Ctx.io {α : Type} (m : Prog (List Effect) α) : Prog Ctx α := Prog.focus (·.log) (fun c l => { c with log := l }) m

def getSess : Prog Ctx Session := do return (← get).sess

theorem getSess_run (env : Env) (c : Ctx) : getSess env c = .ok c.sess c := rfl

def modifySess (f : Session → Session) : Prog Ctx Unit := modify fun c => { c with sess := f c.sess }

def modifyTb (f : Tumbler → Tumbler) : Prog Ctx Unit := modify fun c => { c with tb := f c.tb }

/-- An adapter method on `s.contract`; a `nil` contract panics at the first field access. -/
def Ctx.withContract {α : Type} (m : Prog WState α) : Prog Ctx α := fun env c =>
  match c.sess.contract with
  | none => .error nilPanic c
  | some con =>
    match m env ⟨con, c.log⟩ with
    | .ok a w => .ok a { c with sess := { c.sess with contract := some w.con }, log := w.log }
    | .error e w => .error e { c with sess := { c.sess with contract := some w.con }, log := w.log }

/-- Record a ghost event about the session as it is now. -/
def Ctx.note (g : Session → Ghost) : Prog Ctx Unit := modify fun c => { c with ghost := c.ghost ++ [g c.sess] }

/-- `s.state = next`. -/
def Session.latch (next : Nat) : Prog Ctx Unit := do
  modifySess fun s => { s with state := next }
  Ctx.note fun _ => .latch next

/-- `ready` inside a handler, returning its error as is. -/
def readyOrFail (next : Nat) : Prog Ctx Unit := do
  liftErr id ((← getSess).ready next)

theorem readyOrFail_run (n : Nat) (env : Env) (c : Ctx) :
    readyOrFail n env c = match c.sess.ready n with
      | .ok u => .ok u c
      | .error e => .error (.error e) c := by
  simp only [readyOrFail, getSess, Prog.bind_run, Prog.get_run, Prog.pure_run, liftErr_run]
  cases c.sess.ready n <;> rfl

/-! ## The tumbler's operations -/

/-- `getCurrentEpoch`. -/
def Tumbler.getCurrentEpoch (tb : Tumbler) : Except String Int :=
  if tb.lastEpoch ≠ 0 then .ok tb.lastEpoch else .error "no current epoch"

/-- The first epoch at a height, with its index: the loop of `getPuzzleKey` and `getEpochAddress`. -/
def findEpoch (es : List Epoch) (h : Int) : Option (Nat × Epoch) := es.enum.find? (·.2.blockHeight = h)

/-- `getPuzzleKey`. -/
def Tumbler.getPuzzleKey (tb : Tumbler) (h : Int) : Except String PuzzleKey :=
  match findEpoch tb.epochs h with
  | some (_, e) => .ok e.puzzleKey
  | none => .error "no such epoch"

/-- `s.tb.getPuzzleKey(s.epoch)`, the read of the session's epoch noted. -/
def Session.epochPuzzleKey : Prog Ctx (Except String PuzzleKey) := do
  Ctx.note fun s => .consult s.state s.epoch
  let c ← get
  pure (c.tb.getPuzzleKey c.sess.epoch)

/-- `getEpochAddress`: the epoch's address, allocated from the wallet on first use; an epoch about to
expire gets none. -/
def Tumbler.getEpochAddress (h : Int) : Prog Ctx (String × String) := do
  let tb := (← get).tb
  match findEpoch tb.epochs h with
  | none => throw (.error "no such epoch")
  | some (i, e) =>
    if 0 < e.address.length then pure (e.address, e.pubkey)
    else if addInt32 e.blockHeight tb.epochDuration < addInt32 tb.lastEpoch (-1) then
      throw (.error ("epoch too old: " ++ toString h))
    else do
      let (addr, pkey) ← Ctx.io Wallet.getExtAddress
      modifyTb fun tb => { tb with epochs := tb.epochs.set i { e with address := addr, pubkey := pkey } }
      pure (addr, pkey)

/-- The loop of `Connect`: draw 16 bytes until they are no session's cookie. The loop is bounded by
`fuel` draws; `none` stands for a loop still drawing. -/
def drawCookie (sessions : Cookie → Option Nat) : Nat → Prog (List Effect) (Option Cookie)
  | 0 => pure none
  | fuel + 1 => do
    let cookie ← randRead 16
    if sessions cookie = none then pure (some cookie) else drawCookie sessions fuel

/-- `Connect` once its loop has drawn `cookie`: store the session under it and queue the session for
expiry. The caller assigns `s.Cookie` afterwards. -/
def Tumbler.connect (tb : Tumbler) (sid : Nat) (cookie : Cookie) : Tumbler :=
  { tb with sessions := fun k => if k = cookie then some sid else tb.sessions k, pending := tb.pending ++ [sid] }

/-- `Lookup`: the cookie is the first 16 bytes of the key, padded with zeros. -/
def Tumbler.lookup (tb : Tumbler) (key : Bytes) : Option Nat :=
  tb.sessions ((key.take 16) ++ List.replicate (16 - key.length) 0)

/-- `removeDeferredActions`. -/
def Tumbler.removeDeferredActions (tb : Tumbler) (sid : Nat) : Tumbler :=
  { tb with actions := tb.actions.filter (·.session ≠ sid) }

/-- `Disconnect`: delete the session's cookie, drop its deferred actions and its expiry entry. -/
def Tumbler.disconnect : Prog Ctx Unit := do
  let c ← get
  let tb := { c.tb with sessions := fun k => if k = c.sess.cookie then none else c.tb.sessions k }
  let tb := tb.removeDeferredActions c.sid
  let tb := if c.sess.explist then { tb with pending := tb.pending.erase c.sid } else tb
  set { c with tb := tb, sess := { c.sess with explist := false } }

/-- `DeferAction`. -/
def Tumbler.deferAction (po : PaymentOfferReq) (untilTime : Nat) : Prog Ctx Unit := do
  let sid := (← get).sid
  modifyTb fun tb => { tb with actions := tb.actions ++ [⟨sid, po, untilTime⟩] }

/-- `FinalizeExchange`: success only from a final state (else a panic); the first call wins the
finalization semaphore and disconnects, every later call does nothing. -/
def Session.finalizeExchange (reason : Nat) : Prog Ctx Unit := do
  Ctx.note fun s => .finalize reason s.state
  let s ← getSess
  if reason = reasonSuccess ∧ s.state ≠ stateEscrowPublished ∧ s.state ≠ stateSolutionPublished then
    throw (.panic "no reason for success")
  else if s.finsema then pure ()
  else do
    modifySess fun s => { s with finsema := true }
    Tumbler.disconnect

end Tumblebit
