import Tumblebit.Tumbler.Payee

/-!
# The payer's handlers (`tumbler/puzzlesolver.go`)

The Puzzle-Solver side of the exchange: `GetSolutionPromises` solves every puzzle and promises the
solution under a fresh 20-byte key, `ValidateSolutions` checks the fake puzzles and discloses their
keys, and `PaymentOffer` records the payer's offer; once the offer is confirmed `validateOffer`
checks the real puzzles (`RevealSolution`) and publishes their keys (`PublishSolution`). An offer
not yet confirmed is retried as a deferred action until the session's deadline.
-/

namespace Tumblebit

/-! ## Requests and responses -/

/-- `SolutionChallenges`. -/
structure SolutionChallenges where
  epoch : Int
  puzzles : List Bytes
  deriving DecidableEq, Repr

/-- `SolutionPromises`. -/
structure SolutionPromises where
  promises : List Bytes
  keyHashes : List Bytes
  deriving DecidableEq, Repr

/-- `PuzzleDisclosure`. -/
structure PuzzleDisclosure where
  fakePuzzleList : Bytes
  fakeFactors : List Bytes
  deriving DecidableEq, Repr

/-! ## Loops -/

/-- The promise loop of `GetSolutionPromises`: a 20-byte key and `NewSolutionPromise` per puzzle. -/
def solutionPromises (C : Crypto) (pk : PuzzleKey) : List Bytes → Prog (List Effect) (List (Bytes × Bytes × Bytes))
  | [] => pure []
  | p :: rest => do
    let secret ← randRead 20
    let r ← liftFault id (newSolutionPromise C pk p secret)
    let rs ← solutionPromises C pk rest
    pure (r :: rs)

/-- The check loops of `ValidateSolutions` and `RevealSolution`: after rejecting
`idx > len(puzzles)`, the `i`-th index's puzzle and the `i`-th factor must pass `valid`. -/
def checkPuzzles (valid : Bytes → Bytes → Bool) (puzzles factors : List Bytes) (i : Nat) :
    List Nat → Except Fault Unit
  | [] => .ok ()
  | idx :: rest =>
    if puzzles.length < idx then .error (.error "bad puzzle reference")
    else do
      let p ← goIndex puzzles idx
      let f ← goIndex factors i
      if !valid p f then throw (.error "puzzles didn't verify")
      checkPuzzles valid puzzles factors (i + 1) rest

/-! ## Handlers -/

/-- `Session.GetSolutionPromises`. -/
def Session.getSolutionPromises (sc : SolutionChallenges) : Prog Ctx SolutionPromises := do
  readyOrFail stateSolutionsPromised
  let pk ← liftErr id ((← get).tb.getPuzzleKey sc.epoch)
  let C := (← read).C
  let rs ← Ctx.io (solutionPromises C pk sc.puzzles)
  let secrets := rs.map (·.2.2)
  modifySess fun s => { s with
    puzzles := sc.puzzles, solutions := rs.map (·.1), secrets := secrets, epoch := sc.epoch }
  Session.latch stateSolutionsPromised
  pure ⟨rs.map (·.2.1), secrets.map C.hashB⟩

/-- `Session.ValidateSolutions`. -/
def Session.validateSolutions (pd : PuzzleDisclosure) : Prog Ctx (List Bytes) := do
  readyOrFail stateSolutionsValidated
  let fakePuzzleList ← liftErr ("failed to decode puzzle index list: " ++ ·) (decodeIndexList pd.fakePuzzleList)
  let s ← getSess
  liftErr id (if s.puzzles.length < fakePuzzleList.length then
    .error "failed to decode puzzle index list: bad input values" else .ok ())
  let pk ← liftErr (fun e => "failed to obtain a puzzle key for epoch " ++ toString s.epoch ++ ": " ++ e)
    (← Session.epochPuzzleKey)
  liftFault id (checkPuzzles (validatePuzzle pk.publicKey) s.puzzles pd.fakeFactors 0 fakePuzzleList)
  let secrets ← liftFault id (pickSecrets s.secrets "bad puzzle reference" fakePuzzleList)
  Session.latch stateSolutionsValidated
  pure secrets

/-- `Session.RevealSolution`: the real puzzles must all be blindings of the offered one. -/
def Session.revealSolution (po : PaymentOfferReq) : Prog Ctx (List Bytes) := do
  let pk ← liftErr id (← Session.epochPuzzleKey)
  let s ← getSess
  liftFault id (checkPuzzles (fun p f => validateBlindedPuzzle pk.publicKey p po.puzzle f) s.puzzles
    po.realFactors 0 s.realPuzzleList)
  liftFault id (pickSecrets s.secrets "bad puzzle reference" s.realPuzzleList)

/-- `Session.PublishSolution`. -/
def Session.publishSolution (secrets : List Bytes) : Prog Ctx Unit := do
  Ctx.note fun _ => .publishSolution secrets
  Prog.wrap "failed to publish fulfilling tx :" (Ctx.withContract (Wallet.publishSolution secrets))
  Session.latch stateSolutionPublished
  Session.finalizeExchange reasonSuccess

/-- `Wallet.ValidateOffer` on the session's contract, noting an accepted offer. -/
def Session.walletValidateOffer (escrowHash : Bytes) : Prog Ctx Bool := do
  let valid ← Ctx.withContract (Wallet.validateOffer escrowHash)
  if valid then do
    Ctx.note fun _ => .offerValid
    pure true
  else pure false

/-- Record an asynchronous error and finalize the exchange as failed. -/
def Session.failWith (e : String) : Prog Ctx Unit := do
  modifySess fun s => { s with err := some e }
  Session.finalizeExchange reasonFailedExchange

/-- A step of `validateOffer` whose error ends it through `failWith`. -/
def Session.orFail {α : Type} (m : Prog Ctx α) (k : α → Prog Ctx Unit) : Prog Ctx Unit := fun env c =>
  match m env c with
  | .ok a c' => k a env c'
  | .error (.error e) c' => Session.failWith e env c'
  | .error (.panic e) c' => .error (.panic e) c'

theorem Session.orFail_run {α : Type} (m : Prog Ctx α) (k : α → Prog Ctx Unit) (env : Env) (c : Ctx) :
    Session.orFail m k env c = match m env c with
      | .ok a c' => k a env c'
      | .error (.error e) c' => Session.failWith e env c'
      | .error (.panic e) c' => .error (.panic e) c' := rfl

/-- `Session.validateOffer`, the continuation of `PaymentOffer`, run at once or as a deferred action:
an offer still unconfirmed is retried a confirmation interval later until the deadline passes. -/
def Session.validateOffer (po : PaymentOfferReq) : Prog Ctx Unit :=
  Session.orFail (readyOrFail stateSolutionPublished) fun _ =>
  Session.orFail (Prog.wrap "failed to validate offer tx: " (Session.walletValidateOffer po.escrowHash))
    fun valid => do
  let now ← Ctx.io timeNow
  if !valid ∧ (← getSess).deadline < now then
    Session.failWith ("offer tx wasn't confirmed after " ++ toString (3 * confirmationInterval) ++ " seconds")
  else if !valid then Tumbler.deferAction po (now + confirmationInterval)
  else do
    let s ← getSess
    let _ ← liftFault id (s.realPuzzleList.mapM (goIndex s.puzzles))
    Session.orFail (Session.revealSolution po) fun secrets =>
    Session.orFail (Session.publishSolution secrets) fun _ => pure ()

/-- The checks `PaymentOffer` makes on the decoded list and the request before it builds the
contract, in the source's order. -/
def paymentOfferChecks (s : Session) (po : PaymentOfferReq) (realPuzzleList : List Nat) : Except String Unit := do
  if s.puzzles.length < realPuzzleList.length then throw "failed to decode puzzle index list: bad input values"
  if s.contract.isSome then throw "conflicting offer tx"
  if realPuzzleList.any (s.puzzles.length < ·) then throw "bad puzzle reference"
  if po.escrowTx = [] ∨ po.escrowScript = [] ∨ po.escrowHash = [] then throw "bad offer tx"

/-- `Session.PaymentOffer`. -/
def Session.paymentOffer (po : PaymentOfferReq) : Prog Ctx Unit := do
  readyOrFail stateOfferReceived
  let realPuzzleList ← match decodeIndexList po.realPuzzleList with
    | .ok l => pure l
    | .error e => do
      modifySess fun s => { s with realPuzzleList := [] }
      throw (.error ("failed to decode puzzle index list: " ++ e))
  modifySess fun s => { s with realPuzzleList := realPuzzleList }
  let s ← getSess
  liftErr id (paymentOfferChecks s po realPuzzleList)
  match Contract.new po.amount (addInt32 s.epoch epochDurationConst) with
  | .error e =>
    modifySess fun s => { s with contract := none }
    throw (.error e)
  | .ok con =>
    modifySess fun s => { s with contract := some con }
    Ctx.withContract (setAddressW .sender s.address po.publicKey)
    let (epochAddr, epochPubKey) ← Prog.wrap
      ("failed to obtain an address for an epoch " ++ toString s.epoch ++ ": ") (Tumbler.getEpochAddress s.epoch)
    Ctx.withContract (setAddressW .receiver epochAddr epochPubKey)
    Ctx.withContract (modifyCon fun c => { c with escrowScript := po.escrowScript })
    Prog.wrap "failed to import offer script: " (Ctx.withContract Wallet.importEscrowScript)
    Session.latch stateOfferReceived
    let valid ← Prog.wrap "failed to validate offer tx: " (Session.walletValidateOffer po.escrowHash)
    if !valid then
      let now ← Ctx.io timeNow
      modifySess fun s => { s with deadline := now + 3 * confirmationInterval }
      Tumbler.deferAction po (now + confirmationInterval)
    else
      Session.validateOffer po
      match (← getSess).err with
      | some e => throw (.error e)
      | none => pure ()

end Tumblebit
