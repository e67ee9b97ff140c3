import Tumblebit.Tumbler.Session

/-!
# The payee's handlers (`tumbler/constants.go`)

The Puzzle-Promise side of the exchange: `SetupEscrow` escrows the tumbler's coin for the payee,
`GetPuzzlePromises` promises a signature of every transaction hash behind an RSA puzzle,
`ValidatePuzzles` checks the revealed fake transactions and discloses their secrets together with
the quotients that chain the real ones, and `FinalizeEscrow` publishes the escrow.

Each loop of the source is a function of its own: `checkFakeTxs` (the fake transactions),
`pickSecrets` (secrets by checked index) and `puzzlePromises` (a promise per signature).
-/

namespace Tumblebit

/-! ## Requests and responses -/

/-- `EscrowRequest`. -/
structure EscrowRequest where
  address : String
  publicKey : String
  amount : Int
  deriving DecidableEq, Repr

/-- `EscrowOffer`. -/
structure EscrowOffer where
  epoch : Int
  lockTime : Int
  address : String
  publicKey : String
  escrowScript : Bytes
  escrowTx : Bytes
  deriving DecidableEq, Repr

/-- `SignatureChallenges`. -/
structure SignatureChallenges where
  fakeSetHash : Bytes
  realSetHash : Bytes
  transactionHashes : List Bytes
  signatures : List Bytes
  publicKey : Bytes
  deriving DecidableEq, Repr

/-- `SignaturePromises`. -/
structure SignaturePromises where
  publicKey : Bytes
  puzzleKey : Bytes
  puzzles : List Bytes
  promises : List Bytes
  deriving DecidableEq, Repr

/-- `TransactionDisclosure`. -/
structure TransactionDisclosure where
  fakeTxList : Bytes
  realTxList : Bytes
  randomPads : List Bytes
  salt : Bytes
  deriving DecidableEq, Repr

/-- `TransactionSecrets`. -/
structure TransactionSecrets where
  secrets : List Bytes
  quotients : List Bytes
  deriving DecidableEq, Repr

/-! ## Loops -/

/-- The loop over the fake list in `ValidatePuzzles`: the `i`-th index must point into the hashes
(the bound is `idx > len`), its pad must be 32 bytes, and `FakeTxFormat(pad)` must be the hash. -/
def checkFakeTxs (C : Crypto) (txHashes pads : List Bytes) (i : Nat) : List Nat → Except Fault Unit
  | [] => .ok ()
  | idx :: rest =>
    if txHashes.length < idx then .error (.error "bad tx reference")
    else do
      let pad ← goIndex pads i
      if pad.length ≠ 32 then throw (.error "bad input values")
      let h ← goIndex txHashes idx
      if fakeTxFormat C pad ≠ h then throw (.error "fake tx didn't verify")
      checkFakeTxs C txHashes pads (i + 1) rest

/-- A loop that reads `secrets[idx]` for each index after rejecting `idx > len(secrets)`
with `msg`. -/
def pickSecrets (secrets : List Bytes) (msg : String) : List Nat → Except Fault (List Bytes)
  | [] => .ok []
  | idx :: rest =>
    if secrets.length < idx then .error (.error msg)
    else do
      let s ← goIndex secrets idx
      let ss ← pickSecrets secrets msg rest
      pure (s :: ss)

/-- The promise loop of `GetPuzzlePromises`: a secret below `N` and `NewPuzzlePromise` per
signature. -/
def puzzlePromises (C : Crypto) (pk : PuzzleKey) : List Bytes → Prog (List Effect) (List (Bytes × Bytes × Bytes))
  | [] => pure []
  | sig :: rest => do
    let secret ← randIntBelow pk.rsakey.n
    let r ← liftFault id (newPuzzlePromise C pk sig secret)
    let rs ← puzzlePromises C pk rest
    pure (r :: rs)

/-- The session's contract, a `nil` one panicking at its first field access. -/
def contractOrPanic : Prog Ctx Contract := do
  match (← getSess).contract with
  | some c => pure c
  | none => throw nilPanic

/-! ## Handlers -/

/-- `Session.SetupEscrow`. -/
def Session.setupEscrow (er : EscrowRequest) : Prog Ctx EscrowOffer := do
  readyOrFail stateEscrowComplete
  let tb := (← get).tb
  let epoch ← liftErr id tb.getCurrentEpoch
  match Contract.new er.amount (addInt32 epoch tb.epochDuration) with
  | .error e =>
    modifySess fun s => { s with contract := none }
    throw (.error e)
  | .ok con =>
    modifySess fun s => { s with contract := some con }
    Ctx.withContract (setAddressW .receiver er.address er.publicKey)
    Ctx.withContract Wallet.createEscrow
    modifySess fun s => { s with epoch := epoch }
    Session.latch stateEscrowComplete
    let con ← contractOrPanic
    match con.senderAddr with
    | none => throw nilPanic
    | some a =>
      pure ⟨epoch, addInt32 epoch tb.epochDuration, con.senderAddrStr, a.encoded, con.escrowScript,
        con.escrowBytes⟩

/-- `Session.SignChallengeHashes`. -/
def Session.signChallengeHashes (hashes : List Bytes) : Prog Ctx (List Bytes × Bytes) :=
  Ctx.withContract (Wallet.signHashes hashes)

/-- `Session.GetPuzzlePromises`. -/
def Session.getPuzzlePromises (cp : SignatureChallenges) : Prog Ctx SignaturePromises := do
  readyOrFail statePuzzlesPromised
  let pk ← liftErr id (← Session.epochPuzzleKey)
  let env ← read
  let key := env.marshalPubKey pk.publicKey
  let rs ← Ctx.io (puzzlePromises env.C pk cp.signatures)
  modifySess fun s => { s with
    secrets := rs.map (·.2.2), realSetHash := cp.realSetHash, fakeSetHash := cp.fakeSetHash,
    txHashes := cp.transactionHashes }
  Session.latch statePuzzlesPromised
  pure ⟨cp.publicKey, key, rs.map (·.1), rs.map (·.2.1)⟩

/-- The length checks of `ValidatePuzzles` on the decoded lists, the pads and the salt. -/
def checkDisclosure (s : Session) (cd : TransactionDisclosure) (fakeTxList realTxList : List Nat) :
    Except String Unit :=
  if s.txHashes.length < fakeTxList.length ∨ s.txHashes.length < realTxList.length ∨
      s.txHashes.length < cd.randomPads.length ∨ cd.randomPads.length < fakeTxList.length ∨
      cd.salt.length ≠ 32 then
    .error "bad input values"
  else .ok ()

/-- The rest of `ValidatePuzzles` once the key is known: both commitments and the fake transactions are
checked, and the fake secrets and the quotients of the real ones are computed. -/
def disclose (C : Crypto) (pk : PuzzleKey) (s : Session) (cd : TransactionDisclosure) (fakeTxList realTxList : List Nat) :
    Except Fault (List Bytes × List Bytes) := do
  let fakeSetHash ← (hashIndexList C cd.salt (fakeTxList.map Int.ofNat)).mapError
    (.error <| "failed to hash the fake tx list: " ++ ·)
  if fakeSetHash ≠ s.fakeSetHash then throw (.error "fake set didn't verify")
  checkFakeTxs C s.txHashes cd.randomPads 0 fakeTxList
  let realSetHash ← (hashIndexList C cd.salt (realTxList.map Int.ofNat)).mapError
    (.error <| "failed to hash the real tx list: " ++ ·)
  if realSetHash ≠ s.realSetHash then throw (.error "real set didn't verify")
  let fakeSecrets ← fakeTxList.mapM (goIndex s.secrets)
  let realSecrets ← pickSecrets s.secrets "bad tx reference" realTxList
  let quotients ← (quotients pk.publicKey realSecrets).mapError (Fault.wrap "failed to generate quotients: ")
  pure (fakeSecrets, quotients)

/-- `Session.ValidatePuzzles`. -/
def Session.validatePuzzles (cd : TransactionDisclosure) : Prog Ctx TransactionSecrets := do
  readyOrFail statePuzzlesValidated
  let fakeTxList ← liftErr ("failed to decode fake tx index list: " ++ ·) (decodeIndexList cd.fakeTxList)
  let realTxList ← liftErr ("failed to decode real tx index list: " ++ ·) (decodeIndexList cd.realTxList)
  let s ← getSess
  liftErr id (checkDisclosure s cd fakeTxList realTxList)
  let pk ← liftErr (fun e => "failed to obtain a puzzle key for epoch " ++ toString s.epoch ++ ": " ++ e)
    (← Session.epochPuzzleKey)
  let (fakeSecrets, quotients) ← liftFault id (disclose (← read).C pk s cd fakeTxList realTxList)
  modifySess fun s => { s with
    puzzles := [], txHashes := [], realSetHash := [], fakeSetHash := [] }
  Session.latch statePuzzlesValidated
  pure ⟨fakeSecrets, quotients⟩

/-- `Session.FinalizeEscrow`; the deferred `FinalizeExchange` runs after the hash is read. -/
def Session.finalizeEscrow : Prog Ctx Bytes := do
  readyOrFail stateEscrowPublished
  Ctx.note fun _ => .publishEscrow
  Prog.wrap "failed to publish escrow tx :" (Ctx.withContract Wallet.publishEscrow)
  Session.latch stateEscrowPublished
  let con ← contractOrPanic
  Session.finalizeExchange reasonSuccess
  pure con.escrowHash

end Tumblebit
