import Tumblebit.Contract.Contract
import Tumblebit.Puzzle.Puzzle

/-!
# The world outside the program, and the wallet adapter (`rpcclient.go`)

The tumbler talks to a dcrwallet over gRPC, draws random numbers and reads the clock. All of these are
answered by an `Env`, as functions of everything asked so far (`List Effect`): any sequence of
answers is some `Env`. A computation of the program is a `Prog σ α`: it reads the `Env`, reads and
writes a state `σ` that carries the log, and may fail with a `Fault`, keeping the state it reached
(Go mutates through pointers before it returns an error).

The adapter's methods (`Wallet.createEscrow`, `signHashes`, `importEscrowScript`, `validateOffer`,
`publishEscrow`, `publishSolution`, `getExtAddress`, `getIntAddress`) are modelled from its source
over these requests; a method on a contract runs in `Prog WState`, whose state is the contract and
the log.
-/

namespace Tumblebit

/-! ## Requests and the environment -/

/-- A gRPC request to dcrwallet. -/
inductive Request where
  | nextAddress (internal : Bool)
  | signHashes (address : String) (hashes : List Bytes)
  | importScript (script : Bytes)
  | constructTransaction (script : Bytes) (amount : Int)
  | signTransaction (tx : Bytes)
  | createSignature (address : String) (tx : Bytes) (prevScript : Bytes)
  | getTransaction (hash : Bytes)
  | publishTransaction (tx : Bytes)
  | bestBlock
  deriving DecidableEq, Repr

/-- What the program asked of the outside world. -/
inductive Effect where
  | rpc (req : Request)
  | randInt (bound : Nat)
  | randBytes (n : Nat)
  | genPuzzleKey (difficulty : Int)
  | now
  deriving DecidableEq, Repr

/-- The error of `GetTransaction`: `codes.NotFound`, or any other. -/
inductive TxError where
  | notFound
  | failed (msg : String)
  deriving DecidableEq, Repr

/-- The answers of dcrwallet, given everything asked before. -/
structure Rpc where
  nextAddress : List Effect → Bool → Except String (String × String)
  signHashes : List Effect → String → List Bytes → Except String (List Bytes × Bytes)
  importScript : List Effect → Bytes → Except String String
  constructTransaction : List Effect → Bytes → Int → Except String Bytes
  signTransaction : List Effect → Bytes → Except String Bytes
  createSignature : List Effect → String → Bytes → Bytes → Except String Bytes
  /-- The serialized transaction and its number of confirmations. -/
  getTransaction : List Effect → Bytes → Except TxError (Bytes × Int)
  publishTransaction : List Effect → Bytes → Except String Bytes
  /-- The height of the best block. -/
  bestBlock : List Effect → Except String Nat

/-- Everything the program does not compute itself. -/
structure Env where
  C : Crypto
  lib : Lib
  rpc : Rpc
  /-- `rand.Int(rand.Reader, n)`. -/
  randInt : List Effect → Nat → Nat
  randInt_lt : ∀ h n, 0 < n → randInt h n < n
  /-- `rand.Read` of `n` bytes. -/
  randBytes : List Effect → Nat → Bytes
  randBytes_length : ∀ h n, (randBytes h n).length = n
  /-- `puzzle.GeneratePuzzleKey(difficulty)`. -/
  genPuzzleKey : List Effect → Int → Except String PuzzleKey
  /-- `x509.MarshalPKIXPublicKey` of a puzzle key. -/
  marshalPubKey : PuzzlePubKey → Bytes
  /-- `time.Now()`. -/
  clock : List Effect → Nat

/-- A world whose hashes and draws are all zero, whose clock stands still and whose wallet refuses
every request: a concrete `Env` to run the model in. -/
def Env.idle : Env where
  C := ⟨fun _ => List.replicate 32 0, fun _ => List.length_replicate _ _, fun _ => List.replicate 20 0,
    fun _ => List.length_replicate _ _, fun _ _ => List.replicate 32 0, fun n _ _ => List.replicate n 0,
    fun _ _ _ => List.length_replicate _ _⟩
  lib := ⟨fun _ _ _ _ _ => .ok false, fun _ => .error "", fun _ => .error "", fun _ => "", fun _ => [], fun _ => [],
    fun _ => none, fun _ => 0, fun _ => false⟩
  rpc := ⟨fun _ _ => .error "", fun _ _ _ => .error "", fun _ _ => .error "", fun _ _ _ => .error "",
    fun _ _ => .error "", fun _ _ _ _ => .error "", fun _ _ => .error .notFound, fun _ _ => .error "",
    fun _ => .error ""⟩
  randInt _ _ := 0
  randInt_lt _ _ h := h
  randBytes _ n := List.replicate n 0
  randBytes_length _ n := List.length_replicate n 0
  genPuzzleKey _ _ := .error ""
  marshalPubKey _ := []
  clock _ := 0

/-- A computation of the program on a state `σ`. -/
abbrev Prog (σ α : Type) := ReaderT Env (EStateM Fault σ) α

/-- Run a computation on a part of the state. -/
def Prog.focus {σ τ α : Type} (get : σ → τ) (set : σ → τ → σ) (m : Prog τ α) : Prog σ α := fun env s =>
  match m env (get s) with
  | .ok a t => .ok a (set s t)
  | .error e t => .error e (set s t)

/-- `fmt.Errorf(pre + "%v", err)` around a computation whose error the caller wraps. -/
def Prog.wrap {σ α : Type} (pre : String) (m : Prog σ α) : Prog σ α := fun env s =>
  match m env s with
  | .ok a t => .ok a t
  | .error e t => .error (e.wrap pre) t

/-- A returned error as a `Fault`. -/
def liftErr {σ α : Type} (wrap : String → String) : Except String α → Prog σ α
  | .ok a => pure a
  | .error e => throw (.error (wrap e))

/-- A computation of a library function that can also panic. -/
def liftFault {σ α : Type} (wrap : String → String) : Except Fault α → Prog σ α
  | .ok a => pure a
  | .error e => throw (match e with
    | .error m => .error (wrap m)
    | .panic m => .panic m)

/-! ## Requests, in the log -/

/-- Record an effect and answer it from the environment. -/
def ask {α : Type} (e : Effect) (answer : Env → List Effect → α) : Prog (List Effect) α := fun env log =>
  .ok (answer env log) (log ++ [e])

/-- `rand.Int(rand.Reader, n)`, which panics unless `n > 0`. -/
def randIntBelow (n : Nat) : Prog (List Effect) Nat :=
  if n = 0 then throw (.panic "crypto/rand: argument to Int is <= 0")
  else ask (.randInt n) fun env h => env.randInt h n

/-- `rand.Read` into a fresh slice of `n` bytes. -/
def randRead (n : Nat) : Prog (List Effect) Bytes := ask (.randBytes n) fun env h => env.randBytes h n

/-- `time.Now()`. -/
def timeNow : Prog (List Effect) Nat := ask .now fun env h => env.clock h

/-! ## The adapter -/

/-- The state of an adapter method: the contract it was given, and the log. -/
structure WState where
  con : Contract
  log : List Effect

/-- Run a log-only computation inside an adapter method. -/
def WState.io {α : Type} (m : Prog (List Effect) α) : Prog WState α := Prog.focus (·.log) (fun s l => { s with log := l }) m

def modifyCon (f : Contract → Contract) : Prog WState Unit := modify fun s => { s with con := f s.con }

/-- `GetIntAddress` and `GetExtAddress`: the next address of the account. -/
def getAddress (internal : Bool) : Prog (List Effect) (String × String) := do
  let r ← ask (.rpc (.nextAddress internal)) fun env h => env.rpc.nextAddress h internal
  liftErr ("NextAddress " ++ ·) r

def Wallet.getIntAddress : Prog (List Effect) (String × String) := getAddress true

def Wallet.getExtAddress : Prog (List Effect) (String × String) := getAddress false

/-- `Contract.SetAddress` on the method's contract. -/
def setAddressW (t : AddressRole) (a pk : String) : Prog WState Unit := do
  let env ← read
  let c ← liftErr id ((← get).con.setAddress env.lib t a pk)
  modifyCon fun _ => c

/-- `Wallet.ImportEscrowScript`. -/
def Wallet.importEscrowScript : Prog WState Unit := do
  let script := (← get).con.escrowScript
  let r ← WState.io (ask (.rpc (.importScript script)) fun env h => env.rpc.importScript h script)
  let addr ← liftErr ("ImportScript " ++ ·) r
  modifyCon fun c => { c with escrowAddrStr := addr }

/-- `createEscrowTx`. -/
def Wallet.createEscrowTx : Prog WState Unit := do
  let c := (← get).con
  let r ← WState.io (ask (.rpc (.constructTransaction c.escrowPayScript c.amount))
    fun env h => env.rpc.constructTransaction h c.escrowPayScript c.amount)
  let unsigned ← liftErr ("ConstructTransaction " ++ ·) r
  let r ← WState.io (ask (.rpc (.signTransaction unsigned)) fun env h => env.rpc.signTransaction h unsigned)
  let signed ← liftErr ("SignTransaction " ++ ·) r
  modifyCon fun c => { c with escrowBytes := signed }

/-- `createRefundTx`. -/
def Wallet.createRefundTx : Prog WState Unit := do
  let (addr, pkey) ← WState.io getIntAddress
  setAddressW .refund addr pkey
  let env ← read
  let c ← liftFault ("failed to create a refund tx: " ++ ·) ((← get).con.buildRefundTx env.lib)
  modifyCon fun _ => c
  let r ← WState.io (ask (.rpc (.createSignature c.senderAddrStr c.refundBytes c.escrowScript))
    fun env h => env.rpc.createSignature h c.senderAddrStr c.refundBytes c.escrowScript)
  let sig ← liftErr ("CreateSignature " ++ ·) r
  modifyCon fun c => { c with refundSig := sig }
  let c ← liftFault ("failed to add a refund script: " ++ ·) ((← get).con.addRefundScript env.lib)
  modifyCon fun _ => c
  liftFault ("failed to verify refund script: " ++ ·) (c.verifyRefundTx env.C env.lib)

/-- `Wallet.CreateEscrow`: the tumbler's escrow for the payee and its refund. -/
def Wallet.createEscrow : Prog WState Unit := do
  let (addr, pkey) ← WState.io getExtAddress
  setAddressW .sender addr pkey
  let env ← read
  let c ← liftErr ("failed to create an escrow script: " ++ ·) ((← get).con.addEscrowScript env.C env.lib)
  modifyCon fun _ => c
  Prog.wrap "failed to create an escrow tx: " createEscrowTx
  Prog.wrap "failed to create a refund tx: " createRefundTx

/-- The steps `CreateEscrow` and `CreateOffer` share: the sender's address, the script `addScript` adds to the
contract (its error prefixed with `pre`), the escrow transaction and its refund. -/
def Wallet.createWithScript (addScript : Crypto → Lib → Contract → Except String Contract) (pre : String) :
    Prog WState Unit := do
  let (addr, pkey) ← WState.io getExtAddress
  setAddressW .sender addr pkey
  let env ← read
  let c ← liftErr (pre ++ ·) (addScript env.C env.lib (← get).con)
  modifyCon fun _ => c
  Prog.wrap "failed to create an escrow tx: " createEscrowTx
  Prog.wrap "failed to create a refund tx: " createRefundTx

theorem Wallet.createEscrow_eq :
    Wallet.createEscrow =
      Wallet.createWithScript (fun C lib c => c.addEscrowScript C lib) "failed to create an escrow script: " := rfl

/-- `Wallet.CreateOffer`: the payer's offer script over the hashes, its escrow and its refund. -/
def Wallet.createOffer (hashes : List Bytes) : Prog WState Unit :=
  Wallet.createWithScript (fun C lib c => c.addOfferScript C lib hashes OP_RIPEMD160)
    "failed to create an offer script: "

/-- `Wallet.PublishEscrow`. -/
def Wallet.publishEscrow : Prog WState Unit := do
  let tx := (← get).con.escrowBytes
  let r ← WState.io (ask (.rpc (.publishTransaction tx)) fun env h => env.rpc.publishTransaction h tx)
  let hash ← liftErr ("PublishTransaction " ++ ·) r
  modifyCon fun c => { c with escrowHash := hash }

/-- `Wallet.SignHashes`: signatures of the hashes by the contract's sender address. -/
def Wallet.signHashes (hashes : List Bytes) : Prog WState (List Bytes × Bytes) := do
  let address := (← get).con.senderAddrStr
  let r ← WState.io (ask (.rpc (.signHashes address hashes)) fun env h => env.rpc.signHashes h address hashes)
  liftErr ("SignHashes " ++ ·) r

/-- `Wallet.ValidateOffer`: the escrow transaction is known with two confirmations, and its first output
holds at least the contract's amount. -/
def Wallet.validateOffer (escrowHash : Bytes) : Prog WState Bool := do
  let r ← WState.io (ask (.rpc (.getTransaction escrowHash)) fun env h => env.rpc.getTransaction h escrowHash)
  match r with
  | .error .notFound => pure false
  | .error (.failed e) => throw (.error ("GetTransaction " ++ e))
  | .ok (txBytes, confirmations) =>
    if confirmations < 2 then pure false
    else
      let env ← read
      match env.lib.deserialize txBytes with
      | none => throw (.error "could not decode escrow tx: malformed transaction")
      | some escrowTx =>
        let out0 ← liftFault id (goIndex escrowTx.txOut 0)
        let c := (← get).con
        if out0.value < c.amount then throw (.error ("escrowed less than advertised: " ++ toString out0.value))
        modifyCon fun c => { c with escrowTx := some escrowTx }
        pure true

/-- `Wallet.PublishSolution`: build, sign, complete with the keys, verify and publish the transaction that
redeems the offer. -/
def Wallet.publishSolution (secrets : List Bytes) : Prog WState Unit := do
  let (addr, pkey) ← WState.io getIntAddress
  setAddressW .redeem addr pkey
  let env ← read
  let c ← liftFault ("failed to create a redeem tx: " ++ ·)
    ((← get).con.buildRedeemTx env.C env.lib (secrets.length * (1 + 20)))
  modifyCon fun _ => c
  let r ← WState.io (ask (.rpc (.createSignature c.receiverAddrStr c.redeemBytes c.escrowScript))
    fun env h => env.rpc.createSignature h c.receiverAddrStr c.redeemBytes c.escrowScript)
  let sig ← liftErr ("CreateSignature " ++ ·) r
  modifyCon fun c => { c with redeemSig := sig }
  let c ← liftFault ("failed to add a redeem script: " ++ ·) ((← get).con.addRedeemScript env.lib secrets)
  modifyCon fun _ => c
  liftFault ("failed to verify redeem script: " ++ ·) (c.verifyRedeemTx env.C env.lib)
  let r ← WState.io (ask (.rpc (.publishTransaction c.redeemBytes))
    fun env h => env.rpc.publishTransaction h c.redeemBytes)
  let hash ← liftErr ("failed to publish redeem tx: " ++ ·) r
  modifyCon fun c => { c with redeemHash := hash }

end Tumblebit
