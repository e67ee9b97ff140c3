import Tumblebit.Contract.Engine

/-!
# Contracts (`contract/contract.go`, `contract/txscript.go`, `contract/sizeest.go`)

A `Contract` is the scratchpad of one exchange's transactions: the addresses of the parties, the
escrow (or offer) script and transaction, and the refund and redeem transactions that spend it.
The functions here build the two script templates (`buildEscrowContract`, `buildOfferContract`) and
the two signature scripts (`refundP2SHContract`, `redeemP2SHContract`), the refund and redeem
transactions with their fee (`buildRefundTx`, `buildRedeemTx`), and check them with the engine
(`verifyRefundTx`, `verifyRedeemTx`).

What the package takes from `dcrutil`, `wire` and `txrules` (address decoding, transaction hashes and
serialization, the fee rate and the dust rule) is the parameter `Lib`.
-/

namespace Tumblebit

/-! ## Addresses and library functions -/

/-- The concrete types behind `dcrutil.Address` that `checkAddressType` tells apart. -/
inductive AddrKind where
  | edwardsPubKey
  | secpPubKey
  | pubKeyHashSecp
  | pubKeyHashOther
  | secSchnorrPubKey
  | scriptHash
  | other
  deriving DecidableEq, Repr

/-- A decoded `dcrutil.Address`. -/
structure Address where
  kind : AddrKind
  /-- `Address()`. -/
  address : String
  /-- `EncodeAddress()`. -/
  encoded : String
  /-- `ScriptAddress()`. -/
  scriptAddress : Bytes
  deriving DecidableEq, Repr

/-- The library functions the contract package calls. -/
structure Lib where
  /-- `sig` of the engine's `OP_CHECKSIG`. -/
  checkSig : SigCheck
  /-- `dcrutil.DecodeAddress` on the chain's parameters. -/
  decodeAddress : String → Except String Address
  /-- `txscript.PayToAddrScript` of a decoded address. -/
  payToAddrScript : Address → Except String Bytes
  /-- The string of the P2SH address of a script hash (`NewAddressScriptHash(...).String()`). -/
  scriptHashAddress : Bytes → String
  /-- `MsgTx.TxHash()`. -/
  txHash : MsgTx → Bytes
  /-- `MsgTx.Serialize`. -/
  serialize : MsgTx → Bytes
  /-- `MsgTx.Deserialize`. -/
  deserialize : Bytes → Option MsgTx
  /-- `txrules.FeeForSerializeSize(feePerKb, size)`. -/
  feeForSerializeSize : Nat → Int
  /-- `txrules.IsDustOutput(out, feePerKb)`. -/
  isDustOutput : TxOut → Bool

/-- `txscript.PayToAddrScript` of one of the contract's `dcrutil.Address` fields. A `nil` interface matches no case
of its type switch: it is an unsupported address, returned as an error (no method is called on it). -/
def Lib.payToAddr (lib : Lib) : Option Address → Except String Bytes
  | some a => lib.payToAddrScript a
  | none => .error "unable to generate payment script for unsupported address type <nil>"

/-! ## The contract record -/

/-- `contract.Contract`. -/
structure Contract where
  senderAddr : Option Address
  senderAddrStr : String
  senderScriptAddr : Bytes
  receiverAddr : Option Address
  receiverAddrStr : String
  receiverScriptAddr : Bytes
  escrowTx : Option MsgTx
  escrowBytes : Bytes
  escrowAddrStr : String
  escrowPayScript : Bytes
  escrowScript : Bytes
  escrowHash : Bytes
  refundTx : Option MsgTx
  refundBytes : Bytes
  refundAddr : Option Address
  refundAddrStr : String
  refundScript : Bytes
  refundScriptAddr : Bytes
  refundSig : Bytes
  refundHash : Bytes
  redeemTx : Option MsgTx
  redeemBytes : Bytes
  redeemAddr : Option Address
  redeemAddrStr : String
  redeemScript : Bytes
  redeemScriptAddr : Bytes
  redeemSig : Bytes
  redeemHash : Bytes
  amount : Int
  lockTime : Int
  deriving DecidableEq, Repr

/-- `contractValue`, one coin in atoms: the only amount a contract takes. -/
def contractValue : Int := 100000000

/-- `feePerKb`. -/
def feePerKb : Nat := 100000

/-- `contract.New`. -/
def Contract.new (amount lockTime : Int) : Except String Contract :=
  if amount ≠ contractValue then .error ("attempted contract amount: " ++ toString amount)
  else .ok {
    senderAddr := none, senderAddrStr := "", senderScriptAddr := [], receiverAddr := none,
    receiverAddrStr := "", receiverScriptAddr := [], escrowTx := none, escrowBytes := [],
    escrowAddrStr := "", escrowPayScript := [], escrowScript := [], escrowHash := [], refundTx := none,
    refundBytes := [], refundAddr := none, refundAddrStr := "", refundScript := [], refundScriptAddr := [],
    refundSig := [], refundHash := [], redeemTx := none, redeemBytes := [], redeemAddr := none,
    redeemAddrStr := "", redeemScript := [], redeemScriptAddr := [], redeemSig := [], redeemHash := [],
    amount := contractValue, lockTime := lockTime }

/-- The roles of `SetAddress`. -/
inductive AddressRole where
  | receiver
  | redeem
  | refund
  | sender
  deriving DecidableEq, Repr

def AddressRole.name : AddressRole → String
  | .receiver => "receiver"
  | .redeem => "redeem"
  | .refund => "refund"
  | .sender => "sender"

/-- `checkAddressType` with the allowed set given as a predicate on the found type. -/
def pubKeyOrHash (k : AddrKind) : Bool := k = .secpPubKey || k = .pubKeyHashSecp

/-- `Contract.SetAddress`: decode the key and the address, require they agree and have a type the role
allows, then record them. -/
def Contract.setAddress (lib : Lib) (c : Contract) (t : AddressRole) (a pk : String) :
    Except String Contract := do
  let addr ← (lib.decodeAddress pk).mapError (fun e => "failed to decode " ++ t.name ++ " pubkey: " ++ e)
  let check ← (lib.decodeAddress a).mapError (fun e => "failed to decode " ++ t.name ++ " address: " ++ e)
  if addr.address ≠ check.address then throw "address and public key don't match"
  match t with
  | .receiver =>
    if !pubKeyOrHash check.kind then throw ("address " ++ a ++ " is not a secp256k1 P2PK or P2PKH")
    pure { c with receiverAddr := some addr, receiverAddrStr := a, receiverScriptAddr := addr.scriptAddress }
  | .redeem =>
    if check.kind ≠ .pubKeyHashSecp then throw ("address " ++ a ++ " is not P2PKH")
    pure { c with redeemAddr := some addr, redeemAddrStr := a, redeemScriptAddr := addr.scriptAddress }
  | .refund =>
    if check.kind ≠ .pubKeyHashSecp then throw ("address " ++ a ++ " is not a secp256k1 P2PKH")
    pure { c with refundAddr := some addr, refundAddrStr := a, refundScriptAddr := addr.scriptAddress }
  | .sender =>
    if !pubKeyOrHash check.kind then throw ("address " ++ a ++ " is not a secp256k1 P2PK or P2PKH")
    pure { c with senderAddr := some addr, senderAddrStr := a, senderScriptAddr := addr.scriptAddress }

/-! ## Scripts -/

/-- `buildEscrowContract`: 2-of-2 multisig, or the payer's signature after the lock time. -/
def buildEscrowContract (pkPayer pkRedeemer : Bytes) (locktime : Int) : Except String Bytes :=
  buildScript [.op OP_IF, .op OP_2, .data pkPayer, .data pkRedeemer, .op OP_2, .op OP_CHECKMULTISIG,
    .op OP_ELSE, .int locktime, .op OP_CHECKLOCKTIMEVERIFY, .op OP_DROP, .data pkPayer, .op OP_CHECKSIG,
    .op OP_ENDIF]

/-- The hash checks of the redeem branch of an offer: `hashOp h OP_EQUALVERIFY` for each hash. -/
def hashChecks (hashOp : UInt8) (hashes : List Bytes) : List BuildItem :=
  hashes.flatMap fun h => [.op hashOp, .data h, .op OP_EQUALVERIFY]

/-- `buildOfferContract`: the hash preimages and the redeemer's signature, or the payer's signature
after the lock time. -/
def buildOfferContract (pkPayer pkRedeemer : Bytes) (hashes : List Bytes) (hashOp : UInt8) (locktime : Int) :
    Except String Bytes :=
  buildScript ([.op OP_IF] ++ hashChecks hashOp hashes ++ [.data pkRedeemer, .op OP_CHECKSIG, .op OP_ELSE,
    .int locktime, .op OP_CHECKLOCKTIMEVERIFY, .op OP_DROP, .data pkPayer, .op OP_CHECKSIG, .op OP_ENDIF])

/-- `refundP2SHContract`: `<sig> 0 <contract>`. -/
def refundP2SHContract (contract sig : Bytes) : Except String Bytes :=
  buildScript [.data sig, .int 0, .data contract]

/-- `redeemP2SHContract`: `<sig> <secret_1> ... <secret_m> 1 <contract>`. -/
def redeemP2SHContract (contract sig : Bytes) (secrets : List Bytes) : Except String Bytes :=
  buildScript ([.data sig] ++ secrets.map .data ++ [.int 1, .data contract])

/-- `Contract.AddEscrowScript`. -/
def Contract.addEscrowScript (C : Crypto) (lib : Lib) (c : Contract) : Except String Contract := do
  let script ← (buildEscrowContract c.senderScriptAddr c.receiverScriptAddr c.lockTime).mapError
    ("failed to compose escrow contract: " ++ ·)
  let h := C.hash160 script
  pure { c with
    escrowScript := script, escrowAddrStr := lib.scriptHashAddress h, escrowPayScript := payToScriptHash h }

/-- `Contract.AddOfferScript`. -/
def Contract.addOfferScript (C : Crypto) (lib : Lib) (c : Contract) (hashes : List Bytes) (hashOp : UInt8) :
    Except String Contract := do
  let script ← (buildOfferContract c.senderScriptAddr c.receiverScriptAddr hashes hashOp c.lockTime).mapError
    ("failed to compose escrow contract: " ++ ·)
  let h := C.hash160 script
  pure { c with
    escrowScript := script, escrowAddrStr := lib.scriptHashAddress h, escrowPayScript := payToScriptHash h }

/-! ## Size estimates -/

/-- `wire.VarIntSerializeSize`. -/
def varIntSerializeSize (v : Nat) : Nat :=
  if v < 0xfd then 1 else if v ≤ 0xffff then 3 else if v ≤ 0xffffffff then 5 else 9

/-- `TxOut.SerializeSize`: value, version, script length and script. -/
def TxOut.serializeSize (o : TxOut) : Nat := 8 + 2 + varIntSerializeSize o.pkScript.length + o.pkScript.length

/-- `inputSize`. -/
def inputSize (sigScriptSize : Nat) : Nat :=
  32 + 4 + 1 + 8 + 4 + 4 + varIntSerializeSize sigScriptSize + sigScriptSize + 4

/-- `escrowSigScriptSize`: `OP_DATA_73`, the signature with its hash type, and `OP_FALSE`. -/
def escrowSigScriptSize : Nat := 1 + 73 + 1

/-- The push of a contract as the estimators build it; a push the builder refuses panics. -/
def contractPushSize (contract : Bytes) : Except Fault Nat :=
  match buildScript [.data contract] with
  | .ok push => .ok push.length
  | .error e => .error (.panic e)

/-- `estimateRefundSerializeSize`. -/
def estimateRefundSerializeSize (contract : Bytes) (txOuts : List TxOut) : Except Fault Nat := do
  let push ← contractPushSize contract
  pure (12 + 2 * varIntSerializeSize 1 + varIntSerializeSize 1 + inputSize (escrowSigScriptSize + push) +
    (txOuts.map TxOut.serializeSize).sum)

/-- `estimateRedeemSerializeSize`. -/
def estimateRedeemSerializeSize (contract : Bytes) (txOuts : List TxOut) (sigScriptAddSize : Nat) :
    Except Fault Nat := do
  let push ← contractPushSize contract
  pure (12 + 2 * varIntSerializeSize 1 + varIntSerializeSize 1 +
    inputSize (escrowSigScriptSize + sigScriptAddSize + push) + (txOuts.map TxOut.serializeSize).sum)

/-! ## Refund and redeem transactions -/

/-- `uint32(con.LockTime)`. -/
def Contract.txLockTime (c : Contract) : Nat := (c.lockTime % 4294967296).toNat

/-- The escrow transaction, deserialized from `EscrowBytes` when not yet known. -/
def Contract.escrowTxOrDecode (lib : Lib) (c : Contract) : Except Fault MsgTx :=
  match c.escrowTx with
  | some tx => .ok tx
  | none =>
    match lib.deserialize c.escrowBytes with
    | some tx => .ok tx
    | none => .error (.error "failed to deserialize escrow tx: malformed transaction")

/-- The first output paying exactly `EscrowPayScript` (the loop of `BuildRefundTx`). -/
def payScriptIndex (outs : List TxOut) (payScript : Bytes) : Option Nat := outs.findIdx? (·.pkScript = payScript)

/-- The first output that is a P2SH payment to the contract's hash (the loop of `BuildRedeemTx`). -/
def contractOutIndex (outs : List TxOut) (contractHash : Bytes) : Option Nat :=
  outs.findIdx? fun o => o.version = 0 ∧ isScriptHash o.pkScript ∧ scriptHashOf o.pkScript = contractHash

/-- `Contract.BuildRefundTx`. -/
def Contract.buildRefundTx (lib : Lib) (c : Contract) : Except Fault Contract := do
  let etx ← c.escrowTxOrDecode lib
  let c := { c with escrowTx := some etx }
  let i ← match payScriptIndex etx.txOut c.escrowPayScript with
    | some i => pure i
    | none => throw (.error "contract tx does not contain a P2SH contract payment")
  let outScript ← (lib.payToAddr c.refundAddr).mapError Fault.error
  let out0 : TxOut := ⟨0, 0, outScript⟩
  let size ← estimateRefundSerializeSize c.escrowScript [out0]
  let value ← match etx.txOut[i]? with
    | some o => pure o.value
    | none => throw (indexPanic i etx.txOut.length)
  let out : TxOut := { out0 with value := value - lib.feeForSerializeSize size }
  if lib.isDustOutput out then throw (.error ("refund output value of " ++ toString out.value ++ " is dust"))
  let tx : MsgTx := ⟨[⟨⟨lib.txHash etx, i, 0⟩, 0, []⟩], [out], c.txLockTime, 0⟩
  pure { c with refundTx := some tx, refundBytes := lib.serialize tx }

/-- `Contract.BuildRedeemTx`; `sigScriptAddSize` is the size of the preimage pushes. -/
def Contract.buildRedeemTx (C : Crypto) (lib : Lib) (c : Contract) (sigScriptAddSize : Nat) :
    Except Fault Contract := do
  let etx ← c.escrowTxOrDecode lib
  let c := { c with escrowTx := some etx }
  let i ← match contractOutIndex etx.txOut (C.hash160 c.escrowScript) with
    | some i => pure i
    | none => throw (.error "transaction does not contain a contract output")
  let outScript ← (lib.payToAddr c.redeemAddr).mapError Fault.error
  let out0 : TxOut := ⟨0, 0, outScript⟩
  let size ← estimateRedeemSerializeSize c.escrowScript [out0] sigScriptAddSize
  let value ← match etx.txOut[i]? with
    | some o => pure o.value
    | none => throw (indexPanic i etx.txOut.length)
  let out : TxOut := { out0 with value := value - lib.feeForSerializeSize size }
  if lib.isDustOutput out then throw (.error ("redeem output value of " ++ toString out.value ++ " is dust"))
  let tx : MsgTx := ⟨[⟨⟨lib.txHash etx, i, 0⟩, maxTxInSequenceNum, []⟩], [out], c.txLockTime, 0⟩
  pure { c with redeemTx := some tx, redeemBytes := lib.serialize tx }

/-- Replace the signature script of the first input (`tx.TxIn[0].SignatureScript = ...`). -/
def MsgTx.setSigScript (tx : MsgTx) (s : Bytes) : Except Fault MsgTx :=
  match tx.txIn with
  | i :: rest => .ok { tx with txIn := { i with signatureScript := s } :: rest }
  | [] => .error (indexPanic 0 0)

/-- `Contract.AddRefundScript`. -/
def Contract.addRefundScript (lib : Lib) (c : Contract) : Except Fault Contract := do
  let script ← (refundP2SHContract c.escrowScript c.refundSig).mapError
    (fun e => Fault.error ("failed to compose a refund contract: " ++ e))
  let tx ← match c.refundTx with
    | some tx => tx.setSigScript script
    | none => throw nilPanic
  pure { c with refundScript := script, refundTx := some tx, refundBytes := lib.serialize tx }

/-- `Contract.AddRedeemScript`. -/
def Contract.addRedeemScript (lib : Lib) (c : Contract) (secrets : List Bytes) : Except Fault Contract := do
  let script ← (redeemP2SHContract c.escrowScript c.redeemSig secrets).mapError Fault.error
  let tx ← match c.redeemTx with
    | some tx => tx.setSigScript script
    | none => throw nilPanic
  pure { c with redeemScript := script, redeemTx := some tx, redeemBytes := lib.serialize tx }

/-- `Contract.ExtractRedeemDataPushes`: the data pushes of the signature script of input `idx` of the redeem,
which is deserialized from `RedeemBytes` and kept when not yet known. -/
def Contract.extractRedeemDataPushes (lib : Lib) (idx : Nat) : EStateM Fault Contract (List Bytes) := do
  let c ← get
  let tx ← match c.redeemTx with
    | some tx => pure tx
    | none => match lib.deserialize c.redeemBytes with
      | some tx => do
        set { c with redeemTx := some tx }
        pure tx
      | none => throw (.error "failed to deserialize tx: malformed transaction")
  let txIn ← match tx.txIn[idx]? with
    | some t => pure t
    | none => throw (indexPanic idx tx.txIn.length)
  match pushedData txIn.signatureScript with
  | .ok data => pure data
  | .error e => throw (.error ("failed to extract data pushes from input " ++ toString idx ++
      " of a redeeming signature script: " ++ e))

/-- The engine run of `VerifyRefundTx` and `VerifyRedeemTx` on output `i` of the escrow transaction;
an index past the outputs (no output found) panics. -/
def verifySpend (C : Crypto) (lib : Lib) (etx : Option MsgTx) (i : Option Nat) (spend : Option MsgTx) :
    Except Fault Unit := do
  let etx ← match etx with
    | some t => pure t
    | none => throw nilPanic
  let i := i.getD 4294967295
  let o ← match etx.txOut[i]? with
    | some o => pure o
    | none => throw (indexPanic i etx.txOut.length)
  let tx ← match spend with
    | some t => pure t
    | none => throw nilPanic
  (verifyScript C lib.checkSig o.pkScript tx 0).mapError Fault.error

/-- `Contract.VerifyRefundTx`. -/
def Contract.verifyRefundTx (C : Crypto) (lib : Lib) (c : Contract) : Except Fault Unit :=
  verifySpend C lib c.escrowTx (c.escrowTx.bind fun t => payScriptIndex t.txOut c.escrowPayScript) c.refundTx

/-- `Contract.VerifyRedeemTx`. -/
def Contract.verifyRedeemTx (C : Crypto) (lib : Lib) (c : Contract) : Except Fault Unit := do
  let etx ← match c.escrowTx with
    | some t => pure t
    | none => throw nilPanic
  match contractOutIndex etx.txOut (C.hash160 c.escrowScript) with
  | none => throw (.error "transaction does not contain a contract output")
  | some i => verifySpend C lib (some etx) (some i) c.redeemTx

/-! ## The lock time

`contract.New` sets the lock time and no method of the contract writes it: each one either fails or returns the
contract with other fields replaced. -/

section LockTime

variable {C : Crypto} {lib : Lib} {c c' : Contract}

theorem Contract.new_lockTime {amount lockTime : Int} (h : Contract.new amount lockTime = .ok c) :
    c.lockTime = lockTime := by
  unfold Contract.new at h
  split at h
  · cases h
  · cases h
    rfl

theorem Contract.setAddress_lockTime {t : AddressRole} {a pk : String} (h : c.setAddress lib t a pk = .ok c') :
    c'.lockTime = c.lockTime := by
  simp only [Contract.setAddress, Except.bind_eq_ok] at h
  cases t <;> repeat' first | split at h | (obtain ⟨_, -, h⟩ := h) | (simp only [Except.bind_eq_ok, pure_bind] at h)
  all_goals rfl

theorem Contract.addEscrowScript_lockTime (h : c.addEscrowScript C lib = .ok c') : c'.lockTime = c.lockTime := by
  simp only [Contract.addEscrowScript, Except.bind_eq_ok] at h
  obtain ⟨_, -, h⟩ := h
  cases h
  rfl

theorem Contract.buildRefundTx_lockTime (h : c.buildRefundTx lib = .ok c') : c'.lockTime = c.lockTime := by
  simp only [Contract.buildRefundTx, Except.bind_eq_ok] at h
  repeat' first | split at h | (obtain ⟨_, -, h⟩ := h) | (simp only [Except.bind_eq_ok, pure_bind] at h)
  rfl

theorem Contract.buildRedeemTx_lockTime {n : Nat} (h : c.buildRedeemTx C lib n = .ok c') : c'.lockTime = c.lockTime := by
  simp only [Contract.buildRedeemTx, Except.bind_eq_ok] at h
  repeat' first | split at h | (obtain ⟨_, -, h⟩ := h) | (simp only [Except.bind_eq_ok, pure_bind] at h)
  rfl

theorem Contract.addRefundScript_lockTime (h : c.addRefundScript lib = .ok c') : c'.lockTime = c.lockTime := by
  simp only [Contract.addRefundScript, Except.bind_eq_ok] at h
  repeat' first | split at h | (obtain ⟨_, -, h⟩ := h) | (simp only [Except.bind_eq_ok, pure_bind] at h)
  rfl

theorem Contract.addRedeemScript_lockTime {secrets : List Bytes} (h : c.addRedeemScript lib secrets = .ok c') :
    c'.lockTime = c.lockTime := by
  simp only [Contract.addRedeemScript, Except.bind_eq_ok] at h
  repeat' first | split at h | (obtain ⟨_, -, h⟩ := h) | (simp only [Except.bind_eq_ok, pure_bind] at h)
  rfl

end LockTime

end Tumblebit
