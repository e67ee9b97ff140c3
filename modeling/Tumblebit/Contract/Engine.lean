import Tumblebit.Contract.Script

/-!
# The script engine (`txscript.NewEngine` and `Execute`)

Transactions (`wire.MsgTx`) with the fields the contract package reads and writes, and the engine the
package runs in `VerifyRefundTx` and `VerifyRedeemTx` with its fixed flags: BIP16 (P2SH), minimal data,
clean stack and lock-time verification. `execOp` is one opcode on a `VM` (data stack and condition
stack), `execScript` a parsed script, and `verifyScript` the three scripts of a P2SH spend in order.
-/

namespace Tumblebit

/-! ## Transactions -/

/-- `wire.OutPoint`. -/
structure OutPoint where
  hash : Bytes
  index : Nat
  tree : Nat
  deriving DecidableEq, Repr

/-- `wire.TxIn`; `NewTxIn` leaves the sequence at `MaxTxInSequenceNum`. -/
structure TxIn where
  prevOut : OutPoint
  sequence : Nat
  signatureScript : Bytes
  deriving DecidableEq, Repr

/-- `wire.TxOut`. -/
structure TxOut where
  value : Int
  version : Nat
  pkScript : Bytes
  deriving DecidableEq, Repr

/-- `wire.MsgTx`. -/
structure MsgTx where
  txIn : List TxIn
  txOut : List TxOut
  lockTime : Nat
  expiry : Nat
  deriving DecidableEq, Repr

/-- `wire.MaxTxInSequenceNum`. -/
def maxTxInSequenceNum : Nat := 0xffffffff

/-- `txscript.LockTimeThreshold`. -/
def lockTimeThreshold : Nat := 500000000

/-- The library's `OP_CHECKSIG`: signature and key encodings, the signature hash of input `idx` of the
transaction over the executing script, and the ECDSA check. -/
abbrev SigCheck := Bytes → Bytes → MsgTx → Nat → List Op → Except String Bool

/-! ## One opcode -/

/-- An entry of the condition stack. -/
inductive Cond where
  | yes
  | no
  | skip
  deriving DecidableEq, Repr

/-- The engine's stacks; the head of `dstack` is the top. -/
structure VM where
  dstack : List Bytes
  cond : List Cond
  deriving DecidableEq, Repr

def VM.executing (vm : VM) : Bool :=
  match vm.cond with
  | [] => true
  | c :: _ => c = .yes

/-- `asBool`: false for every encoding of zero, negative zero included. -/
def asBool (t : Bytes) : Bool :=
  match t.reverse with
  | [] => false
  | last :: init => !(init.all (· = 0) && (last = 0 || last = 0x80))

/-- `fromBool`. -/
def fromBool (b : Bool) : Bytes := if b then [1] else []

/-- `checkMinimalDataPush`. -/
def minimalPush (op : UInt8) (data : Bytes) : Bool :=
  match data with
  | [] => op = OP_0
  | [x] =>
    if 1 ≤ x.toNat ∧ x.toNat ≤ 16 then op.toNat = OP_1.toNat - 1 + x.toNat
    else if x = 0x81 then op = OP_1NEGATE else op = 1
  | _ =>
    if data.length ≤ 75 then op.toNat = data.length
    else if data.length ≤ 255 then op = OP_PUSHDATA1
    else if data.length ≤ 65535 then op = OP_PUSHDATA2 else true

/-- `makeScriptNum(v, true, 5)`: a minimally encoded number of at most five bytes. -/
def scriptNum (v : Bytes) : Except String Int :=
  if 5 < v.length then .error "numeric value encoded is too long"
  else match v.getLast? with
    | none => .ok 0
    | some last =>
      if last.toNat &&& 0x7f = 0 ∧ (v.length = 1 ∨ (v.dropLast.getLast?.map (·.toNat &&& 0x80)) = some 0) then
        .error "numeric value encoded with non-minimal data"
      else
        let mag := leValue (v.dropLast ++ [UInt8.ofNat (last.toNat &&& 0x7f)])
        .ok (if last.toNat &&& 0x80 = 0 then mag else -mag)

/-- `verifyLockTime`: both lock times of one kind, the script's not after the transaction's. -/
def verifyLockTime (txLockTime : Nat) (lockTime : Int) : Except String Unit :=
  if (txLockTime < lockTimeThreshold) ≠ (lockTime < lockTimeThreshold) then .error "mismatched locktime types"
  else if txLockTime < lockTime then .error "locktime requirement not satisfied"
  else .ok ()

/-- What one opcode reads besides the stacks: the spending transaction, the input and the script. -/
structure ExecCtx where
  tx : MsgTx
  idx : Nat
  script : List Op

/-- Pop the top of the data stack. -/
def VM.pop (vm : VM) : Except String (Bytes × VM) :=
  match vm.dstack with
  | x :: rest => .ok (x, { vm with dstack := rest })
  | [] => .error "index out of range on the data stack"

def VM.push (vm : VM) (x : Bytes) : VM := { vm with dstack := x :: vm.dstack }

/-- An opcode that the engine runs only in an executing branch. -/
def execCode (C : Crypto) (sig : SigCheck) (ec : ExecCtx) (vm : VM) (op : UInt8) : Except String VM :=
  if op = OP_1NEGATE then .ok (vm.push [0x81])
  else if OP_1 ≤ op ∧ op ≤ OP_16 then .ok (vm.push [UInt8.ofNat (op.toNat - OP_1.toNat + 1)])
  else if op = OP_VERIFY then do
    let (x, vm) ← vm.pop
    if asBool x then pure vm else throw "OP_VERIFY failed"
  else if op = OP_DROP then do
    let (_, vm) ← vm.pop
    pure vm
  else if op = OP_EQUAL ∨ op = OP_EQUALVERIFY then do
    let (a, vm) ← vm.pop
    let (b, vm) ← vm.pop
    if op = OP_EQUAL then pure (vm.push (fromBool (a = b)))
    else if a = b then pure vm else throw "OP_EQUALVERIFY failed"
  else if op = OP_RIPEMD160 then do
    let (x, vm) ← vm.pop
    pure (vm.push (C.ripemd160 x))
  else if op = OP_HASH160 then do
    let (x, vm) ← vm.pop
    pure (vm.push (C.hash160 x))
  else if op = OP_CHECKSIG then do
    let (pk, vm) ← vm.pop
    let (s, vm) ← vm.pop
    if s = [] then pure (vm.push (fromBool false))
    else do
      let ok ← sig s pk ec.tx ec.idx ec.script
      pure (vm.push (fromBool ok))
  else if op = OP_CHECKLOCKTIMEVERIFY then do
    let top ← match vm.dstack with
      | x :: _ => pure x
      | [] => throw "index out of range on the data stack"
    let lockTime ← scriptNum top
    if lockTime < 0 then throw "negative lock time"
    verifyLockTime ec.tx.lockTime lockTime
    match ec.tx.txIn[ec.idx]? with
    | some txIn => if txIn.sequence = maxTxInSequenceNum then throw "transaction input is finalized" else pure vm
    | none => throw "transaction input index out of range"
  else .error "unmodelled opcode"

/-- One parsed opcode: conditionals always, anything else only in an executing branch. -/
def execOp (C : Crypto) (sig : SigCheck) (ec : ExecCtx) (vm : VM) : Op → Except String VM
  | .push op data =>
    if !vm.executing then .ok vm
    else if maxScriptElementSize < data.length then .error "element size exceeds the maximum"
    else if !minimalPush op data then .error "data push is not minimal"
    else .ok (vm.push data)
  | .code op =>
    if op = OP_IF ∨ op = OP_NOTIF then
      if vm.executing then do
        let (x, vm) ← vm.pop
        let b := if op = OP_IF then asBool x else !asBool x
        pure { vm with cond := (if b then Cond.yes else Cond.no) :: vm.cond }
      else .ok { vm with cond := .skip :: vm.cond }
    else if op = OP_ELSE then
      match vm.cond with
      | [] => .error "encountered opcode with no matching opcode to begin conditional execution"
      | c :: cs => .ok { vm with cond := (match c with | .yes => .no | .no => .yes | .skip => .skip) :: cs }
    else if op = OP_ENDIF then
      match vm.cond with
      | [] => .error "encountered opcode with no matching opcode to begin conditional execution"
      | _ :: cs => .ok { vm with cond := cs }
    else if vm.executing then execCode C sig ec vm op else .ok vm

/-- The number of operations a script counts against `MaxOpsPerScript`. -/
def opCount (ops : List Op) : Nat := (ops.filter fun | .code op => OP_16 < op | .push _ _ => false).length

/-- A whole script from the given stacks, ending outside every conditional. -/
def execScript (C : Crypto) (sig : SigCheck) (tx : MsgTx) (idx : Nat) (ops : List Op) (vm : VM) :
    Except String VM := do
  if 255 < opCount ops then throw "exceeded max operation limit"
  let vm ← ops.foldlM (execOp C sig ⟨tx, idx, ops⟩) vm
  if vm.cond ≠ [] then throw "end of script reached in conditional execution"
  pure vm

/-- `CheckErrorCondition` of the last script: exactly one element, and it is true. -/
def finalCheck (vm : VM) : Except String Unit :=
  match vm.dstack with
  | [x] => if asBool x then .ok () else .error "false stack entry at end of script execution"
  | _ => .error "stack contains unexpected items"

/-- `NewEngine(pkScript, tx, idx, verifyFlags, ...)` then `Execute()`. -/
def verifyScript (C : Crypto) (sig : SigCheck) (pkScript : Bytes) (tx : MsgTx) (idx : Nat) :
    Except String Unit := do
  let txIn ← match tx.txIn[idx]? with
    | some t => pure t
    | none => throw "transaction input index out of range"
  let sigScript := txIn.signatureScript
  if sigScript = [] ∧ pkScript = [] then throw "false stack entry at end of script execution"
  let sigOps ← parseScript sigScript
  let pkOps ← parseScript pkScript
  let bip16 := isScriptHash pkScript
  if bip16 ∧ !sigOps.all Op.isPush then throw "signature script is not push only"
  let vm1 ← execScript C sig tx idx sigOps ⟨[], []⟩
  let vm2 ← execScript C sig tx idx pkOps ⟨vm1.dstack, []⟩
  if !bip16 then finalCheck vm2
  else
    match vm2.dstack, vm1.dstack with
    | top :: _, redeem :: rest =>
      if !asBool top then throw "false stack entry at end of script execution"
      else do
        let rOps ← parseScript redeem
        let vm3 ← execScript C sig tx idx rOps ⟨rest, []⟩
        finalCheck vm3
    | _, _ => throw "false stack entry at end of script execution"

end Tumblebit
