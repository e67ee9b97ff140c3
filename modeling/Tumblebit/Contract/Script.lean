import Tumblebit.Basic

/-!
# Transaction scripts (`dcrd/txscript`, as the contract package uses it)

The contract package builds its output and signature scripts with `txscript.ScriptBuilder` and checks
the transactions it spends with the script engine. This module models the part of `txscript` the
package reaches:

* opcodes and the builder: `addOp`, `addData` (the canonical push of `data`), `addInt64`, with the size
  limits that make `Script()` fail;
* the parser `parseScript`, which splits a script into `Op`s, and `isPushOnly`;
* the engine: one opcode (`execOp`), a script (`execScript`), and `verifyScript`, which runs a
  signature script, then the output script, then (P2SH) the redeem script, and checks the final stack
  with the flags the contract package passes (clean stack, minimal data, lock times).

Signature checking is the library's and is a parameter (`SigCheck`). The engine runs the opcodes the
package's scripts contain; any other opcode is an error here (`unmodelled opcode`).
-/

namespace Tumblebit

/-! ## Opcodes -/

/-- The opcode bytes the contract package and its scripts use. -/
def OP_0 : UInt8 := 0x00
def OP_DATA_20 : UInt8 := 0x14
def OP_PUSHDATA1 : UInt8 := 0x4c
def OP_PUSHDATA2 : UInt8 := 0x4d
def OP_PUSHDATA4 : UInt8 := 0x4e
def OP_1NEGATE : UInt8 := 0x4f
def OP_1 : UInt8 := 0x51
def OP_2 : UInt8 := 0x52
def OP_16 : UInt8 := 0x60
def OP_IF : UInt8 := 0x63
def OP_NOTIF : UInt8 := 0x64
def OP_ELSE : UInt8 := 0x67
def OP_ENDIF : UInt8 := 0x68
def OP_VERIFY : UInt8 := 0x69
def OP_DROP : UInt8 := 0x75
def OP_EQUAL : UInt8 := 0x87
def OP_EQUALVERIFY : UInt8 := 0x88
def OP_RIPEMD160 : UInt8 := 0xa6
def OP_HASH160 : UInt8 := 0xa9
def OP_CHECKSIG : UInt8 := 0xac
def OP_CHECKMULTISIG : UInt8 := 0xae
def OP_CHECKLOCKTIMEVERIFY : UInt8 := 0xb1

/-- `MaxScriptSize` of Decred. -/
def maxScriptSize : Nat := 16384

/-- `MaxScriptElementSize` of Decred. -/
def maxScriptElementSize : Nat := 2048

/-! ## The builder -/

/-- `txscript.ScriptBuilder`: the script so far and the first error met. -/
structure ScriptBuilder where
  script : Bytes
  err : Option String
  deriving DecidableEq, Repr

/-- `NewScriptBuilder()`. -/
def ScriptBuilder.new : ScriptBuilder := ⟨[], none⟩

/-- `Script()`. -/
def ScriptBuilder.finish (b : ScriptBuilder) : Except String Bytes :=
  match b.err with
  | some e => .error e
  | none => .ok b.script

/-- Little-endian bytes of `v`, `k` of them. -/
def leBytes : Nat → Nat → Bytes
  | 0, _ => []
  | k + 1, v => UInt8.ofNat (v % 256) :: leBytes k (v / 256)

/-- The canonical push of `data` (`addData` without the limits). -/
def pushData (data : Bytes) : Bytes :=
  match data with
  | [] => [OP_0]
  | [x] =>
    if x = 0 then [OP_0]
    else if x.toNat ≤ 16 then [UInt8.ofNat (OP_1.toNat - 1 + x.toNat)]
    else if x = 0x81 then [OP_1NEGATE]
    else [1, x]
  | _ =>
    let n := data.length
    (if n < OP_PUSHDATA1.toNat then [UInt8.ofNat n]
    else if n ≤ 0xff then [OP_PUSHDATA1, UInt8.ofNat n]
    else if n ≤ 0xffff then OP_PUSHDATA2 :: leBytes 2 n
    else OP_PUSHDATA4 :: leBytes 4 n) ++ data

/-- `AddOp`. -/
def ScriptBuilder.addOp (b : ScriptBuilder) (op : UInt8) : ScriptBuilder :=
  if b.err.isSome then b
  else if maxScriptSize < b.script.length + 1 then
    { b with err := some "adding an opcode would exceed the maximum allowed canonical script length" }
  else { b with script := b.script ++ [op] }

/-- `AddData`: the canonical push, unless it breaks the script or the element size limit. -/
def ScriptBuilder.addData (b : ScriptBuilder) (data : Bytes) : ScriptBuilder :=
  if b.err.isSome then b
  else if maxScriptSize < b.script.length + (pushData data).length then
    { b with err := some "adding data would exceed the maximum allowed canonical script length" }
  else if maxScriptElementSize < data.length then
    { b with err := some "adding a data element would exceed the maximum allowed script element size" }
  else { b with script := b.script ++ pushData data }

/-- The minimal little-endian sign-magnitude bytes of a script number (`scriptNum.Bytes`). -/
def scriptNumBytes (v : Int) : Bytes :=
  if v = 0 then []
  else
    let mag := leBytes (toBytes v.natAbs).length v.natAbs
    match mag.getLast? with
    | some last =>
      if last.toNat &&& 0x80 ≠ 0 then mag ++ [if v < 0 then 0x80 else 0]
      else if v < 0 then mag.dropLast ++ [last ||| 0x80] else mag
    | none => []

/-- `AddInt64`: small values become `OP_0`, `OP_1NEGATE`, `OP_1` to `OP_16`, others a push. -/
def ScriptBuilder.addInt64 (b : ScriptBuilder) (v : Int) : ScriptBuilder :=
  if b.err.isSome then b
  else if maxScriptSize < b.script.length + 9 then
    { b with err := some "adding an integer would exceed the maximum allowed canonical script length" }
  else if v = 0 then { b with script := b.script ++ [OP_0] }
  else if v = -1 then { b with script := b.script ++ [OP_1NEGATE] }
  else if 1 ≤ v ∧ v ≤ 16 then { b with script := b.script ++ [UInt8.ofNat (OP_1.toNat - 1 + v.toNat)] }
  else b.addData (scriptNumBytes v)

/-- One call on a builder: `AddOp`, `AddData` or `AddInt64`. -/
inductive BuildItem where
  | op (o : UInt8)
  | data (d : Bytes)
  | int (v : Int)
  deriving DecidableEq, Repr

def ScriptBuilder.add (b : ScriptBuilder) : BuildItem → ScriptBuilder
  | .op o => b.addOp o
  | .data d => b.addData d
  | .int v => b.addInt64 v

/-- A chain of builder calls, then `Script()`. -/
def buildScript (items : List BuildItem) : Except String Bytes := (items.foldl ScriptBuilder.add .new).finish

/-! ## Parsing -/

/-- A parsed opcode: a push with the opcode that carried it, or any other opcode. -/
inductive Op where
  | push (op : UInt8) (data : Bytes)
  | code (op : UInt8)
  deriving DecidableEq, Repr

/-- The value of little-endian bytes. -/
def leValue (b : Bytes) : Nat := b.foldr (fun x acc => x.toNat + 256 * acc) 0

/-- Take `n` bytes of a push, or fail when the script ends first. -/
def takePush (op : UInt8) (n : Nat) (rest : Bytes) : Except String (Op × Bytes) :=
  if rest.length < n then .error "opcode requires more bytes than are in the script"
  else .ok (.push op (rest.take n), rest.drop n)

/-- One opcode at the head of a script. -/
def parseOne (op : UInt8) (rest : Bytes) : Except String (Op × Bytes) :=
  if op = OP_0 then .ok (.push op [], rest)
  else if op.toNat < OP_PUSHDATA1.toNat then takePush op op.toNat rest
  else if op = OP_PUSHDATA1 then
    if rest.length < 1 then .error "opcode requires more bytes than are in the script"
    else takePush op (leValue (rest.take 1)) (rest.drop 1)
  else if op = OP_PUSHDATA2 then
    if rest.length < 2 then .error "opcode requires more bytes than are in the script"
    else takePush op (leValue (rest.take 2)) (rest.drop 2)
  else if op = OP_PUSHDATA4 then
    if rest.length < 4 then .error "opcode requires more bytes than are in the script"
    else takePush op (leValue (rest.take 4)) (rest.drop 4)
  else .ok (.code op, rest)

/-- `parseScript`, with the script length as fuel (every opcode takes at least one byte). -/
def parseAux : Nat → Bytes → Except String (List Op)
  | _, [] => .ok []
  | 0, _ :: _ => .error "script too long"
  | fuel + 1, op :: rest => do
    let (o, rest') ← parseOne op rest
    let os ← parseAux fuel rest'
    pure (o :: os)

def parseScript (s : Bytes) : Except String (List Op) := parseAux s.length s

/-- Pushes, including `OP_1NEGATE` and `OP_1` to `OP_16`, and nothing else. -/
def Op.isPush : Op → Bool
  | .push _ _ => true
  | .code op => op = OP_1NEGATE || (OP_1 ≤ op && op ≤ OP_16)

/-- `IsPushOnlyScript`. -/
def isPushOnly (s : Bytes) : Bool :=
  match parseScript s with
  | .ok ops => ops.all Op.isPush
  | .error _ => false

/-- The data a parsed opcode pushes for `PushedData`: that of a push, `OP_0`'s empty data included; the other
opcodes, small integers among them, carry none. -/
def Op.dataOf : Op → Option Bytes
  | .push _ d => some d
  | .code _ => none

/-- `txscript.PushedData`. -/
def pushedData (script : Bytes) : Except String (List Bytes) := do
  let ops ← parseScript script
  pure (ops.filterMap Op.dataOf)

/-- A P2SH output script: `OP_HASH160 <20 bytes> OP_EQUAL`. -/
def isScriptHash (pkScript : Bytes) : Bool :=
  pkScript.length = 23 && pkScript[0]? = some OP_HASH160 && pkScript[1]? = some OP_DATA_20 &&
    pkScript[22]? = some OP_EQUAL

/-- The script hash of a P2SH output script. -/
def scriptHashOf (pkScript : Bytes) : Bytes := (pkScript.drop 2).take 20

/-- `PayToAddrScript` of a P2SH address: `OP_HASH160 <h> OP_EQUAL`. -/
def payToScriptHash (h : Bytes) : Bytes := [OP_HASH160, OP_DATA_20] ++ h ++ [OP_EQUAL]

end Tumblebit
