import Tumblebit.Offer
import Tumblebit.Tumbler.Epochs

/-!
# Spending a contract output

Both contract templates of the package, the escrow (`buildEscrowContract`) and the offer (`buildOfferContract`),
are `OP_IF body OP_ELSE <locktime> OP_CHECKLOCKTIMEVERIFY OP_DROP <pkPayer> OP_CHECKSIG OP_ENDIF`
(`refundableItems`). The refund path of the package is `BuildRefundTx`, `AddRefundScript` and `VerifyRefundTx`;
the redeem path begins with `BuildRedeemTx`.

- `AddInt64` writes a number that `makeScriptNum` reads back (`scriptNum_scriptNumBytes`), so the lock time
  `OP_CHECKLOCKTIMEVERIFY` reads is the contract's;
- from a false top of stack, the engine skips the `OP_IF` branch as a block (`foldlM_skip`) and runs the refund
  branch alone (`execScript_refundable`);
- the P2SH spend by the signature script of `refundP2SHContract` succeeds exactly when the lock-time checks and
  the payer's signature pass (`verifyScript_refund`): no transaction refunds a contract before its lock time
  (`verifyScript_refund_ok_iff`);
- on the transaction `BuildRefundTx` builds, with the lock time of the contract and input sequence `0`, only a
  negative lock time fails the checks, and `VerifyRefundTx` accepts exactly the refunds that carry a valid
  signature of the sender (`Contract.verifyRefundTx_refundable`);
- the size estimate of `BuildRedeemTx` pushes the escrow script whole and panics beyond the element-size limit,
  which is the only way besides an unset redeem address that `BuildRedeemTx` panics
  (`Contract.buildRedeemTx_panics`);
- `BuildRefundTx` picks the first output paying the contract's pay script and `BuildRedeemTx` the first
  version-`0` P2SH output to the contract's hash: the refund and the redeem spend one escrow output, so at most one
  of them confirms, exactly when the output the refund picks has version `0` (`Contract.refund_redeem_conflict`).
-/

namespace Tumblebit

/-! ## Script numbers -/

theorem leBytes_length : ∀ k n, (leBytes k n).length = k
  | 0, _ => rfl
  | k + 1, n => by simp [leBytes, leBytes_length k]

theorem leBytes_succ : ∀ k n, leBytes (k + 1) n = leBytes k n ++ [UInt8.ofNat (n / 256 ^ k % 256)]
  | 0, n => by simp [leBytes]
  | k + 1, n => by
    rw [leBytes, leBytes_succ k, leBytes, Nat.div_div_eq_div_mul, ← pow_succ']
    rfl

theorem leValue_append (l : Bytes) (x : UInt8) : leValue (l ++ [x]) = leValue l + 256 ^ l.length * x.toNat := by
  induction l with
  | nil => simp [leValue]
  | cons y l ih =>
    simp only [leValue, List.cons_append, List.foldr_cons] at ih ⊢
    rw [ih, List.length_cons, pow_succ]
    ring

theorem leValue_leBytes : ∀ k n, leValue (leBytes k n) = n % 256 ^ k
  | 0, n => (Nat.mod_one n).symm
  | k + 1, n => by
    rw [leBytes_succ, leValue_append, leValue_leBytes k, leBytes_length, uint8_toNat_ofNat, Nat.mod_mod,
      Nat.mod_pow_succ]

/-- The top byte of the little-endian magnitude `scriptNumBytes` writes, in `1 ≤ t < 256`. -/
theorem leBytes_toBytes_top {n : Nat} (hn : 0 < n) :
    ∃ A t, leBytes (toBytes n).length n = A ++ [UInt8.ofNat t] ∧ 0 < t ∧ t < 256 ∧
      leValue A + 256 ^ A.length * t = n := by
  set k := (toBytes n).length
  have hlt : n < 256 ^ k := setBytes_toBytes n ▸ setBytes_lt _
  have hk : 0 < k := Nat.pos_of_ne_zero fun h => by rw [h] at hlt; omega
  obtain ⟨j, hj⟩ : ∃ j, k = j + 1 := ⟨k - 1, by omega⟩
  have hge : 256 ^ j ≤ n := Nat.not_lt.1 fun h => by have := toBytes_length_le h; omega
  have hpos : 0 < 256 ^ j := by positivity
  have htop : n / 256 ^ j < 256 := Nat.div_lt_of_lt_mul (by rw [← pow_succ, ← hj]; exact hlt)
  refine ⟨leBytes j n, n / 256 ^ j, by rw [hj, leBytes_succ, Nat.mod_eq_of_lt htop], Nat.div_pos hge hpos, htop, ?_⟩
  rw [leValue_leBytes, leBytes_length]
  exact Nat.mod_add_div n (256 ^ j)


theorem uint8_toNat_or (x y : UInt8) : (x ||| y).toNat = x.toNat ||| y.toNat := BitVec.toNat_or _ _

set_option maxRecDepth 10000 in
/-- Bit 7 of a byte, decided over its 256 values: the sign bit of a script number's last byte. -/
theorem byte_bit7 : ∀ t < 256, (t &&& 128 = 0 ↔ t < 128) ∧
    (t < 128 → t &&& 127 = t ∧ (t ||| 128) &&& 127 = t ∧ (t ||| 128) &&& 128 ≠ 0 ∧ t ||| 128 < 256) := by
  decide

/-- `makeScriptNum` on bytes ending in `x`, when the encoding is minimal: the magnitude is the value of
the bytes with bit 7 of `x` cleared, and bit 7 is the sign. -/
theorem scriptNum_concat {B : Bytes} {x : UInt8} (h5 : (B ++ [x]).length ≤ 5)
    (hmin : x.toNat &&& 0x7f ≠ 0 ∨ ∃ y, B.getLast? = some y ∧ y.toNat &&& 0x80 ≠ 0) :
    scriptNum (B ++ [x]) = .ok (if x.toNat &&& 0x80 = 0 then (leValue (B ++ [UInt8.ofNat (x.toNat &&& 0x7f)]) : Int)
      else -(leValue (B ++ [UInt8.ofNat (x.toNat &&& 0x7f)]) : Int)) := by
  rw [scriptNum, if_neg (by omega), List.getLast?_concat, List.dropLast_concat]
  dsimp only
  rw [if_neg]
  rintro ⟨h0, h1⟩
  rcases hmin with hx | ⟨y, hy, hy0⟩
  · exact hx h0
  · rcases h1 with h1 | h1
    · cases B <;> simp_all
    · simp [hy] at h1
      exact hy0 h1


/-- The bytes of a nonzero number: its magnitude `A ++ [t]` with top byte `t`, then a sign byte when bit 7 of
`t` is taken, else the sign in bit 7 of `t`. -/
theorem scriptNumBytes_eq {v : Int} (hv : v ≠ 0) {A : Bytes} {t : Nat}
    (hmag : leBytes (toBytes v.natAbs).length v.natAbs = A ++ [UInt8.ofNat t]) (ht : t < 256) :
    scriptNumBytes v = if 128 ≤ t then A ++ [UInt8.ofNat t] ++ [if v < 0 then 0x80 else 0]
      else if v < 0 then A ++ [UInt8.ofNat t ||| 0x80] else A ++ [UInt8.ofNat t] := by
  have htb : (UInt8.ofNat t).toNat = t := by rw [uint8_toNat_ofNat, Nat.mod_eq_of_lt ht]
  simp only [scriptNumBytes, if_neg hv, hmag, List.getLast?_concat, htb, List.dropLast_concat, ne_eq,
    (byte_bit7 t ht).1, not_lt]

/-- **Script numbers round-trip.** `makeScriptNum` reads back the bytes `AddInt64` writes for every number
whose encoding has at most five bytes. -/
theorem scriptNum_scriptNumBytes {v : Int} (h5 : (scriptNumBytes v).length ≤ 5) :
    scriptNum (scriptNumBytes v) = .ok v := by
  by_cases hv : v = 0
  · subst hv; rfl
  obtain ⟨A, t, hmag, ht0, ht, hval⟩ := leBytes_toBytes_top (Int.natAbs_pos.2 hv)
  have htb : (UInt8.ofNat t).toNat = t := by rw [uint8_toNat_ofNat, Nat.mod_eq_of_lt ht]
  have hA : leValue (A ++ [UInt8.ofNat t]) = v.natAbs := by rw [leValue_append, htb, hval]
  obtain ⟨hsign, hlow⟩ := byte_bit7 t ht
  rw [scriptNumBytes_eq hv hmag ht] at h5 ⊢
  by_cases h128 : 128 ≤ t
  · -- a sign byte after the magnitude, whose bit 7 is the sign
    have htop : ∃ y, (A ++ [UInt8.ofNat t]).getLast? = some y ∧ y.toNat &&& 0x80 ≠ 0 :=
      ⟨_, List.getLast?_concat _, by rw [htb, Ne, hsign]; omega⟩
    have hz : ∀ s : UInt8, s.toNat &&& 0x7f = 0 →
        leValue (A ++ [UInt8.ofNat t] ++ [UInt8.ofNat (s.toNat &&& 0x7f)]) = v.natAbs := fun s hs => by
      rw [hs, leValue_append, hA]; rfl
    rw [if_pos h128] at h5 ⊢
    rw [scriptNum_concat h5 (.inr htop)]
    by_cases hn : v < 0
    · simp only [hn, if_true, hz 0x80 (by decide), show (0x80 : UInt8).toNat &&& 0x80 ≠ 0 by decide, if_false]
      congr 1; omega
    · simp only [hn, if_false, hz 0 (by decide), show (0 : UInt8).toNat &&& 0x80 = 0 by decide, if_true]
      congr 1; omega
  obtain ⟨h7, h7', h8', -⟩ := hlow (by omega)
  rw [if_neg h128] at h5 ⊢
  by_cases hn : v < 0
  · -- the sign in bit 7 of the top byte
    rw [if_pos hn] at h5 ⊢
    rw [scriptNum_concat h5 (.inl (by rw [uint8_toNat_or, htb]; show (t ||| 128) &&& 127 ≠ 0; omega)),
      uint8_toNat_or, htb]
    simp only [show UInt8.toNat 0x80 = 128 from rfl, h7', h8', if_false, hA]
    congr 1; omega
  · rw [if_neg hn] at h5 ⊢
    rw [scriptNum_concat h5 (.inl (by rw [htb, h7]; omega)), htb, h7, hsign.2 (by omega), if_pos rfl, hA]
    congr 1; omega


/-- Every number of at most 32 bits has at most five bytes. -/
theorem scriptNumBytes_length_le {v : Int} (h : v.natAbs < 2 ^ 32) : (scriptNumBytes v).length ≤ 5 := by
  by_cases hv : v = 0
  · subst hv; decide
  obtain ⟨A, t, hmag, -, ht, -⟩ := leBytes_toBytes_top (Int.natAbs_pos.2 hv)
  have hk : A.length + 1 ≤ 4 := by
    have hl := congrArg List.length hmag
    rw [leBytes_length, List.length_append, List.length_singleton] at hl
    have := toBytes_length_le (k := 4) (by simpa using h)
    omega
  rw [scriptNumBytes_eq hv hmag ht]
  split_ifs <;> simp <;> omega

/-! ## The opcodes of the refund branch -/

/-- What `OP_CHECKLOCKTIMEVERIFY` checks of input `idx` once it has read the script's lock time. -/
def lockTimeVerify (tx : MsgTx) (idx : Nat) (lockTime : Int) : Except String Unit := do
  if lockTime < 0 then throw "negative lock time"
  verifyLockTime tx.lockTime lockTime
  match tx.txIn[idx]? with
  | some txIn => if txIn.sequence = maxTxInSequenceNum then throw "transaction input is finalized" else pure ()
  | none => throw "transaction input index out of range"

theorem verifyLockTime_ok_iff {t : Nat} {L : Int} :
    verifyLockTime t L = .ok () ↔ (t < lockTimeThreshold ↔ L < lockTimeThreshold) ∧ L ≤ t := by
  unfold verifyLockTime
  split_ifs with hk hl
  · exact iff_of_false (by rintro ⟨⟩) fun h => hk (propext h.1)
  · exact iff_of_false (by rintro ⟨⟩) fun h => by omega
  · exact iff_of_true rfl ⟨Iff.of_eq (of_not_not hk), by omega⟩

/-- `OP_CHECKLOCKTIMEVERIFY` passes exactly when the lock time is not negative, the transaction's lock time is of
the same kind (block height or time stamp) and has reached it, and the input is not final. -/
theorem lockTimeVerify_ok_iff {tx : MsgTx} {idx : Nat} {L : Int} :
    lockTimeVerify tx idx L = .ok () ↔ 0 ≤ L ∧ (tx.lockTime < lockTimeThreshold ↔ L < lockTimeThreshold) ∧
      L ≤ tx.lockTime ∧ ∃ txIn, tx.txIn[idx]? = some txIn ∧ txIn.sequence ≠ maxTxInSequenceNum := by
  unfold lockTimeVerify
  by_cases h0 : L < 0
  · exact iff_of_false (by rw [if_pos h0]; rintro ⟨⟩) fun h => absurd h.1 (not_le.2 h0)
  simp only [h0, if_false, Except.bind_eq_ok, Unique.exists_iff, PUnit.default_eq_unit, verifyLockTime_ok_iff, pure,
    Except.pure, not_lt.1 h0, true_and]
  rcases tx.txIn[idx]? with _ | txIn
  · simp only [throw, throwThe, MonadExceptOf.throw, reduceCtorEq, and_false, false_and, exists_false]
  · by_cases hs : txIn.sequence = maxTxInSequenceNum <;>
      simp only [hs, ↓reduceIte, Except.throw_eq, reduceCtorEq, and_false, and_true, Option.some.injEq, ne_eq,
        exists_eq_left', not_true_eq_false, not_false_eq_true]

/-- The end of the refund branch under `finalCheck`: `OP_CHECKSIG` leaves the result of the signature check (an
empty signature fails without one), which must be true. -/
def refundSigCheck (chk : SigCheck) (tx : MsgTx) (sig pk : Bytes) (ops : List Op) : Except String Unit := do
  let ok ← if sig = [] then pure false else chk sig pk tx 0 ops
  if ok then pure () else throw "false stack entry at end of script execution"

theorem refundSigCheck_ok_iff {chk : SigCheck} {tx : MsgTx} {sig pk : Bytes} {ops : List Op} :
    refundSigCheck chk tx sig pk ops = .ok () ↔ sig ≠ [] ∧ chk sig pk tx 0 ops = .ok true := by
  unfold refundSigCheck
  by_cases hs : sig = []
  · simp [hs, pure, Except.pure]
  rcases hc : chk sig pk tx 0 ops with e | (_ | _) <;> simp [hs, hc, pure, Except.pure, bind, Except.bind]

section Steps

variable {C : Crypto} {chk : SigCheck} {ec : ExecCtx}

@[simp] theorem VM.push_mk (s : List Bytes) (cs : List Cond) (x : Bytes) : VM.push ⟨s, cs⟩ x = ⟨x :: s, cs⟩ := rfl

theorem execOp_if_false (x : Bytes) (s : List Bytes) (cs : List Cond) (hx : (⟨x :: s, cs⟩ : VM).executing = true)
    (hf : asBool x = false) : execOp C chk ec ⟨x :: s, cs⟩ (.code OP_IF) = .ok ⟨s, .no :: cs⟩ := by
  simp [execOp, hx, VM.pop, hf]

theorem execOp_else_no (s : List Bytes) (cs : List Cond) :
    execOp C chk ec ⟨s, .no :: cs⟩ (.code OP_ELSE) = .ok ⟨s, .yes :: cs⟩ := by
  simp [execOp, OP_IF, OP_NOTIF, OP_ELSE]

theorem execOp_endif (s : List Bytes) (c : Cond) (cs : List Cond) :
    execOp C chk ec ⟨s, c :: cs⟩ (.code OP_ENDIF) = .ok ⟨s, cs⟩ := by
  simp [execOp, OP_IF, OP_NOTIF, OP_ELSE, OP_ENDIF]

theorem execOp_drop (x : Bytes) (s : List Bytes) (cs : List Cond) (hx : (⟨x :: s, cs⟩ : VM).executing = true) :
    execOp C chk ec ⟨x :: s, cs⟩ (.code OP_DROP) = .ok ⟨s, cs⟩ := by
  simp [execOp, execCode, hx, VM.pop, OP_IF, OP_NOTIF, OP_ELSE, OP_ENDIF, OP_1NEGATE, OP_1, OP_16, OP_VERIFY, OP_DROP]

/-- The opcodes that open, switch or close a conditional. -/
def isCondOp (op : UInt8) : Bool := op = OP_IF || op = OP_NOTIF || op = OP_ELSE || op = OP_ENDIF

/-- Any other opcode runs `execCode` in an executing branch. -/
theorem execOp_code {vm : VM} {op : UInt8} (hop : isCondOp op = false) (hx : vm.executing = true) :
    execOp C chk ec vm (.code op) = execCode C chk ec vm op := by
  simp only [isCondOp, Bool.or_eq_false_iff, decide_eq_false_iff_not] at hop
  simp [execOp, hop, hx]

theorem execOp_checkSig (pk sig : Bytes) (s : List Bytes) (cs : List Cond)
    (hx : (⟨pk :: sig :: s, cs⟩ : VM).executing = true) :
    execOp C chk ec ⟨pk :: sig :: s, cs⟩ (.code OP_CHECKSIG) =
      (if sig = [] then .ok false else chk sig pk ec.tx ec.idx ec.script).map fun b => ⟨fromBool b :: s, cs⟩ := by
  rw [execOp_code (by decide) hx]
  by_cases hs : sig = []
  · simp [execCode, hs, VM.pop, VM.push, Except.map, OP_1NEGATE, OP_1, OP_16, OP_VERIFY, OP_DROP, OP_EQUAL,
      OP_EQUALVERIFY, OP_RIPEMD160, OP_HASH160, OP_CHECKSIG]
    rfl
  · simp [execCode, hs, VM.pop, VM.push, OP_1NEGATE, OP_1, OP_16, OP_VERIFY, OP_DROP, OP_EQUAL,
      OP_EQUALVERIFY, OP_RIPEMD160, OP_HASH160, OP_CHECKSIG]
    cases chk sig pk ec.tx ec.idx ec.script <;> rfl

theorem execOp_checkLockTimeVerify (x : Bytes) (s : List Bytes) (cs : List Cond)
    (hx : (⟨x :: s, cs⟩ : VM).executing = true) :
    execOp C chk ec ⟨x :: s, cs⟩ (.code OP_CHECKLOCKTIMEVERIFY) =
      (scriptNum x >>= lockTimeVerify ec.tx ec.idx).map fun _ => ⟨x :: s, cs⟩ := by
  rw [execOp_code (by decide) hx]
  simp [execCode, OP_1NEGATE, OP_1, OP_16, OP_VERIFY, OP_DROP, OP_EQUAL,
      OP_EQUALVERIFY, OP_RIPEMD160, OP_HASH160, OP_CHECKSIG, OP_CHECKLOCKTIMEVERIFY]
  rcases scriptNum x with e | lt
  · rfl
  simp only [lockTimeVerify, bind, Except.bind]
  split_ifs
  · rfl
  rcases verifyLockTime ec.tx.lockTime lt with e | ⟨⟩
  · rfl
  rcases ec.tx.txIn[ec.idx]? with _ | i
  · rfl
  dsimp only
  split_ifs <;> rfl

/-- In an executing branch, the opcode `AddInt64` wrote pushes the number's bytes. -/
theorem execOp_int (vm : VM) {v : Int} (h5 : (scriptNumBytes v).length ≤ 5) (hx : vm.executing = true) :
    execOp C chk ec vm (BuildItem.parsed (.int v)) = .ok (vm.push (scriptNumBytes v)) := by
  simp only [BuildItem.parsed]
  split_ifs with h0 h1 h16
  · subst h0
    simp [execOp, hx, minimalPush]
    rfl
  · subst h1
    rw [execOp_code (by decide) hx]
    rfl
  · have hv : (UInt8.ofNat v.toNat).toNat = v.toNat := by rw [uint8_toNat_ofNat]; omega
    have hb : scriptNumBytes v = [UInt8.ofNat v.toNat] := by
      obtain ⟨h1, h16⟩ := h16
      interval_cases v <;> rfl
    have h := @execOp_smallInt C chk ec vm (UInt8.ofNat v.toNat) hx (by omega) (by omega)
    rwa [hv, ← hb] at h
  · have hne : scriptNumBytes v ≠ [0] := fun h => by
      have hr := scriptNum_scriptNumBytes h5
      rw [h] at hr
      cases hr
    rw [execOp_pushOp (by unfold maxScriptElementSize; omega) hx, pushed, if_neg hne]

end Steps


/-! ## Skipping a branch -/

/-- A parsed opcode that opens, switches or closes a conditional. -/
def Op.opensCond : Op → Bool
  | .code op => isCondOp op
  | .push _ _ => false

theorem Op.opensCond_of_isPush {o : Op} (h : o.isPush = true) : o.opensCond = false := by
  cases o with
  | push => rfl
  | code op =>
    by_contra hc
    simp only [Op.opensCond, Bool.not_eq_false, isCondOp, Bool.or_eq_true, decide_eq_true_eq] at hc
    rcases hc with ((rfl | rfl) | rfl) | rfl <;> exact absurd h (by decide)

/-- A branch the engine does not execute leaves the stacks as they are, opcode after opcode, as long as no
opcode in it is a conditional. -/
theorem foldlM_skip {C : Crypto} {chk : SigCheck} {ec : ExecCtx} (vm : VM) (hx : vm.executing = false) :
    ∀ ops : List Op, (∀ o ∈ ops, o.opensCond = false) → ops.foldlM (execOp C chk ec) vm = .ok vm
  | [], _ => rfl
  | o :: ops, h => by
    have hvm : execOp C chk ec vm o = .ok vm := by
      have ho := h o (List.mem_cons_self _ _)
      cases o with
      | push => simp [execOp, hx]
      | code op =>
        simp only [Op.opensCond, isCondOp, Bool.or_eq_false_iff, decide_eq_false_iff_not] at ho
        simp [execOp, ho, hx]
    rw [List.foldlM_cons, hvm, Except.ok_bind]
    exact foldlM_skip vm hx ops fun o ho => h o (List.mem_cons_of_mem _ ho)

theorem BuildItem.parsed_int_isPush (v : Int) : (BuildItem.parsed (.int v)).isPush = true := by
  simp only [BuildItem.parsed]
  split_ifs with h0 h1 h16
  · rfl
  · rfl
  · simp only [Op.isPush, Bool.or_eq_true, Bool.and_eq_true, decide_eq_true_eq]
    refine .inr ⟨?_, ?_⟩
    · show OP_1.toNat ≤ (UInt8.ofNat _).toNat
      simp only [uint8_toNat_ofNat, OP_1_toNat]; omega
    · show (UInt8.ofNat _).toNat ≤ OP_16.toNat
      simp only [uint8_toNat_ofNat, OP_1_toNat, OP_16]; simp; omega
  · exact pushOp_isPush _

/-- The body of a branch that the builder writes as itself and the engine skips as a block: no opcode added
with `AddOp` is a push opcode or a conditional. -/
def BranchBody (body : List BuildItem) : Prop :=
  ∀ o, BuildItem.op o ∈ body → 0x4e < o.toNat ∧ isCondOp o = false

theorem BranchBody.opensCond {body : List BuildItem} (h : BranchBody body) :
    ∀ o ∈ body.map BuildItem.parsed, o.opensCond = false := by
  simp only [List.mem_map]
  rintro _ ⟨i, hi, rfl⟩
  cases i with
  | op o => exact (h o hi).2
  | data d => exact Op.opensCond_of_isPush (pushOp_isPush d)
  | int v => exact Op.opensCond_of_isPush (BuildItem.parsed_int_isPush v)


/-! ## The refund branch of the contract templates -/

/-- The builder calls of a contract that pays through `body` in its `OP_IF` branch and refunds the payer
after the lock time in its `OP_ELSE` branch. Both templates of the package are of this form
(`buildEscrowContract_refundable`, `buildOfferContract_refundable`). -/
def refundableItems (body : List BuildItem) (pkPayer : Bytes) (locktime : Int) : List BuildItem :=
  .op OP_IF :: body ++ [.op OP_ELSE, .int locktime, .op OP_CHECKLOCKTIMEVERIFY, .op OP_DROP, .data pkPayer,
    .op OP_CHECKSIG, .op OP_ENDIF]

/-- The 2-of-2 multisig branch of an escrow. -/
def escrowBody (pkPayer pkRedeemer : Bytes) : List BuildItem :=
  [.op OP_2, .data pkPayer, .data pkRedeemer, .op OP_2, .op OP_CHECKMULTISIG]

theorem buildEscrowContract_refundable (pkPayer pkRedeemer : Bytes) (locktime : Int) :
    buildEscrowContract pkPayer pkRedeemer locktime =
      buildScript (refundableItems (escrowBody pkPayer pkRedeemer) pkPayer locktime) := rfl

/-- The redeem branch of an offer: the hash checks, then the redeemer's signature. -/
def offerBody (hashOp : UInt8) (hashes : List Bytes) (pkRedeemer : Bytes) : List BuildItem :=
  hashChecks hashOp hashes ++ [.data pkRedeemer, .op OP_CHECKSIG]

theorem buildOfferContract_refundable (pkPayer pkRedeemer : Bytes) (hashes : List Bytes) (hashOp : UInt8)
    (locktime : Int) : buildOfferContract pkPayer pkRedeemer hashes hashOp locktime =
      buildScript (refundableItems (offerBody hashOp hashes pkRedeemer) pkPayer locktime) := by
  simp [buildOfferContract, refundableItems, offerBody]

theorem branchBody_escrowBody (pkPayer pkRedeemer : Bytes) : BranchBody (escrowBody pkPayer pkRedeemer) := by
  intro o ho
  simp only [escrowBody, List.mem_cons, BuildItem.op.injEq, List.mem_singleton, reduceCtorEq, false_or,
    or_false, List.not_mem_nil] at ho
  rcases ho with rfl | rfl | rfl <;> decide

theorem opCount_escrowBody (pkPayer pkRedeemer : Bytes) :
    opCount ((escrowBody pkPayer pkRedeemer).map BuildItem.parsed) = 1 := by
  simp only [escrowBody, List.map_cons, List.map_nil, BuildItem.parsed_op, BuildItem.parsed_data]
  rw [show [Op.code OP_2, pushOp pkPayer, pushOp pkRedeemer, .code OP_2, .code OP_CHECKMULTISIG] =
    [.code OP_2] ++ [pushOp pkPayer] ++ [pushOp pkRedeemer] ++ [.code OP_2] ++ [.code OP_CHECKMULTISIG] from rfl]
  simp only [opCount_append, opCount_pushOp, show opCount [.code OP_2] = 0 from rfl,
    show opCount [.code OP_CHECKMULTISIG] = 1 from rfl]

theorem branchBody_offerBody (hashes : List Bytes) (pkRedeemer : Bytes) :
    BranchBody (offerBody OP_RIPEMD160 hashes pkRedeemer) := by
  intro o ho
  simp only [offerBody, hashChecks, List.mem_append, List.mem_flatMap, List.mem_cons, BuildItem.op.injEq,
    List.mem_singleton, reduceCtorEq, false_or, or_false, List.not_mem_nil] at ho
  rcases ho with ⟨-, -, rfl | rfl⟩ | rfl <;> decide

/-- An offer's redeem branch counts two operations a hash and its `OP_CHECKSIG`. -/
theorem opCount_offerBody (hashes : List Bytes) (pkRedeemer : Bytes) :
    opCount ((offerBody OP_RIPEMD160 hashes pkRedeemer).map BuildItem.parsed) = 2 * hashes.length + 1 := by
  rw [offerBody, List.map_append, opCount_append, opCount_hashChecks (by decide)]
  simp only [List.map_cons, List.map_nil, BuildItem.parsed_op, BuildItem.parsed_data]
  rw [← List.singleton_append, opCount_append, opCount_pushOp, show opCount [.code OP_CHECKSIG] = 1 from rfl]

section Refund

variable {C : Crypto} {chk : SigCheck} {tx : MsgTx} {idx : Nat} {body : List BuildItem} {pk : Bytes} {L : Int}

theorem refundableItems_parsed :
    (refundableItems body pk L).map BuildItem.parsed = .code OP_IF :: (body.map BuildItem.parsed ++
      [.code OP_ELSE, BuildItem.parsed (.int L), .code OP_CHECKLOCKTIMEVERIFY, .code OP_DROP, pushOp pk,
        .code OP_CHECKSIG, .code OP_ENDIF]) := by
  simp [refundableItems]

theorem opCount_refundable :
    opCount ((refundableItems body pk L).map BuildItem.parsed) = opCount (body.map BuildItem.parsed) + 6 := by
  rw [refundableItems_parsed, ← List.singleton_append, opCount_append, opCount_append]
  rw [show [Op.code OP_ELSE, BuildItem.parsed (.int L), .code OP_CHECKLOCKTIMEVERIFY, .code OP_DROP, pushOp pk,
      .code OP_CHECKSIG, .code OP_ENDIF] = [.code OP_ELSE] ++ [BuildItem.parsed (.int L)] ++
      [.code OP_CHECKLOCKTIMEVERIFY] ++ [.code OP_DROP] ++ [pushOp pk] ++ [.code OP_CHECKSIG] ++
      [.code OP_ENDIF] from rfl]
  simp only [opCount_append, opCount_int, opCount_pushOp, show opCount [.code OP_IF] = 1 from rfl,
    show opCount [.code OP_ELSE] = 1 from rfl, show opCount [.code OP_CHECKLOCKTIMEVERIFY] = 1 from rfl,
    show opCount [.code OP_DROP] = 1 from rfl, show opCount [.code OP_CHECKSIG] = 1 from rfl,
    show opCount [.code OP_ENDIF] = 1 from rfl]
  omega

/-- **The refund branch runs the refund.** From a stack whose top is false, a refundable contract skips
its `OP_IF` branch and decides by its `OP_ELSE` branch alone: the lock-time checks of
`OP_CHECKLOCKTIMEVERIFY`, then the signature under the payer's key, whose result is all that is left on the
stack. -/
theorem execScript_refundable (hbody : BranchBody body) (hcount : opCount (body.map BuildItem.parsed) ≤ 249)
    (hpk : pk.length ≤ maxScriptElementSize) (hL : (scriptNumBytes L).length ≤ 5) (sig : Bytes)
    (rest : List Bytes) :
    execScript C chk tx idx ((refundableItems body pk L).map BuildItem.parsed) ⟨[] :: sig :: rest, []⟩ = (do
      lockTimeVerify tx idx L
      let ok ← if sig = [] then pure false
        else chk sig (pushed pk) tx idx ((refundableItems body pk L).map BuildItem.parsed)
      pure ⟨fromBool ok :: rest, []⟩) := by
  unfold execScript
  rw [if_neg (by rw [opCount_refundable]; omega), refundableItems_parsed]
  rw [pure_bind, List.foldlM_cons, execOp_if_false [] (sig :: rest) [] rfl rfl, Except.ok_bind, List.foldlM_append,
    foldlM_skip ⟨sig :: rest, [.no]⟩ rfl _ hbody.opensCond, Except.ok_bind, List.foldlM_cons, execOp_else_no,
    Except.ok_bind, List.foldlM_cons, execOp_int ⟨sig :: rest, [.yes]⟩ hL rfl, VM.push_mk, Except.ok_bind,
    List.foldlM_cons, execOp_checkLockTimeVerify _ (sig :: rest) [.yes] rfl, scriptNum_scriptNumBytes hL,
    Except.ok_bind]
  dsimp only
  rcases lockTimeVerify tx idx L with e | ⟨⟩
  · rfl
  rw [Except.map, Except.ok_bind, Except.ok_bind, List.foldlM_cons, execOp_drop _ (sig :: rest) [.yes] rfl,
    Except.ok_bind, List.foldlM_cons, @execOp_pushOp _ _ _ ⟨sig :: rest, [.yes]⟩ _ hpk rfl, VM.push_mk,
    Except.ok_bind, List.foldlM_cons, execOp_checkSig _ sig rest [.yes] rfl]
  dsimp only
  split_ifs with hs
  · rfl
  rcases chk sig (pushed pk) tx idx _ with e | b <;> rfl

/-- The opcodes a refundable contract adds with `AddOp` are all read back as themselves. -/
theorem parseScript_refundable {S : Bytes} (hbody : BranchBody body) (hS : buildScript (refundableItems body pk L) = .ok S) :
    parseScript S = .ok ((refundableItems body pk L).map BuildItem.parsed) := by
  refine parseScript_buildScript hS fun o ho => ?_
  by_cases hb : BuildItem.op o ∈ body
  · exact (hbody o hb).1
  simp [refundableItems, hb] at ho
  rcases ho with rfl | rfl | rfl | rfl | rfl | rfl <;> decide

/-- The signature script of a refund pushes the signature, the empty array and the contract. -/
theorem parseScript_refund {S sig T : Bytes} (hT : refundP2SHContract S sig = .ok T) :
    parseScript T = .ok ([sig, [], S].map pushOp) ∧ ∀ d ∈ [sig, [], S], d.length ≤ maxScriptElementSize := by
  obtain ⟨-, hfits⟩ := buildScript_ok hT
  refine ⟨parseScript_buildScript hT (by simp), ?_⟩
  simp only [List.mem_cons, List.mem_singleton, List.not_mem_nil, or_false]
  rintro d (rfl | rfl | rfl)
  · exact hfits (.data d) (by simp)
  · decide
  · exact hfits (.data d) (by simp)

/-- The P2SH spend of a refundable script by the signature script of `refundP2SHContract`: the signature script
only pushes, the P2SH script checks the hash of the pushed contract, and the contract runs on the signature above
the empty selector. -/
theorem verifyScript_refundSig {S T sig : Bytes} {txIn : TxIn} (hbody : BranchBody body)
    (hS : buildScript (refundableItems body pk L) = .ok S) (hT : refundP2SHContract S sig = .ok T)
    (hin : tx.txIn[0]? = some txIn) (hsig : txIn.signatureScript = T) :
    verifyScript C chk (payToScriptHash (C.hash160 S)) tx 0 =
      execScript C chk tx 0 ((refundableItems body pk L).map BuildItem.parsed) ⟨[] :: [pushed sig], []⟩ >>=
        finalCheck := by
  obtain ⟨hparseT, hfitT⟩ := parseScript_refund hT
  have hS2 : 2 ≤ S.length := by
    rw [(buildScript_ok hS).1]
    refine Nat.le_trans ?_ (length_le_flatten_encode _)
    simp [refundableItems]
  have hl : (C.hash160 S).length = 20 := C.ripemd160_length _
  have hpushes := @execScript_pushOps C chk tx 0 _ hfitT []
  rw [show ([sig, [], S].map pushed).reverse ++ [] = S :: [] :: [pushed sig] by
    simp [pushed_of_two_le hS2, show pushed [] = [] from rfl]] at hpushes
  have hne : ¬(txIn.signatureScript = [] ∧ payToScriptHash (C.hash160 S) = []) := by simp [payToScriptHash]
  have hpush : ¬∃ o, o ∈ [sig, [], S].map pushOp ∧ o.isPush = false := by
    simp [pushOp_isPush]
  subst hsig
  generalize [sig, [], S].map pushOp = ops at hparseT hpushes hpush
  simp only [verifyScript, hin, Except.throw_eq, parseScript_payToScriptHash hl, isScriptHash_payToScriptHash hl,
    Bool.not_eq_eq_eq_not, Bool.not_true, List.all_eq_false, Bool.not_eq_true, true_and, Bool.false_eq_true,
    ↓reduceIte, Except.error_bind, pure_bind, Except.ok_bind, hne, hparseT, hpush, hpushes, execScript_payToScriptHash,
    show asBool [1] = true from rfl, Bool.true_eq_false, parseScript_refundable hbody hS]

/-- **A refund spends a refundable contract exactly when its checks pass.** The signature script that
`refundP2SHContract` builds, run against the P2SH output of a refundable contract, succeeds or fails as the
refund branch decides: the lock-time checks on input 0, then the pushed signature under the payer's key. -/
theorem verifyScript_refund {S T sig : Bytes} {txIn : TxIn} (hbody : BranchBody body)
    (hcount : opCount (body.map BuildItem.parsed) ≤ 249) (hL : (scriptNumBytes L).length ≤ 5)
    (hS : buildScript (refundableItems body pk L) = .ok S) (hT : refundP2SHContract S sig = .ok T)
    (hin : tx.txIn[0]? = some txIn) (hsig : txIn.signatureScript = T) :
    verifyScript C chk (payToScriptHash (C.hash160 S)) tx 0 = (do
      lockTimeVerify tx 0 L
      refundSigCheck chk tx (pushed sig) (pushed pk) ((refundableItems body pk L).map BuildItem.parsed)) := by
  have hpk : pk.length ≤ maxScriptElementSize := (buildScript_ok hS).2 (.data pk) (by simp [refundableItems])
  rw [verifyScript_refundSig hbody hS hT hin hsig, execScript_refundable hbody hcount hpk hL]
  rcases lockTimeVerify tx 0 L with e | ⟨⟩
  · rfl
  unfold refundSigCheck
  split_ifs
  · rfl
  rcases chk (pushed sig) (pushed pk) tx 0 _ with e | (_ | _) <;> rfl

/-- Past 249 operations in the branch, the refundable script has more than 255 and the engine refuses to run it. -/
theorem verifyScript_refund_opCount {S T sig : Bytes} {txIn : TxIn} (hbody : BranchBody body)
    (hcount : 249 < opCount (body.map BuildItem.parsed))
    (hS : buildScript (refundableItems body pk L) = .ok S) (hT : refundP2SHContract S sig = .ok T)
    (hin : tx.txIn[0]? = some txIn) (hsig : txIn.signatureScript = T) :
    verifyScript C chk (payToScriptHash (C.hash160 S)) tx 0 = .error "exceeded max operation limit" := by
  rw [verifyScript_refundSig hbody hS hT hin hsig, execScript, if_pos (by rw [opCount_refundable]; omega)]
  rfl

/-- A library whose every signature checks, every address decodes to one P2PKH address with an empty key, and
whose fee is 100 atoms a byte. -/
def toyRefundLib : Lib :=
  ⟨fun _ _ _ _ _ => .ok true, fun _ => .ok ⟨.pubKeyHashSecp, "a", "a", []⟩, fun _ => .ok [], fun _ => "",
    fun _ => [], fun _ => [], fun _ => none, fun n => n * 100, fun o => decide (o.value ≤ 0)⟩

/-- The escrow script between two empty keys with lock time `110`. -/
def toyEscrowScript : Bytes :=
  [OP_IF, OP_2, OP_0, OP_0, OP_2, OP_CHECKMULTISIG, OP_ELSE, 1, 110, OP_CHECKLOCKTIMEVERIFY, OP_DROP, OP_0,
    OP_CHECKSIG, OP_ENDIF]

/-- **No refund before the lock time.** Whatever the transaction and the signature, the signature script of
`refundP2SHContract` spends the P2SH output of a refundable contract exactly when the branch fits the operation
limit, the lock time is not negative, the transaction's lock time is of the same kind and has reached it, input 0
is not final, and the payer's signature checks. -/
theorem verifyScript_refund_ok_iff {S T sig : Bytes} {txIn : TxIn} (hbody : BranchBody body) (hL : Int32Range L)
    (hS : buildScript (refundableItems body pk L) = .ok S) (hT : refundP2SHContract S sig = .ok T)
    (hin : tx.txIn[0]? = some txIn) (hsig : txIn.signatureScript = T) :
    verifyScript C chk (payToScriptHash (C.hash160 S)) tx 0 = .ok () ↔
      opCount (body.map BuildItem.parsed) ≤ 249 ∧ 0 ≤ L ∧
      (tx.lockTime < lockTimeThreshold ↔ L < lockTimeThreshold) ∧ L ≤ tx.lockTime ∧
      txIn.sequence ≠ maxTxInSequenceNum ∧ pushed sig ≠ [] ∧
      chk (pushed sig) (pushed pk) tx 0 ((refundableItems body pk L).map BuildItem.parsed) = .ok true := by
  by_cases hcount : opCount (body.map BuildItem.parsed) ≤ 249
  · obtain ⟨hlo, hhi⟩ := hL
    rw [verifyScript_refund hbody hcount (scriptNumBytes_length_le (by omega)) hS hT hin hsig]
    simp only [Except.bind_eq_ok, Unique.exists_iff, PUnit.default_eq_unit, lockTimeVerify_ok_iff, refundSigCheck_ok_iff, hin, Option.some.injEq,
      exists_eq_left', hcount, true_and, and_assoc]
  · rw [verifyScript_refund_opCount hbody (by omega) hS hT hin hsig]
    simp [hcount]

/-- A refund of `toyEscrowScript` with lock time `109`, one block early. -/
def earlyRefundTx : MsgTx := ⟨[⟨⟨[], 0, 0⟩, 0, [OP_1, OP_0, 14] ++ toyEscrowScript⟩], [], 109, 0⟩

theorem verifyScript_refund_before_lockTime :
    verifyScript Env.idle.C toyRefundLib.checkSig (payToScriptHash (Env.idle.C.hash160 toyEscrowScript))
      earlyRefundTx 0 ≠ .ok () := fun h =>
  absurd ((@verifyScript_refund_ok_iff Env.idle.C toyRefundLib.checkSig earlyRefundTx (escrowBody [] []) [] 110
    toyEscrowScript _ [1] _ (branchBody_escrowBody [] []) ⟨by decide, by decide⟩ rfl rfl rfl rfl).1 h).2.2.2.1
    (by decide)

end Refund


/-! ## The refund transaction -/

section RefundTx

variable {lib : Lib} {c c' : Contract}

theorem Contract.buildRefundTx_ok (h : c.buildRefundTx lib = .ok c') :
    ∃ etx i o, c.escrowTxOrDecode lib = .ok etx ∧ payScriptIndex etx.txOut c.escrowPayScript = some i ∧
      etx.txOut[i]? = some o ∧
      ∃ tx : MsgTx, tx.txIn = [⟨⟨lib.txHash etx, i, 0⟩, 0, []⟩] ∧ tx.lockTime = c.txLockTime ∧
        c' = { c with escrowTx := some etx, refundTx := some tx, refundBytes := lib.serialize tx } := by
  simp only [Contract.buildRefundTx, Except.bind_eq_ok] at h
  obtain ⟨etx, he, h⟩ := h
  cases hi : payScriptIndex etx.txOut c.escrowPayScript with
  | none => simp only [hi, Except.throw_eq, Except.error_bind, reduceCtorEq] at h
  | some i =>
    simp only [hi, pure_bind] at h
    simp only [Except.bind_eq_ok] at h
    obtain ⟨outScript, -, size, -, h⟩ := h
    rcases ho : etx.txOut[i]? with _ | o
    · simp only [ho, Except.throw_eq, Except.error_bind, reduceCtorEq] at h
    simp only [ho, pure_bind] at h
    split at h
    · cases h
    cases h
    exact ⟨etx, i, o, he, hi, ho, _, rfl, rfl, rfl⟩


theorem Contract.addRefundScript_ok (h : c.addRefundScript lib = .ok c') :
    ∃ T tx i rest, refundP2SHContract c.escrowScript c.refundSig = .ok T ∧ c.refundTx = some tx ∧
      tx.txIn = i :: rest ∧ ∃ tx' : MsgTx, tx' = { tx with txIn := { i with signatureScript := T } :: rest } ∧
        c' = { c with refundScript := T, refundTx := some tx', refundBytes := lib.serialize tx' } := by
  simp only [Contract.addRefundScript, Except.bind_eq_ok] at h
  obtain ⟨T, hT, h⟩ := h
  rcases hT' : refundP2SHContract c.escrowScript c.refundSig with e | T'
  · simp [hT', Except.mapError] at hT
  simp only [hT', Except.mapError, Except.ok.injEq] at hT
  subst hT
  rcases htx : c.refundTx with _ | tx
  · simp [htx] at h
  simp only [htx, MsgTx.setSigScript] at h
  rcases hin : tx.txIn with _ | ⟨i, rest⟩
  · simp [hin] at h
  simp only [hin, Except.ok_bind] at h
  cases h
  exact ⟨T', tx, i, rest, rfl, rfl, hin, _, rfl, rfl⟩


theorem payScriptIndex_pkScript {outs : List TxOut} {p : Bytes} {i : Nat} {o : TxOut}
    (hi : payScriptIndex outs p = some i) (ho : outs[i]? = some o) : o.pkScript = p := by
  obtain ⟨hlt, hp, -⟩ := List.findIdx?_eq_some_iff_getElem.1 hi
  rw [List.getElem?_eq_getElem hlt, Option.some.injEq] at ho
  subst ho
  simpa using hp

/-- The lock-time checks on the refund transaction: its lock time is the contract's as `uint32`, and its
input's sequence is `0`, so only a negative lock time fails them. -/
theorem lockTimeVerify_refund {tx : MsgTx} {L : Int} {txIn : TxIn} (hlt : tx.lockTime = (L % 4294967296).toNat)
    (hL : L < 4294967296) (hin : tx.txIn[0]? = some txIn) (hseq : txIn.sequence = 0) :
    lockTimeVerify tx 0 L = if L < 0 then .error "negative lock time" else .ok () := by
  split_ifs with hneg
  · rw [lockTimeVerify, if_pos hneg]; rfl
  have htl : (tx.lockTime : Int) = L := by rw [hlt, Int.emod_eq_of_lt (by omega) hL]; omega
  exact lockTimeVerify_ok_iff.2 ⟨by omega, by rw [← htl]; exact Int.ofNat_lt.symm, htl.ge, txIn, hin,
    by simp [hseq, maxTxInSequenceNum]⟩

theorem Contract.verifyRefundTx_eq {C : Crypto} {etx tx : MsgTx} {i : Nat} {o : TxOut}
    (he : c.escrowTx = some etx) (hi : payScriptIndex etx.txOut c.escrowPayScript = some i)
    (ho : etx.txOut[i]? = some o) (htx : c.refundTx = some tx) :
    c.verifyRefundTx C lib = (verifyScript C lib.checkSig c.escrowPayScript tx 0).mapError Fault.error := by
  simp [Contract.verifyRefundTx, verifySpend, he, hi, ho, htx, payScriptIndex_pkScript hi ho]

/-- What `VerifyRefundTx` decides of the refund of a refundable contract: a negative lock time fails
`OP_CHECKLOCKTIMEVERIFY`, and otherwise the result of the signature check is the value left on the stack. -/
def refundCheck (chk : SigCheck) (tx : MsgTx) (lockTime : Int) (sig pk : Bytes) (ops : List Op) :
    Except String Unit := do
  if lockTime < 0 then throw "negative lock time"
  refundSigCheck chk tx sig pk ops

theorem refundCheck_ok_iff {chk : SigCheck} {tx : MsgTx} {L : Int} {sig pk : Bytes} {ops : List Op} :
    (refundCheck chk tx L sig pk ops).mapError Fault.error = .ok () ↔ 0 ≤ L ∧ sig ≠ [] ∧ chk sig pk tx 0 ops = .ok true := by
  unfold refundCheck
  by_cases hneg : L < 0
  · simp [hneg]
  simp [hneg, refundSigCheck_ok_iff, not_lt.1 hneg]

/-- The refund that `BuildRefundTx` and then `AddRefundScript` with the signature `sig` build: its input 0 has
sequence `0` and the signature script of `refundP2SHContract`, its lock time is the contract's, and
`VerifyRefundTx` runs the engine on it against the escrow's pay script. -/
theorem Contract.refundTx_spends {C : Crypto} {c₁ c₂ : Contract} {sig : Bytes}
    (h₁ : c.buildRefundTx lib = .ok c₁) (h₂ : { c₁ with refundSig := sig }.addRefundScript lib = .ok c₂) :
    ∃ tx txIn T, c₂.refundTx = some tx ∧ tx.txIn[0]? = some txIn ∧ txIn.sequence = 0 ∧
      txIn.signatureScript = T ∧ refundP2SHContract c.escrowScript sig = .ok T ∧ tx.lockTime = c.txLockTime ∧
      c₂.verifyRefundTx C lib = (verifyScript C lib.checkSig c.escrowPayScript tx 0).mapError Fault.error := by
  obtain ⟨etx, i, o, -, hi, ho, tx, htxin, htxlt, rfl⟩ := Contract.buildRefundTx_ok h₁
  obtain ⟨T, tx₀, j, rest, hT, htx₀, hin₀, tx', htx', hc₂⟩ := Contract.addRefundScript_ok h₂
  cases htx₀
  rw [htxin, List.cons.injEq] at hin₀
  obtain ⟨rfl, rfl⟩ := hin₀
  refine ⟨tx', _, T, by rw [hc₂], by rw [htx']; rfl, rfl, rfl, hT, by rw [htx']; exact htxlt, ?_⟩
  rw [Contract.verifyRefundTx_eq (c := c₂) (by rw [hc₂]) (by rw [hc₂]; exact hi) ho (by rw [hc₂]),
    show c₂.escrowPayScript = c.escrowPayScript by rw [hc₂]]

section Refundable

variable {C : Crypto} {c₁ c₂ : Contract} {body : List BuildItem} {sig : Bytes}

/-- On the refund that `BuildRefundTx` and then `AddRefundScript` with the signature `sig` build, `VerifyRefundTx`
is `refundCheck` of the pushed signature and the sender's key, as long as the escrow script is a refundable script
with the sender's key and the lock time, paid to by its P2SH script. -/
theorem Contract.verifyRefundTx_eq_refundCheck
    (h₁ : c.buildRefundTx lib = .ok c₁) (h₂ : { c₁ with refundSig := sig }.addRefundScript lib = .ok c₂)
    (hbody : BranchBody body) (hcount : opCount (body.map BuildItem.parsed) ≤ 249)
    (hS : buildScript (refundableItems body c.senderScriptAddr c.lockTime) = .ok c.escrowScript)
    (hpay : c.escrowPayScript = payToScriptHash (C.hash160 c.escrowScript))
    (hL : Int32Range c.lockTime) :
    ∃ tx, c₂.refundTx = some tx ∧ c₂.verifyRefundTx C lib = (refundCheck lib.checkSig tx c.lockTime (pushed sig)
      (pushed c.senderScriptAddr) ((refundableItems body c.senderScriptAddr c.lockTime).map BuildItem.parsed)).mapError
        Fault.error := by
  obtain ⟨tx, txIn, T, htx, hin, hseq, hsig, hT, hlt, hv⟩ := Contract.refundTx_spends (C := C) h₁ h₂
  obtain ⟨hlo, hhi⟩ := hL
  refine ⟨tx, htx, ?_⟩
  rw [hv, hpay, verifyScript_refund hbody hcount (scriptNumBytes_length_le (by omega)) hS hT hin hsig,
    lockTimeVerify_refund hlt (by omega) hin hseq]
  unfold refundCheck
  split_ifs <;> rfl

/-- A refundable contract whose branch counts more than 249 operations is never refunded: `VerifyRefundTx`
refuses every refund built for it, whatever the signature and the lock time. -/
theorem Contract.verifyRefundTx_opCount
    (h₁ : c.buildRefundTx lib = .ok c₁) (h₂ : { c₁ with refundSig := sig }.addRefundScript lib = .ok c₂)
    (hbody : BranchBody body) (hcount : 249 < opCount (body.map BuildItem.parsed))
    (hS : buildScript (refundableItems body c.senderScriptAddr c.lockTime) = .ok c.escrowScript)
    (hpay : c.escrowPayScript = payToScriptHash (C.hash160 c.escrowScript)) :
    c₂.verifyRefundTx C lib = .error (.error "exceeded max operation limit") := by
  obtain ⟨tx, txIn, T, -, hin, -, hsig, hT, -, hv⟩ := Contract.refundTx_spends (C := C) h₁ h₂
  rw [hv, hpay, verifyScript_refund_opCount hbody hcount hS hT hin hsig]
  rfl

/-- **The refund of a refundable contract verifies exactly when it should.** Let the contract's escrow script
be a refundable script with the sender's key and the lock time, paid to by its P2SH script. When `BuildRefundTx`
and then `AddRefundScript` with the signature `sig` succeed, `VerifyRefundTx` accepts the refund exactly when the
lock time is not negative and the library accepts the pushed signature under the sender's key. -/
theorem Contract.verifyRefundTx_refundable {C : Crypto} {c₁ c₂ : Contract} {body : List BuildItem} {sig : Bytes}
    (h₁ : c.buildRefundTx lib = .ok c₁) (h₂ : { c₁ with refundSig := sig }.addRefundScript lib = .ok c₂)
    (hbody : BranchBody body) (hcount : opCount (body.map BuildItem.parsed) ≤ 249)
    (hS : buildScript (refundableItems body c.senderScriptAddr c.lockTime) = .ok c.escrowScript)
    (hpay : c.escrowPayScript = payToScriptHash (C.hash160 c.escrowScript))
    (hL : Int32Range c.lockTime) :
    ∃ tx, c₂.refundTx = some tx ∧ (c₂.verifyRefundTx C lib = .ok () ↔ 0 ≤ c.lockTime ∧ pushed sig ≠ [] ∧
      lib.checkSig (pushed sig) (pushed c.senderScriptAddr) tx 0
        ((refundableItems body c.senderScriptAddr c.lockTime).map BuildItem.parsed) = .ok true) := by
  obtain ⟨tx, htx, hv⟩ := Contract.verifyRefundTx_eq_refundCheck h₁ h₂ hbody hcount hS hpay hL
  exact ⟨tx, htx, hv ▸ refundCheck_ok_iff⟩

end Refundable

/-- The contract after `AddEscrowScript` on `toyEscrowScript`, funded in output 0 of its escrow transaction,
with a refund address. -/
def toyEscrow : Contract where
  senderAddr := none
  senderAddrStr := ""
  senderScriptAddr := []
  receiverAddr := none
  receiverAddrStr := ""
  receiverScriptAddr := []
  escrowTx := some ⟨[], [⟨contractValue, 0, payToScriptHash (Env.idle.C.hash160 toyEscrowScript)⟩], 0, 0⟩
  escrowBytes := []
  escrowAddrStr := ""
  escrowPayScript := payToScriptHash (Env.idle.C.hash160 toyEscrowScript)
  escrowScript := toyEscrowScript
  escrowHash := []
  refundTx := none
  refundBytes := []
  refundAddr := some ⟨.pubKeyHashSecp, "a", "a", []⟩
  refundAddrStr := ""
  refundScript := []
  refundScriptAddr := []
  refundSig := []
  refundHash := []
  redeemTx := none
  redeemBytes := []
  redeemAddr := none
  redeemAddrStr := ""
  redeemScript := []
  redeemScriptAddr := []
  redeemSig := []
  redeemHash := []
  amount := contractValue
  lockTime := 110

theorem verifyRefundTx_refundable_toy :
    ∃ c₁ c₂, toyEscrow.buildRefundTx toyRefundLib = .ok c₁ ∧
      { c₁ with refundSig := [1] }.addRefundScript toyRefundLib = .ok c₂ ∧
      c₂.verifyRefundTx Env.idle.C toyRefundLib = .ok () := by
  obtain ⟨c₁, c₂, h₁, h₂⟩ : ∃ c₁ c₂, toyEscrow.buildRefundTx toyRefundLib = .ok c₁ ∧
      { c₁ with refundSig := [1] }.addRefundScript toyRefundLib = .ok c₂ := ⟨_, _, rfl, rfl⟩
  obtain ⟨tx, -, hv⟩ := Contract.verifyRefundTx_refundable (C := Env.idle.C) h₁ h₂ (branchBody_escrowBody [] [])
    (by rw [opCount_escrowBody]; decide) rfl rfl ⟨by decide, by decide⟩
  exact ⟨c₁, c₂, h₁, h₂, hv.2 ⟨by decide, by decide, rfl⟩⟩

theorem Contract.setAddress_refund {lib : Lib} {c c' : Contract} {a pk : String}
    (h : c.setAddress lib .refund a pk = .ok c') :
    ∃ addr : Address, c' = { c with refundAddr := some addr, refundAddrStr := a, refundScriptAddr := addr.scriptAddress } := by
  simp only [Contract.setAddress, Except.bind_eq_ok] at h
  obtain ⟨addr, -, check, -, h⟩ := h
  split at h
  · cases h
  simp only [pure_bind] at h
  split at h
  · cases h
  cases h
  exact ⟨addr, rfl⟩

/-- `AddEscrowScript` and `AddOfferScript` differ only in the script they build: the script becomes the escrow
script, and its hash the escrow address and the pay script. -/
theorem Contract.addScript_ok {C : Crypto} {lib : Lib} {c c' : Contract} {x : Except String Bytes}
    {f : String → String} (h : (do
      let script ← x.mapError f
      let h := C.hash160 script
      pure { c with
        escrowScript := script, escrowAddrStr := lib.scriptHashAddress h, escrowPayScript := payToScriptHash h } :
        Except String Contract) = .ok c') :
    ∃ S, x = .ok S ∧ c' = { c with escrowScript := S, escrowAddrStr := lib.scriptHashAddress (C.hash160 S)
                                   escrowPayScript := payToScriptHash (C.hash160 S) } := by
  rcases x with e | S
  · cases h
  · cases h
    exact ⟨S, rfl, rfl⟩

theorem Contract.addEscrowScript_ok {C : Crypto} {lib : Lib} {c c' : Contract} (h : c.addEscrowScript C lib = .ok c') :
    ∃ S, buildEscrowContract c.senderScriptAddr c.receiverScriptAddr c.lockTime = .ok S ∧
      c' = { c with escrowScript := S, escrowAddrStr := lib.scriptHashAddress (C.hash160 S)
                    escrowPayScript := payToScriptHash (C.hash160 S) } :=
  Contract.addScript_ok h

theorem Contract.addOfferScript_ok {C : Crypto} {lib : Lib} {c c' : Contract} {hashes : List Bytes} {hashOp : UInt8}
    (h : c.addOfferScript C lib hashes hashOp = .ok c') :
    ∃ S, buildOfferContract c.senderScriptAddr c.receiverScriptAddr hashes hashOp c.lockTime = .ok S ∧
      c' = { c with escrowScript := S, escrowAddrStr := lib.scriptHashAddress (C.hash160 S)
                    escrowPayScript := payToScriptHash (C.hash160 S) } :=
  Contract.addScript_ok h

end RefundTx

/-! ## The size estimates -/

section Estimates

theorem pushData_length_le (d : Bytes) : (pushData d).length ≤ d.length + 5 := by
  rcases d with _ | ⟨x, _ | ⟨y, t⟩⟩
  · simp [pushData]
  · simp only [pushData]; split_ifs <;> simp
  · simp only [pushData]; split_ifs <;> simp [leBytes_length] <;> omega

/-- Within the element-size limit, the estimators' push of a contract is its canonical push. -/
theorem contractPushSize_of_le {d : Bytes} (hd : d.length ≤ maxScriptElementSize) :
    contractPushSize d = .ok (pushData d).length := by
  have := pushData_length_le d
  have hs : ¬ maxScriptSize < (pushData d).length := by unfold maxScriptSize maxScriptElementSize at *; omega
  simp [contractPushSize, buildScript, ScriptBuilder.add, ScriptBuilder.addData, ScriptBuilder.new,
    ScriptBuilder.finish, hs, Nat.not_lt.2 hd]

/-- Beyond it the builder refuses the push and the estimator panics. -/
theorem contractPushSize_of_lt {d : Bytes} (hd : maxScriptElementSize < d.length) :
    ∃ m, contractPushSize d = .error (.panic m) := by
  simp only [contractPushSize, buildScript, List.foldl, ScriptBuilder.add, ScriptBuilder.addData,
    ScriptBuilder.new, Option.isSome_none, Bool.false_eq_true, if_false, hd, if_true]
  split_ifs <;> exact ⟨_, rfl⟩


theorem Contract.escrowTxOrDecode_not_panic {lib : Lib} {c : Contract} {m : String} :
    c.escrowTxOrDecode lib ≠ .error (.panic m) := by
  unfold Contract.escrowTxOrDecode
  split
  · nofun
  · split <;> nofun

theorem contractOutIndex_getElem? {outs : List TxOut} {h : Bytes} {i : Nat} (hi : contractOutIndex outs h = some i) :
    ∃ o, outs[i]? = some o := by
  obtain ⟨hlt, -, -⟩ := List.findIdx?_eq_some_iff_getElem.1 hi
  exact ⟨_, List.getElem?_eq_getElem hlt⟩

/-- **When `BuildRedeemTx` panics.** It panics exactly when it has found the contract output of the escrow
transaction, the redeem address is set and its script builds, and the escrow script is longer than the largest push
(the size estimate pushes it whole). An unset redeem address is an error of `PayToAddrScript`, and the output it
indexes always exists. -/
theorem Contract.buildRedeemTx_panics {C : Crypto} {lib : Lib} {c : Contract} {n : Nat} :
    (∃ m, c.buildRedeemTx C lib n = .error (.panic m)) ↔
      ∃ etx i a s, c.escrowTxOrDecode lib = .ok etx ∧ contractOutIndex etx.txOut (C.hash160 c.escrowScript) = some i ∧
        c.redeemAddr = some a ∧ lib.payToAddrScript a = .ok s ∧ maxScriptElementSize < c.escrowScript.length := by
  unfold Contract.buildRedeemTx
  rcases he : c.escrowTxOrDecode lib with e | etx
  · simp only [Except.bind, bind, he, Except.error.injEq, reduceCtorEq, false_and, exists_false, iff_false]
    rintro ⟨m, rfl⟩
    exact Contract.escrowTxOrDecode_not_panic he
  simp only [Except.bind, bind, Except.ok.injEq, exists_and_left, exists_eq_left']
  rcases hi : contractOutIndex etx.txOut (C.hash160 c.escrowScript) with _ | i
  · simp [throw, throwThe, MonadExceptOf.throw]
  obtain ⟨o, ho⟩ := contractOutIndex_getElem? hi
  simp only [pure, Except.pure, hi, Option.some.injEq, exists_eq_left', true_and]
  rcases ha : c.redeemAddr with _ | a
  · simp [Lib.payToAddr, Except.mapError]
  simp only [Lib.payToAddr, Option.some.injEq, exists_and_left, exists_eq_left']
  rcases hs : lib.payToAddrScript a with e | s
  · simp [Except.mapError]
  simp only [Except.mapError, Except.ok.injEq, exists_eq_left', estimateRedeemSerializeSize, Except.bind, bind]
  by_cases hlong : maxScriptElementSize < c.escrowScript.length
  · obtain ⟨m, hm⟩ := contractPushSize_of_lt hlong
    simp [hm, hlong]
  rw [contractPushSize_of_le (Nat.not_lt.1 hlong)]
  simp only [ho, hlong, iff_false, pure, Except.pure]
  split_ifs <;> simp

end Estimates

/-! ## The refund and the redeem spend one output -/

/-- A script that `isScriptHash` accepts is the P2SH script of the hash it carries. -/
theorem payToScriptHash_scriptHashOf {s : Bytes} (hs : isScriptHash s = true) :
    s = payToScriptHash (scriptHashOf s) := by
  simp only [isScriptHash, Bool.and_eq_true, decide_eq_true_eq] at hs
  obtain ⟨⟨⟨hl, h0⟩, h1⟩, h22⟩ := hs
  rcases s with _ | ⟨a, _ | ⟨b, r⟩⟩
  · simp at hl
  · simp at hl
  simp only [List.length_cons] at hl
  simp only [List.getElem?_cons_zero, Option.some.injEq, List.getElem?_cons_succ] at h0 h1 h22
  subst h0 h1
  obtain ⟨y, hy⟩ : ∃ y, r.drop 20 = [y] := List.length_eq_one.1 (by simp; omega)
  have hr : r = r.take 20 ++ [y] := by rw [← hy, List.take_append_drop]
  rw [hr, List.getElem?_append_right (by simp)] at h22
  simp only [List.length_take, show min 20 r.length = 20 by omega, Nat.sub_self, List.getElem?_cons_zero,
    Option.some.injEq] at h22
  subst h22
  nth_rewrite 1 [hr]
  simp [payToScriptHash, scriptHashOf]

theorem scriptHashOf_payToScriptHash {h : Bytes} (hl : h.length = 20) : scriptHashOf (payToScriptHash h) = h := by
  simp [scriptHashOf, payToScriptHash, List.take_append_of_le_length, hl]

/-- On an output of version `0`, `BuildRedeemTx`'s test (a P2SH payment to the hash) and `BuildRefundTx`'s test
(the pay script itself) agree. -/
theorem contractOut_iff {o : TxOut} {h : Bytes} (hl : h.length = 20) (hv : o.version = 0) :
    (o.version = 0 ∧ isScriptHash o.pkScript ∧ scriptHashOf o.pkScript = h) ↔ o.pkScript = payToScriptHash h := by
  constructor
  · rintro ⟨-, hs, rfl⟩
    exact payToScriptHash_scriptHashOf hs
  · intro hp
    rw [hp]
    exact ⟨hv, isScriptHash_payToScriptHash hl, scriptHashOf_payToScriptHash hl⟩

/-- When the first output paying `payToScriptHash h` has version `0`, it is also the first version-`0` P2SH output
to `h`: `BuildRefundTx` and `BuildRedeemTx` pick the same output. -/
theorem contractOutIndex_of_payScriptIndex {outs : List TxOut} {h : Bytes} {i : Nat} {o : TxOut}
    (hl : h.length = 20) (hi : payScriptIndex outs (payToScriptHash h) = some i) (ho : outs[i]? = some o)
    (hv : o.version = 0) : contractOutIndex outs h = some i := by
  obtain ⟨hlt, hp, hfirst⟩ := List.findIdx?_eq_some_iff_getElem.1 hi
  rw [List.getElem?_eq_getElem hlt, Option.some.injEq] at ho
  subst ho
  refine List.findIdx?_eq_some_iff_getElem.2 ⟨hlt, ?_, fun j hj => ?_⟩
  · simpa only [decide_eq_true_eq, contractOut_iff hl hv] using hp
  · simp only [decide_eq_true_eq] at hfirst ⊢
    exact fun hq => hfirst j hj ((contractOut_iff hl hq.1).1 hq)

section Conflict

variable {lib : Lib} {c c' : Contract}

/-- What `BuildRedeemTx` leaves: a redeem whose one input spends the first version-`0` P2SH output to the
contract's hash. -/
theorem Contract.buildRedeemTx_ok {C : Crypto} {n : Nat} (h : c.buildRedeemTx C lib n = .ok c') :
    ∃ etx i, c.escrowTxOrDecode lib = .ok etx ∧ contractOutIndex etx.txOut (C.hash160 c.escrowScript) = some i ∧
      ∃ tx : MsgTx, c'.redeemTx = some tx ∧ tx.txIn = [⟨⟨lib.txHash etx, i, 0⟩, maxTxInSequenceNum, []⟩] := by
  simp only [Contract.buildRedeemTx, Except.bind_eq_ok] at h
  obtain ⟨etx, he, h⟩ := h
  cases hi : contractOutIndex etx.txOut (C.hash160 c.escrowScript) with
  | none => simp only [hi, Except.throw_eq, Except.error_bind, reduceCtorEq] at h
  | some i =>
    simp only [hi, pure_bind] at h
    simp only [Except.bind_eq_ok] at h
    obtain ⟨outScript, -, size, -, h⟩ := h
    rcases ho : etx.txOut[i]? with _ | o
    · simp only [ho, Except.throw_eq, Except.error_bind, reduceCtorEq] at h
    simp only [ho, pure_bind] at h
    split at h
    · cases h
    cases h
    exact ⟨etx, i, he, hi, _, rfl, rfl⟩

/-- **The refund and the redeem of a contract spend one escrow output.** For a contract whose pay script is the
P2SH script of its contract script (as `AddEscrowScript` and `AddOfferScript` leave it), when `BuildRefundTx` and
`BuildRedeemTx` both succeed they read the same escrow transaction; the refund spends the first output paying the pay
script, and the redeem spends the same outpoint exactly when that output has version `0`. -/
theorem Contract.refund_redeem_conflict {C : Crypto} {n : Nat} {c₁ c₂ : Contract}
    (hpay : c.escrowPayScript = payToScriptHash (C.hash160 c.escrowScript))
    (h₁ : c.buildRefundTx lib = .ok c₁) (h₂ : c.buildRedeemTx C lib n = .ok c₂) :
    ∃ etx i o tx₁ tx₂, c.escrowTxOrDecode lib = .ok etx ∧ etx.txOut[i]? = some o ∧ c₁.refundTx = some tx₁ ∧
      c₂.redeemTx = some tx₂ ∧ tx₁.txIn.map TxIn.prevOut = [⟨lib.txHash etx, i, 0⟩] ∧
      (tx₂.txIn.map TxIn.prevOut = tx₁.txIn.map TxIn.prevOut ↔ o.version = 0) := by
  obtain ⟨etx, i, o, he, hi, ho, tx₁, htx₁, -, rfl⟩ := Contract.buildRefundTx_ok h₁
  obtain ⟨etx', j, he', hj, tx₂, htx₂, htx₂in⟩ := Contract.buildRedeemTx_ok h₂
  obtain rfl : etx = etx' := Except.ok.inj (he.symm.trans he')
  have hl : (C.hash160 c.escrowScript).length = 20 := C.ripemd160_length _
  refine ⟨etx, i, o, tx₁, tx₂, he, ho, rfl, htx₂, by simp [htx₁], ?_⟩
  simp only [htx₁, htx₂in, List.map_cons, List.map_nil, List.cons.injEq, OutPoint.mk.injEq, true_and, and_true]
  constructor
  · rintro rfl
    obtain ⟨hlt, hq, -⟩ := List.findIdx?_eq_some_iff_getElem.1 hj
    rw [List.getElem?_eq_getElem hlt, Option.some.injEq] at ho
    subst ho
    simp only [decide_eq_true_eq] at hq
    exact hq.1
  · intro hv
    rw [hpay] at hi
    exact Option.some.inj (hj.symm.trans (contractOutIndex_of_payScriptIndex hl hi ho hv))

/-- `toyEscrow` with a redeem address: its one output has version `0`, and its refund and redeem spend it. -/
theorem refund_redeem_conflict_toy :
    ∃ c₁ c₂ tx₁ tx₂, { toyEscrow with redeemAddr := toyEscrow.refundAddr }.buildRefundTx toyRefundLib = .ok c₁ ∧
      { toyEscrow with redeemAddr := toyEscrow.refundAddr }.buildRedeemTx Env.idle.C toyRefundLib 74 = .ok c₂ ∧
      c₁.refundTx = some tx₁ ∧ c₂.redeemTx = some tx₂ ∧ tx₂.txIn.map TxIn.prevOut = tx₁.txIn.map TxIn.prevOut := by
  obtain ⟨c₁, c₂, h₁, h₂⟩ : ∃ c₁ c₂,
      { toyEscrow with redeemAddr := toyEscrow.refundAddr }.buildRefundTx toyRefundLib = .ok c₁ ∧
      { toyEscrow with redeemAddr := toyEscrow.refundAddr }.buildRedeemTx Env.idle.C toyRefundLib 74 = .ok c₂ :=
    ⟨_, _, rfl, rfl⟩
  obtain ⟨etx, i, o, tx₁, tx₂, he, ho, htx₁, htx₂, -, hspend⟩ :=
    Contract.refund_redeem_conflict (C := Env.idle.C) rfl h₁ h₂
  cases he
  have hv : o.version = 0 := by
    have := List.getElem?_mem ho
    simp only [List.mem_singleton] at this
    rw [this]
  exact ⟨c₁, c₂, tx₁, tx₂, h₁, h₂, htx₁, htx₂, hspend.2 hv⟩

end Conflict

end Tumblebit
