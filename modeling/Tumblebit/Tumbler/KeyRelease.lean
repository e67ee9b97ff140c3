import Tumblebit.Tumbler.EscrowRefund

/-!
# The redeem releases the tumbler's keys

The tumbler is paid by redeeming the payer's offer with a signature script that pushes its keys
(`Wallet.PublishSolution`, `redeemP2SHContract`), and the payer learns the keys by reading the pushes back
from the published redeem (`Contract.ExtractRedeemDataPushes`, over `txscript.PushedData`).

- `PushedData` reads back every push of a redeem's signature script except those that `AddData` wrote as
  small-integer opcodes (`pushedData_redeem`), so the `1` that selects the redeem branch is dropped;
- `ExtractRedeemDataPushes` on a redeem that `AddRedeemScript` completed returns the redeemer's signature, the
  secrets and the contract, in that order (`Contract.extractRedeemDataPushes_addRedeemScript`);
- every redeem that `PublishSolution` publishes carries the keys where the payer reads them
  (`Wallet.publishSolution_releases`).
-/

namespace Tumblebit

/-! ## `PushedData` of a redeem -/

/-- Single bytes that `AddData` writes as small-integer opcodes (`OP_1` to `OP_16`, `OP_1NEGATE`). -/
def smallIntData : Bytes → Bool
  | [x] => (1 ≤ x.toNat && x.toNat ≤ 16) || x = 0x81
  | _ => false

theorem Op.dataOf_pushOp : ∀ d : Bytes, (pushOp d).dataOf = if smallIntData d then none else some (pushed d)
  | [] => rfl
  | [x] => by
    by_cases h0 : x = 0
    · subst h0; rfl
    have h1 : 1 ≤ x.toNat := Nat.pos_of_ne_zero fun h => h0 (UInt8.eq_of_val_eq (Fin.ext h))
    by_cases h16 : x.toNat ≤ 16
    · simp [pushOp, smallIntData, Op.dataOf, h0, h1, h16]
    by_cases h81 : x = 0x81
    · subst h81; rfl
    · simp [pushOp, smallIntData, Op.dataOf, pushed, h0, h16, h81]
  | _ :: _ :: _ => by simp [pushOp, smallIntData, Op.dataOf, pushed]

theorem filterMap_dataOf_pushOp (l : List Bytes) :
    (l.map pushOp).filterMap Op.dataOf = (l.filter fun d => !smallIntData d).map pushed := by
  induction l with
  | nil => rfl
  | cons d l ih => by_cases h : smallIntData d <;> simp [List.filter_cons, Op.dataOf_pushOp, h, ih]

/-- `PushedData` of the signature script of a redeem: the signature, the secrets and the contract, less those
written as small-integer opcodes. -/
theorem pushedData_redeem {contract sig T : Bytes} {secrets : List Bytes}
    (hT : redeemP2SHContract contract sig secrets = .ok T) :
    pushedData T = .ok (((sig :: secrets ++ [contract]).filter fun d => !smallIntData d).map pushed) := by
  rw [pushedData, (parseScript_redeem hT).1]
  show Except.ok ((List.map pushOp _).filterMap Op.dataOf) = _
  rw [filterMap_dataOf_pushOp]
  simp only [List.cons_append, List.filter_cons, List.filter_append, show smallIntData [1] = true from rfl,
    Bool.not_true, if_false, List.filter_nil]
  rfl

/-! ## `ExtractRedeemDataPushes` -/

section Extract

variable {lib : Lib} {c : Contract}

theorem Contract.extractRedeemDataPushes_redeem {tx : MsgTx} {txIn : TxIn} {contract sig T : Bytes}
    {secrets : List Bytes} (htx : c.redeemTx = some tx) (hin : tx.txIn[0]? = some txIn)
    (hsig : txIn.signatureScript = T) (hT : redeemP2SHContract contract sig secrets = .ok T) :
    Contract.extractRedeemDataPushes lib 0 c =
      .ok (((sig :: secrets ++ [contract]).filter fun d => !smallIntData d).map pushed) c := by
  subst hsig
  simp [Contract.extractRedeemDataPushes, htx, hin, pushedData_redeem hT, get, getThe, MonadStateOf.get,
    EStateM.get, bind, EStateM.bind, pure, EStateM.pure]

/-- What `AddRedeemScript` leaves: the signature script it built over the contract, the redeemer's signature
and the secrets, in input 0 of the redeem. -/
theorem Contract.addRedeemScript_ok {c' : Contract} {secrets : List Bytes} (h : c.addRedeemScript lib secrets = .ok c') :
    ∃ tx txIn T, c'.redeemTx = some tx ∧ tx.txIn[0]? = some txIn ∧ txIn.signatureScript = T ∧
      redeemP2SHContract c.escrowScript c.redeemSig secrets = .ok T ∧
      c' = { c with redeemScript := T, redeemTx := some tx, redeemBytes := lib.serialize tx } := by
  simp only [Contract.addRedeemScript, Except.bind_eq_ok] at h
  obtain ⟨T, hT, h⟩ := h
  rw [Except.mapError_eq_ok] at hT
  rcases htx : c.redeemTx with _ | tx
  · simp [htx] at h
  rcases hin : tx.txIn with _ | ⟨i, rest⟩
  · simp [htx, MsgTx.setSigScript, hin] at h
  simp only [htx, MsgTx.setSigScript, hin, Except.bind_eq_ok] at h
  obtain ⟨_, ⟨⟩, ⟨⟩⟩ := h
  exact ⟨_, _, T, rfl, List.getElem?_cons_zero, rfl, hT, rfl⟩

/-- **`ExtractRedeemDataPushes` reads back what `AddRedeemScript` wrote.** On the redeem that `AddRedeemScript`
completed, it returns the redeemer's signature, the secrets and the contract, in that order, less the single
bytes that the builder wrote as small-integer opcodes, and leaves the contract as it is. -/
theorem Contract.extractRedeemDataPushes_addRedeemScript {c' : Contract} {secrets : List Bytes}
    (h : c.addRedeemScript lib secrets = .ok c') :
    Contract.extractRedeemDataPushes lib 0 c' =
      .ok (((c.redeemSig :: secrets ++ [c.escrowScript]).filter fun d => !smallIntData d).map pushed) c' := by
  obtain ⟨tx, txIn, T, htx, hin, hsig, hT, -⟩ := Contract.addRedeemScript_ok h
  exact Contract.extractRedeemDataPushes_redeem htx hin hsig hT

/-- A redeem of `toyEscrow` with the empty signature and the secrets `[5]` and `[7, 7]`: the one-byte secret
`[5]`, written as `OP_5`, is not read back. -/
theorem extractRedeemDataPushes_toy :
    ∃ c', { toyEscrow with redeemTx := some ⟨[⟨⟨[], 0, 0⟩, 0, []⟩], [], 0, 0⟩ }.addRedeemScript toyRefundLib
      [[5], [7, 7]] = .ok c' ∧ Contract.extractRedeemDataPushes toyRefundLib 0 c' = .ok [[], [7, 7], toyEscrowScript] c' := by
  obtain ⟨c', h⟩ : ∃ c', { toyEscrow with redeemTx := some ⟨[⟨⟨[], 0, 0⟩, 0, []⟩], [], 0, 0⟩ }.addRedeemScript
      toyRefundLib [[5], [7, 7]] = .ok c' := ⟨_, rfl⟩
  exact ⟨c', h, Contract.extractRedeemDataPushes_addRedeemScript h⟩

end Extract

/-! ## `PublishSolution` -/

section Publish

variable {env : Env} {w w' : WState}

theorem WState.io_ask_ok {α : Type} {e : Effect} {f : Env → List Effect → α} {a : α}
    (h : WState.io (ask e f) env w = .ok a w') : w' = { w with log := w.log ++ [e] } := by
  cases h
  rfl

/-- **Every redeem that `PublishSolution` publishes releases the keys.** When it succeeds, the transaction it
publishes is the contract's redeem, and `ExtractRedeemDataPushes` on the contract it leaves reads from it the
tumbler's signature, the keys and the contract's script, less the single bytes written as small-integer
opcodes. -/
theorem Wallet.publishSolution_releases {secrets : List Bytes} {u : Unit}
    (h : Wallet.publishSolution secrets env w = .ok u w') :
    ∃ tx, w'.con.redeemTx = some tx ∧ Effect.rpc (.publishTransaction (env.lib.serialize tx)) ∈ w'.log ∧
      Contract.extractRedeemDataPushes env.lib 0 w'.con =
        .ok (((w'.con.redeemSig :: secrets ++ [w'.con.escrowScript]).filter fun d => !smallIntData d).map pushed)
          w'.con := by
  obtain ⟨_, w₁, -, k₁⟩ := Prog.bind_ok h
  obtain ⟨_, w₂, -, k₂⟩ := Prog.bind_ok k₁
  obtain ⟨_, _, ⟨⟩, k₃⟩ := Prog.bind_ok k₂
  obtain ⟨_, _, ⟨⟩, k₄⟩ := Prog.bind_ok k₃
  obtain ⟨c₅, _, h₅, k₅⟩ := Prog.bind_ok k₄
  obtain ⟨-, rfl⟩ := liftFault_ok h₅
  obtain ⟨_, w₆, -, k₆⟩ := Prog.bind_ok k₅
  obtain ⟨_, w₇, -, k₇⟩ := Prog.bind_ok k₆
  obtain ⟨sig, _, h₈, k₈⟩ := Prog.bind_ok k₇
  obtain ⟨-, rfl⟩ := liftErr_ok h₈
  obtain ⟨_, w₉, -, k₉⟩ := Prog.bind_ok k₈
  obtain ⟨_, _, ⟨⟩, k₁₀⟩ := Prog.bind_ok k₉
  obtain ⟨c₁₁, _, h₁₁, k₁₁⟩ := Prog.bind_ok k₁₀
  obtain ⟨hc₁₁, rfl⟩ := liftFault_ok h₁₁
  obtain ⟨_, _, h₁₂, k₁₂⟩ := Prog.bind_ok k₁₁
  obtain ⟨_, w₁₂, h₁₃, k₁₃⟩ := Prog.bind_ok k₁₂
  obtain ⟨-, rfl⟩ := liftFault_ok h₁₃
  obtain ⟨_, _, h₁₄, k₁₄⟩ := Prog.bind_ok k₁₃
  obtain ⟨hash, w₁₄, h₁₅, k₁₅⟩ := Prog.bind_ok k₁₄
  obtain ⟨-, rfl⟩ := liftErr_ok h₁₅
  obtain ⟨tx, txIn, T, htx, hin, hsig, hT, rfl⟩ := Contract.addRedeemScript_ok hc₁₁
  have hw' : w'.con = { w₁₄.con with redeemHash := hash } := modifyCon_ok k₁₅
  rw [WState.io_ask_ok h₁₄, modifyCon_ok h₁₂] at hw'
  refine ⟨tx, by rw [hw'], ?_, ?_⟩
  · rw [show w'.log = w₁₄.log by cases k₁₅; rfl, WState.io_ask_ok h₁₄]
    exact List.mem_append_right _ (List.mem_singleton_self _)
  · rw [hw']
    exact Contract.extractRedeemDataPushes_redeem rfl hin hsig hT

/-- The tumbler's redeem of `foreignScript`, as in `paymentOffer_redeems_foreign_output`. -/
theorem publishSolution_releases_foreign :
    ∃ w', Wallet.publishSolution [List.replicate 20 7] foreignEnv
      ⟨{ toyEscrow with escrowScript := foreignScript, escrowTx := some foreignEscrowTx }, []⟩ = .ok () w' ∧
      ∃ tx, w'.con.redeemTx = some tx ∧ Effect.rpc (.publishTransaction (foreignEnv.lib.serialize tx)) ∈ w'.log := by
  obtain ⟨w', h⟩ : ∃ w', Wallet.publishSolution [List.replicate 20 7] foreignEnv
      ⟨{ toyEscrow with escrowScript := foreignScript, escrowTx := some foreignEscrowTx }, []⟩ = .ok () w' :=
    ⟨_, rfl⟩
  obtain ⟨tx, htx, hlog, -⟩ := Wallet.publishSolution_releases h
  exact ⟨w', h, tx, htx, hlog⟩

end Publish

end Tumblebit
