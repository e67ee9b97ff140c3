import Tumblebit.Contract.Spend
import Tumblebit.Tumbler.Secrets

/-!
# Escrows and offers can be refunded

`Wallet.CreateEscrow` (the tumbler's escrow for the payee) and `Wallet.CreateOffer` (the payer's offer to the
tumbler) share their steps (`Wallet.createWithScript`): the contract script, the escrow transaction, and the
refund that the wallet signs and checks with `VerifyRefundTx` before it returns. Read through
`Contract.verifyRefundTx_eq_refundCheck`, that last check says:

- every escrow or offer the wallet creates has a lock time that is not negative, and a refund whose signature
  under the sender's key the library accepted (`Wallet.createWithScript_refund`);
- an offer over more than 124 hashes counts more than 255 operations, and its refund is refused, so
  `CreateOffer` fails on it (`Wallet.createOffer_refund`);
- every escrow offer `SetupEscrow` returns has a lock time `epoch + epochDuration` that is not negative, and
  the session holds its refund (`setupEscrow_refundable`). The sum is an `int32` one: once it wraps below zero,
  no `SetupEscrow` succeeds.
-/

namespace Tumblebit

/-! ## Adapter methods that succeed -/

section Wallet

variable {env : Env} {w w' : WState}


theorem WState.io_ok {α : Type} {m : Prog (List Effect) α} {a : α} (h : WState.io m env w = .ok a w') :
    w'.con = w.con := by
  unfold WState.io Prog.focus at h
  split at h <;> cases h
  rfl

theorem modifyCon_ok {f : Contract → Contract} {u : Unit} (h : modifyCon f env w = .ok u w') : w'.con = f w.con := by
  cases h
  rfl

theorem setAddressW_ok {t : AddressRole} {a pk : String} {u : Unit} (h : setAddressW t a pk env w = .ok u w') :
    w.con.setAddress env.lib t a pk = .ok w'.con := by
  obtain ⟨_, _, ⟨⟩, k₁⟩ := Prog.bind_ok h
  obtain ⟨_, _, ⟨⟩, k₂⟩ := Prog.bind_ok k₁
  obtain ⟨c, _, h₃, k₃⟩ := Prog.bind_ok k₂
  obtain ⟨hc, rfl⟩ := liftErr_ok h₃
  rw [modifyCon_ok k₃, hc]

theorem Wallet.createRefundTx_ok {u : Unit} (h : Wallet.createRefundTx env w = .ok u w') :
    ∃ a pk c c₁ sig, w.con.setAddress env.lib .refund a pk = .ok c ∧ c.buildRefundTx env.lib = .ok c₁ ∧
      { c₁ with refundSig := sig }.addRefundScript env.lib = .ok w'.con ∧ w'.con.verifyRefundTx env.C env.lib = .ok () := by
  obtain ⟨⟨a, pk⟩, w₁, h₁, k₁⟩ := Prog.bind_ok h
  obtain ⟨_, w₂, h₂, k₂⟩ := Prog.bind_ok k₁
  obtain ⟨_, _, ⟨⟩, k₃⟩ := Prog.bind_ok k₂
  obtain ⟨_, _, ⟨⟩, k₄⟩ := Prog.bind_ok k₃
  obtain ⟨c₁, _, h₅, k₅⟩ := Prog.bind_ok k₄
  obtain ⟨hc₁, rfl⟩ := liftFault_ok h₅
  obtain ⟨_, w₆, h₆, k₆⟩ := Prog.bind_ok k₅
  obtain ⟨r, w₇, h₇, k₇⟩ := Prog.bind_ok k₆
  obtain ⟨sig, _, h₈, k₈⟩ := Prog.bind_ok k₇
  obtain ⟨-, rfl⟩ := liftErr_ok h₈
  obtain ⟨_, w₉, h₉, k₉⟩ := Prog.bind_ok k₈
  obtain ⟨_, _, ⟨⟩, k₁₀⟩ := Prog.bind_ok k₉
  obtain ⟨c₂, _, h₁₁, k₁₁⟩ := Prog.bind_ok k₁₀
  obtain ⟨hc₂, rfl⟩ := liftFault_ok h₁₁
  obtain ⟨_, w₁₂, h₁₂, k₁₂⟩ := Prog.bind_ok k₁₁
  obtain ⟨hv, rfl⟩ := liftFault_ok k₁₂
  have hs := setAddressW_ok h₂
  rw [WState.io_ok h₁] at hs
  refine ⟨a, pk, _, c₁, sig, hs, hc₁, ?_, modifyCon_ok h₁₂ ▸ hv⟩
  rw [modifyCon_ok h₁₂, ← hc₂, modifyCon_ok h₉, WState.io_ok h₇, modifyCon_ok h₆]


theorem Wallet.createEscrowTx_ok {u : Unit} (h : Wallet.createEscrowTx env w = .ok u w') :
    ∃ signed, w'.con = { w.con with escrowBytes := signed } := by
  obtain ⟨_, _, ⟨⟩, k₁⟩ := Prog.bind_ok h
  obtain ⟨_, w₂, h₂, k₂⟩ := Prog.bind_ok k₁
  obtain ⟨_, _, h₃, k₃⟩ := Prog.bind_ok k₂
  obtain ⟨-, rfl⟩ := liftErr_ok h₃
  obtain ⟨_, w₄, h₄, k₄⟩ := Prog.bind_ok k₃
  obtain ⟨signed, _, h₅, k₅⟩ := Prog.bind_ok k₄
  obtain ⟨-, rfl⟩ := liftErr_ok h₅
  exact ⟨signed, by rw [modifyCon_ok k₅, WState.io_ok h₄, WState.io_ok h₂]⟩


/-- What a successful `createRefundTx` says of a contract whose escrow script is a refundable script with the
sender's key and the lock time, paid to by its P2SH script: the branch fits the operation limit, the lock time is
not negative, and the refund carries a signature of the sender that the library accepts. -/
theorem Wallet.createRefundTx_refundable {body : List BuildItem} {u : Unit} (hbody : BranchBody body)
    (hS : buildScript (refundableItems body w.con.senderScriptAddr w.con.lockTime) = .ok w.con.escrowScript)
    (hpay : w.con.escrowPayScript = payToScriptHash (env.C.hash160 w.con.escrowScript))
    (hL : Int32Range w.con.lockTime) (h : Wallet.createRefundTx env w = .ok u w') :
    opCount (body.map BuildItem.parsed) ≤ 249 ∧ 0 ≤ w.con.lockTime ∧ w'.con.lockTime = w.con.lockTime ∧
      w'.con.senderScriptAddr = w.con.senderScriptAddr ∧ w'.con.receiverScriptAddr = w.con.receiverScriptAddr ∧
      ∃ tx, w'.con.refundTx = some tx ∧ pushed w'.con.refundSig ≠ [] ∧
        env.lib.checkSig (pushed w'.con.refundSig) (pushed w.con.senderScriptAddr) tx 0
          ((refundableItems body w.con.senderScriptAddr w.con.lockTime).map BuildItem.parsed) = .ok true := by
  obtain ⟨a, pk, c, c₁, sig, hs, h₁, h₂, hv⟩ := Wallet.createRefundTx_ok h
  obtain ⟨addr, rfl⟩ := Contract.setAddress_refund hs
  have hcount : opCount (body.map BuildItem.parsed) ≤ 249 := Nat.le_of_not_lt fun hc => by
    rw [Contract.verifyRefundTx_opCount h₁ h₂ hbody hc hS hpay] at hv
    cases hv
  obtain ⟨tx, htx, heq⟩ := Contract.verifyRefundTx_eq_refundCheck h₁ h₂ hbody hcount hS hpay hL
  obtain ⟨hL0, hsig, hchk⟩ := refundCheck_ok_iff.1 (heq ▸ hv)
  obtain ⟨_, _, _, _, -, -, -, _, -, hc₂⟩ := Contract.addRefundScript_ok h₂
  obtain ⟨_, _, _, -, -, -, _, -, -, rfl⟩ := Contract.buildRefundTx_ok h₁
  rw [hc₂] at htx ⊢
  exact ⟨hcount, hL0, rfl, rfl, rfl, tx, htx, hsig, hchk⟩

/-- The end that `CreateEscrow` and `CreateOffer` share: the escrow transaction, which changes only the escrow's
bytes, then the refund. -/
theorem Wallet.createEscrowTx_then_refund {body : List BuildItem} {w₁ : WState} {u u' : Unit} {p q : String}
    (hbody : BranchBody body)
    (hS : buildScript (refundableItems body w.con.senderScriptAddr w.con.lockTime) = .ok w.con.escrowScript)
    (hpay : w.con.escrowPayScript = payToScriptHash (env.C.hash160 w.con.escrowScript))
    (hL : Int32Range w.con.lockTime) (h₁ : Prog.wrap p Wallet.createEscrowTx env w = .ok u w₁)
    (h₂ : Prog.wrap q Wallet.createRefundTx env w₁ = .ok u' w') :
    opCount (body.map BuildItem.parsed) ≤ 249 ∧ 0 ≤ w.con.lockTime ∧ w'.con.lockTime = w.con.lockTime ∧
      w'.con.senderScriptAddr = w.con.senderScriptAddr ∧ w'.con.receiverScriptAddr = w.con.receiverScriptAddr ∧
      ∃ tx, w'.con.refundTx = some tx ∧ pushed w'.con.refundSig ≠ [] ∧
        env.lib.checkSig (pushed w'.con.refundSig) (pushed w.con.senderScriptAddr) tx 0
          ((refundableItems body w.con.senderScriptAddr w.con.lockTime).map BuildItem.parsed) = .ok true := by
  obtain ⟨signed, he⟩ := Wallet.createEscrowTx_ok (Prog.wrap_ok h₁)
  have h := Wallet.createRefundTx_refundable hbody (by rw [he]; exact hS) (by rw [he]; exact hpay)
    (by rw [he]; exact hL) (Prog.wrap_ok h₂)
  rwa [he] at h

/-- **Every contract that `CreateEscrow` or `CreateOffer` creates can be refunded.** Let the script adder build a
refundable script over the sender's and the receiver's keys and the lock time. Then a successful run leaves a
branch within the operation limit, a lock time that is not negative and unchanged, and a refund that carries a
signature of the sender that the library accepts under the contract. -/
theorem Wallet.createWithScript_refund {addScript : Crypto → Lib → Contract → Except String Contract}
    {pre : String} {body : Bytes → Bytes → List BuildItem} {u : Unit} (hL : Int32Range w.con.lockTime)
    (h : Wallet.createWithScript addScript pre env w = .ok u w')
    (hbody : ∀ pkPayer pkRedeemer, BranchBody (body pkPayer pkRedeemer))
    (hadd : ∀ c c', addScript env.C env.lib c = .ok c' → ∃ S,
      buildScript (refundableItems (body c.senderScriptAddr c.receiverScriptAddr) c.senderScriptAddr c.lockTime) =
        .ok S ∧ c' = { c with escrowScript := S, escrowAddrStr := env.lib.scriptHashAddress (env.C.hash160 S)
                              escrowPayScript := payToScriptHash (env.C.hash160 S) }) :
    opCount ((body w'.con.senderScriptAddr w'.con.receiverScriptAddr).map BuildItem.parsed) ≤ 249 ∧
      0 ≤ w'.con.lockTime ∧ w'.con.lockTime = w.con.lockTime ∧ ∃ tx, w'.con.refundTx = some tx ∧
      pushed w'.con.refundSig ≠ [] ∧
      env.lib.checkSig (pushed w'.con.refundSig) (pushed w'.con.senderScriptAddr) tx 0
        ((refundableItems (body w'.con.senderScriptAddr w'.con.receiverScriptAddr) w'.con.senderScriptAddr
          w'.con.lockTime).map BuildItem.parsed) = .ok true := by
  obtain ⟨⟨a, pk⟩, w₁, h₁, k₁⟩ := Prog.bind_ok h
  obtain ⟨_, w₂, h₂, k₂⟩ := Prog.bind_ok k₁
  obtain ⟨_, _, ⟨⟩, k₃⟩ := Prog.bind_ok k₂
  obtain ⟨_, _, ⟨⟩, k₄⟩ := Prog.bind_ok k₃
  obtain ⟨c, _, h₅, k₅⟩ := Prog.bind_ok k₄
  obtain ⟨hc, rfl⟩ := liftErr_ok h₅
  obtain ⟨_, w₆, h₆, k₆⟩ := Prog.bind_ok k₅
  obtain ⟨_, w₇, h₇, k₇⟩ := Prog.bind_ok k₆
  obtain ⟨S, hS, rfl⟩ := hadd _ _ hc
  have hw₆ := modifyCon_ok h₆
  have hlock := Contract.setAddress_lockTime (setAddressW_ok h₂)
  rw [WState.io_ok h₁] at hlock
  obtain ⟨hcount, hL0, hlock', hsend, hrecv, hrest⟩ := Wallet.createEscrowTx_then_refund
    (hbody w₆.con.senderScriptAddr w₆.con.receiverScriptAddr) (by rw [hw₆]; exact hS) (by rw [hw₆])
    (by rw [hw₆]; dsimp only; rw [hlock]; exact hL) h₇ k₇
  rw [hsend, hrecv, hlock']
  exact ⟨hcount, hL0, by rw [hw₆]; exact hlock, hrest⟩

/-- Every escrow the wallet creates can be refunded, and only with a lock time that is not negative. -/
theorem Wallet.createEscrow_refund {u : Unit} (hL : Int32Range w.con.lockTime)
    (h : Wallet.createEscrow env w = .ok u w') :
    0 ≤ w'.con.lockTime ∧ w'.con.lockTime = w.con.lockTime ∧ ∃ tx, w'.con.refundTx = some tx ∧
      pushed w'.con.refundSig ≠ [] ∧
      env.lib.checkSig (pushed w'.con.refundSig) (pushed w'.con.senderScriptAddr) tx 0
        ((refundableItems (escrowBody w'.con.senderScriptAddr w'.con.receiverScriptAddr) w'.con.senderScriptAddr
          w'.con.lockTime).map BuildItem.parsed) = .ok true := by
  rw [Wallet.createEscrow_eq] at h
  exact (Wallet.createWithScript_refund hL h branchBody_escrowBody fun _ _ => Contract.addEscrowScript_ok).2

/-- **Every offer the payer's wallet creates can be refunded.** `CreateOffer` succeeds only on at most 124
hashes: past them the offer script counts more than 255 operations, and the engine refuses the refund. It
succeeds only with a lock time that is not negative, and the refund it leaves carries a signature of the sender
that the library accepts under the offer script. -/
theorem Wallet.createOffer_refund {hashes : List Bytes} {u : Unit} (hL : Int32Range w.con.lockTime)
    (h : Wallet.createOffer hashes env w = .ok u w') :
    hashes.length ≤ 124 ∧ 0 ≤ w'.con.lockTime ∧ w'.con.lockTime = w.con.lockTime ∧
      ∃ tx, w'.con.refundTx = some tx ∧ pushed w'.con.refundSig ≠ [] ∧
      env.lib.checkSig (pushed w'.con.refundSig) (pushed w'.con.senderScriptAddr) tx 0
        ((refundableItems (offerBody OP_RIPEMD160 hashes w'.con.receiverScriptAddr) w'.con.senderScriptAddr
          w'.con.lockTime).map BuildItem.parsed) = .ok true := by
  obtain ⟨hcount, hrest⟩ := Wallet.createWithScript_refund hL h (fun _ => branchBody_offerBody hashes)
    fun c c' hc => by
      obtain ⟨S, hS, rfl⟩ := Contract.addOfferScript_ok hc
      exact ⟨S, buildOfferContract_refundable .. ▸ hS, rfl⟩
  rw [opCount_offerBody] at hcount
  exact ⟨by omega, hrest⟩


/-- A wallet that answers every request of `CreateEscrow` and `CreateOffer`: its addresses decode to one P2PKH
address, it builds the escrow transaction of `toyEscrow`, and it signs with `[1]`. -/
def refundEnv : Env :=
  { Env.idle with
    lib := { toyRefundLib with deserialize := fun _ => toyEscrow.escrowTx }
    rpc := ⟨fun _ _ => .ok ("a", "a"), fun _ _ _ => .error "", fun _ _ => .error "", fun _ _ _ => .ok [],
      fun _ _ => .ok [], fun _ _ _ _ => .ok [1], fun _ _ => .error .notFound, fun _ _ => .error "",
      fun _ => .error ""⟩ }

theorem createOffer_refund_one_hash :
    ∃ w', Wallet.createOffer [List.replicate 32 0] refundEnv ⟨{ toyEscrow with escrowTx := none }, []⟩ = .ok () w' ∧
      [List.replicate 32 0].length ≤ 124 ∧ 0 ≤ w'.con.lockTime := by
  obtain ⟨w', h⟩ : ∃ w', Wallet.createOffer [List.replicate 32 0] refundEnv
      ⟨{ toyEscrow with escrowTx := none }, []⟩ = .ok () w' := ⟨_, rfl⟩
  obtain ⟨hn, hL0, -⟩ := Wallet.createOffer_refund ⟨by decide, by decide⟩ h
  exact ⟨w', h, hn, hL0⟩

end Wallet

/-! ## `SetupEscrow` -/

theorem Ctx.withContract_ok {α : Type} {m : Prog WState α} {env : Env} {c c' : Ctx} {a : α}
    (h : Ctx.withContract m env c = .ok a c') : ∃ con w', c.sess.contract = some con ∧
      m env ⟨con, c.log⟩ = .ok a w' ∧ c' = { c with sess := { c.sess with contract := some w'.con }, log := w'.log } := by
  unfold Ctx.withContract at h
  split at h
  · cases h
  rename_i con hcon
  split at h
  · rename_i w' hm
    cases h
    exact ⟨con, w', hcon, hm, rfl⟩
  · cases h

theorem addInt32_range (a b : Int) : Int32Range (addInt32 a b) := by
  unfold addInt32 Int32Range
  omega

/-- **`SetupEscrow` hands out only escrows that can be refunded.** -/
theorem setupEscrow_refundable {er : EscrowRequest} {env : Env} {c c' : Ctx} {offer : EscrowOffer}
    (h : Session.setupEscrow er env c = .ok offer c') :
    0 ≤ offer.lockTime ∧ ∃ con tx, c'.sess.contract = some con ∧ con.lockTime = offer.lockTime ∧
      con.refundTx = some tx ∧ pushed con.refundSig ≠ [] ∧
      env.lib.checkSig (pushed con.refundSig) (pushed con.senderScriptAddr) tx 0
        ((refundableItems (escrowBody con.senderScriptAddr con.receiverScriptAddr) con.senderScriptAddr
          con.lockTime).map BuildItem.parsed) = .ok true := by
  obtain ⟨_, c₁, h₁, k₁⟩ := Prog.bind_ok h
  obtain ⟨_, _, ⟨⟩, k₂⟩ := Prog.bind_ok k₁
  dsimp only at k₂
  obtain ⟨epoch, c₃, h₃, k₃⟩ := Prog.bind_ok k₂
  obtain ⟨-, rfl⟩ := liftErr_ok h₃
  rcases hcon : Contract.new er.amount (addInt32 epoch c₃.tb.epochDuration) with e | con
  · rw [hcon] at k₃
    obtain ⟨_, _, -, k₄⟩ := Prog.bind_ok k₃
    cases k₄
  rw [hcon] at k₃
  obtain ⟨_, c₄, h₄, k₄⟩ := Prog.bind_ok k₃
  obtain ⟨_, c₅, h₅, k₅⟩ := Prog.bind_ok k₄
  obtain ⟨_, c₆, h₆, k₆⟩ := Prog.bind_ok k₅
  obtain ⟨_, c₇, h₇, k₇⟩ := Prog.bind_ok k₆
  obtain ⟨_, c₈, h₈, k₈⟩ := Prog.bind_ok k₇
  obtain ⟨con', c₉, h₉, k₉⟩ := Prog.bind_ok k₈
  cases h₄
  obtain ⟨_, w₅, ⟨⟩, hs, rfl⟩ := Ctx.withContract_ok h₅
  obtain ⟨_, w₆, ⟨⟩, he, rfl⟩ := Ctx.withContract_ok h₆
  cases h₇
  cases h₈
  cases h₉
  rcases hsa : w₆.con.senderAddr with _ | a
  · rw [hsa] at k₉
    cases k₉
  rw [hsa] at k₉
  cases k₉
  have hlock : w₅.con.lockTime = addInt32 epoch c₃.tb.epochDuration := by
    rw [Contract.setAddress_lockTime (setAddressW_ok hs), Contract.new_lockTime hcon]
  obtain ⟨hL0, hlock₆, tx, htx, hsig, hchk⟩ := Wallet.createEscrow_refund (hlock ▸ addInt32_range _ _) he
  rw [hlock₆] at hL0
  exact ⟨hlock ▸ hL0, w₆.con, tx, rfl, hlock₆.trans hlock, htx, hsig, hchk⟩

/-- A fresh session asking for an escrow at epoch `100`, whose escrows last `10` blocks. -/
theorem setupEscrow_refundable_fresh :
    ∃ offer c', Session.setupEscrow ⟨"a", "a", contractValue⟩ refundEnv
      ⟨0, Session.fresh "a", ⟨100, [], fun _ => none, [], [], 10, 5, 0⟩, [], []⟩ = .ok offer c' ∧
      0 ≤ offer.lockTime := by
  obtain ⟨offer, c', h⟩ : ∃ offer c', Session.setupEscrow ⟨"a", "a", contractValue⟩ refundEnv
      ⟨0, Session.fresh "a", ⟨100, [], fun _ => none, [], [], 10, 5, 0⟩, [], []⟩ = .ok offer c' := ⟨_, _, rfl⟩
  exact ⟨offer, c', h, (setupEscrow_refundable h).1⟩

end Tumblebit
