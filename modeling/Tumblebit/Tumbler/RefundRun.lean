import Tumblebit.Tumbler.EscrowRefund
import Tumblebit.Tumbler.Failures

/-!
# Escrows stay refundable over whole runs

`SetupEscrow` latches `EscrowComplete` only after `CreateEscrow` returned, and `CreateEscrow` returns only once
`VerifyRefundTx` accepted the refund (`Wallet.createWithScript_verified`, `setupEscrow_refundReady`). Past that
state the payee's handlers keep the contract but for the escrow hash that `PublishEscrow` records, which no refund
check reads (`keeps_hashKept_finalizeEscrow`, …), and `ready` refuses every other handler there. So:

- one call keeps `RefundReady`, that a session in the payee's states from `EscrowComplete` to `EscrowPublished`
  holds a contract whose refund verifies (`Call.run_refundReady`), and so does a run of calls
  (`runCalls_refundReady`);
- `FinalizeEscrow` publishes the escrow on its way to `EscrowPublished`: over any run of calls on a fresh session,
  the tumbler never publishes an escrow it cannot refund (`escrow_refundable_run`).
-/

namespace Tumblebit

/-! ## The payee's states past the escrow -/

/-- The payee's states from `EscrowComplete` to `EscrowPublished`. -/
def PayeeOpen (a : Nat) : Prop := stateEscrowComplete ≤ a ∧ a ≤ stateEscrowPublished

instance (a : Nat) : Decidable (PayeeOpen a) := inferInstanceAs (Decidable (_ ∧ _))

/-- A session in one of the payee's states past the escrow holds a contract whose refund `VerifyRefundTx`
accepts. -/
def RefundReady (env : Env) (c : Ctx) : Prop :=
  PayeeOpen c.sess.state → ∃ con, c.sess.contract = some con ∧ con.verifyRefundTx env.C env.lib = .ok ()

/-- `ready` admits a payee's state past the escrow only from `Initial` (for `EscrowComplete`) or from the
state before it. -/
theorem payeeOpen_of_ready {a n : Nat} (hr : readyFrom a n = .ok ()) (hn : PayeeOpen n) :
    (a = stateInitial ∧ n = stateEscrowComplete) ∨ PayeeOpen a := by
  simp only [readyFrom_ok_iff, PayeeOpen, stateInitial, stateEscrowComplete, stateEscrowPublished] at hr hn ⊢
  omega

/-- A trace that starts neither in the initial state nor in the payee's states past the escrow never reaches
them. -/
theorem Trace.not_payeeOpen {a b : Nat} {e e' : Int} {gs : List Ghost} (h : Trace a e gs b e')
    (ha : ¬ PayeeOpen a) (h0 : a ≠ stateInitial) : ¬ PayeeOpen b := by
  induction h with
  | nil => exact ha
  | quiet _ _ ih => exact ih ha h0
  | latch hr _ ih =>
    refine ih (fun hn => ?_) (fun hn => ?_)
    · rcases payeeOpen_of_ready hr hn with ⟨h, -⟩ | h
      exacts [h0 h, ha h]
    · simp only [readyFrom_ok_iff, PayeeOpen, stateInitial, stateEscrowComplete, stateEscrowPublished] at hr ha h0 hn
      omega
  | setEpoch _ _ ih => exact ih ha h0

/-! ## What the payee's handlers do to the contract -/

/-- An adapter method that writes at most the escrow hash of its contract. -/
def HashOnly (w w' : WState) : Prop := ∃ h, w'.con = { w.con with escrowHash := h }

/-- The session's contract kept, but for the escrow hash that `PublishEscrow` records. -/
def HashKept (c c' : Ctx) : Prop :=
  ∀ con, c.sess.contract = some con → ∃ h, c'.sess.contract = some { con with escrowHash := h }

section HashKept

variable {α β : Type} {a b d : Ctx}

theorem HashOnly.refl (w : WState) : HashOnly w w := ⟨w.con.escrowHash, rfl⟩

theorem HashOnly.trans {w₁ w₂ w₃ : WState} (h₁ : HashOnly w₁ w₂) (h₂ : HashOnly w₂ w₃) : HashOnly w₁ w₃ := by
  obtain ⟨h, e₁⟩ := h₁
  obtain ⟨h', e₂⟩ := h₂
  exact ⟨h', by rw [e₂, e₁]⟩

theorem HashKept.of_contract (h : b.sess.contract = a.sess.contract) : HashKept a b :=
  fun con ha => ⟨con.escrowHash, h.trans ha⟩

theorem HashKept.refl (c : Ctx) : HashKept c c := .of_contract rfl

theorem HashKept.trans (h₁ : HashKept a b) (h₂ : HashKept b d) : HashKept a d := fun con ha =>
  let ⟨_, hb⟩ := h₁ con ha
  let ⟨h, hd⟩ := h₂ _ hb
  ⟨h, hd⟩

/-- The hash is the one field `VerifyRefundTx` does not read. -/
theorem Contract.verifyRefundTx_escrowHash (C : Crypto) (lib : Lib) (con : Contract) (h : Bytes) :
    { con with escrowHash := h }.verifyRefundTx C lib = con.verifyRefundTx C lib := rfl

theorem keeps_hashKept_bind {m : Prog Ctx α} {f : α → Prog Ctx β} (hm : Prog.Keeps HashKept m)
    (hf : ∀ x, Prog.Keeps HashKept (f x)) : Prog.Keeps HashKept (m >>= f) :=
  Prog.Keeps.bind (R := HashKept) (fun _ _ _ => HashKept.trans) hm hf

theorem keeps_hashKept_of_sessKept {m : Prog Ctx α} (hm : Prog.Keeps SessKept m) : Prog.Keeps HashKept m :=
  hm.mono fun _ _ h => .of_contract (congrArg Session.contract h)

theorem keeps_hashKept_modifySess {f : Session → Session} (hf : ∀ s, (f s).contract = s.contract) :
    Prog.Keeps HashKept (modifySess f) :=
  Prog.Keeps.modify fun c => .of_contract (hf c.sess)

theorem keeps_hashKept_note (g : Session → Ghost) : Prog.Keeps HashKept (Ctx.note g) :=
  Prog.Keeps.modify fun _ => .refl _

theorem keeps_hashKept_latch (n : Nat) : Prog.Keeps HashKept (Session.latch n) :=
  keeps_hashKept_bind (keeps_hashKept_modifySess fun _ => rfl) fun _ => keeps_hashKept_note _

theorem keeps_hashKept_withContract {m : Prog WState α} (hm : Prog.Keeps HashOnly m) :
    Prog.Keeps HashKept (Ctx.withContract m) := by
  intro env c
  unfold Ctx.withContract
  split
  · exact .refl c
  · rename_i con hc
    obtain ⟨h, e⟩ := hm env ⟨con, c.log⟩
    split <;> rename_i heq <;> rw [heq] at e <;>
      exact fun _ hc' => ⟨h, by rw [hc, Option.some.injEq] at hc'; subst hc'; exact congrArg some e⟩

theorem keeps_hashKept_finalizeExchange (r : Nat) : Prog.Keeps HashKept (Session.finalizeExchange r) :=
  keeps_hashKept_bind (keeps_hashKept_note _) fun _ =>
  keeps_hashKept_bind (keeps_hashKept_of_sessKept keeps_sessKept_getSess) fun _ =>
    .ite (.throw HashKept.refl _) <| .ite (.pure HashKept.refl _) <|
    keeps_hashKept_bind (keeps_hashKept_modifySess fun _ => rfl) fun _ =>
    Prog.Keeps.get_bind fun _ _ => .of_contract rfl

theorem keeps_hashKept_failWith (e : String) : Prog.Keeps HashKept (Session.failWith e) :=
  keeps_hashKept_bind (keeps_hashKept_modifySess fun _ => rfl) fun _ => keeps_hashKept_finalizeExchange _

theorem keeps_hashKept_contractOrPanic : Prog.Keeps HashKept contractOrPanic :=
  keeps_hashKept_bind (keeps_hashKept_of_sessKept keeps_sessKept_getSess) fun _ => by
    split
    exacts [.pure HashKept.refl _, .throw HashKept.refl _]

theorem keeps_hashOnly_publishEscrow : Prog.Keeps HashOnly Wallet.publishEscrow :=
  have hT : ∀ a b d : WState, HashOnly a b → HashOnly b d → HashOnly a d := fun _ _ _ => HashOnly.trans
  .bind hT (.get HashOnly.refl) fun _ => .bind hT (.focus fun _ _ => HashOnly.refl _) fun _ =>
    .bind hT (.liftErr HashOnly.refl _ _) fun _ => .modify fun _ => ⟨_, rfl⟩

theorem keeps_hashOnly_signHashes (hashes : List Bytes) : Prog.Keeps HashOnly (Wallet.signHashes hashes) :=
  have hT : ∀ a b d : WState, HashOnly a b → HashOnly b d → HashOnly a d := fun _ _ _ => HashOnly.trans
  .bind hT (.get HashOnly.refl) fun _ => .bind hT (.focus fun _ _ => HashOnly.refl _) fun _ =>
    .liftErr HashOnly.refl _ _

theorem keeps_hashKept_getPuzzlePromises (cp : SignatureChallenges) :
    Prog.Keeps HashKept (Session.getPuzzlePromises cp) :=
  keeps_hashKept_bind (keeps_hashKept_of_sessKept (keeps_sessKept_readyOrFail _)) fun _ =>
  keeps_hashKept_bind (keeps_hashKept_of_sessKept keeps_sessKept_epochPuzzleKey) fun _ =>
  keeps_hashKept_bind (.liftErr HashKept.refl _ _) fun _ => keeps_hashKept_bind (.read HashKept.refl) fun _ =>
  keeps_hashKept_bind (keeps_hashKept_of_sessKept (keeps_sessKept_io _)) fun _ =>
  keeps_hashKept_bind (keeps_hashKept_modifySess fun _ => rfl) fun _ =>
  keeps_hashKept_bind (keeps_hashKept_latch _) fun _ => .pure HashKept.refl _

theorem keeps_hashKept_validatePuzzles (cd : TransactionDisclosure) :
    Prog.Keeps HashKept (Session.validatePuzzles cd) :=
  keeps_hashKept_bind (keeps_hashKept_of_sessKept (keeps_sessKept_readyOrFail _)) fun _ =>
  keeps_hashKept_bind (.liftErr HashKept.refl _ _) fun _ => keeps_hashKept_bind (.liftErr HashKept.refl _ _) fun _ =>
  keeps_hashKept_bind (keeps_hashKept_of_sessKept keeps_sessKept_getSess) fun _ =>
  keeps_hashKept_bind (.liftErr HashKept.refl _ _) fun _ =>
  keeps_hashKept_bind (keeps_hashKept_of_sessKept keeps_sessKept_epochPuzzleKey) fun _ =>
  keeps_hashKept_bind (.liftErr HashKept.refl _ _) fun _ => keeps_hashKept_bind (.read HashKept.refl) fun _ =>
  keeps_hashKept_bind (.liftFault HashKept.refl _ _) fun _ =>
  keeps_hashKept_bind (keeps_hashKept_modifySess fun _ => rfl) fun _ =>
  keeps_hashKept_bind (keeps_hashKept_latch _) fun _ => .pure HashKept.refl _

theorem keeps_hashKept_finalizeEscrow : Prog.Keeps HashKept Session.finalizeEscrow :=
  keeps_hashKept_bind (keeps_hashKept_of_sessKept (keeps_sessKept_readyOrFail _)) fun _ =>
  keeps_hashKept_bind (keeps_hashKept_note _) fun _ =>
  keeps_hashKept_bind (.wrap _ (keeps_hashKept_withContract keeps_hashOnly_publishEscrow)) fun _ =>
  keeps_hashKept_bind (keeps_hashKept_latch _) fun _ => keeps_hashKept_bind keeps_hashKept_contractOrPanic fun _ =>
  keeps_hashKept_bind (keeps_hashKept_finalizeExchange _) fun _ => .pure HashKept.refl _

end HashKept

/-! ## `SetupEscrow` -/

section Setup

variable {env : Env} {w w' : WState}

/-- `CreateEscrow` and `CreateOffer` return only once `VerifyRefundTx` accepted the refund. -/
theorem Wallet.createWithScript_verified {addScript : Crypto → Lib → Contract → Except String Contract}
    {pre : String} {u : Unit} (h : Wallet.createWithScript addScript pre env w = .ok u w') :
    w'.con.verifyRefundTx env.C env.lib = .ok () := by
  obtain ⟨_, _, -, k₁⟩ := Prog.bind_ok h
  obtain ⟨_, _, -, k₂⟩ := Prog.bind_ok k₁
  obtain ⟨_, _, -, k₃⟩ := Prog.bind_ok k₂
  obtain ⟨_, _, -, k₄⟩ := Prog.bind_ok k₃
  obtain ⟨_, _, -, k₅⟩ := Prog.bind_ok k₄
  obtain ⟨_, _, -, k₆⟩ := Prog.bind_ok k₅
  obtain ⟨_, _, -, k₇⟩ := Prog.bind_ok k₆
  obtain ⟨-, -, -, -, -, -, -, -, hv⟩ := Wallet.createRefundTx_ok (Prog.wrap_ok k₇)
  exact hv

/-- A contract whose refund verifies, kept but for its hash, still verifies. -/
theorem refundReady_of_hashKept {β : Type} {m : Prog Ctx β} (hm : Prog.Keeps HashKept m) (env : Env) {c : Ctx}
    {con : Contract} (hc : c.sess.contract = some con) (hv : con.verifyRefundTx env.C env.lib = .ok ()) :
    ∃ con', (resultState (m env c)).sess.contract = some con' ∧ con'.verifyRefundTx env.C env.lib = .ok () :=
  let ⟨_, hh⟩ := hm env c con hc
  ⟨_, hh, hv⟩

/-- `SetupEscrow` either leaves the state as it was, or ends holding a contract whose refund `VerifyRefundTx`
accepted: it latches `EscrowComplete` only after `CreateEscrow` returned. -/
theorem setupEscrow_refundReady (er : EscrowRequest) (env : Env) (c : Ctx) :
    (resultState (Session.setupEscrow er env c)).sess.state = c.sess.state ∨
      ∃ con, (resultState (Session.setupEscrow er env c)).sess.contract = some con ∧
        con.verifyRefundTx env.C env.lib = .ok () := by
  rw [Session.setupEscrow, Prog.bind_run, readyOrFail_run]
  cases c.sess.ready stateEscrowComplete with
  | error => exact .inl rfl
  | ok u =>
    simp only [Prog.bind_run, Prog.get_run, liftErr_run]
    cases c.tb.getCurrentEpoch with
    | error => exact .inl rfl
    | ok epoch =>
      dsimp only
      cases Contract.new er.amount (addInt32 epoch c.tb.epochDuration) with
      | error => exact .inl rfl
      | ok con₀ =>
        dsimp only
        rw [Prog.bind_run, modifySess, Prog.modify_run]
        dsimp only
        rw [Prog.bind_run]
        have hF₁ := keeps_frame_withContract (setAddressW .receiver er.address er.publicKey) env
          { c with sess := { c.sess with contract := some con₀ } }
        split
        · rename_i c₁ hc₁
          rw [hc₁] at hF₁
          have hF₂ := keeps_frame_withContract Wallet.createEscrow env c₁
          rw [Prog.bind_run]
          split
          · rename_i c₂ hc₂
            obtain ⟨_, w', -, hw, rfl⟩ := Ctx.withContract_ok hc₂
            rw [Wallet.createEscrow_eq] at hw
            have hv := Wallet.createWithScript_verified hw
            refine .inr (refundReady_of_hashKept ?_ env rfl hv)
            exact keeps_hashKept_bind (keeps_hashKept_modifySess fun _ => rfl) fun _ =>
              keeps_hashKept_bind (keeps_hashKept_latch _) fun _ =>
              keeps_hashKept_bind keeps_hashKept_contractOrPanic fun con => by
                split
                exacts [.throw HashKept.refl _, .pure HashKept.refl _]
          · rename_i c₂ hc₂
            rw [hc₂] at hF₂
            exact .inl (hF₂.1.trans hF₁.1)
        · rename_i c₁ hc₁
          rw [hc₁] at hF₁
          exact .inl hF₁.1
end Setup

/-! ## One call, and whole runs -/

section Run

variable {env : Env} {c c' : Ctx}

theorem RefundReady.of_hashKept (h : RefundReady env c) (hk : HashKept c c')
    (hs : PayeeOpen c'.sess.state → PayeeOpen c.sess.state) : RefundReady env c' := fun hb =>
  let ⟨con, hc, hv⟩ := h (hs hb)
  let ⟨_, hh⟩ := hk con hc
  ⟨_, hh, hv⟩

theorem RefundReady.of_frame (h : RefundReady env c) (hF : Frame c c') (hk : HashKept c c') : RefundReady env c' :=
  h.of_hashKept hk fun hb => hF.1 ▸ hb

theorem resultState_bind_unit {α : Type} (m : Prog Ctx α) :
    resultState ((m >>= fun _ => (pure () : Prog Ctx Unit)) env c) = resultState (m env c) := by
  rw [Prog.bind_run]
  split <;> rename_i heq <;> rw [heq] <;> rfl

/-- `ready` refused: the handler returns at once and leaves the context as it was. -/
theorem resultState_ready_bind {β : Type} {n : Nat} {k : Unit → Prog Ctx β} (h : readyFrom c.sess.state n ≠ .ok ()) :
    resultState ((readyOrFail n >>= k) env c) = c := by
  rw [Prog.bind_run, readyOrFail_run]
  rcases hr : c.sess.ready n with e | u
  · rfl
  · exact absurd hr h

/-- The state kept, or latched to `n`. -/
def StateIn (n : Nat) (c c' : Ctx) : Prop := c'.sess.state = c.sess.state ∨ c'.sess.state = n

theorem keeps_stateIn_getSolutionPromises (sc : SolutionChallenges) :
    Prog.Keeps (StateIn stateSolutionsPromised) (Session.getSolutionPromises sc) :=
  have hT : ∀ a b d : Ctx, StateIn stateSolutionsPromised a b → StateIn stateSolutionsPromised b d →
      StateIn stateSolutionsPromised a d := fun _ _ _ h₁ h₂ => by unfold StateIn at *; omega
  have hF : ∀ {α : Type} {m : Prog Ctx α}, Prog.Keeps Frame m → Prog.Keeps (StateIn stateSolutionsPromised) m :=
    fun hm => hm.mono fun _ _ h => .inl h.1
  .bind hT (hF (keeps_frame_readyOrFail _)) fun _ => .bind hT (.get fun _ => .inl rfl) fun _ =>
  .bind hT (.liftErr (fun _ => .inl rfl) _ _) fun _ => .bind hT (.read fun _ => .inl rfl) fun _ =>
  .bind hT (hF (keeps_frame_io _)) fun _ => .bind hT (.modify fun _ => .inl rfl) fun _ =>
  .bind hT (.bind hT (.modify fun _ => .inr rfl) fun _ => .modify fun _ => .inl rfl) fun _ =>
  .pure (fun _ => .inl rfl) _

/-- The payee's handlers past `SetupEscrow` run only from the state before theirs, where the invariant gives a
contract whose refund verifies, and keep it but for its hash. -/
theorem refundReady_payee_handler {β : Type} {n : Nat} {k : Unit → Prog Ctx β} (hn : PayeeOpen n)
    (hn1 : n ≠ stateEscrowComplete) (hk : Prog.Keeps HashKept (readyOrFail n >>= k)) (h : RefundReady env c) :
    RefundReady env (resultState ((readyOrFail n >>= k) env c)) := by
  by_cases hr : readyFrom c.sess.state n = .ok ()
  · rcases payeeOpen_of_ready hr hn with ⟨-, rfl⟩ | ha
    · exact absurd rfl hn1
    · exact h.of_hashKept (hk env c) fun _ => ha
  · rw [resultState_ready_bind hr]
    exact h

/-- The payer's handlers past its first state are refused from the initial state and from the payee's. -/
theorem refundReady_payer_handler {β : Type} {n : Nat} {k : Unit → Prog Ctx β} (hn : stateSolutionsPromised < n)
    (hc : PayeeOpen c.sess.state ∨ c.sess.state = stateInitial) (h : RefundReady env c) :
    RefundReady env (resultState ((readyOrFail n >>= k) env c)) := by
  rw [resultState_ready_bind fun hr => ?_]
  · exact h
  simp only [readyFrom_ok_iff, PayeeOpen, stateInitial, stateEscrowComplete, stateEscrowPublished,
    stateSolutionsPromised] at hr hc hn
  omega

/-- **One call keeps the invariant.** From a state outside the payee's chain and the initial state no trace reaches
it; from the initial state only `SetupEscrow` does, with a verified refund; within it a call is refused, or keeps
the state and the contract, or is the payee's next handler and keeps the contract but for its hash. -/
theorem Call.run_refundReady (call : Call) (h : RefundReady env c) :
    RefundReady env (resultState (call.run env c)) := by
  by_cases hc : PayeeOpen c.sess.state ∨ c.sess.state = stateInitial
  swap
  · obtain ⟨gs, -, t⟩ := Call.run_traced call env c
    exact fun hb => absurd hb (t.not_payeeOpen (fun ha => hc (.inl ha)) fun ha => hc (.inr ha))
  cases call with
  | setupEscrow er =>
    rw [Call.run, resultState_bind_unit]
    rcases hc with ha | ha
    · rw [Session.setupEscrow, resultState_ready_bind]
      · exact h
      · simp only [ne_eq, readyFrom_ok_iff, PayeeOpen, stateEscrowComplete, stateEscrowPublished] at ha ⊢
        omega
    · rcases setupEscrow_refundReady er env c with hs | ⟨con, hcon, hv⟩
      · exact fun hb => absurd (hs ▸ hb) (by rw [ha]; decide)
      · exact fun _ => ⟨con, hcon, hv⟩
  | signChallengeHashes hashes =>
    rw [Call.run, resultState_bind_unit]
    exact h.of_frame (keeps_frame_withContract _ env c)
      (keeps_hashKept_withContract (keeps_hashOnly_signHashes hashes) env c)
  | getPuzzlePromises cp =>
    rw [Call.run, resultState_bind_unit]
    exact refundReady_payee_handler (by decide) (by decide) (keeps_hashKept_getPuzzlePromises cp) h
  | validatePuzzles cd =>
    rw [Call.run, resultState_bind_unit]
    exact refundReady_payee_handler (by decide) (by decide) (keeps_hashKept_validatePuzzles cd) h
  | finalizeEscrow =>
    rw [Call.run, resultState_bind_unit]
    exact refundReady_payee_handler (by decide) (by decide) keeps_hashKept_finalizeEscrow h
  | getSolutionPromises sc =>
    rw [Call.run, resultState_bind_unit]
    by_cases hr : readyFrom c.sess.state stateSolutionsPromised = .ok ()
    · have h0 : c.sess.state = stateInitial := by
        simp only [readyFrom_ok_iff, PayeeOpen, stateInitial, stateEscrowComplete, stateEscrowPublished,
          stateSolutionsPromised] at hr hc ⊢
        omega
      intro hb
      rcases keeps_stateIn_getSolutionPromises sc env c with hs | hs <;> rw [hs] at hb
      · exact absurd hb (by rw [h0]; decide)
      · exact absurd hb (by decide)
    · rw [Session.getSolutionPromises, resultState_ready_bind hr]
      exact h
  | validateSolutions pd =>
    rw [Call.run, resultState_bind_unit]
    exact refundReady_payer_handler (by decide) hc h
  | paymentOffer po => exact refundReady_payer_handler (by decide) hc h
  | validateOffer po =>
    rw [Call.run, Session.validateOffer, Session.orFail_run, readyOrFail_run]
    rcases hr : c.sess.ready stateSolutionPublished with e | u
    · exact h.of_frame (keeps_frame_failWith e env c) (keeps_hashKept_failWith e env c)
    · exfalso
      change readyFrom c.sess.state stateSolutionPublished = .ok () at hr
      simp only [readyFrom_ok_iff, PayeeOpen, stateInitial, stateEscrowComplete, stateEscrowPublished,
        stateSolutionPublished] at hr hc
      omega
  | finalize reason =>
    exact h.of_frame (keeps_frame_finalizeExchange (by cases reason <;> decide) env c)
      (keeps_hashKept_finalizeExchange _ env c)

/-- A run of calls keeps the invariant. -/
theorem runCalls_refundReady (env : Env) : ∀ (calls : List Call) {c : Ctx}, RefundReady env c →
    RefundReady env (runCalls env calls c)
  | [], _, h => h
  | call :: calls, c, h => by
    have h' := Call.run_refundReady call h
    unfold runCalls
    split <;> rename_i heq <;> rw [heq] at h'
    · exact runCalls_refundReady env calls h'
    · exact runCalls_refundReady env calls h'
    · exact h'

/-- **Every escrow the tumbler publishes can be refunded.** Over any run of calls on a fresh session, with any
arguments and any answers of the world, whenever the session is in one of the payee's states from
`EscrowComplete` to `EscrowPublished` it holds a contract whose refund `VerifyRefundTx` accepts. `FinalizeEscrow`
publishes the escrow on its way to `EscrowPublished`. -/
theorem escrow_refundable_run (env : Env) (calls : List Call) (sid : Nat) (address : String) (tb : Tumbler)
    (log : List Effect) :
    let c := runCalls env calls (freshCtx sid address tb log)
    stateEscrowComplete ≤ c.sess.state → c.sess.state ≤ stateEscrowPublished →
      ∃ con, c.sess.contract = some con ∧ con.verifyRefundTx env.C env.lib = .ok () :=
  fun h₁ h₂ => runCalls_refundReady env calls (fun h => absurd h (show ¬PayeeOpen stateInitial by decide)) ⟨h₁, h₂⟩

/-- A fresh session whose `SetupEscrow` succeeds reaches `EscrowComplete` with a refund that verifies. -/
theorem escrow_refundable_run_setup :
    let c := runCalls refundEnv [.setupEscrow ⟨"a", "a", contractValue⟩]
      (freshCtx 0 "a" ⟨100, [], fun _ => none, [], [], 10, 5, 0⟩ [])
    stateEscrowComplete ≤ c.sess.state ∧ c.sess.state ≤ stateEscrowPublished ∧
      ∃ con, c.sess.contract = some con ∧ con.verifyRefundTx refundEnv.C refundEnv.lib = .ok () :=
  ⟨by decide, by decide, escrow_refundable_run refundEnv _ 0 "a" _ [] (by decide) (by decide)⟩

end Run

end Tumblebit
