import Tumblebit.Tumbler.StateMachine

/-!
# Lock times

`contract.New` sets a contract's lock time and nothing after it writes the field: no method of the contract
(`Contract.setAddress_lockTime`, …), so no adapter method (`LockKept`), so no step of a handler once the contract
is made (`LockHeld`). Each contract a session holds therefore keeps the lock time of the handler that made it
(`contract_lockTimes`). `SetupEscrow` makes the payee's escrow with `epoch + tb.epochDuration`, the configured
duration. `PaymentOffer` makes the payer's offer contract with `s.epoch + EpochDuration`, the package constant,
whatever the configuration. Both sums are `int32` and wrap.
-/

namespace Tumblebit

/-! ## Adapter methods -/

/-- The method's contract keeps its lock time. -/
def LockKept (w w' : WState) : Prop := w'.con.lockTime = w.con.lockTime

section Adapter

variable {α β : Type}

theorem LockKept.refl (w : WState) : LockKept w w := rfl

theorem keeps_lockKept_bind {m : Prog WState α} {f : α → Prog WState β} (hm : Prog.Keeps LockKept m)
    (hf : ∀ a, Prog.Keeps LockKept (f a)) : Prog.Keeps LockKept (m >>= f) :=
  Prog.Keeps.bind (fun _ _ _ h₁ h₂ => h₂.trans h₁) hm hf

theorem keeps_lockKept_io (m : Prog (List Effect) α) : Prog.Keeps LockKept (WState.io m) :=
  Prog.Keeps.focus fun _ _ => rfl

theorem keeps_lockKept_modifyCon {f : Contract → Contract} (hf : ∀ c, (f c).lockTime = c.lockTime) :
    Prog.Keeps LockKept (modifyCon f) :=
  Prog.Keeps.modify fun w => hf w.con

/-- The contract replaced by what a method of it returned with the same lock time, and then `k`. -/
theorem keeps_lockKept_replace {w : String → String} {g : Contract → Except Fault Contract}
    (hg : ∀ c c', g c = .ok c' → c'.lockTime = c.lockTime) {k : Contract → Prog WState β}
    (hk : ∀ c, Prog.Keeps LockKept (k c)) :
    Prog.Keeps LockKept (do let c ← liftFault w (g (← get).con); modifyCon fun _ => c; k c) :=
  Prog.Keeps.get_bind fun env s => by
    rw [Prog.bind_run]
    cases h : g s.con with
    | error e => rcases e with _ | _ <;> exact LockKept.refl s
    | ok c => exact (hk c env _).trans (hg _ _ h)

/-- `keeps_lockKept_replace` for a method that fails with a text. -/
theorem keeps_lockKept_replaceErr {w : String → String} {g : Contract → Except String Contract}
    (hg : ∀ c c', g c = .ok c' → c'.lockTime = c.lockTime) {k : Contract → Prog WState β}
    (hk : ∀ c, Prog.Keeps LockKept (k c)) :
    Prog.Keeps LockKept (do let c ← liftErr w (g (← get).con); modifyCon fun _ => c; k c) :=
  Prog.Keeps.get_bind fun env s => by
    rw [Prog.bind_run]
    cases h : g s.con with
    | error => exact LockKept.refl s
    | ok c => exact (hk c env _).trans (hg _ _ h)

theorem keeps_lockKept_setAddressW (t : AddressRole) (a pk : String) : Prog.Keeps LockKept (setAddressW t a pk) :=
  keeps_lockKept_bind (.read LockKept.refl) fun env => Prog.Keeps.get_bind fun _ s => by
    rw [Prog.bind_run]
    cases h : s.con.setAddress env.lib t a pk with
    | error => exact LockKept.refl s
    | ok c => exact Contract.setAddress_lockTime h

theorem keeps_lockKept_importEscrowScript : Prog.Keeps LockKept Wallet.importEscrowScript :=
  keeps_lockKept_bind (.get LockKept.refl) fun _ => keeps_lockKept_bind (keeps_lockKept_io _) fun _ =>
    keeps_lockKept_bind (.liftErr LockKept.refl _ _) fun _ => keeps_lockKept_modifyCon fun _ => rfl

theorem keeps_lockKept_createEscrowTx : Prog.Keeps LockKept Wallet.createEscrowTx :=
  keeps_lockKept_bind (.get LockKept.refl) fun _ =>
  keeps_lockKept_bind (keeps_lockKept_io _) fun _ => keeps_lockKept_bind (.liftErr LockKept.refl _ _) fun _ =>
  keeps_lockKept_bind (keeps_lockKept_io _) fun _ => keeps_lockKept_bind (.liftErr LockKept.refl _ _) fun _ =>
  keeps_lockKept_modifyCon fun _ => rfl

theorem keeps_lockKept_createRefundTx : Prog.Keeps LockKept Wallet.createRefundTx :=
  keeps_lockKept_bind (keeps_lockKept_io _) fun _ =>
  keeps_lockKept_bind (keeps_lockKept_setAddressW _ _ _) fun _ =>
  keeps_lockKept_bind (.read LockKept.refl) fun env =>
  keeps_lockKept_replace (g := fun c => c.buildRefundTx env.lib) (fun _ _ => Contract.buildRefundTx_lockTime) fun _ =>
  keeps_lockKept_bind (keeps_lockKept_io _) fun _ => keeps_lockKept_bind (.liftErr LockKept.refl _ _) fun _ =>
  keeps_lockKept_bind (keeps_lockKept_modifyCon fun _ => rfl) fun _ =>
  keeps_lockKept_replace (g := fun c => c.addRefundScript env.lib) (fun _ _ => Contract.addRefundScript_lockTime)
    fun _ => .liftFault LockKept.refl _ _

theorem keeps_lockKept_createEscrow : Prog.Keeps LockKept Wallet.createEscrow :=
  keeps_lockKept_bind (keeps_lockKept_io _) fun _ =>
  keeps_lockKept_bind (keeps_lockKept_setAddressW _ _ _) fun _ =>
  keeps_lockKept_bind (.read LockKept.refl) fun env =>
  keeps_lockKept_replaceErr (g := fun c => c.addEscrowScript env.C env.lib)
    (fun _ _ => Contract.addEscrowScript_lockTime) fun _ =>
  keeps_lockKept_bind (.wrap _ keeps_lockKept_createEscrowTx) fun _ => .wrap _ keeps_lockKept_createRefundTx

theorem keeps_lockKept_validateOffer (h : Bytes) : Prog.Keeps LockKept (Wallet.validateOffer h) := by
  refine keeps_lockKept_bind (keeps_lockKept_io _) fun r => ?_
  rcases r with (_ | _) | ⟨_, _⟩
  · exact .pure LockKept.refl _
  · exact .throw LockKept.refl _
  refine .ite (.pure LockKept.refl _) (keeps_lockKept_bind (.read LockKept.refl) fun env => ?_)
  split
  · exact .throw LockKept.refl _
  refine keeps_lockKept_bind (.liftFault LockKept.refl _ _) fun _ => keeps_lockKept_bind (.get LockKept.refl) fun _ => ?_
  dsimp only
  exact .ite (.throw_bind LockKept.refl _ _) (keeps_lockKept_bind (.pure LockKept.refl _) fun _ =>
    keeps_lockKept_bind (keeps_lockKept_modifyCon fun _ => rfl) fun _ => .pure LockKept.refl _)

theorem keeps_lockKept_publishSolution (secrets : List Bytes) : Prog.Keeps LockKept (Wallet.publishSolution secrets) :=
  keeps_lockKept_bind (keeps_lockKept_io _) fun _ =>
  keeps_lockKept_bind (keeps_lockKept_setAddressW _ _ _) fun _ =>
  keeps_lockKept_bind (.read LockKept.refl) fun env =>
  keeps_lockKept_replace (g := fun c => c.buildRedeemTx env.C env.lib (secrets.length * (1 + 20)))
    (fun _ _ => Contract.buildRedeemTx_lockTime) fun _ =>
  keeps_lockKept_bind (keeps_lockKept_io _) fun _ => keeps_lockKept_bind (.liftErr LockKept.refl _ _) fun _ =>
  keeps_lockKept_bind (keeps_lockKept_modifyCon fun _ => rfl) fun _ =>
  keeps_lockKept_replace (g := fun c => c.addRedeemScript env.lib secrets) (fun _ _ => Contract.addRedeemScript_lockTime)
    fun _ => keeps_lockKept_bind (.liftFault LockKept.refl _ _) fun _ =>
  keeps_lockKept_bind (keeps_lockKept_io _) fun _ => keeps_lockKept_bind (.liftErr LockKept.refl _ _) fun _ =>
  keeps_lockKept_modifyCon fun _ => rfl

end Adapter

/-! ## Handlers -/

/-- Every contract the session holds at the end it held at the start, with the same lock time. -/
def LockHeld (c c' : Ctx) : Prop :=
  ∀ con', c'.sess.contract = some con' → ∃ con, c.sess.contract = some con ∧ con'.lockTime = con.lockTime

section Handlers

variable {α β : Type} {a b d : Ctx}

theorem LockHeld.of_contract (h : b.sess.contract = a.sess.contract) : LockHeld a b :=
  fun con' hb => ⟨con', h ▸ hb, rfl⟩

theorem LockHeld.refl (c : Ctx) : LockHeld c c := .of_contract rfl

theorem LockHeld.trans (h₁ : LockHeld a b) (h₂ : LockHeld b d) : LockHeld a d := fun con'' hd =>
  let ⟨con', hb, e₂⟩ := h₂ con'' hd
  let ⟨con, ha, e₁⟩ := h₁ con' hb
  ⟨con, ha, e₂.trans e₁⟩

/-- A contract a run keeping `LockHeld` ends with has the lock time of the one it started with. -/
theorem LockHeld.lockTime_eq {m : Prog Ctx α} {env : Env} {c : Ctx} {con : Contract} {t : Int}
    (hm : Prog.Keeps LockHeld m) (hc : ∀ con₀, c.sess.contract = some con₀ → con₀.lockTime = t)
    (h : (resultState (m env c)).sess.contract = some con) : con.lockTime = t :=
  let ⟨con₀, h₀, e⟩ := hm env c con h
  e.trans (hc con₀ h₀)

theorem keeps_lockHeld_bind {m : Prog Ctx α} {f : α → Prog Ctx β} (hm : Prog.Keeps LockHeld m)
    (hf : ∀ x, Prog.Keeps LockHeld (f x)) : Prog.Keeps LockHeld (m >>= f) :=
  Prog.Keeps.bind (R := LockHeld) (fun _ _ _ => LockHeld.trans) hm hf

theorem keeps_lockHeld_modify {f : Ctx → Ctx} (hf : ∀ c, (f c).sess.contract = c.sess.contract) :
    Prog.Keeps LockHeld (modify f) :=
  Prog.Keeps.modify fun c => .of_contract (hf c)

theorem keeps_lockHeld_io (m : Prog (List Effect) α) : Prog.Keeps LockHeld (Ctx.io m) :=
  Prog.Keeps.focus fun _ _ => .of_contract rfl

theorem keeps_lockHeld_withContract {m : Prog WState α} (hm : Prog.Keeps LockKept m) :
    Prog.Keeps LockHeld (Ctx.withContract m) := by
  intro env c
  unfold Ctx.withContract
  split
  · exact .refl c
  · rename_i con hc
    have h := hm env ⟨con, c.log⟩
    split <;> rename_i heq <;> rw [heq] at h <;> exact fun _ h' => ⟨con, hc, by cases h'; exact h⟩

theorem keeps_lockHeld_getSess : Prog.Keeps LockHeld getSess :=
  keeps_lockHeld_bind (.get LockHeld.refl) fun _ => .pure LockHeld.refl _

theorem keeps_lockHeld_readyOrFail (n : Nat) : Prog.Keeps LockHeld (readyOrFail n) :=
  keeps_lockHeld_bind keeps_lockHeld_getSess fun _ => .liftErr LockHeld.refl _ _

theorem keeps_lockHeld_latch (n : Nat) : Prog.Keeps LockHeld (Session.latch n) :=
  keeps_lockHeld_bind (keeps_lockHeld_modify fun _ => rfl) fun _ => keeps_lockHeld_modify fun _ => rfl

theorem keeps_lockHeld_contractOrPanic : Prog.Keeps LockHeld contractOrPanic :=
  keeps_lockHeld_bind keeps_lockHeld_getSess fun _ => by
    split
    exacts [.pure LockHeld.refl _, .throw LockHeld.refl _]

theorem keeps_lockHeld_deferAction (po : PaymentOfferReq) (t : Nat) : Prog.Keeps LockHeld (Tumbler.deferAction po t) :=
  keeps_lockHeld_bind (.get LockHeld.refl) fun _ => keeps_lockHeld_modify fun _ => rfl

theorem keeps_lockHeld_finalizeExchange (r : Nat) : Prog.Keeps LockHeld (Session.finalizeExchange r) :=
  keeps_lockHeld_bind (keeps_lockHeld_modify fun _ => rfl) fun _ => keeps_lockHeld_bind keeps_lockHeld_getSess fun _ =>
    .ite (.throw LockHeld.refl _) <| .ite (.pure LockHeld.refl _) <|
    keeps_lockHeld_bind (keeps_lockHeld_modify fun _ => rfl) fun _ => Prog.Keeps.get_bind fun _ _ => .of_contract rfl

theorem keeps_lockHeld_failWith (e : String) : Prog.Keeps LockHeld (Session.failWith e) :=
  keeps_lockHeld_bind (keeps_lockHeld_modify fun _ => rfl) fun _ => keeps_lockHeld_finalizeExchange _

theorem keeps_lockHeld_getEpochAddress (h : Int) : Prog.Keeps LockHeld (Tumbler.getEpochAddress h) :=
  keeps_lockHeld_bind (.get LockHeld.refl) fun _ => by
    dsimp only
    split
    · exact .throw LockHeld.refl _
    · exact .ite (.pure LockHeld.refl _) <| .ite (.throw LockHeld.refl _) <|
        keeps_lockHeld_bind (keeps_lockHeld_io _) fun _ =>
        keeps_lockHeld_bind (keeps_lockHeld_modify fun _ => rfl) fun _ => .pure LockHeld.refl _

theorem keeps_lockHeld_walletValidateOffer (h : Bytes) : Prog.Keeps LockHeld (Session.walletValidateOffer h) :=
  keeps_lockHeld_bind (keeps_lockHeld_withContract (keeps_lockKept_validateOffer _)) fun _ =>
    .ite (keeps_lockHeld_bind (keeps_lockHeld_modify fun _ => rfl) fun _ => .pure LockHeld.refl _) (.pure LockHeld.refl _)

theorem keeps_lockHeld_revealSolution (po : PaymentOfferReq) : Prog.Keeps LockHeld (Session.revealSolution po) :=
  keeps_lockHeld_bind (keeps_lockHeld_bind (keeps_lockHeld_modify fun _ => rfl) fun _ =>
    keeps_lockHeld_bind (.get LockHeld.refl) fun _ => .pure LockHeld.refl _) fun _ =>
  keeps_lockHeld_bind (.liftErr LockHeld.refl _ _) fun _ => keeps_lockHeld_bind keeps_lockHeld_getSess fun _ =>
  keeps_lockHeld_bind (.liftFault LockHeld.refl _ _) fun _ => .liftFault LockHeld.refl _ _

theorem keeps_lockHeld_publishSolution (secrets : List Bytes) : Prog.Keeps LockHeld (Session.publishSolution secrets) :=
  keeps_lockHeld_bind (keeps_lockHeld_modify fun _ => rfl) fun _ =>
  keeps_lockHeld_bind (.wrap _ (keeps_lockHeld_withContract (keeps_lockKept_publishSolution _))) fun _ =>
  keeps_lockHeld_bind (keeps_lockHeld_latch _) fun _ => keeps_lockHeld_finalizeExchange _

theorem keeps_lockHeld_orFail {m : Prog Ctx α} {k : α → Prog Ctx Unit} (hm : Prog.Keeps LockHeld m)
    (hk : ∀ x, Prog.Keeps LockHeld (k x)) : Prog.Keeps LockHeld (Session.orFail m k) :=
  Session.orFail_keeps hm hk keeps_lockHeld_failWith (fun _ _ => id) fun _ _ _ => LockHeld.trans

theorem keeps_lockHeld_validateOffer (po : PaymentOfferReq) : Prog.Keeps LockHeld (Session.validateOffer po) :=
  keeps_lockHeld_orFail (keeps_lockHeld_readyOrFail _) fun _ =>
  keeps_lockHeld_orFail (.wrap _ (keeps_lockHeld_walletValidateOffer _)) fun _ =>
  keeps_lockHeld_bind (keeps_lockHeld_io _) fun _ => keeps_lockHeld_bind keeps_lockHeld_getSess fun _ =>
  .ite (keeps_lockHeld_failWith _) <| .ite (keeps_lockHeld_deferAction _ _) <|
  keeps_lockHeld_bind keeps_lockHeld_getSess fun _ => keeps_lockHeld_bind (.liftFault LockHeld.refl _ _) fun _ =>
  keeps_lockHeld_orFail (keeps_lockHeld_revealSolution po) fun _ =>
  keeps_lockHeld_orFail (keeps_lockHeld_publishSolution _) fun _ => .pure LockHeld.refl _

/-- `SetupEscrow` from a session with no contract: every contract it leaves is the one `contract.New` made at the
current epoch, with the lock time `epoch + tb.epochDuration`. -/
theorem setupEscrow_lockTime (er : EscrowRequest) (env : Env) (c : Ctx) (hc : c.sess.contract = none) {con : Contract}
    (h : (resultState (Session.setupEscrow er env c)).sess.contract = some con) :
    ∃ epoch, c.tb.getCurrentEpoch = .ok epoch ∧ con.lockTime = addInt32 epoch c.tb.epochDuration := by
  revert h
  rw [Session.setupEscrow, Prog.bind_run, readyOrFail_run]
  cases c.sess.ready stateEscrowComplete with
  | error => simp [hc]
  | ok u =>
    simp only [Prog.bind_run, Prog.get_run, liftErr_run]
    cases c.tb.getCurrentEpoch with
    | error => simp [hc]
    | ok epoch =>
      dsimp only
      cases hn : Contract.new er.amount (addInt32 epoch c.tb.epochDuration) with
      | error => simp [Prog.bind_run, modifySess]
      | ok con₀ =>
        dsimp only
        rw [Prog.bind_run, modifySess, Prog.modify_run]
        dsimp only
        refine fun h => ⟨epoch, rfl, LockHeld.lockTime_eq ?_ (fun _ h₀ => ?_) h⟩
        · refine keeps_lockHeld_bind (keeps_lockHeld_withContract (keeps_lockKept_setAddressW _ _ _)) fun _ =>
            keeps_lockHeld_bind (keeps_lockHeld_withContract keeps_lockKept_createEscrow) fun _ =>
            keeps_lockHeld_bind (keeps_lockHeld_modify fun _ => rfl) fun _ =>
            keeps_lockHeld_bind (keeps_lockHeld_latch _) fun _ => keeps_lockHeld_bind keeps_lockHeld_contractOrPanic fun _ => ?_
          split
          exacts [.throw LockHeld.refl _, .pure LockHeld.refl _]
        · cases h₀
          exact Contract.new_lockTime hn

/-- `PaymentOffer` from a session with no contract: every contract it leaves is the one `contract.New` made with the
lock time `s.epoch + EpochDuration`, the package constant. -/
theorem paymentOffer_lockTime (po : PaymentOfferReq) (env : Env) (c : Ctx) (hc : c.sess.contract = none)
    {con : Contract} (h : (resultState (Session.paymentOffer po env c)).sess.contract = some con) :
    con.lockTime = addInt32 c.sess.epoch epochDurationConst := by
  revert h
  rw [Session.paymentOffer, Prog.bind_run, readyOrFail_run]
  cases c.sess.ready stateOfferReceived with
  | error => simp [hc]
  | ok u =>
    dsimp only
    cases decodeIndexList po.realPuzzleList with
    | error => simp [Prog.bind_run, modifySess, hc]
    | ok l =>
      dsimp only
      rw [Prog.bind_run, Prog.pure_run]
      dsimp only
      rw [Prog.bind_run, modifySess, Prog.modify_run]
      dsimp only
      rw [Prog.bind_run, getSess_run]
      dsimp only
      rw [Prog.bind_run, liftErr_run]
      cases paymentOfferChecks _ po l with
      | error => simp [hc]
      | ok =>
        dsimp only
        cases hn : Contract.new po.amount (addInt32 c.sess.epoch epochDurationConst) with
        | error => simp [Prog.bind_run, modifySess]
        | ok con₀ =>
          dsimp only
          rw [Prog.bind_run, modifySess, Prog.modify_run]
          dsimp only
          refine fun h => LockHeld.lockTime_eq ?_ (fun _ h₀ => ?_) h
          · refine keeps_lockHeld_bind (keeps_lockHeld_withContract (keeps_lockKept_setAddressW _ _ _)) fun _ =>
              keeps_lockHeld_bind (.wrap _ (keeps_lockHeld_getEpochAddress _)) fun _ =>
              keeps_lockHeld_bind (keeps_lockHeld_withContract (keeps_lockKept_setAddressW _ _ _)) fun _ =>
              keeps_lockHeld_bind (keeps_lockHeld_withContract (keeps_lockKept_modifyCon fun _ => rfl)) fun _ =>
              keeps_lockHeld_bind (.wrap _ (keeps_lockHeld_withContract keeps_lockKept_importEscrowScript)) fun _ =>
              keeps_lockHeld_bind (keeps_lockHeld_latch _) fun _ =>
              keeps_lockHeld_bind (.wrap _ (keeps_lockHeld_walletValidateOffer _)) fun _ =>
              .ite (keeps_lockHeld_bind (keeps_lockHeld_io _) fun _ =>
                keeps_lockHeld_bind (keeps_lockHeld_modify fun _ => rfl) fun _ => keeps_lockHeld_deferAction _ _) <|
              keeps_lockHeld_bind (keeps_lockHeld_validateOffer po) fun _ =>
              keeps_lockHeld_bind keeps_lockHeld_getSess fun _ => ?_
            split
            exacts [.throw LockHeld.refl _, .pure LockHeld.refl _]
          · cases h₀
            exact Contract.new_lockTime hn

end Handlers

/-! ## Lock times by role -/

/-- **Lock times by role.** A contract `SetupEscrow` leaves on a payee's session that had none has the lock time
`epoch + tb.epochDuration` at the current epoch; one `PaymentOffer` leaves on a payer's session that had none has
`s.epoch + EpochDuration`, the package constant, whatever `tb.epochDuration` is. Both are `int32` sums, which
wrap. -/
theorem contract_lockTimes (env : Env) (payee payer : Ctx) (hpayee : payee.sess.contract = none)
    (hpayer : payer.sess.contract = none) (er : EscrowRequest) (po : PaymentOfferReq) :
    (∀ con, (resultState (Session.setupEscrow er env payee)).sess.contract = some con →
      ∃ epoch, payee.tb.getCurrentEpoch = .ok epoch ∧ con.lockTime = addInt32 epoch payee.tb.epochDuration) ∧
    (∀ con, (resultState (Session.paymentOffer po env payer)).sess.contract = some con →
      con.lockTime = addInt32 payer.sess.epoch epochDurationConst) :=
  ⟨fun _ => setupEscrow_lockTime er env payee hpayee, fun _ => paymentOffer_lockTime po env payer hpayer⟩

/-- A tumbler at epoch `100` configured with `epochDuration = 20`. -/
def toyTumbler : Tumbler := ⟨100, [], fun _ => none, [], [], 20, 10, 0⟩

/-- A fresh payee session, and a payer session at epoch `100` with one puzzle, ready for `PaymentOffer`. -/
def toySessions : Ctx × Ctx :=
  (⟨0, Session.fresh "", toyTumbler, [], []⟩,
    ⟨1, { Session.fresh "" with epoch := 100, state := stateSolutionsValidated, puzzles := [[1]] }, toyTumbler,
      [], []⟩)

/-- On that tumbler the payee's escrow locks until `120` and the payer's offer contract until `110`, while
`2147483647 + 10` wraps to a negative lock time. -/
theorem contract_lockTimes_toy :
    (resultState (Session.setupEscrow ⟨"", "", contractValue⟩ Env.idle toySessions.1)).sess.contract.map
        (·.lockTime) = some 120 ∧
    (resultState (Session.paymentOffer ⟨contractValue, "", [1], [1], [1], [], [], []⟩ Env.idle
        toySessions.2)).sess.contract.map (·.lockTime) = some 110 ∧
    addInt32 2147483647 10 = -2147483639 ∧
    ((∀ con, (resultState (Session.setupEscrow ⟨"", "", contractValue⟩ Env.idle toySessions.1)).sess.contract =
        some con → ∃ epoch, toyTumbler.getCurrentEpoch = .ok epoch ∧ con.lockTime = addInt32 epoch 20) ∧
      (∀ con, (resultState (Session.paymentOffer ⟨contractValue, "", [1], [1], [1], [], [], []⟩ Env.idle
        toySessions.2)).sess.contract = some con → con.lockTime = addInt32 100 epochDurationConst)) :=
  ⟨rfl, rfl, rfl, contract_lockTimes Env.idle _ _ rfl rfl _ _⟩

end Tumblebit
