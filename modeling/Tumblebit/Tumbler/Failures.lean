import Tumblebit.Tumbler.LockTime

/-!
# What a failed request leaves

The spec's handlers consult `ready`, do their work, and only then latch the new state, so that an error leaves
the session as it was. Four handlers keep to this: `GetPuzzlePromises`, `ValidatePuzzles`, `GetSolutionPromises`
and `ValidateSolutions` write the session only after their last step that can fail (`handlers_fail_clean`).

Two write it earlier. `PaymentOffer` stores the decoded index list, or the empty list when it does not decode,
before its checks (`paymentOffer_failure_keeps_list`), and stores the new contract before the steps that set its
addresses; `SetupEscrow` does the same with the payee's escrow. A failed `PaymentOffer` that got as far as the
contract leaves it in place, and every later `PaymentOffer` on the session is refused as a conflicting offer.
-/

namespace Tumblebit

/-- The session unchanged. -/
def SessKept (c c' : Ctx) : Prop := c'.sess = c.sess

section Clean

variable {α β : Type}

theorem SessKept.refl (c : Ctx) : SessKept c c := rfl

theorem SessKept.trans {a b d : Ctx} (h₁ : SessKept a b) (h₂ : SessKept b d) : SessKept a d := Eq.trans h₂ h₁

theorem keeps_sessKept_bind {m : Prog Ctx α} {f : α → Prog Ctx β} (hm : Prog.Keeps SessKept m)
    (hf : ∀ x, Prog.Keeps SessKept (f x)) : Prog.Keeps SessKept (m >>= f) :=
  Prog.Keeps.bind (R := SessKept) (fun _ _ _ => SessKept.trans) hm hf

/-- A first step keeping the session, then a rest failing with the session kept. -/
theorem failsClean_bind {m : Prog Ctx α} {f : α → Prog Ctx β} (hm : Prog.Keeps SessKept m)
    (hf : ∀ x, Prog.FailsWith SessKept (f x)) : Prog.FailsWith SessKept (m >>= f) :=
  Prog.FailsWith.bind (R := SessKept) (fun _ _ _ => SessKept.trans) hm hf

theorem keeps_sessKept_getSess : Prog.Keeps SessKept getSess :=
  keeps_sessKept_bind (.get SessKept.refl) fun _ => .pure SessKept.refl _

theorem keeps_sessKept_readyOrFail (n : Nat) : Prog.Keeps SessKept (readyOrFail n) :=
  keeps_sessKept_bind keeps_sessKept_getSess fun _ => .liftErr SessKept.refl _ _

theorem keeps_sessKept_epochPuzzleKey : Prog.Keeps SessKept Session.epochPuzzleKey :=
  keeps_sessKept_bind (.modify fun _ => rfl) fun _ => keeps_sessKept_bind (.get SessKept.refl) fun _ =>
    .pure SessKept.refl _

theorem keeps_sessKept_io (m : Prog (List Effect) α) : Prog.Keeps SessKept (Ctx.io m) :=
  Prog.Keeps.focus fun _ _ => rfl

/-- The writes at the end of a handler, which always return. -/
theorem failsClean_latch_pure (f : Session → Session) (n : Nat) (x : α) :
    Prog.FailsWith SessKept (do modifySess f; Session.latch n; pure x) :=
  .of_ok fun _ _ => ⟨_, _, rfl⟩

/-- `GetPuzzlePromises` fails only before it writes the session. -/
theorem getPuzzlePromises_fails_clean (cp : SignatureChallenges) :
    Prog.FailsWith SessKept (Session.getPuzzlePromises cp) :=
  failsClean_bind (keeps_sessKept_readyOrFail _) fun _ =>
  failsClean_bind keeps_sessKept_epochPuzzleKey fun _ => failsClean_bind (.liftErr SessKept.refl _ _) fun _ =>
  failsClean_bind (.read SessKept.refl) fun _ => failsClean_bind (keeps_sessKept_io _) fun _ =>
  failsClean_latch_pure _ _ _

/-- `ValidatePuzzles` fails only before it writes the session. -/
theorem validatePuzzles_fails_clean (cd : TransactionDisclosure) :
    Prog.FailsWith SessKept (Session.validatePuzzles cd) :=
  failsClean_bind (keeps_sessKept_readyOrFail _) fun _ =>
  failsClean_bind (.liftErr SessKept.refl _ _) fun _ => failsClean_bind (.liftErr SessKept.refl _ _) fun _ =>
  failsClean_bind keeps_sessKept_getSess fun _ => failsClean_bind (.liftErr SessKept.refl _ _) fun _ =>
  failsClean_bind keeps_sessKept_epochPuzzleKey fun _ => failsClean_bind (.liftErr SessKept.refl _ _) fun _ =>
  failsClean_bind (.read SessKept.refl) fun _ => failsClean_bind (.liftFault SessKept.refl _ _) fun _ =>
  failsClean_latch_pure _ _ _

/-- `GetSolutionPromises` fails only before it writes the session. -/
theorem getSolutionPromises_fails_clean (sc : SolutionChallenges) :
    Prog.FailsWith SessKept (Session.getSolutionPromises sc) :=
  failsClean_bind (keeps_sessKept_readyOrFail _) fun _ =>
  failsClean_bind (.get SessKept.refl) fun _ => failsClean_bind (.liftErr SessKept.refl _ _) fun _ =>
  failsClean_bind (.read SessKept.refl) fun _ => failsClean_bind (keeps_sessKept_io _) fun _ =>
  failsClean_latch_pure _ _ _

/-- `ValidateSolutions` fails only before it latches; it writes nothing else. -/
theorem validateSolutions_fails_clean (pd : PuzzleDisclosure) :
    Prog.FailsWith SessKept (Session.validateSolutions pd) :=
  failsClean_bind (keeps_sessKept_readyOrFail _) fun _ =>
  failsClean_bind (.liftErr SessKept.refl _ _) fun _ => failsClean_bind keeps_sessKept_getSess fun _ =>
  failsClean_bind (.liftErr SessKept.refl _ _) fun _ =>
  failsClean_bind keeps_sessKept_epochPuzzleKey fun _ => failsClean_bind (.liftErr SessKept.refl _ _) fun _ =>
  failsClean_bind (.liftFault SessKept.refl _ _) fun _ => failsClean_bind (.liftFault SessKept.refl _ _) fun _ =>
  .of_ok fun _ _ => ⟨_, _, rfl⟩

/-- The adapter's contract unchanged. -/
def ConKept (w w' : WState) : Prop := w'.con = w.con

/-- `PublishEscrow` fails before it writes the contract. -/
theorem publishEscrow_fails_clean : Prog.FailsWith ConKept Wallet.publishEscrow :=
  have hT : ∀ a b d : WState, ConKept a b → ConKept b d → ConKept a d := fun _ _ _ h₁ h₂ => Eq.trans h₂ h₁
  .bind hT (.get fun _ => rfl) fun _ => .bind hT (.focus fun _ _ => rfl) fun _ =>
    .bind hT (.liftErr (R := ConKept) (fun _ => rfl) _ _) fun _ => .of_ok fun _ _ => ⟨_, _, rfl⟩

/-- An adapter method that fails before it writes the contract, then a rest that always returns once the session
holds a contract. -/
theorem failsClean_withContract_bind {m : Prog WState α} {f : α → Prog Ctx β} (pre : String)
    (hm : Prog.FailsWith ConKept m) (hf : ∀ a env c, c.sess.contract.isSome → ∃ b c', f a env c = .ok b c') :
    Prog.FailsWith SessKept (Prog.wrap pre (Ctx.withContract m) >>= f) := by
  intro env c e c' h
  rw [Prog.bind_run] at h
  cases hc : c.sess.contract with
  | none =>
    simp only [Prog.wrap, Ctx.withContract, hc] at h
    cases h
    rfl
  | some con =>
    cases hrun : m env ⟨con, c.log⟩ with
    | ok a w =>
      simp only [Prog.wrap, Ctx.withContract, hc, hrun] at h
      obtain ⟨b, c'', hok⟩ := hf a env { c with sess := { c.sess with contract := some w.con }, log := w.log } rfl
      rw [hok] at h
      cases h
    | error e' w =>
      have hw : w.con = con := hm env _ _ _ hrun
      rcases e' with _ | _ <;> simp only [Prog.wrap, Ctx.withContract, hc, hrun] at h <;> cases h <;>
        simp only [SessKept, hw, ← hc]

/-- `FinalizeEscrow` fails only before it writes the session: once the escrow is published, latching and
finalizing always return. -/
theorem finalizeEscrow_fails_clean : Prog.FailsWith SessKept Session.finalizeEscrow :=
  failsClean_bind (keeps_sessKept_readyOrFail _) fun _ => failsClean_bind (.modify fun _ => rfl) fun _ =>
  failsClean_withContract_bind _ publishEscrow_fails_clean fun _ env c hc => by
    obtain ⟨con, hcon⟩ := Option.isSome_iff_exists.1 hc
    simp only [Prog.bind_run, Session.latch, modifySess, Prog.modify_run, Ctx.note, contractOrPanic, getSess,
      Prog.get_run, Prog.pure_run, hcon, Session.finalizeExchange, ne_eq, not_true_eq_false, false_and, and_false,
      ↓reduceIte]
    cases c.sess.finsema <;> exact ⟨_, _, rfl⟩

end Clean

/-! ## `PaymentOffer` -/

/-- A `PaymentOffer` the session is ready for, refused before `contract.New`, fails with the decoded index list
stored in the session: the empty list when the list does not decode. -/
theorem paymentOffer_failure_keeps_list (po : PaymentOfferReq) (env : Env) (c : Ctx)
    (hr : c.sess.ready stateOfferReceived = .ok ()) :
    (∀ e, decodeIndexList po.realPuzzleList = .error e → Session.paymentOffer po env c =
      .error (.error ("failed to decode puzzle index list: " ++ e)) { c with sess := { c.sess with realPuzzleList := [] } }) ∧
    (∀ l e, decodeIndexList po.realPuzzleList = .ok l → paymentOfferChecks { c.sess with realPuzzleList := l } po l = .error e →
      Session.paymentOffer po env c = .error (.error e) { c with sess := { c.sess with realPuzzleList := l } }) := by
  constructor
  · intro e he
    rw [Session.paymentOffer, Prog.bind_run, readyOrFail_run, hr]
    dsimp only
    rw [he]
    rfl
  · intro l e hl hc
    rw [Session.paymentOffer, Prog.bind_run, readyOrFail_run, hr]
    dsimp only
    rw [hl]
    dsimp only
    rw [Prog.bind_run, Prog.pure_run]
    dsimp only
    rw [Prog.bind_run, modifySess, Prog.modify_run]
    dsimp only
    rw [Prog.bind_run, getSess_run]
    dsimp only
    rw [Prog.bind_run, liftErr_run, hc]
    rfl

/-! ## Failed requests -/

/-- **Failed requests.** `GetPuzzlePromises`, `ValidatePuzzles`, `FinalizeEscrow`, `GetSolutionPromises` and
`ValidateSolutions` fail with the session as it was. A `PaymentOffer` the session is ready for, refused before
`contract.New`, fails with the decoded index list (the empty one when it does not decode) stored in the session. -/
theorem handler_failures (env : Env) (c : Ctx) :
    (∀ cp e c', Session.getPuzzlePromises cp env c = .error e c' → c'.sess = c.sess) ∧
    (∀ cd e c', Session.validatePuzzles cd env c = .error e c' → c'.sess = c.sess) ∧
    (∀ e c', Session.finalizeEscrow env c = .error e c' → c'.sess = c.sess) ∧
    (∀ sc e c', Session.getSolutionPromises sc env c = .error e c' → c'.sess = c.sess) ∧
    (∀ pd e c', Session.validateSolutions pd env c = .error e c' → c'.sess = c.sess) ∧
    (c.sess.ready stateOfferReceived = .ok () → ∀ po,
      (∀ e, decodeIndexList po.realPuzzleList = .error e → Session.paymentOffer po env c =
        .error (.error ("failed to decode puzzle index list: " ++ e)) { c with sess := { c.sess with realPuzzleList := [] } }) ∧
      (∀ l e, decodeIndexList po.realPuzzleList = .ok l → paymentOfferChecks { c.sess with realPuzzleList := l } po l = .error e →
        Session.paymentOffer po env c = .error (.error e) { c with sess := { c.sess with realPuzzleList := l } })) :=
  ⟨fun cp => getPuzzlePromises_fails_clean cp env c, fun cd => validatePuzzles_fails_clean cd env c,
    finalizeEscrow_fails_clean env c, fun sc => getSolutionPromises_fails_clean sc env c,
    fun pd => validateSolutions_fails_clean pd env c, fun hr po => paymentOffer_failure_keeps_list po env c hr⟩

/-- On the sessions of `contract_lockTimes_toy`, with a wallet that refuses every address: a `SetupEscrow` fails
without latching but leaves the new escrow contract in the payee's session, and so does a `PaymentOffer` in the
payer's. A second `PaymentOffer` is then refused as a conflicting offer, and stores its index list `[0]`. -/
theorem handler_failures_toy :
    (∃ e c', Session.setupEscrow ⟨"", "", contractValue⟩ Env.idle toySessions.1 = .error e c' ∧
      c'.sess.state = stateInitial ∧ c'.sess.contract.isSome) ∧
    ∃ e c', Session.paymentOffer ⟨contractValue, "", [1], [1], [1], [], [], []⟩ Env.idle toySessions.2 = .error e c' ∧
      c'.sess.state = stateSolutionsValidated ∧ c'.sess.contract.isSome ∧
      Session.paymentOffer ⟨contractValue, "", [1], [1], [1], [], le16 0, []⟩ Env.idle c' =
        .error (.error "conflicting offer tx") { c' with sess := { c'.sess with realPuzzleList := [0] } } := by
  refine ⟨⟨_, _, rfl, rfl, rfl⟩, _, _, rfl, rfl, rfl, ?_⟩
  refine ((handler_failures Env.idle _).2.2.2.2.2 ?_ _).2 [0] _ ?_ ?_ <;> rfl

end Tumblebit
