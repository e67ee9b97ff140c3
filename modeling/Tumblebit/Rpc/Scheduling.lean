import Tumblebit.Rpc.Server
import Tumblebit.Tumbler.StateMachine

/-!
# What a handler does to the scheduling

The ticker's promise that a deferred `validateOffer` runs after its `until` is read off the clock, so it needs the
log, which the clock reads, never to lose an entry; and the bound on retries needs the session's deadline and its
deferred actions to change only where `PaymentOffer` and `validateOffer` change them. One relation each, kept one
primitive at a time (`Prog.Keeps`):

- `LogExt`: a log computation only appends to the log, and so does every adapter method (`WLogExt`);
- `Quiet`: a handler that defers nothing keeps its session's id and deadline, only appends to the log and only
  drops deferred actions: every handler but `PaymentOffer` and `validateOffer` (`keeps_quiet_setupEscrow`, …),
  and the RPC frame around them (`keeps_quiet_locked`);
- `Owns`: any handler adds only deferred actions of its own session (`keeps_owns_paymentOffer`,
  `keeps_owns_validateOffer`);
- `Served`: what an RPC does to its session; past the offer it is `Quiet` (`keeps_served_locked`).

On its own session, `validateOffer` defers at most one action, due a confirmation interval after a reading `now` of
the clock no later than the deadline (`validateOffer_retried`).
-/

namespace Tumblebit

/-! ## The log only grows -/

/-- The log at the end extends the log at the start. -/
def LogExt (l l' : List Effect) : Prop := l <+: l'

/-- The adapter method's log at the end extends the one at the start. -/
def WLogExt (w w' : WState) : Prop := w.log <+: w'.log

section Log

variable {α β : Type}

theorem keeps_logExt_bind {m : Prog (List Effect) α} {f : α → Prog (List Effect) β} (hm : Prog.Keeps LogExt m)
    (hf : ∀ a, Prog.Keeps LogExt (f a)) : Prog.Keeps LogExt (m >>= f) :=
  Prog.Keeps.bind (R := LogExt) (fun _ _ _ => List.IsPrefix.trans) hm hf

theorem keeps_logExt_ask (e : Effect) (f : Env → List Effect → α) : Prog.Keeps LogExt (ask e f) :=
  fun _ l => List.prefix_append l [e]

theorem keeps_logExt_randIntBelow (n : Nat) : Prog.Keeps LogExt (randIntBelow n) :=
  .ite (.throw List.prefix_refl _) (keeps_logExt_ask _ _)

theorem keeps_logExt_getAddress (internal : Bool) : Prog.Keeps LogExt (getAddress internal) :=
  keeps_logExt_bind (keeps_logExt_ask _ _) fun _ => .liftErr List.prefix_refl _ _

theorem keeps_logExt_puzzlePromises (C : Crypto) (pk : PuzzleKey) :
    ∀ sigs, Prog.Keeps LogExt (puzzlePromises C pk sigs)
  | [] => .pure List.prefix_refl _
  | _ :: sigs => keeps_logExt_bind (keeps_logExt_randIntBelow _) fun _ =>
    keeps_logExt_bind (.liftFault List.prefix_refl _ _) fun _ =>
    keeps_logExt_bind (keeps_logExt_puzzlePromises C pk sigs) fun _ => .pure List.prefix_refl _

theorem keeps_logExt_solutionPromises (C : Crypto) (pk : PuzzleKey) :
    ∀ puzzles, Prog.Keeps LogExt (solutionPromises C pk puzzles)
  | [] => .pure List.prefix_refl _
  | _ :: puzzles => keeps_logExt_bind (keeps_logExt_ask _ _) fun _ =>
    keeps_logExt_bind (.liftFault List.prefix_refl _ _) fun _ =>
    keeps_logExt_bind (keeps_logExt_solutionPromises C pk puzzles) fun _ => .pure List.prefix_refl _

theorem keeps_logExt_drawCookie (sessions : Cookie → Option Nat) : ∀ fuel, Prog.Keeps LogExt (drawCookie sessions fuel)
  | 0 => .pure List.prefix_refl _
  | fuel + 1 => keeps_logExt_bind (keeps_logExt_ask _ _) fun _ =>
    .ite (.pure List.prefix_refl _) (keeps_logExt_drawCookie sessions fuel)

theorem WLogExt.refl (w : WState) : WLogExt w w := List.prefix_refl _

theorem keeps_wLogExt_bind {m : Prog WState α} {f : α → Prog WState β} (hm : Prog.Keeps WLogExt m)
    (hf : ∀ a, Prog.Keeps WLogExt (f a)) : Prog.Keeps WLogExt (m >>= f) :=
  Prog.Keeps.bind (R := WLogExt) (fun _ _ _ => List.IsPrefix.trans) hm hf

theorem keeps_wLogExt_io {m : Prog (List Effect) α} (hm : Prog.Keeps LogExt m) : Prog.Keeps WLogExt (WState.io m) :=
  Prog.Keeps.focus_of hm fun _ _ h => h

theorem keeps_wLogExt_ask (e : Effect) (f : Env → List Effect → α) : Prog.Keeps WLogExt (WState.io (ask e f)) :=
  keeps_wLogExt_io (keeps_logExt_ask e f)

theorem keeps_wLogExt_modifyCon (f : Contract → Contract) : Prog.Keeps WLogExt (modifyCon f) :=
  .modify fun _ => WLogExt.refl _

/-- The contract replaced by what a method of it returned, then `k`. -/
theorem keeps_wLogExt_replace {w : String → String} {g : Contract → Except Fault Contract}
    {k : Contract → Prog WState β} (hk : ∀ c, Prog.Keeps WLogExt (k c)) :
    Prog.Keeps WLogExt (do let c ← liftFault w (g (← get).con); modifyCon fun _ => c; k c) :=
  keeps_wLogExt_bind (.get WLogExt.refl) fun _ => keeps_wLogExt_bind (.liftFault WLogExt.refl _ _) fun _ =>
    keeps_wLogExt_bind (keeps_wLogExt_modifyCon _) fun _ => hk _

theorem keeps_wLogExt_setAddressW (t : AddressRole) (a pk : String) : Prog.Keeps WLogExt (setAddressW t a pk) :=
  keeps_wLogExt_bind (.read WLogExt.refl) fun _ => keeps_wLogExt_bind (.get WLogExt.refl) fun _ =>
    keeps_wLogExt_bind (.liftErr WLogExt.refl _ _) fun _ => keeps_wLogExt_modifyCon _

theorem keeps_wLogExt_importEscrowScript : Prog.Keeps WLogExt Wallet.importEscrowScript :=
  keeps_wLogExt_bind (.get WLogExt.refl) fun _ => keeps_wLogExt_bind (keeps_wLogExt_ask _ _) fun _ =>
    keeps_wLogExt_bind (.liftErr WLogExt.refl _ _) fun _ => keeps_wLogExt_modifyCon _

theorem keeps_wLogExt_createEscrowTx : Prog.Keeps WLogExt Wallet.createEscrowTx :=
  keeps_wLogExt_bind (.get WLogExt.refl) fun _ =>
  keeps_wLogExt_bind (keeps_wLogExt_ask _ _) fun _ => keeps_wLogExt_bind (.liftErr WLogExt.refl _ _) fun _ =>
  keeps_wLogExt_bind (keeps_wLogExt_ask _ _) fun _ => keeps_wLogExt_bind (.liftErr WLogExt.refl _ _) fun _ =>
  keeps_wLogExt_modifyCon _

theorem keeps_wLogExt_createRefundTx : Prog.Keeps WLogExt Wallet.createRefundTx :=
  keeps_wLogExt_bind (keeps_wLogExt_io (keeps_logExt_getAddress _)) fun _ =>
  keeps_wLogExt_bind (keeps_wLogExt_setAddressW _ _ _) fun _ =>
  keeps_wLogExt_bind (.read WLogExt.refl) fun env =>
  keeps_wLogExt_replace (g := fun c => c.buildRefundTx env.lib) fun _ =>
  keeps_wLogExt_bind (keeps_wLogExt_ask _ _) fun _ => keeps_wLogExt_bind (.liftErr WLogExt.refl _ _) fun _ =>
  keeps_wLogExt_bind (keeps_wLogExt_modifyCon _) fun _ =>
  keeps_wLogExt_replace (g := fun c => c.addRefundScript env.lib) fun _ => .liftFault WLogExt.refl _ _

theorem keeps_wLogExt_createEscrow : Prog.Keeps WLogExt Wallet.createEscrow :=
  keeps_wLogExt_bind (keeps_wLogExt_io (keeps_logExt_getAddress _)) fun _ =>
  keeps_wLogExt_bind (keeps_wLogExt_setAddressW _ _ _) fun _ =>
  keeps_wLogExt_bind (.read WLogExt.refl) fun _ => keeps_wLogExt_bind (.get WLogExt.refl) fun _ =>
  keeps_wLogExt_bind (.liftErr WLogExt.refl _ _) fun _ => keeps_wLogExt_bind (keeps_wLogExt_modifyCon _) fun _ =>
  keeps_wLogExt_bind (.wrap _ keeps_wLogExt_createEscrowTx) fun _ => .wrap _ keeps_wLogExt_createRefundTx

theorem keeps_wLogExt_publishEscrow : Prog.Keeps WLogExt Wallet.publishEscrow :=
  keeps_wLogExt_bind (.get WLogExt.refl) fun _ => keeps_wLogExt_bind (keeps_wLogExt_ask _ _) fun _ =>
    keeps_wLogExt_bind (.liftErr WLogExt.refl _ _) fun _ => keeps_wLogExt_modifyCon _

theorem keeps_wLogExt_signHashes (hashes : List Bytes) : Prog.Keeps WLogExt (Wallet.signHashes hashes) :=
  keeps_wLogExt_bind (.get WLogExt.refl) fun _ => keeps_wLogExt_bind (keeps_wLogExt_ask _ _) fun _ =>
    .liftErr WLogExt.refl _ _

theorem keeps_wLogExt_validateOffer (h : Bytes) : Prog.Keeps WLogExt (Wallet.validateOffer h) := by
  refine keeps_wLogExt_bind (keeps_wLogExt_ask _ _) fun r => ?_
  rcases r with (_ | _) | ⟨_, _⟩
  · exact .pure WLogExt.refl _
  · exact .throw WLogExt.refl _
  refine .ite (.pure WLogExt.refl _) (keeps_wLogExt_bind (.read WLogExt.refl) fun env => ?_)
  split
  · exact .throw WLogExt.refl _
  refine keeps_wLogExt_bind (.liftFault WLogExt.refl _ _) fun _ => keeps_wLogExt_bind (.get WLogExt.refl) fun _ => ?_
  dsimp only
  exact .ite (.throw_bind WLogExt.refl _ _) (keeps_wLogExt_bind (.pure WLogExt.refl _) fun _ =>
    keeps_wLogExt_bind (keeps_wLogExt_modifyCon _) fun _ => .pure WLogExt.refl _)

theorem keeps_wLogExt_publishSolution (secrets : List Bytes) : Prog.Keeps WLogExt (Wallet.publishSolution secrets) :=
  keeps_wLogExt_bind (keeps_wLogExt_io (keeps_logExt_getAddress _)) fun _ =>
  keeps_wLogExt_bind (keeps_wLogExt_setAddressW _ _ _) fun _ =>
  keeps_wLogExt_bind (.read WLogExt.refl) fun env =>
  keeps_wLogExt_replace (g := fun c => c.buildRedeemTx env.C env.lib (secrets.length * (1 + 20))) fun _ =>
  keeps_wLogExt_bind (keeps_wLogExt_ask _ _) fun _ => keeps_wLogExt_bind (.liftErr WLogExt.refl _ _) fun _ =>
  keeps_wLogExt_bind (keeps_wLogExt_modifyCon _) fun _ =>
  keeps_wLogExt_replace (g := fun c => c.addRedeemScript env.lib secrets) fun _ =>
  keeps_wLogExt_bind (.liftFault WLogExt.refl _ _) fun _ =>
  keeps_wLogExt_bind (keeps_wLogExt_ask _ _) fun _ => keeps_wLogExt_bind (.liftErr WLogExt.refl _ _) fun _ =>
  keeps_wLogExt_modifyCon _

end Log

/-! ## Handlers that defer nothing -/

/-- What a computation that defers nothing does to the scheduling: it keeps the id of its session and the session's
deadline, only appends to the log and only drops deferred actions. -/
structure Quiet (c c' : Ctx) : Prop where
  sid : c'.sid = c.sid
  log : c.log <+: c'.log
  deadline : c'.sess.deadline = c.sess.deadline
  actions : List.Sublist c'.tb.actions c.tb.actions

section Quiet

variable {α β : Type} {a b d : Ctx}

theorem Quiet.of_eq (hs : b.sid = a.sid) (hl : b.log = a.log) (hd : b.sess.deadline = a.sess.deadline)
    (ha : b.tb.actions = a.tb.actions) : Quiet a b :=
  ⟨hs, hl ▸ List.prefix_refl _, hd, ha ▸ List.Sublist.refl _⟩

theorem Quiet.refl (c : Ctx) : Quiet c c := .of_eq rfl rfl rfl rfl

theorem Quiet.trans (h₁ : Quiet a b) (h₂ : Quiet b d) : Quiet a d :=
  ⟨h₂.sid.trans h₁.sid, h₁.log.trans h₂.log, h₂.deadline.trans h₁.deadline, h₂.actions.trans h₁.actions⟩

theorem keeps_quiet_bind {m : Prog Ctx α} {f : α → Prog Ctx β} (hm : Prog.Keeps Quiet m)
    (hf : ∀ x, Prog.Keeps Quiet (f x)) : Prog.Keeps Quiet (m >>= f) :=
  Prog.Keeps.bind (R := Quiet) (fun _ _ _ => Quiet.trans) hm hf

theorem keeps_quiet_modifySess {f : Session → Session} (hf : ∀ s, (f s).deadline = s.deadline) :
    Prog.Keeps Quiet (modifySess f) :=
  .modify fun c => .of_eq rfl rfl (hf c.sess) rfl

theorem keeps_quiet_modifyTb {f : Tumbler → Tumbler} (hf : ∀ tb, (f tb).actions = tb.actions) :
    Prog.Keeps Quiet (modifyTb f) :=
  .modify fun c => .of_eq rfl rfl rfl (hf c.tb)

theorem keeps_quiet_note (g : Session → Ghost) : Prog.Keeps Quiet (Ctx.note g) :=
  .modify fun _ => .of_eq rfl rfl rfl rfl

theorem keeps_quiet_io {m : Prog (List Effect) α} (hm : Prog.Keeps LogExt m) : Prog.Keeps Quiet (Ctx.io m) :=
  Prog.Keeps.focus_of hm fun _ _ h => ⟨rfl, h, rfl, List.Sublist.refl _⟩

theorem keeps_quiet_withContract {m : Prog WState α} (hm : Prog.Keeps WLogExt m) :
    Prog.Keeps Quiet (Ctx.withContract m) := by
  intro env c
  unfold Ctx.withContract
  split
  · exact Quiet.refl c
  · rename_i con _
    have h := hm env ⟨con, c.log⟩
    split <;> rename_i heq <;> rw [heq] at h <;> exact ⟨rfl, h, rfl, List.Sublist.refl _⟩

theorem keeps_quiet_getSess : Prog.Keeps Quiet getSess :=
  keeps_quiet_bind (.get Quiet.refl) fun _ => .pure Quiet.refl _

theorem keeps_quiet_readyOrFail (n : Nat) : Prog.Keeps Quiet (readyOrFail n) :=
  keeps_quiet_bind keeps_quiet_getSess fun _ => .liftErr Quiet.refl _ _

theorem keeps_quiet_latch (n : Nat) : Prog.Keeps Quiet (Session.latch n) :=
  keeps_quiet_bind (keeps_quiet_modifySess fun _ => rfl) fun _ => keeps_quiet_note _

theorem keeps_quiet_epochPuzzleKey : Prog.Keeps Quiet Session.epochPuzzleKey :=
  keeps_quiet_bind (keeps_quiet_note _) fun _ => keeps_quiet_bind (.get Quiet.refl) fun _ => .pure Quiet.refl _

theorem keeps_quiet_contractOrPanic : Prog.Keeps Quiet contractOrPanic :=
  keeps_quiet_bind keeps_quiet_getSess fun _ => by
    split
    exacts [.pure Quiet.refl _, .throw Quiet.refl _]

theorem keeps_quiet_getEpochAddress (h : Int) : Prog.Keeps Quiet (Tumbler.getEpochAddress h) :=
  keeps_quiet_bind (.get Quiet.refl) fun _ => by
    dsimp only
    split
    · exact .throw Quiet.refl _
    · exact .ite (.pure Quiet.refl _) <| .ite (.throw Quiet.refl _) <|
        keeps_quiet_bind (keeps_quiet_io (keeps_logExt_getAddress _)) fun _ =>
        keeps_quiet_bind (keeps_quiet_modifyTb fun _ => rfl) fun _ => .pure Quiet.refl _

/-- `Disconnect` drops the session's deferred actions. -/
theorem keeps_quiet_disconnect : Prog.Keeps Quiet Tumbler.disconnect :=
  Prog.Keeps.get_bind fun _ c => ⟨rfl, List.prefix_refl _, rfl, by
    show List.Sublist (if c.sess.explist then _ else _ : Tumbler).actions _
    split <;> exact List.filter_sublist _⟩

theorem keeps_quiet_finalizeExchange (r : Nat) : Prog.Keeps Quiet (Session.finalizeExchange r) :=
  keeps_quiet_bind (keeps_quiet_note _) fun _ => keeps_quiet_bind keeps_quiet_getSess fun _ =>
    .ite (.throw Quiet.refl _) <| .ite (.pure Quiet.refl _) <|
    keeps_quiet_bind (keeps_quiet_modifySess fun _ => rfl) fun _ => keeps_quiet_disconnect

theorem keeps_quiet_failWith (e : String) : Prog.Keeps Quiet (Session.failWith e) :=
  keeps_quiet_bind (keeps_quiet_modifySess fun _ => rfl) fun _ => keeps_quiet_finalizeExchange _

theorem keeps_quiet_orFail {m : Prog Ctx α} {k : α → Prog Ctx Unit} (hm : Prog.Keeps Quiet m)
    (hk : ∀ x, Prog.Keeps Quiet (k x)) : Prog.Keeps Quiet (Session.orFail m k) :=
  Session.orFail_keeps hm hk keeps_quiet_failWith (fun _ _ => id) fun _ _ _ => Quiet.trans

theorem keeps_quiet_walletValidateOffer (h : Bytes) : Prog.Keeps Quiet (Session.walletValidateOffer h) :=
  keeps_quiet_bind (keeps_quiet_withContract (keeps_wLogExt_validateOffer _)) fun _ =>
    .ite (keeps_quiet_bind (keeps_quiet_note _) fun _ => .pure Quiet.refl _) (.pure Quiet.refl _)

theorem keeps_quiet_revealSolution (po : PaymentOfferReq) : Prog.Keeps Quiet (Session.revealSolution po) :=
  keeps_quiet_bind keeps_quiet_epochPuzzleKey fun _ => keeps_quiet_bind (.liftErr Quiet.refl _ _) fun _ =>
    keeps_quiet_bind keeps_quiet_getSess fun _ => keeps_quiet_bind (.liftFault Quiet.refl _ _) fun _ =>
    .liftFault Quiet.refl _ _

theorem keeps_quiet_publishSolution (secrets : List Bytes) : Prog.Keeps Quiet (Session.publishSolution secrets) :=
  keeps_quiet_bind (keeps_quiet_note _) fun _ =>
  keeps_quiet_bind (.wrap _ (keeps_quiet_withContract (keeps_wLogExt_publishSolution _))) fun _ =>
  keeps_quiet_bind (keeps_quiet_latch _) fun _ => keeps_quiet_finalizeExchange _

/-! ### The handlers -/

theorem keeps_quiet_setupEscrow (er : EscrowRequest) : Prog.Keeps Quiet (Session.setupEscrow er) := by
  refine keeps_quiet_bind (keeps_quiet_readyOrFail _) fun _ => keeps_quiet_bind (.get Quiet.refl) fun _ =>
    keeps_quiet_bind (.liftErr Quiet.refl _ _) fun _ => ?_
  split
  · exact keeps_quiet_bind (keeps_quiet_modifySess fun _ => rfl) fun _ => .throw Quiet.refl _
  refine keeps_quiet_bind (keeps_quiet_modifySess fun _ => rfl) fun _ =>
    keeps_quiet_bind (keeps_quiet_withContract (keeps_wLogExt_setAddressW _ _ _)) fun _ =>
    keeps_quiet_bind (keeps_quiet_withContract keeps_wLogExt_createEscrow) fun _ =>
    keeps_quiet_bind (keeps_quiet_modifySess fun _ => rfl) fun _ =>
    keeps_quiet_bind (keeps_quiet_latch _) fun _ => keeps_quiet_bind keeps_quiet_contractOrPanic fun _ => ?_
  split
  exacts [.throw Quiet.refl _, .pure Quiet.refl _]

theorem keeps_quiet_signChallengeHashes (hashes : List Bytes) :
    Prog.Keeps Quiet (Session.signChallengeHashes hashes) :=
  keeps_quiet_withContract (keeps_wLogExt_signHashes _)

theorem keeps_quiet_getPuzzlePromises (cp : SignatureChallenges) : Prog.Keeps Quiet (Session.getPuzzlePromises cp) :=
  keeps_quiet_bind (keeps_quiet_readyOrFail _) fun _ => keeps_quiet_bind keeps_quiet_epochPuzzleKey fun _ =>
    keeps_quiet_bind (.liftErr Quiet.refl _ _) fun _ => keeps_quiet_bind (.read Quiet.refl) fun _ =>
    keeps_quiet_bind (keeps_quiet_io (keeps_logExt_puzzlePromises _ _ _)) fun _ =>
    keeps_quiet_bind (keeps_quiet_modifySess fun _ => rfl) fun _ =>
    keeps_quiet_bind (keeps_quiet_latch _) fun _ => .pure Quiet.refl _

theorem keeps_quiet_validatePuzzles (cd : TransactionDisclosure) : Prog.Keeps Quiet (Session.validatePuzzles cd) :=
  keeps_quiet_bind (keeps_quiet_readyOrFail _) fun _ => keeps_quiet_bind (.liftErr Quiet.refl _ _) fun _ =>
    keeps_quiet_bind (.liftErr Quiet.refl _ _) fun _ => keeps_quiet_bind keeps_quiet_getSess fun _ =>
    keeps_quiet_bind (.liftErr Quiet.refl _ _) fun _ => keeps_quiet_bind keeps_quiet_epochPuzzleKey fun _ =>
    keeps_quiet_bind (.liftErr Quiet.refl _ _) fun _ => keeps_quiet_bind (.read Quiet.refl) fun _ =>
    keeps_quiet_bind (.liftFault Quiet.refl _ _) fun ⟨_, _⟩ =>
    keeps_quiet_bind (keeps_quiet_modifySess fun _ => rfl) fun _ =>
    keeps_quiet_bind (keeps_quiet_latch _) fun _ => .pure Quiet.refl _

theorem keeps_quiet_finalizeEscrow : Prog.Keeps Quiet Session.finalizeEscrow :=
  keeps_quiet_bind (keeps_quiet_readyOrFail _) fun _ => keeps_quiet_bind (keeps_quiet_note _) fun _ =>
    keeps_quiet_bind (.wrap _ (keeps_quiet_withContract keeps_wLogExt_publishEscrow)) fun _ =>
    keeps_quiet_bind (keeps_quiet_latch _) fun _ => keeps_quiet_bind keeps_quiet_contractOrPanic fun _ =>
    keeps_quiet_bind (keeps_quiet_finalizeExchange _) fun _ => .pure Quiet.refl _

theorem keeps_quiet_getSolutionPromises (sc : SolutionChallenges) :
    Prog.Keeps Quiet (Session.getSolutionPromises sc) :=
  keeps_quiet_bind (keeps_quiet_readyOrFail _) fun _ => keeps_quiet_bind (.get Quiet.refl) fun _ =>
    keeps_quiet_bind (.liftErr Quiet.refl _ _) fun _ => keeps_quiet_bind (.read Quiet.refl) fun _ =>
    keeps_quiet_bind (keeps_quiet_io (keeps_logExt_solutionPromises _ _ _)) fun _ =>
    keeps_quiet_bind (keeps_quiet_modifySess fun _ => rfl) fun _ =>
    keeps_quiet_bind (keeps_quiet_latch _) fun _ => .pure Quiet.refl _

theorem keeps_quiet_validateSolutions (pd : PuzzleDisclosure) : Prog.Keeps Quiet (Session.validateSolutions pd) :=
  keeps_quiet_bind (keeps_quiet_readyOrFail _) fun _ => keeps_quiet_bind (.liftErr Quiet.refl _ _) fun _ =>
    keeps_quiet_bind keeps_quiet_getSess fun _ => keeps_quiet_bind (.liftErr Quiet.refl _ _) fun _ =>
    keeps_quiet_bind keeps_quiet_epochPuzzleKey fun _ => keeps_quiet_bind (.liftErr Quiet.refl _ _) fun _ =>
    keeps_quiet_bind (.liftFault Quiet.refl _ _) fun _ => keeps_quiet_bind (.liftFault Quiet.refl _ _) fun _ =>
    keeps_quiet_bind (keeps_quiet_latch _) fun _ => .pure Quiet.refl _

/-! ### The RPC frame -/

theorem Prog.Keeps.attempt {σ : Type} {R : σ → σ → Prop} {m : Prog σ α} (hm : Prog.Keeps R m) :
    Prog.Keeps R (Prog.attempt m) := by
  intro env s
  have h := hm env s
  unfold Prog.attempt
  revert h
  rcases m env s with _ | ⟨_ | _, _⟩ <;> exact id

/-- `m` with `defer fin` keeps `R` when `m` keeps `R₁`, `fin` keeps `R₂`, and `R₁` then `R₂` is `R`. -/
theorem Prog.Keeps.deferring_of {σ : Type} {R R₁ R₂ : σ → σ → Prop} {m : Prog σ α} {fin : Prog σ Unit}
    (hm : Prog.Keeps R₁ m) (hfin : Prog.Keeps R₂ fin) (hcomp : ∀ a b c, R₁ a b → R₂ b c → R a c) :
    Prog.Keeps R (Prog.deferring m fin) := by
  intro env s
  have h := hm env s
  unfold Prog.deferring
  revert h
  cases m env s <;> rename_i s' <;> intro h <;> dsimp only <;> have h' := hfin env s' <;> revert h' <;>
    cases fin env s' <;> exact hcomp _ _ _ h

theorem Prog.Keeps.deferring {σ : Type} {R : σ → σ → Prop} (hT : ∀ a b c, R a b → R b c → R a c)
    {m : Prog σ α} {fin : Prog σ Unit} (hm : Prog.Keeps R m) (hfin : Prog.Keeps R fin) :
    Prog.Keeps R (Prog.deferring m fin) :=
  Prog.Keeps.deferring_of hm hfin hT

theorem keeps_quiet_tryLock : Prog.Keeps Quiet Session.tryLock :=
  keeps_quiet_bind keeps_quiet_getSess fun _ =>
    .ite (.pure Quiet.refl _) (keeps_quiet_bind (keeps_quiet_modifySess fun _ => rfl) fun _ => .pure Quiet.refl _)

theorem keeps_quiet_unlock : Prog.Keeps Quiet Session.unlock :=
  keeps_quiet_bind keeps_quiet_getSess fun _ => keeps_quiet_bind (keeps_quiet_modifySess fun _ => rfl) fun _ =>
    .ite (.throw Quiet.refl _) (.pure Quiet.refl _)

/-- The frame `withSession` runs a body in: `TryLock`, the body, and the deferred `Unlock`. -/
theorem keeps_quiet_locked {body : Prog Ctx α} (hb : Prog.Keeps Quiet body) :
    Prog.Keeps Quiet (do if (← Session.tryLock) then Prog.deferring body Session.unlock else throw errInProgress) :=
  keeps_quiet_bind keeps_quiet_tryLock fun _ =>
    .ite (Prog.Keeps.deferring (R := Quiet) (fun _ _ _ => Quiet.trans) hb keeps_quiet_unlock) (.throw Quiet.refl _)

end Quiet

/-! ## Handlers that defer -/

/-- What every computation on a session does to the scheduling: it keeps the id of its session, only appends to the
log, and the deferred actions it adds are its own session's. -/
structure Owns (c c' : Ctx) : Prop where
  sid : c'.sid = c.sid
  log : c.log <+: c'.log
  actions : ∃ new, List.Sublist c'.tb.actions (c.tb.actions ++ new) ∧ ∀ x ∈ new, x.session = c.sid

section Owns

variable {α β : Type} {a b d : Ctx}

theorem Quiet.owns (h : Quiet a b) : Owns a b :=
  ⟨h.sid, h.log, [], by rw [List.append_nil]; exact h.actions, fun _ h => absurd h (List.not_mem_nil _)⟩

theorem Owns.trans (h₁ : Owns a b) (h₂ : Owns b d) : Owns a d := by
  obtain ⟨new₁, s₁, n₁⟩ := h₁.actions
  obtain ⟨new₂, s₂, n₂⟩ := h₂.actions
  refine ⟨h₂.sid.trans h₁.sid, h₁.log.trans h₂.log, new₁ ++ new₂, ?_, fun x hx => ?_⟩
  · rw [← List.append_assoc]
    exact s₂.trans (s₁.append_right new₂)
  · rcases List.mem_append.1 hx with hx | hx
    exacts [n₁ x hx, (n₂ x hx).trans h₁.sid]

theorem keeps_owns_bind {m : Prog Ctx α} {f : α → Prog Ctx β} (hm : Prog.Keeps Owns m)
    (hf : ∀ x, Prog.Keeps Owns (f x)) : Prog.Keeps Owns (m >>= f) :=
  Prog.Keeps.bind (R := Owns) (fun _ _ _ => Owns.trans) hm hf

theorem keeps_owns_of_quiet {m : Prog Ctx α} (hm : Prog.Keeps Quiet m) : Prog.Keeps Owns m :=
  hm.mono fun _ _ => Quiet.owns

/-- `DeferAction` adds an action of the handler's own session. -/
theorem keeps_owns_deferAction (po : PaymentOfferReq) (t : Nat) : Prog.Keeps Owns (Tumbler.deferAction po t) :=
  Prog.Keeps.get_bind fun _ c => ⟨rfl, List.prefix_refl _, [⟨c.sid, po, t⟩], List.Sublist.refl _, by simp⟩

theorem keeps_owns_orFail {m : Prog Ctx α} {k : α → Prog Ctx Unit} (hm : Prog.Keeps Owns m)
    (hk : ∀ x, Prog.Keeps Owns (k x)) : Prog.Keeps Owns (Session.orFail m k) :=
  Session.orFail_keeps hm hk (fun _ => keeps_owns_of_quiet (keeps_quiet_failWith _)) (fun _ _ => id)
    fun _ _ _ => Owns.trans

theorem keeps_owns_validateOffer (po : PaymentOfferReq) : Prog.Keeps Owns (Session.validateOffer po) :=
  keeps_owns_orFail (keeps_owns_of_quiet (keeps_quiet_readyOrFail _)) fun _ =>
  keeps_owns_orFail (keeps_owns_of_quiet (.wrap _ (keeps_quiet_walletValidateOffer _))) fun _ =>
  keeps_owns_bind (keeps_owns_of_quiet (keeps_quiet_io (keeps_logExt_ask _ _))) fun _ =>
  keeps_owns_bind (keeps_owns_of_quiet keeps_quiet_getSess) fun _ =>
  .ite (keeps_owns_of_quiet (keeps_quiet_failWith _)) <| .ite (keeps_owns_deferAction _ _) <| keeps_owns_of_quiet <|
  keeps_quiet_bind keeps_quiet_getSess fun _ => keeps_quiet_bind (.liftFault Quiet.refl _ _) fun _ =>
  keeps_quiet_orFail (keeps_quiet_revealSolution po) fun _ =>
  keeps_quiet_orFail (keeps_quiet_publishSolution _) fun _ => .pure Quiet.refl _

theorem keeps_owns_modifySess (f : Session → Session) : Prog.Keeps Owns (modifySess f) :=
  .modify fun _ => ⟨rfl, List.prefix_refl _, [], by rw [List.append_nil], fun _ h => absurd h (List.not_mem_nil _)⟩

/-- `PaymentOffer` defers `validateOffer` or runs it at once. -/
theorem keeps_owns_paymentOffer (po : PaymentOfferReq) : Prog.Keeps Owns (Session.paymentOffer po) := by
  refine keeps_owns_bind (keeps_owns_of_quiet (keeps_quiet_readyOrFail _)) fun _ => ?_
  dsimp only
  split
  case h_2 => exact keeps_owns_of_quiet <| keeps_quiet_bind (keeps_quiet_modifySess fun _ => rfl) fun _ =>
    .throw_bind Quiet.refl _ _
  refine keeps_owns_bind (keeps_owns_of_quiet (.pure Quiet.refl _)) fun _ =>
    keeps_owns_bind (keeps_owns_modifySess _) fun _ => keeps_owns_bind (keeps_owns_of_quiet keeps_quiet_getSess) fun _ =>
    keeps_owns_bind (keeps_owns_of_quiet (.liftErr Quiet.refl _ _)) fun _ => ?_
  split
  case h_1 => exact keeps_owns_bind (keeps_owns_modifySess _) fun _ => keeps_owns_of_quiet (.throw Quiet.refl _)
  refine keeps_owns_bind (keeps_owns_modifySess _) fun _ =>
    keeps_owns_bind (keeps_owns_of_quiet (keeps_quiet_withContract (keeps_wLogExt_setAddressW _ _ _))) fun _ =>
    keeps_owns_bind (keeps_owns_of_quiet (.wrap _ (keeps_quiet_getEpochAddress _))) fun ⟨_, _⟩ =>
    keeps_owns_bind (keeps_owns_of_quiet (keeps_quiet_withContract (keeps_wLogExt_setAddressW _ _ _))) fun _ =>
    keeps_owns_bind (keeps_owns_of_quiet (keeps_quiet_withContract (keeps_wLogExt_modifyCon _))) fun _ =>
    keeps_owns_bind (keeps_owns_of_quiet (.wrap _ (keeps_quiet_withContract keeps_wLogExt_importEscrowScript)))
      fun _ =>
    keeps_owns_bind (keeps_owns_of_quiet (keeps_quiet_latch _)) fun _ =>
    keeps_owns_bind (keeps_owns_of_quiet (.wrap _ (keeps_quiet_walletValidateOffer _))) fun _ =>
    .ite (keeps_owns_bind (keeps_owns_of_quiet (keeps_quiet_io (keeps_logExt_ask _ _))) fun _ =>
      keeps_owns_bind (keeps_owns_modifySess _) fun _ => keeps_owns_deferAction _ _) <|
    keeps_owns_bind (keeps_owns_validateOffer po) fun _ =>
    keeps_owns_bind (keeps_owns_of_quiet keeps_quiet_getSess) fun _ => ?_
  split
  exacts [keeps_owns_of_quiet (.throw Quiet.refl _), keeps_owns_of_quiet (.pure Quiet.refl _)]

end Owns

/-! ## `validateOffer` on its own session -/

/-- What `validateOffer` does to the scheduling of its session under the clock of `env`: it keeps the session's id and
deadline, only appends to the log, and adds at most one deferred action, of its session, due a confirmation interval
after a reading of the clock taken past the start and no later than the deadline. -/
structure Retried (env : Env) (po : PaymentOfferReq) (c c' : Ctx) : Prop where
  sid : c'.sid = c.sid
  log : c.log <+: c'.log
  deadline : c'.sess.deadline = c.sess.deadline
  actions : List.Sublist c'.tb.actions c.tb.actions ∨ ∃ l, c.log <+: l ∧ env.clock l ≤ c.sess.deadline ∧
    List.Sublist c'.tb.actions (c.tb.actions ++ [⟨c.sid, po, env.clock l + confirmationInterval⟩])

section Retried

variable {env : Env} {po : PaymentOfferReq} {a b d : Ctx}

theorem Retried.of_quiet (h : Quiet a b) : Retried env po a b := ⟨h.sid, h.log, h.deadline, .inl h.actions⟩

theorem Quiet.trans_retried (h₁ : Quiet a b) (h₂ : Retried env po b d) : Retried env po a d := by
  refine ⟨h₂.sid.trans h₁.sid, h₁.log.trans h₂.log, h₂.deadline.trans h₁.deadline, ?_⟩
  rcases h₂.actions with h | ⟨l, hl, hd, h⟩
  · exact .inl (h.trans h₁.actions)
  · refine .inr ⟨l, h₁.log.trans hl, h₁.deadline ▸ hd, ?_⟩
    rw [← h₁.sid]
    exact h.trans (h₁.actions.append_right _)

theorem Ctx.io_timeNow_run (env : Env) (c : Ctx) :
    Ctx.io timeNow env c = .ok (env.clock c.log) { c with log := c.log ++ [.now] } := rfl

/-- **`validateOffer` reschedules at most once.** It fails, publishes the solution, or defers itself a confirmation
interval after a reading `now` of the clock with `now ≤ deadline`. -/
theorem validateOffer_retried (env : Env) (po : PaymentOfferReq) (c : Ctx) :
    Retried env po c (resultState (Session.validateOffer po env c)) := by
  rw [Session.validateOffer, Session.orFail_run, readyOrFail_run]
  cases c.sess.ready stateSolutionPublished with
  | error e => exact .of_quiet (keeps_quiet_failWith _ env c)
  | ok _ =>
    dsimp only
    rw [Session.orFail_run]
    have hw := Prog.Keeps.wrap "failed to validate offer tx: " (keeps_quiet_walletValidateOffer po.escrowHash) env c
    revert hw
    cases Prog.wrap "failed to validate offer tx: " (Session.walletValidateOffer po.escrowHash) env c with
    | error e c₁ =>
      rcases e with e | e
      · exact fun hw => hw.trans_retried (.of_quiet (keeps_quiet_failWith _ env c₁))
      · exact fun hw => .of_quiet hw
    | ok valid c₁ =>
      intro hw
      dsimp only
      refine hw.trans_retried ?_
      have hnow : Quiet c₁ { c₁ with log := c₁.log ++ [.now] } := ⟨rfl, List.prefix_append _ _, rfl, List.Sublist.refl _⟩
      rw [Prog.bind_run, Ctx.io_timeNow_run]
      dsimp only
      rw [Prog.bind_run, getSess_run]
      dsimp only
      split
      · exact .of_quiet (hnow.trans (keeps_quiet_failWith _ env _))
      split
      · rename_i hlate hvalid
        refine ⟨rfl, List.prefix_append _ _, rfl, .inr ⟨c₁.log, List.prefix_refl _, ?_, List.Sublist.refl _⟩⟩
        simpa only [hvalid, true_and, Nat.not_lt] using hlate
      · exact .of_quiet <| hnow.trans <| (keeps_quiet_bind keeps_quiet_getSess fun _ =>
          keeps_quiet_bind (.liftFault Quiet.refl _ _) fun _ =>
          keeps_quiet_orFail (keeps_quiet_revealSolution po) fun _ =>
          keeps_quiet_orFail (keeps_quiet_publishSolution _) fun _ => .pure Quiet.refl _) env _

end Retried

/-! ## Sessions past the offer -/

/-- The states of a session whose offer was received: `OfferReceived` and the final `SolutionPublished`. -/
def PastOfferState (st : Nat) : Prop := stateOfferReceived ≤ st ∧ st ≤ stateSolutionPublished

/-- The abstract session never leaves the states past the offer. -/
theorem Trace.pastOfferState {a b : Nat} {e e' : Int} {gs : List Ghost} (t : Trace a e gs b e')
    (ha : PastOfferState a) : PastOfferState b := by
  induction t with
  | nil => exact ha
  | quiet _ _ ih => exact ih ha
  | latch hr _ ih =>
    refine ih ?_
    simp only [readyFrom_ok_iff, PastOfferState, stateOfferReceived, stateSolutionPublished] at hr ha ⊢
    omega
  | setEpoch _ _ ih => exact ih ha

/-- A step of a session past the offer defers nothing and stays past the offer. -/
def PastOffer (c c' : Ctx) : Prop := PastOfferState c.sess.state → Quiet c c' ∧ PastOfferState c'.sess.state

/-- What an RPC does to its session: it adds only actions of its own, and past the offer it defers nothing. -/
def Served (c c' : Ctx) : Prop := Owns c c' ∧ PastOffer c c'

section Served

variable {α β : Type} {a b d : Ctx}

theorem Served.refl (c : Ctx) : Served c c := ⟨(Quiet.refl c).owns, fun h => ⟨Quiet.refl c, h⟩⟩

theorem Served.trans (h₁ : Served a b) (h₂ : Served b d) : Served a d :=
  ⟨h₁.1.trans h₂.1, fun h =>
    let ⟨q₁, h₁'⟩ := h₁.2 h
    let ⟨q₂, h₂'⟩ := h₂.2 h₁'
    ⟨q₁.trans q₂, h₂'⟩⟩

/-- A step that defers nothing and follows the abstract session. -/
theorem Served.of (hq : Quiet a b) (ht : Traced a b) : Served a b :=
  ⟨hq.owns, fun h => ⟨hq, let ⟨_, _, t⟩ := ht; t.pastOfferState h⟩⟩

theorem keeps_served_bind {m : Prog Ctx α} {f : α → Prog Ctx β} (hm : Prog.Keeps Served m)
    (hf : ∀ x, Prog.Keeps Served (f x)) : Prog.Keeps Served (m >>= f) :=
  Prog.Keeps.bind (R := Served) (fun _ _ _ => Served.trans) hm hf

theorem keeps_served_of {m : Prog Ctx α} (hq : Prog.Keeps Quiet m) (ht : Prog.Keeps Traced m) :
    Prog.Keeps Served m :=
  fun env c => .of (hq env c) (ht env c)

theorem keeps_served_of_frame {m : Prog Ctx α} (hq : Prog.Keeps Quiet m) (hf : Prog.Keeps Frame m) :
    Prog.Keeps Served m :=
  keeps_served_of hq (keeps_traced_of_frame hf)

/-- `PaymentOffer` past the offer fails its state check before it touches anything. -/
theorem keeps_served_paymentOffer (po : PaymentOfferReq) : Prog.Keeps Served (Session.paymentOffer po) := by
  refine fun env c => ⟨keeps_owns_paymentOffer po env c, fun hc => ?_⟩
  have hr : c.sess.ready stateOfferReceived ≠ .ok () := by
    simp only [Session.ready, ne_eq, readyFrom_ok_iff, PastOfferState, stateOfferReceived,
      stateSolutionPublished] at hc ⊢
    omega
  rw [Session.paymentOffer, Prog.bind_run, readyOrFail_run]
  cases h : c.sess.ready stateOfferReceived with
  | error => exact ⟨Quiet.refl c, hc⟩
  | ok => exact absurd h hr

theorem keeps_served_finalizeExchange {r : Nat} (hr : r ≠ reasonSuccess) :
    Prog.Keeps Served (Session.finalizeExchange r) :=
  keeps_served_of_frame (keeps_quiet_finalizeExchange r) (keeps_frame_finalizeExchange hr)

theorem keeps_served_guard {r : Nat} (hr : r ≠ reasonSuccess) (status : Fault) {m : Prog Ctx α}
    (hm : Prog.Keeps Served m) : Prog.Keeps Served (Server.guard r status m) :=
  keeps_served_bind hm.attempt fun x => by
    rcases x with _ | _
    exacts [keeps_served_bind (keeps_served_finalizeExchange hr) fun _ => .throw Served.refl _, .pure Served.refl _]

theorem keeps_frame_tryLock : Prog.Keeps Frame Session.tryLock :=
  keeps_frame_bind keeps_frame_getSess fun _ =>
    .ite (.pure Frame.refl _) (keeps_frame_bind (keeps_frame_modifySess fun _ => ⟨rfl, rfl⟩) fun _ => .pure Frame.refl _)

theorem keeps_frame_unlock : Prog.Keeps Frame Session.unlock :=
  keeps_frame_bind keeps_frame_getSess fun _ => keeps_frame_bind (keeps_frame_modifySess fun _ => ⟨rfl, rfl⟩) fun _ =>
    .ite (.throw Frame.refl _) (.pure Frame.refl _)

/-- `withSession`'s frame: `TryLock`, the body, and the deferred `Unlock`. -/
theorem keeps_served_locked {body : Prog Ctx α} (hb : Prog.Keeps Served body) :
    Prog.Keeps Served (do if (← Session.tryLock) then Prog.deferring body Session.unlock else throw errInProgress) :=
  keeps_served_bind (keeps_served_of_frame keeps_quiet_tryLock keeps_frame_tryLock) fun _ =>
    .ite (Prog.Keeps.deferring (R := Served) (fun _ _ _ => Served.trans) hb <|
      keeps_served_of_frame keeps_quiet_unlock keeps_frame_unlock) (.throw Served.refl _)

end Served

end Tumblebit
