import Tumblebit.Tumbler.Run
import Tumblebit.Tumbler.Trace

/-!
# The handlers refine the abstract session

Every call on a session notes ghost events that form a trace of the abstract session
(`Tumblebit.Tumbler.Trace`) from the state and epoch it started in to those it ended in:
`Call.run_traced`. The proof goes one primitive at a time (`Prog.Keeps`), and one lemma per handler
(`keeps_traced_setupEscrow`, …), with three relations between the start and the end of a computation:

- `Frame`: the state and the epoch are unchanged and every event noted is quiet; every computation
  that neither latches nor writes the epoch keeps it;
- `Traced`: the events noted are a trace; every handler keeps it;
- `Guarded P R`: `R`, for a start in a state with `P`. After `ready(n)` passed, the rest of a handler
  keeps `Guarded (readyFrom · n = .ok ()) Traced`: the latch to `n` is the approved one, a handler
  that writes the epoch does so while opening a role, and one that reads it runs past the opening.
  After a final state is latched, `Guarded IsFinal Traced` covers `FinalizeExchange(ReasonSuccess)`.

`runCalls_traced` extends this to whole runs, and `session_state_machine` reads off a run from a
fresh session what the state machine promises.
-/

namespace Tumblebit

/-! ## Three relations -/

/-- The state and the epoch unchanged, and every event noted quiet there. -/
def Frame (c c' : Ctx) : Prop :=
  c'.sess.state = c.sess.state ∧ c'.sess.epoch = c.sess.epoch ∧
    ∃ gs, c'.ghost = c.ghost ++ gs ∧ ∀ g ∈ gs, g.QuietAt c.sess.state c.sess.epoch

/-- The events noted are a trace of the abstract session from the start to the end. -/
def Traced (c c' : Ctx) : Prop :=
  ∃ gs, c'.ghost = c.ghost ++ gs ∧ Trace c.sess.state c.sess.epoch gs c'.sess.state c'.sess.epoch

/-- `R`, for a start in a state with `P`. -/
def Guarded (P : Nat → Prop) (R : Ctx → Ctx → Prop) (c c' : Ctx) : Prop := P c.sess.state → R c c'

section Relations

variable {a b c : Ctx}

theorem Frame.of_eq (hs : b.sess.state = a.sess.state) (he : b.sess.epoch = a.sess.epoch) (hg : b.ghost = a.ghost) :
    Frame a b :=
  ⟨hs, he, [], by rw [hg, List.append_nil], by simp⟩

theorem Frame.refl (c : Ctx) : Frame c c := .of_eq rfl rfl rfl

theorem Frame.trans (h₁ : Frame a b) (h₂ : Frame b c) : Frame a c := by
  obtain ⟨hs₁, he₁, gs₁, hg₁, hq₁⟩ := h₁
  obtain ⟨hs₂, he₂, gs₂, hg₂, hq₂⟩ := h₂
  refine ⟨hs₂.trans hs₁, he₂.trans he₁, gs₁ ++ gs₂, by rw [hg₂, hg₁, List.append_assoc], fun g hg => ?_⟩
  rcases List.mem_append.1 hg with hg | hg
  · exact hq₁ g hg
  · rw [← hs₁, ← he₁]
    exact hq₂ g hg

theorem Traced.refl (c : Ctx) : Traced c c := ⟨[], by simp, .nil _ _⟩

theorem Traced.of_frame (h : Frame a b) : Traced a b := by
  obtain ⟨hs, he, gs, hg, hq⟩ := h
  exact ⟨gs, hg, by rw [hs, he]; exact Trace.of_quiet hq⟩

theorem Traced.trans (h₁ : Traced a b) (h₂ : Traced b c) : Traced a c := by
  obtain ⟨gs₁, hg₁, t₁⟩ := h₁
  obtain ⟨gs₂, hg₂, t₂⟩ := h₂
  exact ⟨gs₁ ++ gs₂, by rw [hg₂, hg₁, List.append_assoc], t₁.append t₂⟩

end Relations

/-! ## Computations that neither latch nor write the epoch -/

section Frame

variable {α β : Type} {P : Nat → Prop}

theorem keeps_frame_bind {m : Prog Ctx α} {f : α → Prog Ctx β} (hm : Prog.Keeps Frame m)
    (hf : ∀ a, Prog.Keeps Frame (f a)) : Prog.Keeps Frame (m >>= f) :=
  Prog.Keeps.bind (R := Frame) (fun _ _ _ => Frame.trans) hm hf

theorem keeps_frame_io (m : Prog (List Effect) α) : Prog.Keeps Frame (Ctx.io m) :=
  Prog.Keeps.focus fun _ _ => Frame.refl _

theorem keeps_frame_withContract (m : Prog WState α) : Prog.Keeps Frame (Ctx.withContract m) := by
  intro env c
  unfold Ctx.withContract
  split
  · exact Frame.refl c
  · split <;> exact Frame.refl _

theorem keeps_frame_modifySess {f : Session → Session} (hf : ∀ s, (f s).state = s.state ∧ (f s).epoch = s.epoch) :
    Prog.Keeps Frame (modifySess f) :=
  Prog.Keeps.modify fun c => .of_eq (hf c.sess).1 (hf c.sess).2 rfl

theorem keeps_frame_modifyTb (f : Tumbler → Tumbler) : Prog.Keeps Frame (modifyTb f) :=
  Prog.Keeps.modify fun _ => Frame.refl _

/-- Noting an event that is quiet in every state with `P`. -/
theorem keeps_guarded_note {g : Session → Ghost} (hg : ∀ s, P s.state → (g s).QuietAt s.state s.epoch) :
    Prog.Keeps (Guarded P Frame) (Ctx.note g) :=
  fun _ c hP => ⟨rfl, rfl, [g c.sess], rfl, by simpa using hg c.sess hP⟩

theorem keeps_frame_note {g : Session → Ghost} (hg : ∀ s, (g s).QuietAt s.state s.epoch) :
    Prog.Keeps Frame (Ctx.note g) :=
  fun env c => keeps_guarded_note (P := fun _ => True) (fun s _ => hg s) env c trivial

theorem keeps_frame_getSess : Prog.Keeps Frame getSess :=
  keeps_frame_bind (Prog.Keeps.get Frame.refl) fun _ => Prog.Keeps.pure Frame.refl _

theorem keeps_frame_readyOrFail (n : Nat) : Prog.Keeps Frame (readyOrFail n) :=
  keeps_frame_bind keeps_frame_getSess fun _ => Prog.Keeps.liftErr Frame.refl _ _

theorem keeps_frame_disconnect : Prog.Keeps Frame Tumbler.disconnect :=
  Prog.Keeps.get_bind fun _ _ => .of_eq rfl rfl rfl

theorem keeps_frame_deferAction (po : PaymentOfferReq) (t : Nat) : Prog.Keeps Frame (Tumbler.deferAction po t) :=
  keeps_frame_bind (Prog.Keeps.get Frame.refl) fun _ => keeps_frame_modifyTb _

theorem keeps_guarded_of {R : Ctx → Ctx → Prop} {m : Prog Ctx α} (hm : Prog.Keeps R m) :
    Prog.Keeps (Guarded P R) m :=
  fun env c _ => hm env c

theorem keeps_guarded_frame_bind {m : Prog Ctx α} {f : α → Prog Ctx β} (hm : Prog.Keeps (Guarded P Frame) m)
    (hf : ∀ a, Prog.Keeps (Guarded P Frame) (f a)) : Prog.Keeps (Guarded P Frame) (m >>= f) :=
  Prog.Keeps.bind_of hm hf (fun _ _ => id) fun _ _ _ h₁ h₂ hP => (h₁ hP).trans (h₂ ((h₁ hP).1 ▸ hP))

/-- `FinalizeExchange` notes the state it is entered in; success requires it to be final. -/
theorem keeps_finalizeExchange (r : Nat) :
    Prog.Keeps (Guarded (fun a => r = reasonSuccess → IsFinal a) Frame) (Session.finalizeExchange r) :=
  keeps_guarded_frame_bind (keeps_guarded_note fun _ h => ⟨rfl, h⟩) fun _ => keeps_guarded_of <|
    keeps_frame_bind keeps_frame_getSess fun _ => .ite (.throw Frame.refl _) <| .ite (.pure Frame.refl _) <|
    keeps_frame_bind (keeps_frame_modifySess fun _ => ⟨rfl, rfl⟩) fun _ => keeps_frame_disconnect

theorem keeps_frame_finalizeExchange {r : Nat} (hr : r ≠ reasonSuccess) :
    Prog.Keeps Frame (Session.finalizeExchange r) :=
  fun env c => keeps_finalizeExchange r env c fun h => absurd h hr

theorem keeps_finalizeSuccess : Prog.Keeps (Guarded IsFinal Frame) (Session.finalizeExchange reasonSuccess) :=
  fun env c h => keeps_finalizeExchange _ env c fun _ => h

theorem keeps_frame_failWith (e : String) : Prog.Keeps Frame (Session.failWith e) :=
  keeps_frame_bind (keeps_frame_modifySess fun _ => ⟨rfl, rfl⟩) fun _ => keeps_frame_finalizeExchange (by decide)

theorem keeps_frame_contractOrPanic : Prog.Keeps Frame contractOrPanic :=
  keeps_frame_bind keeps_frame_getSess fun _ => by
    split
    exacts [.pure Frame.refl _, .throw Frame.refl _]

theorem keeps_frame_getEpochAddress (h : Int) : Prog.Keeps Frame (Tumbler.getEpochAddress h) :=
  keeps_frame_bind (.get Frame.refl) fun _ => by
    dsimp only
    split
    · exact .throw Frame.refl _
    · exact .ite (.pure Frame.refl _) <| .ite (.throw Frame.refl _) <| keeps_frame_bind (keeps_frame_io _) fun _ =>
        keeps_frame_bind (keeps_frame_modifyTb _) fun _ => .pure Frame.refl _

theorem keeps_frame_walletValidateOffer (h : Bytes) : Prog.Keeps Frame (Session.walletValidateOffer h) :=
  keeps_frame_bind (keeps_frame_withContract _) fun _ =>
    .ite (keeps_frame_bind (keeps_frame_note fun _ => trivial) fun _ => .pure Frame.refl _) (.pure Frame.refl _)

/-- `getPuzzleKey(s.epoch)`, read past the opening of a role. -/
theorem keeps_epochPuzzleKey (hP : ∀ a, P a → ¬ Opens a) : Prog.Keeps (Guarded P Frame) Session.epochPuzzleKey :=
  keeps_guarded_frame_bind (keeps_guarded_note fun _ h => ⟨rfl, rfl, hP _ h⟩) fun _ => keeps_guarded_of <|
    keeps_frame_bind (.get Frame.refl) fun _ => .pure Frame.refl _

theorem keeps_revealSolution (po : PaymentOfferReq) (hP : ∀ a, P a → ¬ Opens a) :
    Prog.Keeps (Guarded P Frame) (Session.revealSolution po) :=
  keeps_guarded_frame_bind (keeps_epochPuzzleKey hP) fun _ => keeps_guarded_of <|
    keeps_frame_bind (.liftErr Frame.refl _ _) fun _ => keeps_frame_bind keeps_frame_getSess fun _ =>
    keeps_frame_bind (.liftFault Frame.refl _ _) fun _ => .liftFault Frame.refl _ _

/-- `orFail` keeps `R` when its step keeps `R₁`, its continuation and `failWith` keep `R₂`, and `R₁`
alone or followed by `R₂` is `R`. -/
theorem Session.orFail_keeps {R R₁ R₂ : Ctx → Ctx → Prop} {m : Prog Ctx α} {k : α → Prog Ctx Unit}
    (hm : Prog.Keeps R₁ m) (hk : ∀ a, Prog.Keeps R₂ (k a)) (hf : ∀ e, Prog.Keeps R₂ (Session.failWith e))
    (hstop : ∀ a b, R₁ a b → R a b) (hcomp : ∀ a b c, R₁ a b → R₂ b c → R a c) :
    Prog.Keeps R (Session.orFail m k) := by
  intro env c
  have h := hm env c
  unfold Session.orFail
  split <;> rename_i heq <;> rw [heq] at h
  · exact hcomp _ _ _ h (hk _ _ _)
  · exact hcomp _ _ _ h (hf _ _ _)
  · exact hstop _ _ h

end Frame

/-! ## Latching, and whole handlers -/

section Traced

variable {α β : Type} {P : Nat → Prop} {n : Nat}

theorem keeps_traced_bind {m : Prog Ctx α} {f : α → Prog Ctx β} (hm : Prog.Keeps Traced m)
    (hf : ∀ a, Prog.Keeps Traced (f a)) : Prog.Keeps Traced (m >>= f) :=
  Prog.Keeps.bind (R := Traced) (fun _ _ _ => Traced.trans) hm hf

theorem keeps_traced_of_frame {m : Prog Ctx α} (hm : Prog.Keeps Frame m) : Prog.Keeps Traced m :=
  hm.mono fun _ _ => Traced.of_frame

theorem keeps_guarded_traced_of_frame {m : Prog Ctx α} (hm : Prog.Keeps (Guarded P Frame) m) :
    Prog.Keeps (Guarded P Traced) m :=
  hm.mono fun _ _ h hP => Traced.of_frame (h hP)

theorem keeps_guarded_traced_bind {m : Prog Ctx α} {f : α → Prog Ctx β} (hm : Prog.Keeps (Guarded P Frame) m)
    (hf : ∀ a, Prog.Keeps (Guarded P Traced) (f a)) : Prog.Keeps (Guarded P Traced) (m >>= f) :=
  Prog.Keeps.bind_of hm hf (fun _ _ h hP => Traced.of_frame (h hP))
    fun _ _ _ h₁ h₂ hP => (Traced.of_frame (h₁ hP)).trans (h₂ ((h₁ hP).1 ▸ hP))

/-- The latch to `n` after `ready(n)` passed, followed by what keeps `P` of `n`'s traces. -/
theorem keeps_latch_of {f : Unit → Prog Ctx β} (hn : P n) (hf : ∀ u, Prog.Keeps (Guarded P Traced) (f u)) :
    Prog.Keeps (Guarded (readyFrom · n = .ok ()) Traced) (Session.latch n >>= f) := by
  intro env c hr
  obtain ⟨gs, hg, t⟩ := hf () env { c with sess := { c.sess with state := n }, ghost := c.ghost ++ [.latch n] } hn
  simp only [Session.latch, modifySess, Ctx.note, Prog.bind_run, Prog.modify_run]
  exact ⟨.latch n :: gs, by rw [hg, List.append_assoc, List.singleton_append], .latch hr t⟩

theorem keeps_latch {f : Unit → Prog Ctx β} (hf : ∀ u, Prog.Keeps Traced (f u)) :
    Prog.Keeps (Guarded (readyFrom · n = .ok ()) Traced) (Session.latch n >>= f) :=
  keeps_latch_of (P := fun _ => True) trivial fun u => keeps_guarded_of (hf u)

theorem keeps_latch_final {f : Unit → Prog Ctx β} (hn : IsFinal n) (hf : ∀ u, Prog.Keeps (Guarded IsFinal Traced) (f u)) :
    Prog.Keeps (Guarded (readyFrom · n = .ok ()) Traced) (Session.latch n >>= f) :=
  keeps_latch_of hn hf

/-- A role's first handler writes the epoch right before latching the role's first state. -/
theorem keeps_setEpoch_latch {f : Session → Session} {g : Unit → Prog Ctx β}
    (hn : n = stateEscrowComplete ∨ n = stateSolutionsPromised) (hg : ∀ u, Prog.Keeps Traced (g u)) :
    Prog.Keeps (Guarded (readyFrom · n = .ok ()) Traced) (modifySess f >>= fun _ => Session.latch n >>= g) := by
  intro env c hr
  obtain ⟨gs, hgs, t⟩ := hg () env
    { c with sess := { f c.sess with state := n }, ghost := c.ghost ++ [.latch n] }
  simp only [Session.latch, modifySess, Ctx.note, Prog.bind_run, Prog.modify_run]
  exact ⟨.latch n :: gs, by rw [hgs, List.append_assoc, List.singleton_append],
    .setEpoch (opens_of_ready hr hn) (.latch hr t)⟩

/-- A handler that checks `ready(n)` first. -/
theorem keeps_traced_ready {f : Unit → Prog Ctx β} (hf : ∀ u, Prog.Keeps (Guarded (readyFrom · n = .ok ()) Traced) (f u)) :
    Prog.Keeps Traced (readyOrFail n >>= f) := by
  intro env c
  rw [Prog.bind_run, readyOrFail_run]
  cases h : c.sess.ready n with
  | error e => exact Traced.refl c
  | ok u => exact hf u env c h

/-- `orFail` after a step that keeps a guarded frame. -/
theorem keeps_guarded_orFail {m : Prog Ctx α} {k : α → Prog Ctx Unit} (hm : Prog.Keeps (Guarded P Frame) m)
    (hk : ∀ a, Prog.Keeps (Guarded P Traced) (k a)) : Prog.Keeps (Guarded P Traced) (Session.orFail m k) :=
  Session.orFail_keeps hm hk (fun _ => keeps_guarded_of (keeps_traced_of_frame (keeps_frame_failWith _)))
    (fun _ _ h hP => Traced.of_frame (h hP)) fun _ _ _ h₁ h₂ hP => (Traced.of_frame (h₁ hP)).trans (h₂ ((h₁ hP).1 ▸ hP))

/-- `validateOffer`'s first step: `ready(n)` under `orFail`. -/
theorem keeps_traced_orFail_ready {k : Unit → Prog Ctx Unit}
    (hk : ∀ u, Prog.Keeps (Guarded (readyFrom · n = .ok ()) Traced) (k u)) :
    Prog.Keeps Traced (Session.orFail (readyOrFail n) k) := by
  intro env c
  unfold Session.orFail
  rw [readyOrFail_run]
  cases h : c.sess.ready n with
  | error e => exact Traced.of_frame (keeps_frame_failWith _ env c)
  | ok u => exact hk u env c h

/-- `PublishSolution` latches `SolutionPublished` and finalizes the exchange as a success. -/
theorem keeps_publishSolution (secrets : List Bytes) :
    Prog.Keeps (Guarded (readyFrom · stateSolutionPublished = .ok ()) Traced) (Session.publishSolution secrets) :=
  keeps_guarded_traced_bind (keeps_guarded_of (keeps_frame_note fun _ => trivial)) fun _ =>
    keeps_guarded_traced_bind (keeps_guarded_of (.wrap _ (keeps_frame_withContract _))) fun _ =>
    keeps_latch_final isFinal_solutionPublished fun _ => keeps_guarded_traced_of_frame keeps_finalizeSuccess

theorem keeps_guarded_orFail_publishSolution {secrets : List Bytes} {k : Unit → Prog Ctx Unit}
    (hk : ∀ a, Prog.Keeps Frame (k a)) :
    Prog.Keeps (Guarded (readyFrom · stateSolutionPublished = .ok ()) Traced)
      (Session.orFail (Session.publishSolution secrets) k) :=
  Session.orFail_keeps (keeps_publishSolution secrets) hk keeps_frame_failWith (fun _ _ => id)
    fun _ _ _ h₁ h₂ hP => (h₁ hP).trans (Traced.of_frame h₂)

end Traced

/-! ## The handlers

One lemma per handler, following its code: each step is a primitive kept as a `Frame`, the latch after `ready(n)`
(`keeps_latch`, `keeps_setEpoch_latch`, `keeps_latch_final`), or a handler proved before it. -/

/-- `SetupEscrow` opens the payee role: it writes the epoch right before latching `EscrowComplete`. -/
theorem keeps_traced_setupEscrow (er : EscrowRequest) : Prog.Keeps Traced (Session.setupEscrow er) := by
  refine keeps_traced_ready fun _ => keeps_guarded_traced_bind (keeps_guarded_of (.get Frame.refl)) fun _ =>
    keeps_guarded_traced_bind (keeps_guarded_of (.liftErr Frame.refl _ _)) fun _ => ?_
  split
  case h_1 =>
    exact keeps_guarded_traced_bind (keeps_guarded_of (keeps_frame_modifySess fun _ => ⟨rfl, rfl⟩)) fun _ =>
      keeps_guarded_of (.throw Traced.refl _)
  refine keeps_guarded_traced_bind (keeps_guarded_of (keeps_frame_modifySess fun _ => ⟨rfl, rfl⟩)) fun _ =>
    keeps_guarded_traced_bind (keeps_guarded_of (keeps_frame_withContract _)) fun _ =>
    keeps_guarded_traced_bind (keeps_guarded_of (keeps_frame_withContract _)) fun _ =>
    keeps_setEpoch_latch (.inl rfl) fun _ =>
    keeps_traced_bind (keeps_traced_of_frame keeps_frame_contractOrPanic) fun _ => ?_
  split
  exacts [.throw Traced.refl _, .pure Traced.refl _]

/-- `GetPuzzlePromises` reads the key of the session's epoch and latches `PuzzlesPromised`. -/
theorem keeps_traced_getPuzzlePromises (cp : SignatureChallenges) :
    Prog.Keeps Traced (Session.getPuzzlePromises cp) :=
  keeps_traced_ready fun _ =>
    keeps_guarded_traced_bind (keeps_epochPuzzleKey fun _ => ready_not_opens (by decide)) fun _ =>
    keeps_guarded_traced_bind (keeps_guarded_of (.liftErr Frame.refl _ _)) fun _ =>
    keeps_guarded_traced_bind (keeps_guarded_of (.read Frame.refl)) fun _ =>
    keeps_guarded_traced_bind (keeps_guarded_of (keeps_frame_io _)) fun _ =>
    keeps_guarded_traced_bind (keeps_guarded_of (keeps_frame_modifySess fun _ => ⟨rfl, rfl⟩)) fun _ =>
    keeps_latch fun _ => .pure Traced.refl _

/-- `ValidatePuzzles` reads the key of the session's epoch and latches `PuzzlesValidated`. -/
theorem keeps_traced_validatePuzzles (cd : TransactionDisclosure) :
    Prog.Keeps Traced (Session.validatePuzzles cd) :=
  keeps_traced_ready fun _ => keeps_guarded_traced_bind (keeps_guarded_of (.liftErr Frame.refl _ _)) fun _ =>
    keeps_guarded_traced_bind (keeps_guarded_of (.liftErr Frame.refl _ _)) fun _ =>
    keeps_guarded_traced_bind (keeps_guarded_of keeps_frame_getSess) fun _ =>
    keeps_guarded_traced_bind (keeps_guarded_of (.liftErr Frame.refl _ _)) fun _ =>
    keeps_guarded_traced_bind (keeps_epochPuzzleKey fun _ => ready_not_opens (by decide)) fun _ =>
    keeps_guarded_traced_bind (keeps_guarded_of (.liftErr Frame.refl _ _)) fun _ =>
    keeps_guarded_traced_bind (keeps_guarded_of (.read Frame.refl)) fun _ =>
    keeps_guarded_traced_bind (keeps_guarded_of (.liftFault Frame.refl _ _)) fun ⟨_, _⟩ =>
    keeps_guarded_traced_bind (keeps_guarded_of (keeps_frame_modifySess fun _ => ⟨rfl, rfl⟩)) fun _ =>
    keeps_latch fun _ => .pure Traced.refl _

/-- `FinalizeEscrow` latches the final `EscrowPublished` and then finalizes the exchange as a success. -/
theorem keeps_traced_finalizeEscrow : Prog.Keeps Traced Session.finalizeEscrow :=
  keeps_traced_ready fun _ =>
    keeps_guarded_traced_bind (keeps_guarded_of (keeps_frame_note fun _ => trivial)) fun _ =>
    keeps_guarded_traced_bind (keeps_guarded_of (.wrap _ (keeps_frame_withContract _))) fun _ =>
    keeps_latch_final isFinal_escrowPublished fun _ =>
    keeps_guarded_traced_bind (keeps_guarded_of keeps_frame_contractOrPanic) fun _ =>
    keeps_guarded_traced_bind keeps_finalizeSuccess fun _ => keeps_guarded_of (.pure Traced.refl _)

/-- `GetSolutionPromises` opens the payer role: it writes the epoch right before latching `SolutionsPromised`. -/
theorem keeps_traced_getSolutionPromises (sc : SolutionChallenges) :
    Prog.Keeps Traced (Session.getSolutionPromises sc) :=
  keeps_traced_ready fun _ => keeps_guarded_traced_bind (keeps_guarded_of (.get Frame.refl)) fun _ =>
    keeps_guarded_traced_bind (keeps_guarded_of (.liftErr Frame.refl _ _)) fun _ =>
    keeps_guarded_traced_bind (keeps_guarded_of (.read Frame.refl)) fun _ =>
    keeps_guarded_traced_bind (keeps_guarded_of (keeps_frame_io _)) fun _ =>
    keeps_setEpoch_latch (.inr rfl) fun _ => .pure Traced.refl _

/-- `ValidateSolutions` reads the key of the session's epoch and latches `SolutionsValidated`. -/
theorem keeps_traced_validateSolutions (pd : PuzzleDisclosure) :
    Prog.Keeps Traced (Session.validateSolutions pd) :=
  keeps_traced_ready fun _ => keeps_guarded_traced_bind (keeps_guarded_of (.liftErr Frame.refl _ _)) fun _ =>
    keeps_guarded_traced_bind (keeps_guarded_of keeps_frame_getSess) fun _ =>
    keeps_guarded_traced_bind (keeps_guarded_of (.liftErr Frame.refl _ _)) fun _ =>
    keeps_guarded_traced_bind (keeps_epochPuzzleKey fun _ => ready_not_opens (by decide)) fun _ =>
    keeps_guarded_traced_bind (keeps_guarded_of (.liftErr Frame.refl _ _)) fun _ =>
    keeps_guarded_traced_bind (keeps_guarded_of (.liftFault Frame.refl _ _)) fun _ =>
    keeps_guarded_traced_bind (keeps_guarded_of (.liftFault Frame.refl _ _)) fun _ =>
    keeps_latch fun _ => .pure Traced.refl _

/-- `validateOffer` either fails or defers, keeping the state, or reveals the solutions and publishes them,
latching the final `SolutionPublished`. -/
theorem keeps_traced_validateOffer (po : PaymentOfferReq) : Prog.Keeps Traced (Session.validateOffer po) :=
  keeps_traced_orFail_ready fun _ =>
    keeps_guarded_orFail (keeps_guarded_of (.wrap _ (keeps_frame_walletValidateOffer _))) fun _ =>
    keeps_guarded_traced_bind (keeps_guarded_of (keeps_frame_io _)) fun _ =>
    keeps_guarded_traced_bind (keeps_guarded_of keeps_frame_getSess) fun _ =>
    .ite (keeps_guarded_of (keeps_traced_of_frame (keeps_frame_failWith _))) <|
    .ite (keeps_guarded_of (keeps_traced_of_frame (keeps_frame_deferAction _ _))) <|
    keeps_guarded_traced_bind (keeps_guarded_of keeps_frame_getSess) fun _ =>
    keeps_guarded_traced_bind (keeps_guarded_of (.liftFault Frame.refl _ _)) fun _ =>
    keeps_guarded_orFail (keeps_revealSolution po fun _ => ready_not_opens (by decide)) fun _ =>
    keeps_guarded_orFail_publishSolution fun _ => .pure Frame.refl _

/-- `PaymentOffer` latches `OfferReceived` and then runs `validateOffer` or defers it. -/
theorem keeps_traced_paymentOffer (po : PaymentOfferReq) : Prog.Keeps Traced (Session.paymentOffer po) := by
  refine keeps_traced_ready fun _ => ?_
  dsimp only
  split
  case h_2 =>
    exact keeps_guarded_traced_bind (keeps_guarded_of (keeps_frame_modifySess fun _ => ⟨rfl, rfl⟩)) fun _ =>
      keeps_guarded_of (.throw Traced.refl _)
  refine keeps_guarded_traced_bind (keeps_guarded_of (.pure Frame.refl _)) fun _ =>
    keeps_guarded_traced_bind (keeps_guarded_of (keeps_frame_modifySess fun _ => ⟨rfl, rfl⟩)) fun _ =>
    keeps_guarded_traced_bind (keeps_guarded_of keeps_frame_getSess) fun _ =>
    keeps_guarded_traced_bind (keeps_guarded_of (.liftErr Frame.refl _ _)) fun _ => ?_
  split
  case h_1 =>
    exact keeps_guarded_traced_bind (keeps_guarded_of (keeps_frame_modifySess fun _ => ⟨rfl, rfl⟩)) fun _ =>
      keeps_guarded_of (.throw Traced.refl _)
  refine keeps_guarded_traced_bind (keeps_guarded_of (keeps_frame_modifySess fun _ => ⟨rfl, rfl⟩)) fun _ =>
    keeps_guarded_traced_bind (keeps_guarded_of (keeps_frame_withContract _)) fun _ =>
    keeps_guarded_traced_bind (keeps_guarded_of (.wrap _ (keeps_frame_getEpochAddress _))) fun ⟨_, _⟩ =>
    keeps_guarded_traced_bind (keeps_guarded_of (keeps_frame_withContract _)) fun _ =>
    keeps_guarded_traced_bind (keeps_guarded_of (keeps_frame_withContract _)) fun _ =>
    keeps_guarded_traced_bind (keeps_guarded_of (.wrap _ (keeps_frame_withContract _))) fun _ =>
    keeps_latch fun _ => keeps_traced_bind (keeps_traced_of_frame (.wrap _ (keeps_frame_walletValidateOffer _)))
      fun _ => .ite (keeps_traced_of_frame (keeps_frame_bind (keeps_frame_io _) fun _ =>
        keeps_frame_bind (keeps_frame_modifySess fun _ => ⟨rfl, rfl⟩) fun _ => keeps_frame_deferAction _ _)) <|
      keeps_traced_bind (keeps_traced_validateOffer po) fun _ =>
      keeps_traced_bind (keeps_traced_of_frame keeps_frame_getSess) fun _ => ?_
  split
  exacts [.throw Traced.refl _, .pure Traced.refl _]

/-- Every call on a session notes a trace of the abstract session. -/
theorem Call.run_traced (call : Call) : Prog.Keeps Traced call.run := by
  cases call with
  | setupEscrow er => exact keeps_traced_bind (keeps_traced_setupEscrow er) fun _ => .pure Traced.refl _
  | signChallengeHashes hashes =>
    exact keeps_traced_bind (keeps_traced_of_frame (keeps_frame_withContract _)) fun _ => .pure Traced.refl _
  | getPuzzlePromises cp => exact keeps_traced_bind (keeps_traced_getPuzzlePromises cp) fun _ => .pure Traced.refl _
  | validatePuzzles cd => exact keeps_traced_bind (keeps_traced_validatePuzzles cd) fun _ => .pure Traced.refl _
  | finalizeEscrow => exact keeps_traced_bind keeps_traced_finalizeEscrow fun _ => .pure Traced.refl _
  | getSolutionPromises sc =>
    exact keeps_traced_bind (keeps_traced_getSolutionPromises sc) fun _ => .pure Traced.refl _
  | validateSolutions pd => exact keeps_traced_bind (keeps_traced_validateSolutions pd) fun _ => .pure Traced.refl _
  | paymentOffer po => exact keeps_traced_paymentOffer po
  | validateOffer po => exact keeps_traced_validateOffer po
  | finalize reason => exact keeps_traced_of_frame (keeps_frame_finalizeExchange (by cases reason <;> decide))

/-! ## Runs -/

/-- A run of calls notes a trace of the abstract session. -/
theorem runCalls_traced (env : Env) : ∀ (calls : List Call) (c : Ctx), Traced c (runCalls env calls c)
  | [], c => Traced.refl c
  | call :: calls, c => by
    have h := Call.run_traced call env c
    unfold runCalls
    split <;> rename_i heq <;> rw [heq] at h
    · exact h.trans (runCalls_traced env calls _)
    · exact h.trans (runCalls_traced env calls _)
    · exact h

/-- From the end of a prefix of a run to the end of the run, a trace is noted. -/
theorem runCalls_append_traced (env : Env) (post : List Call) :
    ∀ (pre : List Call) (c : Ctx), Traced (runCalls env pre c) (runCalls env (pre ++ post) c)
  | [], c => runCalls_traced env post c
  | call :: pre, c => by
    simp only [List.cons_append, runCalls]
    split
    · exact runCalls_append_traced env post pre _
    · exact runCalls_append_traced env post pre _
    · exact Traced.refl _

/-- A session as `NewSession` creates it, with no ghost events yet. -/
def freshCtx (sid : Nat) (address : String) (tb : Tumbler) (log : List Effect) : Ctx :=
  ⟨sid, Session.fresh address, tb, log, []⟩

/-- A run from a fresh session notes a trace from the initial state and the zero epoch. -/
theorem runCalls_fresh_trace (env : Env) (calls : List Call) (sid : Nat) (address : String) (tb : Tumbler)
    (log : List Effect) :
    let c := runCalls env calls (freshCtx sid address tb log)
    Trace stateInitial 0 c.ghost c.sess.state c.sess.epoch := by
  intro c
  obtain ⟨gs, hg, t⟩ := runCalls_traced env calls (freshCtx sid address tb log)
  have : c.ghost = gs := hg
  rw [this]
  exact t

/-- The session state machine: over any calls on a fresh session, with any arguments, each
succeeding or failing, (1) the states the session takes follow the payee's or the payer's chain,
(2) neither `Max` state is taken, (3) every latch is to a state `ready` approves from the one before,
(4) a final state, once latched, is kept, (5) every read of `s.epoch` by `getPuzzleKey` comes past
the initial state and sees the epoch the session keeps from then on, which no call changes once
the session has left the initial state, and (6) `FinalizeExchange(ReasonSuccess)` is entered only in
a final state, so its panic never happens. -/
theorem session_state_machine (env : Env) (calls : List Call) (sid : Nat) (address : String) (tb : Tumbler)
    (log : List Effect) :
    let c₀ := freshCtx sid address tb log
    let c := runCalls env calls c₀
    let states := stateInitial :: latchesOf c.ghost
    (states <+: payeeChain ∨ states <+: payerChain) ∧ states.getLast (List.cons_ne_nil _ _) = c.sess.state ∧
    maxPayeeState ∉ states ∧ maxPayerState ∉ states ∧
    List.Chain' (fun a b => readyFrom a b = .ok ()) states ∧
    (∀ n ∈ states, IsFinal n → c.sess.state = n) ∧
    (∀ st e, Ghost.consult st e ∈ c.ghost → st ≠ stateInitial ∧ e = c.sess.epoch) ∧
    (∀ pre post, calls = pre ++ post → (runCalls env pre c₀).sess.state ≠ stateInitial →
      c.sess.epoch = (runCalls env pre c₀).sess.epoch) ∧
    (∀ st, Ghost.finalize reasonSuccess st ∈ c.ghost → IsFinal st) := by
  intro c₀ c states
  have ht : Trace stateInitial 0 c.ghost c.sess.state c.sess.epoch := runCalls_fresh_trace env calls sid address tb log
  refine ⟨ht.states_prefix, ht.chain.2, fun h => (ht.ne_max h).1 rfl, fun h => (ht.ne_max h).2 rfl, ht.chain.1,
    fun n hn hf => ?_, fun st e hm => ?_, fun pre post hcalls hpre => ?_, fun st hm => ht.finalize_mem hm⟩
  · rcases List.mem_cons.1 hn with rfl | hn
    · exact absurd hf (by simp [IsFinal, stateInitial, stateEscrowPublished, stateSolutionPublished])
    · exact ht.latch_final hn hf
  · obtain ⟨ho, rfl⟩ := ht.consult_mem hm
    exact ⟨fun h => ho (.inl h), rfl⟩
  · have hp := runCalls_fresh_trace env pre sid address tb log
    obtain ⟨gs, -, t⟩ := hcalls ▸ runCalls_append_traced env post pre c₀
    have hne := hp.ne_max (hp.chain.2 ▸ List.getLast_mem _)
    exact (t.epoch_of_not_opens fun ho => ho.elim hpre hne.1).1

end Tumblebit
