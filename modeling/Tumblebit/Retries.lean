import Tumblebit.Ticker
import Tumblebit.Rpc.Scheduling

/-!
# Offer confirmation retries are bounded

A `PaymentOffer` whose offer is not yet confirmed sets the session's deadline three confirmation intervals ahead and
defers `validateOffer` by one interval; `validateOffer` defers itself again while the offer stays unconfirmed and the
deadline has not passed. An action due at `u` under deadline `D` can cause at most `retryRank D u` executions, and
the budget of a session is the sum of the ranks of its actions still in `tb.actions` or in a goroutine's batch
(`World.retryBudget`). Under a clock that never goes back:

- every event of the process keeps `RetryInv` and never raises the budget, and an event that runs one of the
  session's actions lowers it by one at least (`retry_step`): the ticker hands an action over only once the clock
  is past its `until`, so `validateOffer` reschedules at a reading `now` past the old `until` and no later than the
  deadline (`retryRank_retry`);
- so a run, whatever its events, runs at most the budget of the session's actions (`executionsOf_le`);
- the `PaymentOffer` RPC that gives a session its first deferred action starts a budget of three
  (`offer_retries_bounded`).
-/

namespace Tumblebit

/-! ## The rank of an action -/

/-- How many times an action due at `u` can still run under deadline `D`: it runs at a reading `now > u`, and is
deferred again only when `now ≤ D`, a confirmation interval later. -/
def retryRank (D u : Nat) : Nat := (D - u + confirmationInterval - 1) / confirmationInterval + 1

/-- A reschedule at a reading past the old `until` and no later than the deadline lowers the rank. -/
theorem retryRank_retry {D u now : Nat} (hu : u < now) (hD : now ≤ D) :
    retryRank D (now + confirmationInterval) < retryRank D u := by
  unfold retryRank confirmationInterval
  omega

theorem one_le_retryRank (D u : Nat) : 1 ≤ retryRank D u := Nat.le_add_left 1 _

/-- The deferral of `PaymentOffer` is worth three executions. -/
theorem retryRank_offer (now : Nat) :
    retryRank (now + 3 * confirmationInterval) (now + confirmationInterval) = 3 := by
  unfold retryRank confirmationInterval
  omega

/-- The ranks of a list of actions, summed. -/
def rankSum (D : Nat) (l : List DeferredAction) : Nat := (l.map fun a => retryRank D a.untilTime).sum

section RankSum

variable {D : Nat} {l l' : List DeferredAction}

@[simp] theorem rankSum_nil : rankSum D [] = 0 := rfl

@[simp] theorem rankSum_cons (a : DeferredAction) (l : List DeferredAction) :
    rankSum D (a :: l) = retryRank D a.untilTime + rankSum D l := by
  simp [rankSum]

@[simp] theorem rankSum_append (l l' : List DeferredAction) : rankSum D (l ++ l') = rankSum D l + rankSum D l' := by
  simp [rankSum]

theorem rankSum_le (h : List.Sublist l l') : rankSum D l ≤ rankSum D l' :=
  (h.map _).sum_le_sum fun _ _ => Nat.zero_le _

theorem rankSum_perm (h : l.Perm l') : rankSum D l = rankSum D l' := (h.map _).sum_eq

end RankSum

/-! ## The budget of a session -/

/-- The deferred actions of session `sid` still to run: those in `tb.actions` and those in the goroutines' batches. -/
def World.pendingOf (w : World) (sid : Nat) : List DeferredAction :=
  (w.tb.actions ++ w.actionBatches.flatten).filter (·.session = sid)

/-- The executions the deferred actions of session `sid` can still cause under deadline `D`. -/
def World.retryBudget (w : World) (sid D : Nat) : Nat := rankSum D (w.pendingOf sid)

/-- What the bound needs of the process: session `sid` exists, is past the offer and has deadline `D`, and each of its
actions handed to a goroutine is due before the clock's present reading. -/
structure RetryInv (env : Env) (sid D : Nat) (w : World) : Prop where
  sess : ∃ s g, w.heap[sid]? = some (s, g) ∧ s.deadline = D ∧ PastOfferState s.state
  batched : ∀ a ∈ w.actionBatches.flatten, a.session = sid → a.untilTime < env.clock w.log

/-- Whether event `e` runs a deferred action of session `sid`: a step of a `deferredActions` goroutine whose next
action is the session's. -/
def World.runsActionOf (w : World) (sid : Nat) : Event → Bool
  | .runAction k =>
    match w.actionBatches[k]? with
    | some (a :: _) => decide (a.session = sid)
    | _ => false
  | _ => false

/-- How many deferred actions of session `sid` the events run, up to the end of the process. -/
def World.executionsOf (env : Env) (sid : Nat) : World → List Event → Nat
  | _, [] => 0
  | w, e :: es => (if w.runsActionOf sid e then 1 else 0) +
    match w.step env e with
    | some w' => World.executionsOf env sid w' es
    | none => 0

/-! ## Handlers on a session -/

/-- What a handler on session `c.sid` may do to the retry chain of `sid`: it adds only actions of its own session, and
on `sid` itself, past the offer, it defers nothing and stays past the offer. -/
def Spares (sid : Nat) (c c' : Ctx) : Prop := Owns c c' ∧ (c.sid = sid → PastOffer c c')

section Spares

variable {sid : Nat} {c c' : Ctx}

theorem Served.spares (h : Served c c') : Spares sid c c' := ⟨h.1, fun _ => h.2⟩

theorem Owns.spares (h : Owns c c') (hs : c.sid ≠ sid) : Spares sid c c' := ⟨h, fun h' => absurd h' hs⟩

/-- A handler sparing `sid` leaves the session's actions a sublist of those it started with. -/
theorem Spares.filter_sublist (h : Spares sid c c') (hp : c.sid = sid → PastOfferState c.sess.state) :
    List.Sublist (c'.tb.actions.filter (·.session = sid)) (c.tb.actions.filter (·.session = sid)) := by
  by_cases hs : c.sid = sid
  · exact (h.2 hs (hp hs)).1.actions.filter _
  · obtain ⟨new, hsub, hnew⟩ := h.1.actions
    have hnil : new.filter (fun a => decide (a.session = sid)) = [] :=
      List.filter_eq_nil_iff.2 fun a ha => by simpa [hnew a ha] using hs
    simpa only [List.filter_append, hnil, List.append_nil] using hsub.filter (fun a => decide (a.session = sid))

end Spares

/-! ## Where a run of `validateOffer` ends -/

/-- The ghost events at the end extend those at the start. -/
def GhostExt (c c' : Ctx) : Prop := c.ghost <+: c'.ghost

/-- The run called `FinalizeExchange`: the events it noted include a finalize event. -/
def Finalized (c c' : Ctx) : Prop := ∃ gs r st, c'.ghost = c.ghost ++ gs ∧ Ghost.finalize r st ∈ gs

/-- Where a run of `validateOffer` from `c` ends: in a panic, having called `FinalizeExchange`, or having deferred
`validateOffer` again, due a confirmation interval after a reading of the clock no later than the deadline. -/
def Ended (env : Env) (po : PaymentOfferReq) (c : Ctx) (r : EStateM.Result Fault Ctx Unit) : Prop :=
  (∃ m c', r = .error (.panic m) c') ∨ Finalized c (resultState r) ∨
    ∃ l, c.log <+: l ∧ env.clock l ≤ c.sess.deadline ∧
      (⟨c.sid, po, env.clock l + confirmationInterval⟩ : DeferredAction) ∈ (resultState r).tb.actions

section Ends

variable {α β : Type} {env : Env} {po : PaymentOfferReq} {a b d : Ctx}

theorem GhostExt.refl (c : Ctx) : GhostExt c c := List.prefix_refl _

theorem GhostExt.trans (h₁ : GhostExt a b) (h₂ : GhostExt b d) : GhostExt a d := List.IsPrefix.trans h₁ h₂

theorem Frame.ghostExt (h : Frame a b) : GhostExt a b := let ⟨_, _, gs, hg, _⟩ := h; ⟨gs, hg.symm⟩

theorem GhostExt.finalized (h₁ : GhostExt a b) (h₂ : Finalized b d) : Finalized a d := by
  obtain ⟨t, ht⟩ := h₁
  obtain ⟨gs, r, st, hg, hm⟩ := h₂
  exact ⟨t ++ gs, r, st, by rw [hg, ← ht, List.append_assoc], List.mem_append_right _ hm⟩

theorem Finalized.ghostExt (h₁ : Finalized a b) (h₂ : GhostExt b d) : Finalized a d := by
  obtain ⟨gs, r, st, hg, hm⟩ := h₁
  obtain ⟨t, ht⟩ := h₂
  exact ⟨gs ++ t, r, st, by rw [← ht, hg, List.append_assoc], List.mem_append_left _ hm⟩

theorem keeps_ghostExt_bind {m : Prog Ctx α} {f : α → Prog Ctx β} (hm : Prog.Keeps GhostExt m)
    (hf : ∀ x, Prog.Keeps GhostExt (f x)) : Prog.Keeps GhostExt (m >>= f) :=
  Prog.Keeps.bind (R := GhostExt) (fun _ _ _ => GhostExt.trans) hm hf

theorem keeps_ghostExt_of_frame {m : Prog Ctx α} (hm : Prog.Keeps Frame m) : Prog.Keeps GhostExt m :=
  hm.mono fun _ _ => Frame.ghostExt

theorem keeps_ghostExt_note (g : Session → Ghost) : Prog.Keeps GhostExt (Ctx.note g) :=
  .modify fun _ => List.prefix_append _ _

theorem keeps_ghostExt_latch (n : Nat) : Prog.Keeps GhostExt (Session.latch n) :=
  keeps_ghostExt_bind (.modify GhostExt.refl) fun _ => keeps_ghostExt_note _

/-- `FinalizeExchange` notes itself before anything else. -/
theorem keeps_finalized_finalizeExchange (r : Nat) : Prog.Keeps Finalized (Session.finalizeExchange r) :=
  Prog.Keeps.bind_of (.modify fun c => ⟨_, r, c.sess.state, rfl, List.mem_singleton_self _⟩)
    (fun _ => keeps_ghostExt_of_frame <| keeps_frame_bind keeps_frame_getSess fun _ => .ite (.throw Frame.refl _) <|
      .ite (.pure Frame.refl _) <| keeps_frame_bind (keeps_frame_modifySess fun _ => ⟨rfl, rfl⟩) fun _ =>
      keeps_frame_disconnect)
    (fun _ _ => id) fun _ _ _ => Finalized.ghostExt

theorem keeps_finalized_failWith (e : String) : Prog.Keeps Finalized (Session.failWith e) :=
  Prog.Keeps.modify_bind fun env c => (GhostExt.refl c).finalized (keeps_finalized_finalizeExchange _ env _)

theorem keeps_ghostExt_revealSolution (po : PaymentOfferReq) : Prog.Keeps GhostExt (Session.revealSolution po) :=
  keeps_ghostExt_bind (keeps_ghostExt_bind (keeps_ghostExt_note _) fun _ =>
    keeps_ghostExt_bind (.get GhostExt.refl) fun _ => .pure GhostExt.refl _) fun _ =>
  keeps_ghostExt_bind (.liftErr GhostExt.refl _ _) fun _ => keeps_ghostExt_bind (.get_bind fun _ c => GhostExt.refl c)
    fun _ => keeps_ghostExt_bind (.liftFault GhostExt.refl _ _) fun _ => .liftFault GhostExt.refl _ _

/-- A `PublishSolution` that returns has called `FinalizeExchange`. -/
theorem publishSolution_finalized {secrets : List Bytes} {c c' : Ctx} {u : Unit}
    (h : Session.publishSolution secrets env c = .ok u c') : Finalized c c' := by
  obtain ⟨_, c₁, h₁, h⟩ := Prog.bind_ok h
  obtain ⟨_, c₂, h₂, h⟩ := Prog.bind_ok h
  obtain ⟨_, c₃, h₃, h⟩ := Prog.bind_ok h
  have g₁ := keeps_ghostExt_note (fun _ => .publishSolution secrets) env c
  have g₂ := keeps_ghostExt_of_frame (.wrap "failed to publish fulfilling tx :"
    (keeps_frame_withContract (Wallet.publishSolution secrets))) env c₁
  have g₃ := keeps_ghostExt_latch stateSolutionPublished env c₂
  have f := keeps_finalized_finalizeExchange reasonSuccess env c₃
  rw [h₁] at g₁
  rw [h₂] at g₂
  rw [h₃] at g₃
  rw [h] at f
  exact (g₁.trans (g₂.trans g₃)).finalized f

/-- `PublishSolution` keeps the ghost events it found. -/
theorem keeps_ghostExt_publishSolution (secrets : List Bytes) : Prog.Keeps GhostExt (Session.publishSolution secrets) :=
  keeps_ghostExt_bind (keeps_ghostExt_note _) fun _ =>
  keeps_ghostExt_bind (keeps_ghostExt_of_frame (.wrap _ (keeps_frame_withContract _))) fun _ =>
  keeps_ghostExt_bind (keeps_ghostExt_latch _) fun _ =>
    (keeps_finalized_finalizeExchange _).mono fun _ _ ⟨gs, _, _, hg, _⟩ => ⟨gs, hg.symm⟩

/-- The indices of `realPuzzleList` are read with Go's bounds check: out of range is a panic, never an error. -/
theorem mapM_goIndex {γ : Type} (xs : List γ) :
    ∀ l : List Nat, (∃ v, l.mapM (goIndex xs) = .ok v) ∨ ∃ p, l.mapM (goIndex xs) = .error (.panic p)
  | [] => .inl ⟨[], rfl⟩
  | i :: l => by
    rw [List.mapM_cons]
    cases hi : goIndex xs i with
    | error e =>
      unfold goIndex at hi
      split at hi <;> cases hi
      exact .inr ⟨_, rfl⟩
    | ok x =>
      rcases mapM_goIndex xs l with ⟨v, hv⟩ | ⟨p, hp⟩
      · exact .inl ⟨x :: v, by rw [hv]; rfl⟩
      · exact .inr ⟨p, by rw [hp]; rfl⟩

theorem Ended.lift {r : EStateM.Result Fault Ctx Unit} (hq : Quiet a b) (hg : GhostExt a b) (h : Ended env po b r) :
    Ended env po a r := by
  rcases h with h | h | ⟨l, hl, hd, hm⟩
  · exact .inl h
  · exact .inr (.inl (hg.finalized h))
  · exact .inr (.inr ⟨l, hq.log.trans hl, hd.trans_eq hq.deadline, hq.sid ▸ hm⟩)

/-- A step of `orFail` that keeps the scheduling ends the run as its continuation does, or calls `FinalizeExchange`,
or panics. -/
theorem Ended.orFail {m : Prog Ctx α} {k : α → Prog Ctx Unit} (hq : Prog.Keeps Quiet m)
    (hg : Prog.Keeps GhostExt m) (hk : ∀ x c₁, Ended env po c₁ (k x env c₁)) (c : Ctx) :
    Ended env po c (Session.orFail m k env c) := by
  rw [Session.orFail_run]
  have hq := hq env c
  have hg := hg env c
  revert hq hg
  cases m env c with
  | ok x c₁ => exact fun hq hg => (hk x c₁).lift hq hg
  | error e c₁ =>
    rcases e with e | e
    · exact fun hq hg => Ended.lift hq hg (.inr (.inl (keeps_finalized_failWith e env c₁)))
    · exact fun _ _ => .inl ⟨e, c₁, rfl⟩

/-- A first step that keeps the scheduling and never fails with an error, then a run that ends. -/
theorem Ended.bind {m : Prog Ctx α} {f : α → Prog Ctx Unit} (hq : Prog.Keeps Quiet m) (hg : Prog.Keeps GhostExt m)
    (c : Ctx) (hm : ∀ e c', m env c ≠ .error (.error e) c') (hf : ∀ x c₁, Ended env po c₁ (f x env c₁)) :
    Ended env po c ((m >>= f) env c) := by
  rw [Prog.bind_run]
  have hq := hq env c
  have hg := hg env c
  revert hq hg hm
  cases m env c with
  | ok x c₁ => exact fun _ hq hg => (hf x c₁).lift hq hg
  | error e c₁ =>
    rcases e with e | e
    · exact fun hm => absurd rfl (hm e c₁)
    · exact fun _ _ _ => .inl ⟨e, c₁, rfl⟩

/-- Publishing the solution ends the run in `FinalizeExchange`, on success or on a failure. -/
theorem Ended.orFail_publishSolution (secrets : List Bytes) (c : Ctx) :
    Ended env po c (Session.orFail (Session.publishSolution secrets) (fun _ => pure ()) env c) := by
  rw [Session.orFail_run]
  have hq := keeps_quiet_publishSolution secrets env c
  have hg := keeps_ghostExt_publishSolution secrets env c
  revert hq hg
  cases h : Session.publishSolution secrets env c with
  | ok _ c₁ => exact fun _ _ => .inr (.inl (publishSolution_finalized h))
  | error e c₁ =>
    rcases e with e | e
    · exact fun hq hg => Ended.lift hq hg (.inr (.inl (keeps_finalized_failWith e env c₁)))
    · exact fun _ _ => .inl ⟨e, c₁, rfl⟩

/-- **Where a run of `validateOffer` ends.** It panics, calls `FinalizeExchange` (on a failure, or once the solution
is published), or defers itself once more, due a confirmation interval after a reading of the clock no later than
the deadline. -/
theorem validateOffer_ends (env : Env) (po : PaymentOfferReq) (c : Ctx) :
    Ended env po c (Session.validateOffer po env c) :=
  Ended.orFail (keeps_quiet_readyOrFail _) (keeps_ghostExt_of_frame (keeps_frame_readyOrFail _)) (fun _ _ =>
  Ended.orFail (.wrap _ (keeps_quiet_walletValidateOffer _))
    (keeps_ghostExt_of_frame (.wrap _ (keeps_frame_walletValidateOffer _))) (fun valid c₁ => by
    have hnow : Quiet c₁ { c₁ with log := c₁.log ++ [.now] } :=
      ⟨rfl, List.prefix_append _ _, rfl, List.Sublist.refl _⟩
    rw [Prog.bind_run, Ctx.io_timeNow_run]
    dsimp only
    rw [Prog.bind_run, getSess_run]
    dsimp only
    split
    · exact .inr (.inl (keeps_finalized_failWith _ env _))
    split
    · rename_i hlate hvalid
      refine .inr (.inr ⟨c₁.log, List.prefix_refl _, ?_, List.mem_append_right _ (List.mem_singleton_self _)⟩)
      simpa only [hvalid, true_and, Nat.not_lt] using hlate
    · refine Ended.lift hnow (GhostExt.refl _) <|
        Ended.bind keeps_quiet_getSess (keeps_ghostExt_of_frame keeps_frame_getSess) _ (fun _ _ h => nomatch h)
          fun s c₂ => Ended.bind (.liftFault Quiet.refl _ _) (.liftFault GhostExt.refl _ _) c₂ (fun e c' h => ?_)
          fun _ c₃ => Ended.orFail (keeps_quiet_revealSolution po) (keeps_ghostExt_revealSolution po)
            (fun secrets c₄ => Ended.orFail_publishSolution secrets c₄) c₃
      rcases mapM_goIndex s.puzzles s.realPuzzleList with ⟨_, hs⟩ | ⟨_, hs⟩ <;>
        simp only [liftFault_run, hs] at h <;> cases h) _) c

end Ends

theorem World.onSession_resultState {α : Type} {w : World} {sid' : Nat} {s : Session} {g : List Ghost}
    (hs : w.heap[sid']? = some (s, g)) (m : Prog Ctx α) (env : Env) :
    resultState (World.onSession sid' m env w) = w.leave sid' (resultState (m env (w.enter sid' s g))) := by
  rw [World.onSession_run hs]
  cases m env (w.enter sid' s g) <;> rfl

/-- A handler on session `sid'` leaves the process as it was (no such session), or leaves the session as the
handler's run from the session's record ends. -/
theorem World.onSession_result {α : Type} (sid' : Nat) (m : Prog Ctx α) (env : Env) (w : World) :
    resultState (World.onSession sid' m env w) = w ∨ ∃ s g, w.heap[sid']? = some (s, g) ∧
      resultState (World.onSession sid' m env w) = w.leave sid' (resultState (m env (w.enter sid' s g))) := by
  cases hs : w.heap[sid']? with
  | none => exact .inl (by simp only [World.onSession, hs, resultState_error])
  | some sg => exact .inr ⟨sg.1, sg.2, rfl, World.onSession_resultState hs m env⟩

theorem resultState_bind_pure {σ α β : Type} (m : Prog σ α) (b : β) (env : Env) (s : σ) :
    resultState ((m >>= fun _ => pure b) env s) = resultState (m env s) := by
  rw [Prog.bind_run]
  cases m env s <;> rfl

/-- `Lookup` finds no session, or the handler runs on the one it finds. -/
theorem Server.withSession_result {α : Type} (cookie : Bytes) (body : Prog Ctx α) (env : Env) (w : World) :
    resultState (Server.withSession cookie body env w) = w ∨ ∃ sid',
      resultState (Server.withSession cookie body env w) = resultState (World.onSession sid'
        (do if (← Session.tryLock) then Prog.deferring body Session.unlock else throw errInProgress) env w) := by
  unfold Server.withSession
  rw [Prog.bind_run, Prog.get_run]
  dsimp only
  cases w.tb.lookup cookie with
  | none => exact .inl rfl
  | some sid' => exact .inr ⟨sid', rfl⟩

/-- Taking the head of one batch takes one action out of the flattened batches. -/
theorem flatten_set_perm {α : Type} : ∀ {bs : List (List α)} {k : Nat} {a : α} {rest : List α},
    bs[k]? = some (a :: rest) → List.Perm bs.flatten (a :: (bs.set k rest).flatten)
  | [], _, _, _, h => by simp at h
  | _ :: _, 0, _, _, h => by
    rw [List.getElem?_cons_zero, Option.some.injEq] at h
    subst h
    exact List.Perm.refl _
  | b :: _, _ + 1, _, _, h => by
    rw [List.getElem?_cons_succ] at h
    simp only [List.flatten_cons, List.set_cons_succ]
    exact ((flatten_set_perm h).append_left b).trans List.perm_middle

/-- What a tick does to the actions: of the actions its first loop keeps, it hands the due ones to a new goroutine and
keeps the others in `tb.actions`. -/
theorem World.sweep_actions (w : World) (now : Nat) : ∃ kept, List.Sublist kept w.tb.actions ∧
    (w.sweep now).tb.actions = kept.filter (fun a => !decide (a.untilTime < now)) ∧
    (w.sweep now).actionBatches.flatten = w.actionBatches.flatten ++ kept.filter (fun a => decide (a.untilTime < now)) :=
  ⟨_, List.filter_sublist _, rfl, by unfold World.sweep; dsimp only; split <;> simp_all⟩

theorem rankSum_filter_cons (D sid : Nat) (x : DeferredAction) (l : List DeferredAction) :
    rankSum D ((x :: l).filter (·.session = sid)) =
      (if x.session = sid then retryRank D x.untilTime else 0) + rankSum D (l.filter (·.session = sid)) := by
  by_cases h : x.session = sid <;> simp [List.filter_cons, h]

/-! ## One step -/

section Step

variable {env : Env} {sid D : Nat} {w : World} (hclock : ∀ l l', env.clock l ≤ env.clock (l ++ l'))
include hclock

theorem clock_le_of_extends {l l' : List Effect} (h : l <+: l') : env.clock l ≤ env.clock l' := by
  obtain ⟨t, rfl⟩ := h
  exact hclock _ _

/-- The invariant survives a step that keeps session `sid`, hands no new action of it to a goroutine and only appends
to the log. -/
theorem RetryInv.mono {w' : World} (h : RetryInv env sid D w) (hheap : w'.heap[sid]? = w.heap[sid]?)
    (hb : ∀ a ∈ w'.actionBatches.flatten, a.session = sid → a ∈ w.actionBatches.flatten)
    (hlog : w.log <+: w'.log) : RetryInv env sid D w' :=
  ⟨hheap ▸ h.sess, fun a ha hs => (h.batched a (hb a ha hs) hs).trans_le (clock_le_of_extends hclock hlog)⟩

/-- A handler sparing `sid` keeps the invariant and adds no action of the session. -/
theorem RetryInv.leave {sid' : Nat} {s : Session} {g : List Ghost} {c' : Ctx} (hinv : RetryInv env sid D w)
    (hs : w.heap[sid']? = some (s, g)) (h : Spares sid (w.enter sid' s g) c') :
    RetryInv env sid D (w.leave sid' c') ∧ List.Sublist ((w.leave sid' c').pendingOf sid) (w.pendingOf sid) := by
  obtain ⟨s₀, g₀, hs₀, hD, hpast⟩ := hinv.sess
  have hp : sid' = sid → PastOfferState s.state := by
    rintro rfl
    rw [hs₀] at hs
    cases hs
    exact hpast
  refine ⟨⟨?_, fun a ha has => (hinv.batched a ha has).trans_le (clock_le_of_extends hclock h.1.log)⟩, ?_⟩
  · by_cases hsid : sid' = sid
    · subst hsid
      rw [hs₀] at hs
      cases hs
      obtain ⟨hq, hpast'⟩ := h.2 rfl hpast
      exact ⟨c'.sess, c'.ghost, List.getElem?_set_self (List.getElem?_eq_some_iff.1 hs₀).1, hq.deadline.trans hD,
        hpast'⟩
    · exact ⟨s₀, g₀, by rw [World.leave, List.getElem?_set_ne hsid, hs₀], hD, hpast⟩
  · simp only [World.pendingOf, World.leave, List.filter_append]
    exact (h.filter_sublist hp).append_right _

/-- A handler whose every run from a record of session `sid'` spares `sid` keeps the invariant and adds no action of
the session. -/
theorem RetryInv.onSession {α : Type} {sid' : Nat} {m : Prog Ctx α} (hinv : RetryInv env sid D w)
    (hm : ∀ c : Ctx, c.sid = sid' → Spares sid c (resultState (m env c))) :
    RetryInv env sid D (resultState (World.onSession sid' m env w)) ∧
      List.Sublist ((resultState (World.onSession sid' m env w)).pendingOf sid) (w.pendingOf sid) := by
  rcases World.onSession_result sid' m env w with h | ⟨s, g, hs, h⟩ <;> rw [h]
  · exact ⟨hinv, List.Sublist.refl _⟩
  · exact hinv.leave hclock hs (hm _ rfl)

/-- An RPC on an existing session keeps the invariant and adds no action of `sid`. -/
theorem RetryInv.withSession {α : Type} {body : Prog Ctx α} (hinv : RetryInv env sid D w) (hb : Prog.Keeps Served body)
    (cookie : Bytes) :
    RetryInv env sid D (resultState (Server.withSession cookie body env w)) ∧
      List.Sublist ((resultState (Server.withSession cookie body env w)).pendingOf sid) (w.pendingOf sid) := by
  rcases Server.withSession_result cookie body env w with h | ⟨sid', h⟩ <;> rw [h]
  · exact ⟨hinv, List.Sublist.refl _⟩
  · exact hinv.onSession hclock fun c _ => (keeps_served_locked hb env c).spares

theorem retry_rpc (hinv : RetryInv env sid D w) (req : SessionRequest) :
    RetryInv env sid D (resultState (Server.handle req env w)) ∧
      List.Sublist ((resultState (Server.handle req env w)).pendingOf sid) (w.pendingOf sid) := by
  have hfail : reasonFailedExchange ≠ reasonSuccess := by decide
  cases req with
  | getPuzzlePromises r =>
    rw [Server.handle, resultState_bind_pure]
    exact hinv.withSession hclock (keeps_served_bind (keeps_served_guard (by decide) _ <|
      keeps_served_of_frame (keeps_quiet_signChallengeHashes _) (keeps_frame_withContract _)) fun ⟨_, _⟩ =>
      keeps_served_bind (keeps_served_guard hfail _ <|
        keeps_served_of (keeps_quiet_getPuzzlePromises _) (keeps_traced_getPuzzlePromises _)) fun _ =>
      .pure Served.refl _) r.cookie
  | finalizeEscrow r =>
    rw [Server.handle, resultState_bind_pure]
    exact hinv.withSession hclock (keeps_served_bind (keeps_served_guard hfail _ <|
      keeps_served_of (keeps_quiet_validatePuzzles _) (keeps_traced_validatePuzzles _)) fun _ =>
      keeps_served_bind (keeps_served_guard hfail _ <|
        keeps_served_of keeps_quiet_finalizeEscrow keeps_traced_finalizeEscrow) fun _ =>
      .pure Served.refl _) r.cookie
  | validateSolutions r =>
    rw [Server.handle, resultState_bind_pure]
    exact hinv.withSession hclock (keeps_served_bind (keeps_served_guard hfail _ <|
      keeps_served_of (keeps_quiet_validateSolutions _) (keeps_traced_validateSolutions _)) fun _ =>
      .pure Served.refl _) r.cookie
  | paymentOffer r => exact hinv.withSession hclock (keeps_served_guard hfail _ (keeps_served_paymentOffer _)) r.cookie

theorem RetryInv.onSession_served {α : Type} {sid' : Nat} {m : Prog Ctx α} (hinv : RetryInv env sid D w)
    (hm : Prog.Keeps Served m) :
    RetryInv env sid D (resultState (World.onSession sid' m env w)) ∧
      List.Sublist ((resultState (World.onSession sid' m env w)).pendingOf sid) (w.pendingOf sid) :=
  hinv.onSession hclock fun c _ => (hm env c).spares

/-- A step that touches neither session `sid`, the actions nor the batches, and only appends to the log. -/
theorem RetryInv.aside {w' : World} (hinv : RetryInv env sid D w) (hlog : w.log <+: w'.log)
    (hheap : w'.heap[sid]? = w.heap[sid]?) (hact : w'.tb.actions = w.tb.actions)
    (hbat : w'.actionBatches = w.actionBatches) :
    RetryInv env sid D w' ∧ List.Sublist (w'.pendingOf sid) (w.pendingOf sid) := by
  refine ⟨hinv.mono hclock hheap (fun a ha _ => by rwa [hbat] at ha) hlog, ?_⟩
  rw [World.pendingOf, World.pendingOf, hact, hbat]

theorem retry_connect (hinv : RetryInv env sid D w) (fuel : Nat) (req : NewRequest) :
    RetryInv env sid D (resultState (World.connect fuel req env w)) ∧
      List.Sublist ((resultState (World.connect fuel req env w)).pendingOf sid) (w.pendingOf sid) := by
  obtain ⟨s, g, hs, -⟩ := hinv.sess
  unfold World.connect
  split
  · exact ⟨hinv, List.Sublist.refl _⟩
  rw [Prog.bind_run, Prog.get_run]
  dsimp only
  rw [Prog.bind_run, World.io_run]
  have hl := keeps_logExt_drawCookie w.tb.sessions fuel env w.log
  revert hl
  cases drawCookie w.tb.sessions fuel env w.log with
  | error => exact fun hl => hinv.aside hclock hl rfl rfl rfl
  | ok r l =>
    intro hl
    cases r with
    | none => exact hinv.aside hclock hl rfl rfl rfl
    | some => exact hinv.aside hclock hl (List.getElem?_append_left (List.getElem?_eq_some_iff.1 hs).1) rfl rfl

/-- The rest of `NewSession` and its handler serve the new session. -/
theorem retry_finish (hinv : RetryInv env sid D w) (i : Nat) :
    RetryInv env sid D (resultState (World.finish i env w)) ∧
      List.Sublist ((resultState (World.finish i env w)).pendingOf sid) (w.pendingOf sid) := by
  have hfail : reasonFailedExchange ≠ reasonSuccess := by decide
  unfold World.finish
  rw [Prog.bind_run, Prog.get_run]
  dsimp only
  rcases w.connecting[i]? with _ | ⟨_, _, req⟩
  · exact ⟨hinv, List.Sublist.refl _⟩
  dsimp only
  rw [Prog.bind_run, Prog.modify_run]
  obtain ⟨h₀, hsub₀⟩ : RetryInv env sid D { w with connecting := w.connecting.eraseIdx i } ∧ _ :=
    hinv.aside hclock (List.prefix_refl _) rfl rfl rfl
  refine (fun h => ⟨h.1, h.2.trans hsub₀⟩) (h₀.onSession_served hclock ?_)
  refine keeps_served_bind (keeps_served_of_frame (keeps_quiet_modifySess fun _ => rfl)
    (keeps_frame_modifySess fun _ => ⟨rfl, rfl⟩)) fun _ =>
    keeps_served_bind (keeps_served_of_frame (keeps_quiet_io (keeps_logExt_ask _ _)) (keeps_frame_io _)) fun _ =>
    keeps_served_bind (keeps_served_of_frame (keeps_quiet_modifySess fun _ => rfl)
      (keeps_frame_modifySess fun _ => ⟨rfl, rfl⟩)) fun _ => ?_
  cases req with
  | setupEscrow r =>
    exact keeps_served_bind (keeps_served_bind (keeps_served_guard hfail _ <|
      keeps_served_of (keeps_quiet_setupEscrow _) (keeps_traced_setupEscrow _)) fun _ =>
      keeps_served_bind (keeps_served_of_frame keeps_quiet_getSess keeps_frame_getSess) fun _ =>
      .pure Served.refl _) fun _ => .pure Served.refl _
  | getSolutionPromises r =>
    exact keeps_served_bind (keeps_served_bind (keeps_served_guard hfail _ <|
      keeps_served_of (keeps_quiet_getSolutionPromises _) (keeps_traced_getSolutionPromises _)) fun _ =>
      keeps_served_bind (keeps_served_of_frame keeps_quiet_getSess keeps_frame_getSess) fun _ =>
      .pure Served.refl _) fun _ => .pure Served.refl _

theorem retry_runExpire (hinv : RetryInv env sid D w) (k : Nat) :
    RetryInv env sid D (resultState (World.runExpire k env w)) ∧
      List.Sublist ((resultState (World.runExpire k env w)).pendingOf sid) (w.pendingOf sid) := by
  cases hb : w.expireBatches[k]? with
  | none =>
    simp only [World.runExpire, Prog.bind_run, Prog.get_run, hb, Prog.pure_run, resultState_ok]
    exact ⟨hinv, List.Sublist.refl _⟩
  | some b =>
    cases b with
    | nil =>
      simp only [World.runExpire, Prog.bind_run, Prog.get_run, hb, Prog.pure_run, resultState_ok]
      exact ⟨hinv, List.Sublist.refl _⟩
    | cons sid' rest =>
      rw [World.runExpire_run hb]
      obtain ⟨h₀, hsub₀⟩ : RetryInv env sid D { w with expireBatches := w.expireBatches.set k rest } ∧ _ :=
        hinv.aside hclock (List.prefix_refl _) rfl rfl rfl
      exact (fun h => ⟨h.1, h.2.trans hsub₀⟩) (h₀.onSession_served hclock (keeps_served_finalizeExchange (by decide)))

/-- A tick hands a goroutine only actions due before the clock's reading, and keeps or drops the others. -/
theorem retry_tick (hinv : RetryInv env sid D w) :
    RetryInv env sid D (resultState (World.tick env w)) ∧
      (resultState (World.tick env w)).retryBudget sid D ≤ w.retryBudget sid D := by
  rw [World.tick_run, resultState_ok]
  obtain ⟨kept, hkept, hact, hflat⟩ := World.sweep_actions { w with log := w.log ++ [Effect.now] } (env.clock w.log)
  dsimp only at hkept hflat
  refine ⟨⟨hinv.sess, fun a ha hs => ?_⟩, ?_⟩
  · rw [hflat, List.mem_append] at ha
    rcases ha with ha | ha
    · exact (hinv.batched a ha hs).trans_le (hclock _ _)
    · exact (of_decide_eq_true (List.mem_filter.1 ha).2).trans_le (hclock _ _)
  · unfold World.retryBudget World.pendingOf
    rw [hact, hflat]
    set due := kept.filter fun a => decide (a.untilTime < env.clock w.log)
    set keptN := kept.filter fun a => !decide (a.untilTime < env.clock w.log)
    have hperm : List.Perm (keptN ++ (w.actionBatches.flatten ++ due)) (kept ++ w.actionBatches.flatten) :=
      calc List.Perm (keptN ++ (w.actionBatches.flatten ++ due)) (keptN ++ (due ++ w.actionBatches.flatten)) :=
            List.perm_append_comm.append_left _
        _ = (keptN ++ due) ++ w.actionBatches.flatten := (List.append_assoc _ _ _).symm
        List.Perm _ ((due ++ keptN) ++ w.actionBatches.flatten) := List.perm_append_comm.append_right _
        List.Perm _ (kept ++ w.actionBatches.flatten) := (List.filter_append_perm _ _).append_right _
    exact (rankSum_perm (hperm.filter _)).le.trans (rankSum_le ((hkept.append_right _).filter _))

/-- A step of a `deferredActions` goroutine: an action of another session spares `sid`, and an action of `sid` is
replaced by at most one action of lower rank. -/
theorem retry_runAction (hinv : RetryInv env sid D w) (k : Nat) :
    RetryInv env sid D (resultState (World.runAction k env w)) ∧
      (if w.runsActionOf sid (.runAction k) then 1 else 0) + (resultState (World.runAction k env w)).retryBudget sid D ≤
        w.retryBudget sid D := by
  rcases hb : w.actionBatches[k]? with _ | _ | ⟨a, rest⟩
  · simp only [World.runAction, World.runsActionOf, Prog.bind_run, Prog.get_run, hb, Prog.pure_run, resultState_ok]
    exact ⟨hinv, by simp⟩
  · simp only [World.runAction, World.runsActionOf, Prog.bind_run, Prog.get_run, hb, Prog.pure_run, resultState_ok]
    exact ⟨hinv, by simp⟩
  rw [World.runAction_run hb]
  simp only [World.runsActionOf, hb]
  set w₀ : World := { w with actionBatches := w.actionBatches.set k rest }
  have hperm := flatten_set_perm hb
  have hinv₀ : RetryInv env sid D w₀ :=
    hinv.mono hclock rfl (fun x hx _ => hperm.symm.subset (List.mem_cons_of_mem _ hx)) (List.prefix_refl _)
  have hbudget : w.retryBudget sid D = (if a.session = sid then retryRank D a.untilTime else 0) + w₀.retryBudget sid D := by
    rw [World.retryBudget, World.pendingOf, rankSum_perm (((hperm.append_left _).trans List.perm_middle).filter _),
      rankSum_filter_cons]
    rfl
  by_cases ha : a.session = sid
  · subst ha
    obtain ⟨s, g, hs, hD, hpast⟩ := hinv₀.sess
    have hdue : a.untilTime < env.clock w.log := hinv.batched a (hperm.symm.subset (List.mem_cons_self _ _)) rfl
    have hone := one_le_retryRank D a.untilTime
    rw [if_pos (decide_eq_true rfl), hbudget, if_pos rfl]
    rcases World.onSession_result a.session (Session.validateOffer a.argument) env w₀ with h | ⟨s', g', hs', h⟩ <;>
      rw [h]
    · exact ⟨hinv₀, by omega⟩
    rw [hs, Option.some.injEq, Prod.mk.injEq] at hs'
    obtain ⟨rfl, rfl⟩ := hs'
    have hr := validateOffer_retried env a.argument (w₀.enter a.session s g)
    obtain ⟨_, _, ht⟩ := keeps_traced_validateOffer a.argument env (w₀.enter a.session s g)
    refine ⟨⟨⟨_, _, List.getElem?_set_self (List.getElem?_eq_some_iff.1 hs).1, hr.deadline.trans hD,
      ht.pastOfferState hpast⟩, fun x hx hxs => (hinv₀.batched x hx hxs).trans_le (clock_le_of_extends hclock hr.log)⟩, ?_⟩
    rcases hr.actions with hsub | ⟨l, hl, hd, hsub⟩
    · have := rankSum_le (D := D) ((hsub.append_right w₀.actionBatches.flatten).filter (·.session = a.session))
      exact Nat.add_le_add hone this
    · have hle := rankSum_le (D := D) ((hsub.append_right w₀.actionBatches.flatten).filter (·.session = a.session))
      rw [List.append_assoc, List.singleton_append, rankSum_perm (List.perm_middle.filter _), rankSum_filter_cons]
        at hle
      dsimp only [World.enter] at hle
      rw [if_pos rfl] at hle
      have hlt := retryRank_retry (hdue.trans_le (clock_le_of_extends hclock hl)) (hd.trans_eq hD)
      dsimp only [World.retryBudget, World.pendingOf, World.leave, World.enter, w₀] at hle ⊢
      omega
  · simp only [ha, decide_False, hbudget, if_false, Bool.false_eq_true, Nat.zero_add]
    exact (fun h => ⟨h.1, rankSum_le h.2⟩) (hinv₀.onSession hclock fun c hc =>
      (keeps_owns_validateOffer _ env c).spares (by rw [hc]; exact ha))

/-- **One event.** Every event of the process keeps the invariant and never raises the budget, and an event that runs
one of the session's actions lowers it by one at least. -/
theorem retry_step (hinv : RetryInv env sid D w) (e : Event) :
    RetryInv env sid D (resultState (e.run env w)) ∧
      (if w.runsActionOf sid e then 1 else 0) + (resultState (e.run env w)).retryBudget sid D ≤ w.retryBudget sid D := by
  have spare {w' : World} (h : RetryInv env sid D w' ∧ List.Sublist (w'.pendingOf sid) (w.pendingOf sid)) :
      RetryInv env sid D w' ∧ 0 + w'.retryBudget sid D ≤ w.retryBudget sid D :=
    ⟨h.1, (Nat.zero_add _).trans_le (rankSum_le h.2)⟩
  cases e with
  | rpc req => exact spare (retry_rpc hclock hinv req)
  | connect fuel req => exact spare (retry_connect hclock hinv fuel req)
  | finish i => exact spare (retry_finish hclock hinv i)
  | tick => exact ⟨(retry_tick hclock hinv).1, (Nat.zero_add _).trans_le (retry_tick hclock hinv).2⟩
  | runAction k => exact retry_runAction hclock hinv k
  | runExpire k => exact spare (retry_runExpire hclock hinv k)

/-- How a step of the `k`-th `deferredActions` goroutine that runs action `a` of session `sid` ends: at a reading of
the clock past `a`'s `until`, with the process ended by a panic, with `FinalizeExchange` called on the session, or
with `validateOffer` deferred again at a reading `now` with `a.until < now ≤ D`, a confirmation interval later. -/
def World.RetryEnds (env : Env) (sid D k : Nat) (a : DeferredAction) (w : World) : Prop :=
  a.untilTime < env.clock w.log ∧ (w.step env (.runAction k) = none ∨
    (∃ s g s' g', w.heap[sid]? = some (s, g) ∧ (resultState (World.runAction k env w)).heap[sid]? = some (s', g') ∧
      ∃ gs r st, g' = g ++ gs ∧ Ghost.finalize r st ∈ gs) ∨
    ∃ now, a.untilTime < now ∧ now ≤ D ∧
      (⟨sid, a.argument, now + confirmationInterval⟩ : DeferredAction) ∈ (resultState (World.runAction k env w)).tb.actions)

/-- **One execution.** Under the invariant, a step that runs an action of session `sid` ends as `World.RetryEnds`
says. -/
theorem retry_execution {k : Nat} {a : DeferredAction} {rest : List DeferredAction} (hinv : RetryInv env sid D w)
    (hb : w.actionBatches[k]? = some (a :: rest)) (ha : a.session = sid) : World.RetryEnds env sid D k a w := by
  subst ha
  have hdue : a.untilTime < env.clock w.log :=
    hinv.batched a ((flatten_set_perm hb).symm.subset (List.mem_cons_self _ _)) rfl
  obtain ⟨s, g, hs, hD, -⟩ := hinv.sess
  have hres := World.onSession_resultState (w := { w with actionBatches := w.actionBatches.set k rest }) hs
    (Session.validateOffer a.argument) env
  have hrun : World.runAction k env w = _ := World.runAction_run hb
  refine ⟨hdue, ?_⟩
  rcases validateOffer_ends env a.argument ({ w with actionBatches := w.actionBatches.set k rest }.enter a.session s g)
    with ⟨m, c', hp⟩ | ⟨gs, r, st, hg, hm⟩ | ⟨l, hl, hd, hm⟩
  · exact .inl (World.step_panic (by
      rw [Event.run, hrun, World.onSession_run (w := { w with actionBatches := w.actionBatches.set k rest }) hs, hp]))
  · refine .inr (.inl ⟨s, g, (resultState (Session.validateOffer a.argument env
      ({ w with actionBatches := w.actionBatches.set k rest }.enter a.session s g))).sess, _, hs, ?_, gs, r, st, hg, hm⟩)
    rw [hrun, hres]
    exact List.getElem?_set_self (List.getElem?_eq_some_iff.1 hs).1
  · refine .inr (.inr ⟨env.clock l, hdue.trans_le (clock_le_of_extends hclock hl), hd.trans_eq hD, ?_⟩)
    rw [hrun, hres]
    exact hm

/-- The invariant holds all along a run. -/
theorem retryInv_run : ∀ (es : List Event) (w w' : World), RetryInv env sid D w → World.run env w es = some w' →
    RetryInv env sid D w'
  | [], _, _, hinv, h => by
    rw [World.run_nil, Option.some.injEq] at h
    exact h ▸ hinv
  | e :: es, w, _, hinv, h => by
    rw [World.run_cons] at h
    obtain ⟨w₁, h₁, h⟩ := Option.bind_eq_some.1 h
    obtain rfl := World.step_some h₁
    exact retryInv_run es _ _ (retry_step hclock hinv e).1 h

/-- **The retry bound.** From a process with the invariant, any sequence of events runs at most the budget of the
session's actions. -/
theorem executionsOf_le : ∀ (es : List Event) (w : World), RetryInv env sid D w →
    World.executionsOf env sid w es ≤ w.retryBudget sid D
  | [], _, _ => Nat.zero_le _
  | e :: es, w, hinv => by
    obtain ⟨hinv', hle⟩ := retry_step hclock hinv e
    rw [World.executionsOf]
    cases h : w.step env e with
    | none =>
      dsimp only
      omega
    | some w' =>
      obtain rfl := World.step_some h
      have := executionsOf_le es _ hinv'
      dsimp only
      omega

end Step

/-! ## The first deferral -/

/-- What `PaymentOffer`'s RPC does to the deferred actions of its session: it adds none, or it adds one, due a
confirmation interval after a reading `now` of the clock, and leaves the session past the offer with a deadline of at
least `now`: set to `now + 3 * ConfirmationInterval`, or the one the session had. -/
def Registered (c c' : Ctx) : Prop :=
  List.Sublist c'.tb.actions c.tb.actions ∨ ∃ po now,
    List.Sublist c'.tb.actions (c.tb.actions ++ [⟨c.sid, po, now + confirmationInterval⟩]) ∧
    PastOfferState c'.sess.state ∧ now ≤ c'.sess.deadline ∧
    (c'.sess.deadline = now + 3 * confirmationInterval ∨ c'.sess.deadline = c.sess.deadline)

section Registered

variable {α β : Type} {a b d : Ctx}

theorem Registered.refl (c : Ctx) : Registered c c := .inl (List.Sublist.refl _)

theorem Quiet.trans_registered (h₁ : Quiet a b) (h₂ : Registered b d) : Registered a d := by
  rcases h₂ with h | ⟨po, now, hsub, hp, hle, hd⟩
  · exact .inl (h.trans h₁.actions)
  · refine .inr ⟨po, now, ?_, hp, hle, hd.imp_right (·.trans h₁.deadline)⟩
    rw [← h₁.sid]
    exact hsub.trans (h₁.actions.append_right _)

/-- A step that defers nothing and follows the abstract session keeps a registration. -/
theorem Registered.trans_quiet (h₁ : Registered a b) (h₂ : Quiet b d) (h₃ : Traced b d) : Registered a d := by
  rcases h₁ with h | ⟨po, now, hsub, hp, hle, hd⟩
  · exact .inl (h₂.actions.trans h)
  · obtain ⟨hq, hp'⟩ := (Served.of h₂ h₃).2 hp
    exact .inr ⟨po, now, hq.actions.trans hsub, hp', hle.trans_eq hq.deadline.symm, by rw [hq.deadline]; exact hd⟩

/-- `validateOffer` past the offer registers: it defers at most once, at a reading no later than the deadline. -/
theorem Registered.of_retried {env : Env} {po : PaymentOfferReq} (hr : Retried env po a b) (ht : Traced a b)
    (hp : PastOfferState a.sess.state) : Registered a b := by
  rcases hr.actions with h | ⟨l, -, hd, h⟩
  · exact .inl h
  · obtain ⟨_, _, t⟩ := ht
    exact .inr ⟨po, env.clock l, h, t.pastOfferState hp, hd.trans_eq hr.deadline.symm, .inr hr.deadline⟩

theorem keeps_registered_bind {m : Prog Ctx α} {f : α → Prog Ctx β} (hm : Prog.Keeps Quiet m)
    (hf : ∀ x, Prog.Keeps Registered (f x)) : Prog.Keeps Registered (m >>= f) :=
  Prog.Keeps.bind_of hm hf (fun _ _ h => .inl h.actions) fun _ _ _ => Quiet.trans_registered

theorem keeps_registered_of_quiet {m : Prog Ctx α} (hm : Prog.Keeps Quiet m) : Prog.Keeps Registered m :=
  hm.mono fun _ _ h => .inl h.actions

/-- A registration followed by steps that defer nothing and follow the abstract session. -/
theorem keeps_registered_bind_calm {m : Prog Ctx α} {f : α → Prog Ctx β} (hm : Prog.Keeps Registered m)
    (hq : ∀ x, Prog.Keeps Quiet (f x)) (ht : ∀ x, Prog.Keeps Traced (f x)) : Prog.Keeps Registered (m >>= f) :=
  Prog.Keeps.bind_of hm (fun x => (hq x).and (ht x))
    (fun _ _ => id) fun _ _ _ h₁ h₂ => h₁.trans_quiet h₂.1 h₂.2

theorem keeps_guarded_registered_bind {m : Prog Ctx α} {f : α → Prog Ctx β} (hq : Prog.Keeps Quiet m)
    (hfr : Prog.Keeps Frame m) (hf : ∀ x, Prog.Keeps (Guarded PastOfferState Registered) (f x)) :
    Prog.Keeps (Guarded PastOfferState Registered) (m >>= f) :=
  Prog.Keeps.bind_of (hq.and hfr) hf
    (fun _ _ h _ => .inl h.1.actions) fun _ _ _ h₁ h₂ hp => h₁.1.trans_registered (h₂ (by rw [h₁.2.1]; exact hp))

/-- Latching a state past the offer, then registering from there. -/
theorem keeps_registered_latch {n : Nat} {f : Unit → Prog Ctx β} (hn : PastOfferState n)
    (hf : ∀ u, Prog.Keeps (Guarded PastOfferState Registered) (f u)) : Prog.Keeps Registered (Session.latch n >>= f) := by
  intro env c
  rw [Prog.bind_run]
  have hq := keeps_quiet_latch n env c
  have hs : (resultState (Session.latch n env c)).sess.state = n := rfl
  revert hq hs
  cases Session.latch n env c with
  | ok u c₁ => exact fun hq hs => hq.trans_registered (hf u env c₁ (hs ▸ hn))
  | error _ c₁ => exact fun hq _ => .inl hq.actions

/-- `PaymentOffer` defers `validateOffer` with the deadline set three intervals ahead, or runs it at once. -/
theorem keeps_registered_paymentOffer (po : PaymentOfferReq) : Prog.Keeps Registered (Session.paymentOffer po) := by
  refine keeps_registered_bind (keeps_quiet_readyOrFail _) fun _ => ?_
  dsimp only
  split
  case h_2 =>
    exact keeps_registered_of_quiet <| keeps_quiet_bind (keeps_quiet_modifySess fun _ => rfl) fun _ =>
      .throw_bind Quiet.refl _ _
  refine keeps_registered_bind (.pure Quiet.refl _) fun _ => keeps_registered_bind (keeps_quiet_modifySess fun _ => rfl)
    fun _ => keeps_registered_bind keeps_quiet_getSess fun _ => keeps_registered_bind (.liftErr Quiet.refl _ _) fun _ => ?_
  split
  case h_1 =>
    exact keeps_registered_of_quiet <| keeps_quiet_bind (keeps_quiet_modifySess fun _ => rfl) fun _ =>
      .throw Quiet.refl _
  refine keeps_registered_bind (keeps_quiet_modifySess fun _ => rfl) fun _ =>
    keeps_registered_bind (keeps_quiet_withContract (keeps_wLogExt_setAddressW _ _ _)) fun _ =>
    keeps_registered_bind (.wrap _ (keeps_quiet_getEpochAddress _)) fun ⟨_, _⟩ =>
    keeps_registered_bind (keeps_quiet_withContract (keeps_wLogExt_setAddressW _ _ _)) fun _ =>
    keeps_registered_bind (keeps_quiet_withContract (keeps_wLogExt_modifyCon _)) fun _ =>
    keeps_registered_bind (.wrap _ (keeps_quiet_withContract keeps_wLogExt_importEscrowScript)) fun _ =>
    keeps_registered_latch ⟨le_refl _, by decide⟩ fun _ =>
    keeps_guarded_registered_bind (.wrap _ (keeps_quiet_walletValidateOffer _))
      (.wrap _ (keeps_frame_walletValidateOffer _)) fun _ => .ite (fun env c hp => ?_) ?_
  · exact .inr ⟨po, env.clock c.log, List.Sublist.refl _, hp, Nat.le_add_right _ _, .inl rfl⟩
  · refine Prog.Keeps.bind_of (show Prog.Keeps (Guarded PastOfferState Registered) _ from
      fun env c hp => Registered.of_retried (validateOffer_retried env po c) (keeps_traced_validateOffer po env c) hp)
      (fun _ => (keeps_quiet_bind keeps_quiet_getSess fun _ => ?_).and
        (keeps_traced_bind (keeps_traced_of_frame keeps_frame_getSess) fun _ => ?_))
      (fun _ _ => id) fun _ _ _ h₁ h₂ hp => (h₁ hp).trans_quiet h₂.1 h₂.2
    · split
      exacts [.throw Quiet.refl _, .pure Quiet.refl _]
    · split
      exacts [.throw Traced.refl _, .pure Traced.refl _]

theorem keeps_registered_guard {r : Nat} (hr : r ≠ reasonSuccess) (status : Fault) {m : Prog Ctx α}
    (hm : Prog.Keeps Registered m) : Prog.Keeps Registered (Server.guard r status m) :=
  keeps_registered_bind_calm hm.attempt
    (fun x => by
      rcases x with _ | _
      exacts [keeps_quiet_bind (keeps_quiet_finalizeExchange _) fun _ => .throw Quiet.refl _, .pure Quiet.refl _])
    fun x => by
      rcases x with _ | _
      exacts [keeps_traced_bind (keeps_traced_of_frame (keeps_frame_finalizeExchange hr)) fun _ =>
        .throw Traced.refl _, .pure Traced.refl _]

theorem keeps_registered_locked {body : Prog Ctx α} (hb : Prog.Keeps Registered body) :
    Prog.Keeps Registered
      (do if (← Session.tryLock) then Prog.deferring body Session.unlock else throw errInProgress) :=
  keeps_registered_bind keeps_quiet_tryLock fun _ =>
    .ite (Prog.Keeps.deferring_of hb (keeps_quiet_unlock.and (keeps_traced_of_frame keeps_frame_unlock))
      fun _ _ _ h₁ h₂ => h₁.trans_quiet h₂.1 h₂.2) (.throw Registered.refl _)

end Registered

/-- A handler run by `withSession` and keeping `R` leaves the process as it was, or leaves a session as a run
related by `R` to its record. -/
theorem Server.withSession_handled {α : Type} {R : Ctx → Ctx → Prop} {body : Prog Ctx α}
    (hb : Prog.Keeps R
      (do if (← Session.tryLock) then Prog.deferring body Session.unlock else throw errInProgress))
    (cookie : Bytes) (env : Env) (w : World) :
    resultState (Server.withSession cookie body env w) = w ∨ ∃ sid' s g c', w.heap[sid']? = some (s, g) ∧
      R (w.enter sid' s g) c' ∧ resultState (Server.withSession cookie body env w) = w.leave sid' c' := by
  rcases Server.withSession_result cookie body env w with h | ⟨sid', h⟩
  · exact .inl h
  rcases World.onSession_result sid' _ env w with h' | ⟨s, g, hs, h'⟩
  · exact .inl (h.trans h')
  · exact .inr ⟨sid', s, g, _, hs, hb env _, h.trans h'⟩

/-- `PaymentOffer`'s RPC leaves the process as it was, or leaves a session as a registration from its record. -/
theorem Server.paymentOffer_registers (req : PaymentOfferRequest) (env : Env) (w : World) :
    resultState (Server.paymentOffer req env w) = w ∨ ∃ sid' s g c', w.heap[sid']? = some (s, g) ∧
      Registered (w.enter sid' s g) c' ∧ resultState (Server.paymentOffer req env w) = w.leave sid' c' :=
  Server.withSession_handled
    (keeps_registered_locked (keeps_registered_guard (by decide) _ (keeps_registered_paymentOffer _))) _ env w

/-- **Offer confirmation retries are bounded.** Take any clock that never goes back and any answers of the wallet, and
let an RPC of `PaymentOffer` give session `sid` its first deferred action: before it the session had none in
`tb.actions` or in a goroutine's batch, after it it has one. That action is `validateOffer`, due a confirmation
interval after a reading `now` of the clock, and the session is past the offer with a deadline `D ≥ now`:
`PaymentOffer`'s own deferral sets `D` to `now + 3 * ConfirmationInterval`, and a deferral by the `validateOffer` it
ran at once keeps the deadline the session had. Whatever events follow, in any order, at most
`retryRank D (now + ConfirmationInterval)` of them run a deferred action of the session: three after
`PaymentOffer`'s own deferral. Every such run happens at a reading of the clock past the action's `until`, and it
ends the process in a panic, calls `FinalizeExchange` (having published the solution, or on a failure), or defers
`validateOffer` again at a reading `now' ≤ D` past the old `until`, so that `D` minus the due time falls by more
than a confirmation interval at each reschedule. -/
theorem offer_retries_bounded (env : Env) (hclock : ∀ l l', env.clock l ≤ env.clock (l ++ l'))
    (req : PaymentOfferRequest) (sid : Nat) (w w' : World) (hstep : w.step env (.rpc (.paymentOffer req)) = some w')
    (hfirst : w.pendingOf sid = []) (hnew : w'.pendingOf sid ≠ []) :
    ∃ s g po now, w'.heap[sid]? = some (s, g) ∧ PastOfferState s.state ∧
      w'.pendingOf sid = [⟨sid, po, now + confirmationInterval⟩] ∧ now ≤ s.deadline ∧
      (s.deadline = now + 3 * confirmationInterval ∨
        ∃ s₀ g₀, w.heap[sid]? = some (s₀, g₀) ∧ s.deadline = s₀.deadline) ∧
      (∀ es, World.executionsOf env sid w' es ≤ retryRank s.deadline (now + confirmationInterval)) ∧
      (s.deadline = now + 3 * confirmationInterval → ∀ es, World.executionsOf env sid w' es ≤ 3) ∧
      ∀ es w₁ k a rest, World.run env w' es = some w₁ → w₁.actionBatches[k]? = some (a :: rest) →
        a.session = sid → World.RetryEnds env sid s.deadline k a w₁ := by
  obtain rfl : w' = resultState (Server.paymentOffer req env w) := World.step_some hstep
  have hnil : w.tb.actions.filter (·.session = sid) = [] ∧ w.actionBatches.flatten.filter (·.session = sid) = [] := by
    simpa only [World.pendingOf, List.filter_append, List.append_eq_nil] using hfirst
  rcases Server.paymentOffer_registers req env w with h | ⟨sid', s, g, c', hs, hreg, h⟩
  · rw [h] at hnew
    exact absurd hfirst hnew
  rw [h] at hnew ⊢
  have hpend : (w.leave sid' c').pendingOf sid = c'.tb.actions.filter (·.session = sid) := by
    simp only [World.pendingOf, World.leave, List.filter_append, hnil.2, List.append_nil]
  rw [hpend] at hnew
  rcases hreg with hsub | ⟨po, now, hsub, hpast, hle, hd⟩
  · have hx := hsub.filter (fun a => decide (a.session = sid))
    rw [show (w.enter sid' s g).tb.actions = w.tb.actions from rfl, hnil.1] at hx
    exact absurd (List.eq_nil_of_sublist_nil hx) hnew
  have hx := hsub.filter (fun a => decide (a.session = sid))
  rw [show (w.enter sid' s g).tb.actions = w.tb.actions from rfl] at hx
  rw [List.filter_append, hnil.1, List.nil_append, List.filter_singleton] at hx
  by_cases hsid : sid' = sid
  · subst hsid
    simp only [World.enter, decide_True, cond_true] at hx
    have hone : (w.leave sid' c').pendingOf sid' = [⟨sid', po, now + confirmationInterval⟩] := by
      rw [hpend]
      exact (List.sublist_singleton.1 hx).resolve_left hnew
    have hheap : (w.leave sid' c').heap[sid']? = some (c'.sess, c'.ghost) :=
      List.getElem?_set_self (List.getElem?_eq_some_iff.1 hs).1
    have hinv : RetryInv env sid' c'.sess.deadline (w.leave sid' c') :=
      ⟨⟨_, _, hheap, rfl, hpast⟩, fun a ha has => absurd (List.mem_filter.2 ⟨ha, decide_eq_true has⟩) (hnil.2 ▸ List.not_mem_nil a)⟩
    have hbound : ∀ es, World.executionsOf env sid' (w.leave sid' c') es ≤ retryRank c'.sess.deadline (now + confirmationInterval) :=
      fun es => (executionsOf_le hclock es _ hinv).trans_eq (by rw [World.retryBudget, hone, rankSum_cons, rankSum_nil, Nat.add_zero])
    refine ⟨c'.sess, c'.ghost, po, now, hheap, hpast, hone, hle, hd.imp_right fun h => ⟨s, g, hs, h⟩, hbound,
      fun hA es => (hbound es).trans_eq (by rw [hA, retryRank_offer]), fun es w₁ k a rest hrun hb ha => ?_⟩
    exact retry_execution hclock (retryInv_run hclock es _ _ hinv hrun) hb ha
  · simp only [World.enter, decide_eq_true_eq, hsid, decide_False, cond_false] at hx
    exact absurd (List.eq_nil_of_sublist_nil hx) hnew

/-- A wallet that decodes every address to one P2PKH address and imports any script, and that has not seen
any transaction yet; its clock reads zero. -/
def unconfirmedEnv : Env :=
  { Env.idle with
    lib := { Env.idle.lib with decodeAddress := fun _ => .ok ⟨.pubKeyHashSecp, "a", "a", []⟩ }
    rpc := { Env.idle.rpc with importScript := fun _ _ => .ok "" } }

/-- The tumbler holding one payer session after `ValidateSolutions`, in the epoch at height `0`. -/
def offerWorld : World :=
  let s : Session := { Session.fresh "a" with cookie := List.replicate 16 1, state := stateSolutionsValidated }
  ⟨⟨0, [⟨"e", "e", 0, ⟨⟨3, 15, 3, [3, 5], none⟩, 1, 1⟩⟩], fun k => if k = List.replicate 16 1 then some 0 else none,
      [], [], 10, 5, 0⟩, [(s, [])], [], [], [], []⟩

/-- An offer for the session of `offerWorld`, of the contract's amount. -/
def firstOffer : PaymentOfferRequest := ⟨List.replicate 16 1, contractValue, "a", [1], [1], [1], [2], [], []⟩

/-- The first offer of the session, whose escrow the wallet has not seen, is retried at most three times
on every run. -/
theorem offer_retries_bounded_unconfirmed :
    ∃ w', offerWorld.step unconfirmedEnv (.rpc (.paymentOffer firstOffer)) = some w' ∧
      ∀ es, World.executionsOf unconfirmedEnv 0 w' es ≤ 3 := by
  obtain ⟨w', hstep⟩ : ∃ w', offerWorld.step unconfirmedEnv (.rpc (.paymentOffer firstOffer)) = some w' :=
    ⟨_, rfl⟩
  have hpend : (offerWorld.step unconfirmedEnv (.rpc (.paymentOffer firstOffer))).map (World.pendingOf · 0) =
      some (w'.pendingOf 0) := by rw [hstep]; rfl
  have hnew : w'.pendingOf 0 ≠ [] := fun h => absurd (h ▸ hpend) (by decide)
  refine ⟨w', hstep, ?_⟩
  obtain ⟨s, g, po, now, -, -, -, hle, hA | ⟨s₀, g₀, h₀, hd⟩, hbound, h3, -⟩ :=
    offer_retries_bounded unconfirmedEnv (fun _ _ => le_rfl) firstOffer 0 offerWorld w' hstep rfl hnew
  · exact h3 hA
  · cases h₀
    have hnow : now = 0 := Nat.le_zero.1 (hle.trans_eq hd)
    subst hnow
    exact fun es => (hbound es).trans (by rw [hd]; decide)

end Tumblebit
