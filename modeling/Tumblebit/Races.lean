import Tumblebit.Process

/-!
# Races of the process

Two interleavings of the process break what finalization is meant to guarantee.

- `NewSession` connects its session before it assigns `s.Cookie` and `s.expire`. A tick in between finds
  the zero expiry before now and hands the session to `expireSessions`. Its `FinalizeExchange` then wins
  the semaphore, and `Disconnect` deletes the zero cookie instead of the session's own
  (`newSession_expires_uninitialised`). The finalized session stays reachable under its cookie.
- A tick takes a due deferred `validateOffer` out of `actions`. A request that fails before it runs
  finalizes the session, and `Disconnect` finds no action left to remove. The extracted action then
  runs on the finalized session, which it never checks, and an offer still unconfirmed is deferred
  again (`finalized_session_defers_again`).
-/

namespace Tumblebit

/-- A process whose random draws are all ones and whose clock reads one second. -/
def tickingEnv : Env :=
  { Env.idle with
    randBytes := fun _ n => List.replicate n 1
    randBytes_length := fun _ n => List.length_replicate n 1
    clock := fun _ => 1 }

/-! ## A tick inside `NewSession` -/

/-- From a fresh process, connect a session and tick before `NewSession` assigns its cookie and expiry.
The tick expires the session at the zero expiry and `expireSessions` finalizes it, yet the cookie
`Connect` stored still maps to it. -/
theorem newSession_expires_uninitialised (env : Env) (tb : Tumbler) (fuel : Nat) (req : NewRequest)
    (cookie : Cookie) (hsess : ∀ k, tb.sessions k = none) (hpend : tb.pending = []) (hact : tb.actions = [])
    (haddr : req.address ≠ "") (hdraw : ∀ h, env.randBytes h 16 = cookie) (hne : cookie ≠ zeroCookie)
    (hnow : ∀ h, 0 < env.clock h) :
    ∃ w, World.run env (World.init tb) [.connect (fuel + 1) req, .tick, .runExpire 0] = some w ∧
      w.tb.sessions cookie = some 0 ∧
      ∃ s, w.heap = [(s, [.finalize reasonSessionExpired stateInitial])] ∧ s.finsema = true ∧ s.expire = 0 ∧
        s.cookie = zeroCookie := by
  have hconnect := @World.connect_run env (World.init tb) req fuel haddr (by rw [hdraw]; exact hsess _)
  have hexpired : 0 < env.clock [Effect.randBytes 16] := hnow _
  simp only [World.init, List.nil_append, List.length_nil, hdraw] at hconnect
  simp only [World.run_cons, World.step, Event.run, World.init, hconnect, World.tick_run, Option.some_bind]
  -- the tick puts the session, still at the zero expiry, into a batch of its own
  simp [World.sweep, World.expiredAt, Tumbler.connect, hpend, hact, Session.fresh, hexpired]
  -- `expireSessions` finalizes it; `Disconnect` deletes the zero cookie
  rw [World.runExpire_run rfl, World.onSession_run rfl]
  simp [Session.finalizeExchange, Ctx.note, getSess, Prog.bind_run, reasonSessionExpired, reasonSuccess, World.enter,
    modifySess, Tumbler.disconnect, Tumbler.removeDeferredActions, World.leave, hne]

theorem newSession_expires_uninitialised_run :
    ∃ w, World.run tickingEnv (World.init ⟨0, [], fun _ => none, [], [], 10, 5, 0⟩)
        [.connect 1 (.getSolutionPromises ⟨"a", 0, []⟩), .tick, .runExpire 0] = some w ∧
      w.tb.sessions (List.replicate 16 1) = some 0 ∧
      ∃ s, w.heap = [(s, [.finalize reasonSessionExpired stateInitial])] ∧ s.finsema = true ∧ s.expire = 0 ∧
        s.cookie = zeroCookie :=
  newSession_expires_uninitialised tickingEnv _ 0 (.getSolutionPromises ⟨"a", 0, []⟩) (List.replicate 16 1)
    (fun _ => rfl) rfl rfl (by decide) (fun _ => rfl) (by decide) (fun _ => Nat.one_pos)

/-! ## A deferred action outliving its session -/

/-- A session at `OfferReceived` with its deferred `validateOffer` due at the next tick, the offer still
unconfirmed. A tick extracts the action; a `PaymentOffer` request on the session then fails its state
check and finalizes the session, leaving no action of it in `actions`. The extracted action runs
afterwards and puts a new one there. -/
theorem finalized_session_defers_again (env : Env) (w : World) (sid : Nat) (s : Session) (g : List Ghost)
    (po : PaymentOfferReq) (untilTime : Nat) (req : PaymentOfferRequest)
    (hs : w.heap[sid]? = some (s, g)) (hstate : s.state = stateOfferReceived) (hfin : s.finsema = false)
    (hlock : s.sersema = false) (hcon : s.contract.isSome) (hact : w.tb.actions = [⟨sid, po, untilTime⟩])
    (hbatch : w.actionBatches = []) (hcookie : w.tb.lookup req.cookie = some sid)
    (hclock : ∀ h, untilTime < env.clock h ∧ env.clock h ≤ s.deadline ∧ env.clock h ≤ s.expire)
    (htx : ∀ h x, env.rpc.getTransaction h x = .error .notFound) :
    ∃ w₁ w₂, World.run env w [.tick, .rpc (.paymentOffer req)] = some w₁ ∧
      (∃ s₁ g₁, w₁.heap[sid]? = some (s₁, g₁) ∧ s₁.finsema = true ∧ ∀ a ∈ w₁.tb.actions, a.session ≠ sid) ∧
      World.run env w₁ [.runAction 0] = some w₂ ∧ ∃ a ∈ w₂.tb.actions, a.session = sid := by
  obtain ⟨hdue, -, hexp⟩ := hclock w.log
  obtain ⟨con, hcon⟩ := Option.isSome_iff_exists.mp hcon
  have hlt : sid < w.heap.length := (List.getElem?_eq_some_iff.mp hs).1
  have hdl : ∀ h, ¬s.deadline < env.clock h := fun h => Nat.not_lt.mpr (hclock h).2.1
  have hr8 : readyFrom stateOfferReceived stateOfferReceived =
      .error ("not ready to advance to " ++ stateName 8 ++ " from " ++ stateName 8) := rfl
  have hr9 : readyFrom 8 9 = .ok () := rfl
  simp only [Tumbler.lookup] at hcookie
  -- the tick: the session has not expired and its action is due
  simp only [World.run_cons, World.step, Event.run, World.tick_run, World.sweep, hbatch, List.mem_filter,
    World.expiredAt, not_and, Bool.not_eq_true, decide_implies, Bool.decide_eq_false, dite_eq_ite, Bool.if_true_right,
    hact, hs, Nat.not_lt.mpr hexp, decide_False, Bool.not_false, Bool.or_true, List.filter_cons_of_pos, List.filter_nil,
    hdue, decide_True, Bool.not_true, Bool.false_eq_true, not_false_eq_true, List.filter_cons_of_neg, List.cons_ne_self,
    ↓reduceIte, List.nil_append, List.filter_eq_nil_iff, World.run_nil, Option.bind_some, Option.some_bind, ne_eq,
    exists_and_right, exists_and_left]
  -- the request: `ready` fails, the session is finalized, the semaphore released
  simp only [Server.handle, Server.paymentOffer, Server.withSession, Tumbler.lookup, Session.tryLock, getSess,
    bind_pure_comp, modifySess, bind_map_left, Server.guard, Session.paymentOffer, Bool.not_eq_eq_eq_not, Bool.not_true,
    pure_bind, Session.finalizeExchange, Ctx.note, reasonFailedExchange, reasonSuccess, OfNat.ofNat_ne_zero, ne_eq,
    false_and, ↓reduceIte, Tumbler.disconnect, Tumbler.removeDeferredActions, decide_not, bind_assoc, Session.unlock,
    Prog.bind_run, Prog.get_run, hcookie, World.onSession, hs, World.enter, hlock, Bool.false_eq_true, Prog.map_run,
    Prog.modify_run, hfin, hstate, Prog.deferring, Prog.attempt, readyOrFail_run, Session.ready, hr8, List.filter_nil,
    Prog.set_run, Prog.throw_run, Bool.true_eq_false, Prog.pure_run, World.leave]
  -- the extracted action: the offer is unconfirmed before the deadline, so it defers itself again
  cases s.explist <;>
  simp only [errBadRequest, rpcStatus, String.reduceAppend, ↓reduceIte, hcon, stateOfferReceived,
    Option.some.injEq, World.runAction, Session.validateOffer, stateSolutionPublished, Session.walletValidateOffer,
    Wallet.validateOffer, WState.io, bind_pure_comp, pure_bind, Ctx.io, timeNow, getSess, Bool.not_eq_eq_eq_not,
    Bool.not_true, Tumbler.deferAction, modifyTb, mapM, bind_map_left, Prog.bind_run, Prog.get_run, exists_eq_left',
    List.length_set, hlt, List.getElem?_eq_getElem, List.getElem_set_self, Prod.mk.injEq, exists_and_left, exists_eq',
    and_true, List.not_mem_nil, IsEmpty.forall_iff, implies_true, List.length_singleton, zero_lt_one,
    List.getElem_cons_zero, Prog.modify_run, List.set_cons_zero, World.onSession, Session.orFail, World.enter,
    readyOrFail_run, Session.ready, hr9, Prog.wrap, Ctx.withContract, Prog.focus, ask, htx, List.append_assoc,
    List.singleton_append, Prog.pure_run, Bool.false_eq_true, true_and, List.cons_append, hdl, List.nil_append,
    World.leave, List.set_set, List.mem_singleton, exists_eq_left, and_self]

/-- The session of `finalized_session_defers_again` as `PaymentOffer` leaves it: stored under the cookie
of ones, at `OfferReceived` with a contract, its action due at the first tick. -/
def deferredWorld : World :=
  let s : Session :=
    { Session.fresh "a" with
      cookie := List.replicate 16 1, explist := true, expire := 1, deadline := 1,
      contract := (Contract.new contractValue 0).toOption, state := stateOfferReceived }
  ⟨⟨0, [], fun k => if k = List.replicate 16 1 then some 0 else none,
      [⟨0, ⟨contractValue, "", [], [], [], [], [], []⟩, 0⟩], [0], 10, 5, 0⟩,
    [(s, [])], [], [], [], []⟩

theorem finalized_session_defers_again_run :
    ∃ w₁ w₂, World.run tickingEnv deferredWorld
        [.tick, .rpc (.paymentOffer ⟨List.replicate 16 1, 0, "", [], [], [], [], [], []⟩)] = some w₁ ∧
      (∃ s₁ g₁, w₁.heap[0]? = some (s₁, g₁) ∧ s₁.finsema = true ∧ ∀ a ∈ w₁.tb.actions, a.session ≠ 0) ∧
      World.run tickingEnv w₁ [.runAction 0] = some w₂ ∧ ∃ a ∈ w₂.tb.actions, a.session = 0 :=
  finalized_session_defers_again tickingEnv deferredWorld 0 _ [] _ 0 _ rfl rfl rfl rfl rfl rfl rfl rfl
    (fun _ => ⟨Nat.one_pos, le_rfl, le_rfl⟩) (fun _ _ => rfl)

end Tumblebit
