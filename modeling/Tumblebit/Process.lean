import Tumblebit.Rpc.Server

/-!
# The tumbler process (`tumbler/tumbler.go`, `NewSession`)

What the process does, one event at a time and in any order:
- an RPC on an existing session (`rpc`), run whole;
- the first part of `NewSession` (`connect`): `Connect` draws an unused cookie, stores the new
  session under it and queues it in `pending`;
- the rest of `NewSession` and the handler that called it (`finish`): `s.Cookie` and `s.expire` are
  assigned, then `SetupEscrow` or `GetSolutionPromises` goes on;
- a tick of `sessionTicker` (`tick`): the sessions whose expiry is before now leave `pending`, the
  deferred actions of those sessions are dropped and the due ones leave `actions`; each nonempty batch
  is handed to a new goroutine;
- one step of such a goroutine: a deferred `validateOffer` (`runAction`) or a `FinalizeExchange` on
  expiry (`runExpire`).

A returned error is an answer to a client; a panic ends the process, and the event has no next world.
-/

namespace Tumblebit

/-- The process as `StartTumblerService` leaves it. -/
def World.init (tb : Tumbler) : World := ⟨tb, [], [], [], [], []⟩

/-- The RPC handler of a request on an existing session, its response dropped. -/
def Server.handle : SessionRequest → Prog World Unit
  | .getPuzzlePromises req => do let _ ← Server.getPuzzlePromises req
  | .finalizeEscrow req => do let _ ← Server.finalizeEscrow req
  | .validateSolutions req => do let _ ← Server.validateSolutions req
  | .paymentOffer req => Server.paymentOffer req

/-- The first part of `NewSession`, up to the return of `Connect`, after the handler's address check.
The new session holds only its address and its element of `pending`. -/
def World.connect (fuel : Nat) (req : NewRequest) : Prog World Unit := do
  if req.address = "" then throw errBadAddress
  else
    match ← World.io (drawCookie (← get).tb.sessions fuel) with
    | none => pure ()
    | some cookie =>
      modify fun w =>
        { w with
          heap := w.heap ++ [({ Session.fresh req.address with explist := true }, [])]
          tb := w.tb.connect w.heap.length cookie
          connecting := w.connecting ++ [(w.heap.length, cookie, req)] }

/-- The rest of the `i`-th connecting `NewSession`: `s.Cookie`, then `s.expire` (`EpochDuration + 1`
confirmation intervals from now), then the handler that called it. -/
def World.finish (i : Nat) : Prog World Unit := do
  match (← get).connecting[i]? with
  | none => pure ()
  | some (sid, cookie, req) =>
    modify fun w => { w with connecting := w.connecting.eraseIdx i }
    World.onSession sid do
      modifySess fun s => { s with cookie := cookie }
      let now ← Ctx.io timeNow
      modifySess fun s => { s with expire := now + (epochDurationConst.toNat + 1) * confirmationInterval }
      match req with
      | .setupEscrow r => do let _ ← Server.setupEscrowBody r
      | .getSolutionPromises r => do let _ ← Server.getSolutionPromisesBody r

/-- Whether the session `sid` is past its expiry at `now` (`s.expire.Before(now)`). -/
def World.expiredAt (w : World) (now sid : Nat) : Bool :=
  match w.heap[sid]? with
  | some (s, _) => decide (s.expire < now)
  | none => false

/-- What a tick of `sessionTicker` at `now` does under the ticker's mutex: the expired sessions leave
`pending`, the deferred actions of those sessions are dropped, the due ones leave `actions`, and each
nonempty batch goes to a new goroutine. -/
def World.sweep (w : World) (now : Nat) : World :=
  let expired := w.tb.pending.filter (w.expiredAt now)
  let kept := w.tb.actions.filter fun a => decide (a.session ∉ expired)
  let due := kept.filter fun a => decide (a.untilTime < now)
  { w with
    tb := { w.tb with
      pending := w.tb.pending.filter fun sid => !w.expiredAt now sid
      actions := kept.filter fun a => !decide (a.untilTime < now) }
    actionBatches := if due = [] then w.actionBatches else w.actionBatches ++ [due]
    expireBatches := if expired = [] then w.expireBatches else w.expireBatches ++ [expired] }

/-- One tick of `sessionTicker`. -/
def World.tick : Prog World Unit := do
  let now ← World.io timeNow
  modify (·.sweep now)

/-- One step of the `i`-th `deferredActions` goroutine: the callback of its next action. -/
def World.runAction (i : Nat) : Prog World Unit := do
  match (← get).actionBatches[i]? with
  | some (a :: rest) =>
    modify fun w => { w with actionBatches := w.actionBatches.set i rest }
    World.onSession a.session (Session.validateOffer a.argument)
  | _ => pure ()

/-- One step of the `i`-th `expireSessions` goroutine: its next session is finalized as expired. -/
def World.runExpire (i : Nat) : Prog World Unit := do
  match (← get).expireBatches[i]? with
  | some (sid :: rest) =>
    modify fun w => { w with expireBatches := w.expireBatches.set i rest }
    World.onSession sid (Session.finalizeExchange reasonSessionExpired)
  | _ => pure ()

/-! ## Running the events -/

theorem World.onSession_run {α : Type} {w : World} {sid : Nat} {s : Session} {g : List Ghost}
    (h : w.heap[sid]? = some (s, g)) (m : Prog Ctx α) (env : Env) :
    World.onSession sid m env w = match m env (w.enter sid s g) with
      | .ok a c => .ok a (w.leave sid c)
      | .error e c => .error e (w.leave sid c) := by
  cases hm : m env (w.enter sid s g) <;> simp only [World.onSession, h, hm]

theorem World.io_run {α : Type} (m : Prog (List Effect) α) (env : Env) (w : World) :
    World.io m env w = match m env w.log with
      | .ok a l => .ok a { w with log := l }
      | .error e l => .error e { w with log := l } := by
  unfold World.io Prog.focus
  cases m env w.log <;> rfl

/-- A first draw that no session holds ends the loop of `Connect`. -/
theorem drawCookie_free {sessions : Cookie → Option Nat} {env : Env} {log : List Effect} (fuel : Nat)
    (h : sessions (env.randBytes log 16) = none) :
    drawCookie sessions (fuel + 1) env log = .ok (some (env.randBytes log 16)) (log ++ [Effect.randBytes 16]) := by
  simp [drawCookie, randRead, ask, Prog.bind_run, h]

theorem World.connect_run {env : Env} {w : World} {req : NewRequest} (fuel : Nat) (haddr : req.address ≠ "")
    (hfree : w.tb.sessions (env.randBytes w.log 16) = none) :
    World.connect (fuel + 1) req env w = .ok ()
      { w with
        log := w.log ++ [Effect.randBytes 16]
        heap := w.heap ++ [({ Session.fresh req.address with explist := true }, [])]
        tb := w.tb.connect w.heap.length (env.randBytes w.log 16)
        connecting := w.connecting ++ [(w.heap.length, env.randBytes w.log 16, req)] } := by
  simp only [World.connect, haddr, if_false, Prog.bind_run, Prog.get_run, World.io_run, drawCookie_free fuel hfree]
  rfl

theorem World.tick_run (env : Env) (w : World) :
    World.tick env w = .ok () ({ w with log := w.log ++ [Effect.now] }.sweep (env.clock w.log)) := rfl

theorem World.runAction_run {env : Env} {w : World} {i : Nat} {a : DeferredAction} {rest : List DeferredAction}
    (hb : w.actionBatches[i]? = some (a :: rest)) :
    World.runAction i env w = World.onSession a.session (Session.validateOffer a.argument) env
      { w with actionBatches := w.actionBatches.set i rest } := by
  simp only [World.runAction, Prog.bind_run, Prog.get_run, hb, Prog.modify_run]

theorem World.runExpire_run {env : Env} {w : World} {i sid : Nat} {rest : List Nat}
    (hb : w.expireBatches[i]? = some (sid :: rest)) :
    World.runExpire i env w = World.onSession sid (Session.finalizeExchange reasonSessionExpired) env
      { w with expireBatches := w.expireBatches.set i rest } := by
  simp only [World.runExpire, Prog.bind_run, Prog.get_run, hb, Prog.modify_run]

/-! ## Runs -/

/-- An event of the process. -/
inductive Event where
  | rpc (req : SessionRequest)
  | connect (fuel : Nat) (req : NewRequest)
  | finish (i : Nat)
  | tick
  | runAction (i : Nat)
  | runExpire (i : Nat)
  deriving DecidableEq, Repr

def Event.run : Event → Prog World Unit
  | .rpc req => Server.handle req
  | .connect fuel req => World.connect fuel req
  | .finish i => World.finish i
  | .tick => World.tick
  | .runAction i => World.runAction i
  | .runExpire i => World.runExpire i

/-- The process after an event; a panic ends it. -/
def World.step (env : Env) (w : World) (e : Event) : Option World :=
  match e.run env w with
  | .ok _ w' => some w'
  | .error (.error _) w' => some w'
  | .error (.panic _) _ => none

/-- The process after a sequence of events. -/
def World.run (env : Env) : World → List Event → Option World
  | w, [] => some w
  | w, e :: es => (w.step env e).bind fun w' => World.run env w' es

/-- An event that panics ends the process. -/
theorem World.step_panic {env : Env} {w w' : World} {e : Event} {m : String}
    (h : e.run env w = .error (.panic m) w') : World.step env w e = none := by
  simp only [World.step, h]

@[simp] theorem World.run_nil (env : Env) (w : World) : World.run env w [] = some w := rfl

theorem World.run_cons (env : Env) (w : World) (e : Event) (es : List Event) :
    World.run env w (e :: es) = (w.step env e).bind fun w' => World.run env w' es := rfl

theorem World.run_append (env : Env) (w : World) (es es' : List Event) :
    World.run env w (es ++ es') = (World.run env w es).bind fun w' => World.run env w' es' := by
  induction es generalizing w with
  | nil => rfl
  | cons e es ih =>
    simp only [List.cons_append, World.run_cons]
    cases w.step env e with
    | none => rfl
    | some w' => exact ih w'

end Tumblebit
