import Tumblebit.Process

/-!
# One tick of `sessionTicker`

Under `tickerMu` a tick walks `tb.pending` and then `tb.actions`, removing elements as it goes and appending what
it removes to `expired` and to the batch of due actions. `pendingLoop` and `actionsLoop` are the two loops: their
state is the part of the list already walked and kept, the accumulator, and the part still to walk. Each loop keeps
the elements it does not remove in their order and appends the ones it removes in theirs, so it computes two
filters (`pendingLoop_eq`, `actionsLoop_eq`), and the loops compute `World.sweep` (`tickLoops_eq_sweep`). Every
action lands in exactly one of the batch, the new list and the dropped ones (`sessionTicker_partition`). The batches
go to goroutines that take their elements in order, one per step (`runAction_drop`, `runExpire_drop`).
-/

namespace Tumblebit

/-! ## The loops -/

/-- `contains`: whether session `s` is in the list. -/
def contains (s : Nat) : List Nat → Bool
  | [] => false
  | x :: xs => if x = s then true else contains s xs

@[simp] theorem contains_iff {s : Nat} : ∀ {l : List Nat}, contains s l = true ↔ s ∈ l
  | [] => by simp [contains]
  | x :: xs => by
    rw [contains.eq_2, List.mem_cons, ← contains_iff]
    by_cases h : x = s
    · simp [h]
    · simp [h, Ne.symm h]

/-- The loop over `tb.pending`, from the sessions `kept` it left in the list and the `expired` ones it removed:
a session whose expiry is before now is removed and appended to `expired`. -/
def pendingLoop (isExpired : Nat → Bool) : List Nat → List Nat → List Nat → List Nat × List Nat
  | kept, expired, [] => (kept, expired)
  | kept, expired, s :: rest =>
    if isExpired s then pendingLoop isExpired kept (expired ++ [s]) rest
    else pendingLoop isExpired (kept ++ [s]) expired rest

/-- The loop over `tb.actions`, from the actions `kept` it left in the list and the due ones it removed into the
batch: an action of an expired session is removed, and a due one is removed and appended to the batch. -/
def actionsLoop (expired : List Nat) (now : Nat) :
    List DeferredAction → List DeferredAction → List DeferredAction → List DeferredAction × List DeferredAction
  | kept, batch, [] => (kept, batch)
  | kept, batch, a :: rest =>
    if contains a.session expired then actionsLoop expired now kept batch rest
    else if a.untilTime < now then actionsLoop expired now kept (batch ++ [a]) rest
    else actionsLoop expired now (kept ++ [a]) batch rest

/-- The critical section of a tick at `now`, as the two loops run it; each nonempty batch goes to a new
goroutine. -/
def World.tickLoops (w : World) (now : Nat) : World :=
  let (pending, expired) := pendingLoop (w.expiredAt now) [] [] w.tb.pending
  let (actions, due) := actionsLoop expired now [] [] w.tb.actions
  { w with
    tb := { w.tb with pending := pending, actions := actions }
    actionBatches := if due = [] then w.actionBatches else w.actionBatches ++ [due]
    expireBatches := if expired = [] then w.expireBatches else w.expireBatches ++ [expired] }

/-- The pending loop keeps the sessions not expired in order and appends the expired ones in order. -/
theorem pendingLoop_eq (isExpired : Nat → Bool) :
    ∀ (l kept expired : List Nat), pendingLoop isExpired kept expired l =
      (kept ++ l.filter (fun s => !isExpired s), expired ++ l.filter isExpired)
  | [], _, _ => by simp [pendingLoop]
  | s :: rest, kept, expired => by
    unfold pendingLoop
    cases h : isExpired s <;> simp [pendingLoop_eq isExpired rest, h]

/-- The actions loop keeps the actions neither dropped nor due in order and appends the due ones in order. -/
theorem actionsLoop_eq (expired : List Nat) (now : Nat) :
    ∀ (l kept batch : List DeferredAction), actionsLoop expired now kept batch l =
      (kept ++ l.filter (fun a => a.session ∉ expired ∧ now ≤ a.untilTime),
        batch ++ l.filter (fun a => a.session ∉ expired ∧ a.untilTime < now))
  | [], _, _ => by simp [actionsLoop]
  | a :: rest, kept, batch => by
    unfold actionsLoop
    by_cases he : a.session ∈ expired <;> by_cases hd : a.untilTime < now <;>
      simp [actionsLoop_eq expired now rest, he, hd, Nat.le_of_not_lt, Nat.not_le.2]

theorem decide_kept (E : List Nat) (now : Nat) (a : DeferredAction) :
    decide (a.session ∉ E ∧ now ≤ a.untilTime) = (!decide (a.untilTime < now) && decide (a.session ∉ E)) := by
  rw [Bool.and_comm, ← decide_not, ← Bool.decide_and]
  simp only [Nat.not_lt]

theorem decide_due (E : List Nat) (now : Nat) (a : DeferredAction) :
    decide (a.session ∉ E ∧ a.untilTime < now) = (decide (a.untilTime < now) && decide (a.session ∉ E)) := by
  rw [Bool.and_comm, ← Bool.decide_and]

/-- The loops compute `World.sweep`. -/
theorem tickLoops_eq_sweep (w : World) (now : Nat) : w.tickLoops now = w.sweep now := by
  simp only [World.tickLoops, World.sweep, pendingLoop_eq, actionsLoop_eq, List.nil_append, List.filter_filter,
    decide_kept, decide_due]

/-! ## The goroutines -/

/-- Consecutive events `e`, each of which takes the head of a list the world holds, take a prefix of it. -/
theorem run_replicate_drop {α : Type} {env : Env} (f : World → Option (List α)) (e : Event)
    (hstep : ∀ w w' b, f w = some b → w.step env e = some w' → f w' = some b.tail) :
    ∀ (j : Nat) (w w' : World) (b : List α), f w = some b → World.run env w (List.replicate j e) = some w' →
      f w' = some (b.drop j)
  | 0, w, w', b, hb, h => by
    cases h
    exact hb
  | j + 1, w, w', b, hb, h => by
    rw [List.replicate_succ, World.run_cons] at h
    obtain ⟨w₁, h₁, h⟩ := Option.bind_eq_some.1 h
    rw [run_replicate_drop f e hstep j w₁ w' b.tail (hstep w w₁ b hb h₁) h, List.drop_tail]

/-- The world after a step is the one the event's run ended in. -/
theorem World.step_some {env : Env} {w w' : World} {e : Event} (h : w.step env e = some w') :
    w' = resultState (e.run env w) := by
  unfold World.step at h
  split at h <;> rename_i heq <;> cases h <;> rw [heq] <;> rfl

/-- A handler on a session leaves the goroutines' batches alone. -/
theorem World.onSession_batches {α : Type} (sid : Nat) (m : Prog Ctx α) (env : Env) (w : World) :
    (resultState (World.onSession sid m env w)).actionBatches = w.actionBatches ∧
      (resultState (World.onSession sid m env w)).expireBatches = w.expireBatches := by
  unfold World.onSession
  split
  · exact ⟨rfl, rfl⟩
  · split <;> exact ⟨rfl, rfl⟩

/-- A step of the `k`-th `deferredActions` goroutine leaves the rest of its batch, whatever the callback did. -/
theorem runAction_step {env : Env} {k : Nat} {w w' : World} {b : List DeferredAction}
    (hb : w.actionBatches[k]? = some b) (h : w.step env (.runAction k) = some w') : w'.actionBatches[k]? = some b.tail := by
  rw [World.step_some h]
  cases b with
  | nil => simp [Event.run, World.runAction, Prog.bind_run, hb]
  | cons a rest =>
    rw [Event.run, World.runAction_run hb, (World.onSession_batches _ _ _ _).1]
    simp [(List.getElem?_eq_some_iff.1 hb).1]

/-- A step of the `k`-th `expireSessions` goroutine leaves the rest of its batch, whatever finalizing did. -/
theorem runExpire_step {env : Env} {k : Nat} {w w' : World} {b : List Nat}
    (hb : w.expireBatches[k]? = some b) (h : w.step env (.runExpire k) = some w') : w'.expireBatches[k]? = some b.tail := by
  rw [World.step_some h]
  cases b with
  | nil => simp [Event.run, World.runExpire, Prog.bind_run, hb]
  | cons sid rest =>
    rw [Event.run, World.runExpire_run hb, (World.onSession_batches _ _ _ _).2]
    simp [(List.getElem?_eq_some_iff.1 hb).1]

/-- `k`-th `deferredActions` goroutine, run step after step, calls `validateOffer` on its batch in order. -/
theorem runAction_nth {env : Env} {k j : Nat} {w₁ w₂ : World} {b : List DeferredAction} {a : DeferredAction}
    (hb : w₁.actionBatches[k]? = some b) (hrun : World.run env w₁ (List.replicate j (.runAction k)) = some w₂)
    (ha : b[j]? = some a) :
    World.runAction k env w₂ = World.onSession a.session (Session.validateOffer a.argument) env
      { w₂ with actionBatches := w₂.actionBatches.set k (b.drop (j + 1)) } := by
  have hj := (List.getElem?_eq_some_iff.1 ha)
  refine World.runAction_run ?_
  rw [run_replicate_drop (·.actionBatches[k]?) _ (fun _ _ _ => runAction_step) j w₁ w₂ b hb hrun,
    List.drop_eq_getElem_cons hj.1, hj.2]

/-- `k`-th `expireSessions` goroutine, run step after step, finalizes the sessions of its batch in order. -/
theorem runExpire_nth {env : Env} {k j : Nat} {w₁ w₂ : World} {b : List Nat} {sid : Nat}
    (hb : w₁.expireBatches[k]? = some b) (hrun : World.run env w₁ (List.replicate j (.runExpire k)) = some w₂)
    (hs : b[j]? = some sid) :
    World.runExpire k env w₂ = World.onSession sid (Session.finalizeExchange reasonSessionExpired) env
      { w₂ with expireBatches := w₂.expireBatches.set k (b.drop (j + 1)) } := by
  have hj := (List.getElem?_eq_some_iff.1 hs)
  refine World.runExpire_run ?_
  rw [run_replicate_drop (·.expireBatches[k]?) _ (fun _ _ _ => runExpire_step) j w₁ w₂ b hb hrun,
    List.drop_eq_getElem_cons hj.1, hj.2]

/-! ## A tick -/

/-- The actions of a tick are the batch, the kept ones and the dropped ones, each action once. -/
theorem actions_perm (E : List Nat) (now : Nat) (A : List DeferredAction) :
    A.Perm (A.filter (fun a => a.session ∉ E ∧ a.untilTime < now) ++
      A.filter (fun a => a.session ∉ E ∧ now ≤ a.untilTime) ++ A.filter (fun a => a.session ∈ E)) := by
  have hlive := List.filter_append_perm (fun a => decide (a.session ∉ E)) A
  have hdue := List.filter_append_perm (fun a => decide (a.untilTime < now)) (A.filter fun a => a.session ∉ E)
  simp only [List.filter_filter] at hdue
  simp only [decide_kept, decide_due, show ∀ a : DeferredAction, decide (a.session ∈ E) = !decide (a.session ∉ E) by
    simp]
  exact ((hdue.append_right _).trans hlive).symm

/-- **One tick of `sessionTicker`.** A tick event runs the two loops at the clock's instant. Over any pending list,
any action list, any expiry times and any instant `now`: the first loop removes the sessions whose expiry is before
`now` into `expired`, in order, and keeps the others in order; the second drops the actions of those sessions,
moves the due ones into the batch in order, and keeps the others in order, so that every action is in exactly one
of the batch, the kept ones and the dropped ones. Each nonempty list goes to a new goroutine, which calls
`validateOffer` on the actions of its batch, or finalizes the sessions of its batch as expired, in order, one per
step. -/
theorem sessionTicker_partition (w : World) (now : Nat) :
    let expired := w.tb.pending.filter (w.expiredAt now)
    let batch := w.tb.actions.filter fun a => a.session ∉ expired ∧ a.untilTime < now
    let kept := w.tb.actions.filter fun a => a.session ∉ expired ∧ now ≤ a.untilTime
    (∀ env, World.tick env w = .ok () ({ w with log := w.log ++ [Effect.now] }.tickLoops (env.clock w.log))) ∧
    pendingLoop (w.expiredAt now) [] [] w.tb.pending = (w.tb.pending.filter fun s => !w.expiredAt now s, expired) ∧
    actionsLoop expired now [] [] w.tb.actions = (kept, batch) ∧
    w.tb.actions.Perm (batch ++ kept ++ w.tb.actions.filter fun a => a.session ∈ expired) ∧
    (w.tickLoops now).actionBatches = (if batch = [] then w.actionBatches else w.actionBatches ++ [batch]) ∧
    (w.tickLoops now).expireBatches = (if expired = [] then w.expireBatches else w.expireBatches ++ [expired]) ∧
    (∀ env k j w₁ w₂ (b : List DeferredAction) a, w₁.actionBatches[k]? = some b →
      World.run env w₁ (List.replicate j (.runAction k)) = some w₂ → b[j]? = some a →
      World.runAction k env w₂ = World.onSession a.session (Session.validateOffer a.argument) env
        { w₂ with actionBatches := w₂.actionBatches.set k (b.drop (j + 1)) }) ∧
    (∀ env k j w₁ w₂ (b : List Nat) sid, w₁.expireBatches[k]? = some b →
      World.run env w₁ (List.replicate j (.runExpire k)) = some w₂ → b[j]? = some sid →
      World.runExpire k env w₂ = World.onSession sid (Session.finalizeExchange reasonSessionExpired) env
        { w₂ with expireBatches := w₂.expireBatches.set k (b.drop (j + 1)) }) := by
  intro expired batch kept
  have hloops : pendingLoop (w.expiredAt now) [] [] w.tb.pending =
      (w.tb.pending.filter fun s => !w.expiredAt now s, expired) := by simp [pendingLoop_eq, expired]
  have hactions : actionsLoop expired now [] [] w.tb.actions = (kept, batch) := by simp [actionsLoop_eq, kept, batch]
  refine ⟨fun env => by rw [World.tick_run, tickLoops_eq_sweep], hloops, hactions, actions_perm _ _ _, ?_, ?_,
    fun _ _ _ _ _ _ _ => runAction_nth, fun _ _ _ _ _ _ _ => runExpire_nth⟩ <;>
    simp only [World.tickLoops, hloops, hactions]

/-- Two pending sessions, expiring at `1` and at `9`, and three deferred actions: one of the first session and two
of the second, due at `2` and at `9`. -/
def tickWorld : World :=
  let po : PaymentOfferReq := ⟨0, "", [], [], [], [], [], []⟩
  ⟨⟨0, [], fun _ => none, [⟨0, po, 9⟩, ⟨1, po, 2⟩, ⟨1, po, 9⟩], [0, 1], 10, 5, 0⟩,
    [({ Session.fresh "" with expire := 1 }, []), ({ Session.fresh "" with expire := 9 }, [])], [], [], [], []⟩

/-- A tick at `5` expires the first session, drops its action, hands the action due at `2` to a new goroutine
and keeps the last one. -/
theorem sessionTicker_partition_toy :
    pendingLoop (tickWorld.expiredAt 5) [] [] tickWorld.tb.pending = ([1], [0]) ∧
    actionsLoop [0] 5 [] [] tickWorld.tb.actions =
      ([⟨1, ⟨0, "", [], [], [], [], [], []⟩, 9⟩], [⟨1, ⟨0, "", [], [], [], [], [], []⟩, 2⟩]) ∧
    (tickWorld.tickLoops 5).actionBatches = [[⟨1, ⟨0, "", [], [], [], [], [], []⟩, 2⟩]] ∧
    (tickWorld.tickLoops 5).expireBatches = [[0]] :=
  have h := sessionTicker_partition tickWorld 5
  ⟨h.2.1.trans rfl, h.2.2.1.trans rfl, h.2.2.2.2.1.trans rfl, h.2.2.2.2.2.1.trans rfl⟩

end Tumblebit
