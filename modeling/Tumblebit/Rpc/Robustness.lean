import Tumblebit.Process

/-!
# Requests that crash the server

The handlers check their inputs with `idx > len` bounds and trust the session's role. Neither guard is
enough for every request a client can send. A panic in a handler is never recovered: the deferred
`Unlock` runs and the process ends.

- `GetPuzzlePromises` on a payer session reaches `SignChallengeHashes` with no contract, and its first
  field access panics (`getPuzzlePromises_payer_panics`).
- `ValidateSolutions` with the fake index `len(s.puzzles)` passes the bound and indexes one past the end
  (`validateSolutions_index_panics`).
-/

namespace Tumblebit

/-- A payer session has no contract until its offer. A `GetPuzzlePromises` request with its cookie runs
`SignChallengeHashes`, whose first access to the contract panics: the handler neither answers nor
finalizes the session, and the process ends. -/
theorem getPuzzlePromises_payer_panics (env : Env) (w : World) (req : GetPuzzlePromisesRequest) (sid : Nat)
    (s : Session) (g : List Ghost) (hcookie : w.tb.lookup req.cookie = some sid) (hs : w.heap[sid]? = some (s, g))
    (hlock : s.sersema = false) (hcon : s.contract = none) :
    (∃ w', Server.getPuzzlePromises req env w = .error nilPanic w') ∧
      World.step env w (.rpc (.getPuzzlePromises req)) = none := by
  have hrun : ∃ w', Server.getPuzzlePromises req env w = .error nilPanic w' := by
    simp [Server.getPuzzlePromises, Server.withSession, hcookie, Prog.bind_run, World.onSession, hs, Session.tryLock,
      getSess, World.enter, hlock, modifySess, Prog.deferring, Server.guard, Prog.attempt, Session.signChallengeHashes,
      Ctx.withContract, hcon, nilPanic, Session.unlock]
  obtain ⟨w', hw'⟩ := hrun
  exact ⟨⟨w', hw'⟩, World.step_panic (by simp only [Event.run, Server.handle, Prog.bind_run, hw']; rfl)⟩

/-- A payer session as `GetSolutionPromises` leaves it, under the cookie of ones. -/
def payerSession (puzzles : List Bytes) : Session :=
  { Session.fresh "a" with
    cookie := List.replicate 16 1, explist := true, state := stateSolutionsPromised, puzzles := puzzles }

/-- The process holding only `payerSession puzzles`, in an epoch at height `0` with the key `pk`. -/
def payerWorld (puzzles : List Bytes) (pk : PuzzleKey) : World :=
  ⟨⟨1, [⟨"", "", 0, pk⟩], fun k => if k = List.replicate 16 1 then some 0 else none, [], [0], 10, 5, 0⟩,
    [(payerSession puzzles, [])], [], [], [], []⟩

theorem getPuzzlePromises_payer_panics_run :
    (∃ w', Server.getPuzzlePromises ⟨List.replicate 16 1, [], [], []⟩ Env.idle (payerWorld [] ⟨⟨3, 15, 3, [3, 5], none⟩, 1, 1⟩) =
      .error nilPanic w') ∧
      World.step Env.idle (payerWorld [] ⟨⟨3, 15, 3, [3, 5], none⟩, 1, 1⟩)
        (.rpc (.getPuzzlePromises ⟨List.replicate 16 1, [], [], []⟩)) = none :=
  getPuzzlePromises_payer_panics Env.idle _ _ 0 (payerSession []) [] rfl rfl rfl rfl

/-- `ValidateSolutions` rejects an index only when it exceeds `len(s.puzzles)`. The fake list holding
`len(s.puzzles)` itself passes that check, and reading its puzzle panics one past the end. -/
theorem validateSolutions_index_panics (env : Env) (w : World) (req : ValidateSolutionsRequest) (sid : Nat)
    (s : Session) (g : List Ghost) (pk : PuzzleKey) (hcookie : w.tb.lookup req.cookie = some sid)
    (hs : w.heap[sid]? = some (s, g)) (hlock : s.sersema = false) (hstate : s.state = stateSolutionsPromised)
    (hkey : w.tb.getPuzzleKey s.epoch = .ok pk) (hpos : 0 < s.puzzles.length) (hlen : s.puzzles.length < 65536)
    (hlist : req.fakePuzzleList = le16 s.puzzles.length) :
    (∃ w', Server.validateSolutions req env w = .error (indexPanic s.puzzles.length s.puzzles.length) w') ∧
      World.step env w (.rpc (.validateSolutions req)) = none := by
  have hr : readyFrom stateSolutionsPromised stateSolutionsValidated = .ok () := rfl
  have hrun : ∃ w', Server.validateSolutions req env w = .error (indexPanic s.puzzles.length s.puzzles.length) w' := by
    simp [Server.validateSolutions, Server.withSession, hcookie, Prog.bind_run, World.onSession, hs,
      Session.tryLock, getSess, World.enter, hlock, modifySess, Prog.deferring, Server.guard, Prog.attempt,
      Session.validateSolutions, readyOrFail_run, Session.ready, hstate, hr, hlist, decodeIndexList_le16 hlen,
      List.ne_nil_of_length_pos hpos, Session.epochPuzzleKey, Ctx.note,
      hkey, checkPuzzles, goIndex_of_le, indexPanic, Session.unlock]
  obtain ⟨w', hw'⟩ := hrun
  exact ⟨⟨w', hw'⟩, World.step_panic (by simp only [Event.run, Server.handle, Prog.bind_run, hw']; rfl)⟩

theorem validateSolutions_index_panics_run :
    (∃ w', Server.validateSolutions ⟨List.replicate 16 1, le16 1, []⟩ Env.idle
        (payerWorld [[]] ⟨⟨3, 15, 3, [3, 5], none⟩, 1, 1⟩) = .error (indexPanic 1 1) w') ∧
      World.step Env.idle (payerWorld [[]] ⟨⟨3, 15, 3, [3, 5], none⟩, 1, 1⟩)
        (.rpc (.validateSolutions ⟨List.replicate 16 1, le16 1, []⟩)) = none :=
  validateSolutions_index_panics Env.idle _ _ 0 (payerSession [[]]) [] ⟨⟨3, 15, 3, [3, 5], none⟩, 1, 1⟩ rfl rfl rfl rfl rfl
    Nat.one_pos (by decide) rfl

end Tumblebit
