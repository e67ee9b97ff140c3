import Tumblebit.Client.Puzzles
import Tumblebit.Puzzle.Promise
import Tumblebit.Puzzle.Rsa
import Tumblebit.Tumbler.Secrets

/-!
# An honest Puzzle-Solver exchange goes through, below 65535 bytes

The client hides blindings `x r^E` of its puzzle `x` among blindings of `1` and shuffles them
(`createPuzzleSolverChallenge`). The tumbler solves every puzzle and promises each solution under a fresh key
(`Session.GetSolutionPromises`); it discloses the keys of the fake puzzles once their factors check out
(`Session.ValidateSolutions`) and, once the payer's offer is in, those of the real ones (`Session.RevealSolution`).
The client opens the fake promises (`validatePuzzleSolverResponse`) and unblinds the real solutions.

- `getSolutionPromises_ok`: every puzzle that encodes a value below `N` is solved and promised, as long as a
  solution fits the `65534` bytes `cryptWithXOF` takes, that is `N ≤ 256^65534`;
- the root of a blinding is the blinded root (`PuzzleKey.Valid.solvePuzzle_blind`), so a fake puzzle's solution is
  its factor, and a real one unblinds with the factor's inverse to the root of `x` (`unblindPuzzle_mul_inverse`);
- **`puzzle_solver_complete`**: for such keys the whole exchange goes through, and every real solution unblinds to
  `SolvePuzzle(x)`;
- **`puzzle_solver_oversized_key`**: above that bound it does not. There are valid keys with `E = 65537` of any size
  (`exists_valid_key_gt`, from Dirichlet's theorem), and for every valid key with `N > 256^65534`, whatever its
  number of primes, the factor `N - 1` makes a solution of `65535` bytes, so `GetSolutionPromises` fails on a
  challenge the client makes (`getSolutionPromises_fails_of_large_key`).
-/

namespace Tumblebit

/-! ## The client's blindings -/

/-- The factor `newBlindingFactor` picks is one of the draws, and it returns an inverse of it. -/
theorem newBlindingFactor_some {pk : PuzzlePubKey} {r ir : Nat} :
    ∀ {rs : List Nat}, newBlindingFactor pk rs = some (r, ir) → r ∈ rs ∧ r * ir % pk.n = 1 % pk.n
  | [], h => by cases h
  | r' :: rs, h => by
    unfold newBlindingFactor at h
    split_ifs at h
    · exact (newBlindingFactor_some h).imp (List.mem_cons_of_mem _) id
    · split at h
      · cases h
        exact ⟨List.mem_cons_self _ _, modInverse_spec ‹_›⟩
      · exact (newBlindingFactor_some h).imp (List.mem_cons_of_mem _) id

/-- A blinding of the solver challenge: of `1` below `FakePreimageCount` and of the puzzle `x` from there on, with a
factor `r` from the position's draws and an inverse of it. -/
theorem solverBlinding_eq {pkey : PuzzlePubKey} {x : Nat} {draws : List (List Nat)} {i : Nat}
    {b : Bytes × Bytes × Bytes} (h : solverBlinding pkey (toBytes x) draws i = some b) :
    ∃ r ir, r ∈ draws.getD i [] ∧ r * ir % pkey.n = 1 % pkey.n ∧
      b = (toBytes ((if i < fakePreimageCount then 1 else x) * (r ^ pkey.e % pkey.n) % pkey.n), toBytes r,
        toBytes ir) := by
  simp only [solverBlinding, blindPuzzle] at h
  obtain ⟨⟨r, ir⟩, hr, rfl⟩ := Option.map_eq_some'.1 h
  obtain ⟨hmem, hinv⟩ := newBlindingFactor_some hr
  refine ⟨r, ir, hmem, hinv, ?_⟩
  simp only [blindPuzzleWith]
  split_ifs <;> simp

/-- A factor drawn below `N` is below `N`. -/
theorem lt_of_mem_draws {n r i : Nat} {draws : List (List Nat)} (hdraws : ∀ l ∈ draws, ∀ r ∈ l, r < n)
    (h : r ∈ draws.getD i []) : r < n := by
  rw [List.getD_eq_getElem?_getD] at h
  cases hl : draws[i]? with
  | none => simp [hl] at h
  | some l =>
    rw [hl, Option.getD_some] at h
    exact hdraws l (List.mem_iff_getElem?.2 ⟨i, hl⟩) r h

/-- The solver challenge of a puzzle `x`, from draws below `N`, in terms of its factors: every puzzle encodes a value
below `N`; the `i`-th fake entry holds `r^E` for the `i`-th fake factor `r < N`, and the `j`-th real entry holds
`x r^E` for the `j`-th real factor `r < N`, whose inverse is the `j`-th real inverse. -/
theorem createPuzzleSolverChallenge_factors {L : ClientLib} {key : Bytes} {pkey : PuzzlePubKey} {x : Nat}
    {draws : List (List Nat)} {words : List UInt32} {ch : PuzzleSolverChallenge}
    (hparse : L.parsePubKey key = .ok pkey) (hdraws : ∀ l ∈ draws, ∀ r ∈ l, r < pkey.n)
    (hch : createPuzzleSolverChallenge L (toBytes x) key draws words = .ok (some ch)) :
    ∃ fake real, decodeIndexList ch.fakePuzzleList = .ok fake ∧ decodeIndexList ch.realPuzzleList = .ok real ∧
      fake.length = fakePreimageCount ∧ ch.puzzles.length = realPreimageCount + fakePreimageCount ∧
      (∀ p ∈ ch.puzzles, ∃ c < pkey.n, p = toBytes c) ∧
      (∀ (i idx : Nat), fake[i]? = some idx → ∃ r < pkey.n,
        ch.puzzles[idx]? = some (toBytes (1 * (r ^ pkey.e % pkey.n) % pkey.n)) ∧ ch.fakeFactors[i]? = some (toBytes r)) ∧
      ∀ (j idx : Nat), real[j]? = some idx → ∃ r ir, r < pkey.n ∧ r * ir % pkey.n = 1 % pkey.n ∧
        ch.puzzles[idx]? = some (toBytes (x * (r ^ pkey.e % pkey.n) % pkey.n)) ∧ ch.realFactors[j]? = some (toBytes r) ∧
        ch.realInverses[j]? = some (toBytes ir) := by
  obtain ⟨pkey', fake, real, hkey, hlen, hmem, hfd, hrd, hfl, -, hfake, hreal⟩ := createPuzzleSolverChallenge_ok hch
  obtain rfl : pkey' = pkey := Except.ok.inj (hkey.symm.trans hparse)
  refine ⟨fake, real, hfd, hrd, hfl, hlen, fun p hp => ?_, fun i idx hi => ?_, fun j idx hj => ?_⟩
  · obtain ⟨i, b, hb, rfl⟩ := hmem p hp
    obtain ⟨r, ir, hr, -, rfl⟩ := solverBlinding_eq hb
    exact ⟨_, Nat.mod_lt _ (by have := lt_of_mem_draws hdraws hr; omega), rfl⟩
  · obtain ⟨b, hb, hp, hf⟩ := hfake i idx hi
    obtain ⟨r, ir, hr, -, rfl⟩ := solverBlinding_eq hb
    have hi' : i < fakePreimageCount := hfl ▸ (List.getElem?_eq_some_iff.1 hi).1
    exact ⟨r, lt_of_mem_draws hdraws hr, by simpa [hi'] using hp, hf⟩
  · obtain ⟨b, hb, hp, hf, hinv⟩ := hreal j idx hj
    obtain ⟨r, ir, hr, hrir, rfl⟩ := solverBlinding_eq hb
    exact ⟨r, ir, lt_of_mem_draws hdraws hr, hrir, by simpa using hp, hf, hinv⟩

/-! ## `GetSolutionPromises` -/

section Promised

variable {C : Crypto} {pk : PuzzleKey} (hpk : pk.Valid) (hN : pk.rsakey.n ≤ 256 ^ 65534)
include hpk hN

/-- The promise loop of `GetSolutionPromises` solves and promises every puzzle that encodes a value below `N`. -/
theorem solutionPromises_ok (env : Env) : ∀ {ps : List Bytes}, (∀ p ∈ ps, ∃ c < pk.rsakey.n, p = toBytes c) →
    ∀ log : List Effect, ∃ rs log', solutionPromises C pk ps env log = .ok rs log' ∧
      List.Forall₂ (SolutionPromised C pk) ps rs
  | [], _, log => ⟨[], log, rfl, .nil⟩
  | _ :: ps, hps, log => by
    obtain ⟨c, hc, rfl⟩ := hps _ (List.mem_cons_self _ _)
    have hlen : (toBytes (c ^ pk.rsakey.d % pk.rsakey.n)).length < 65535 := by
      have := toBytes_length_le (lt_of_lt_of_le (Nat.mod_lt (c ^ pk.rsakey.d) hpk.rsakey.n_pos) hN)
      omega
    obtain ⟨promise, hp⟩ := cryptWithXOF_of_lt (C := C) (env.randBytes log 20) hlen
    obtain ⟨rs, log', hrs, hall⟩ := solutionPromises_ok env (fun x hx => hps x (List.mem_cons_of_mem _ hx))
      (log ++ [.randBytes 20])
    refine ⟨(toBytes (c ^ pk.rsakey.d % pk.rsakey.n), promise, env.randBytes log 20) :: rs, log', ?_,
      .cons ⟨hpk.solvePuzzle_toBytes hc, hp⟩ hall⟩
    simp [solutionPromises, Prog.bind_run, randRead, ask, newSolutionPromise, hpk.solvePuzzle_toBytes hc,
      createPromise, hp, hrs, pure, Except.pure, ReaderT.pure, EStateM.pure]

/-- `GetSolutionPromises` on a session ready for it, under an epoch with a key: it solves and promises every puzzle
and records the puzzles, the keys and the epoch. -/
theorem getSolutionPromises_ok {sc : SolutionChallenges} {env : Env} {c : Ctx}
    (hready : c.sess.ready stateSolutionsPromised = .ok ()) (hkey : c.tb.getPuzzleKey sc.epoch = .ok pk)
    (hps : ∀ p ∈ sc.puzzles, ∃ x < pk.rsakey.n, p = toBytes x) :
    ∃ rs c', Session.getSolutionPromises sc env c = .ok ⟨rs.map (·.2.1), (rs.map (·.2.2)).map env.C.hashB⟩ c' ∧
      List.Forall₂ (SolutionPromised env.C pk) sc.puzzles rs ∧ c'.sess.state = stateSolutionsPromised ∧
      c'.sess.puzzles = sc.puzzles ∧ c'.sess.secrets = rs.map (·.2.2) ∧ c'.sess.epoch = sc.epoch ∧ c'.tb = c.tb := by
  obtain ⟨rs, log', hrs, hall⟩ := solutionPromises_ok (C := env.C) hpk hN env hps c.log
  refine ⟨rs, ⟨c.sid, { c.sess with
      puzzles := sc.puzzles, solutions := rs.map (·.1), secrets := rs.map (·.2.2), epoch := sc.epoch,
      state := stateSolutionsPromised }, c.tb, log', c.ghost ++ [.latch stateSolutionsPromised]⟩,
    ?_, hall, rfl, rfl, rfl, rfl, rfl⟩
  simp [Session.getSolutionPromises, Prog.bind_run, readyOrFail_run, hready, hkey, Ctx.io, Prog.focus, hrs,
    modifySess, Session.latch, Ctx.note]

end Promised

/-- The promise at a position opens with the key there to the solution of the puzzle there. -/
theorem solutionPromised_getElem? {C : Crypto} {pk : PuzzleKey} {ps : List Bytes} {rs : List (Bytes × Bytes × Bytes)}
    (hall : List.Forall₂ (SolutionPromised C pk) ps rs) {idx : Nat} {p : Bytes} (hp : ps[idx]? = some p) :
    ∃ r : Bytes × Bytes × Bytes, rs[idx]? = some r ∧ solvePuzzle pk p = .ok r.1 ∧
      revealSolution C r.2.1 r.2.2 = .ok r.1 := by
  obtain ⟨r, hr, hs, hc⟩ := forall₂_getElem? hall hp
  exact ⟨r, hr, hs, (cryptWithXOF_ok hc).2⟩

/-- The promise loop fails once it reaches a puzzle that no key can promise. -/
theorem solutionPromises_error {C : Crypto} {pk : PuzzleKey} {p : Bytes}
    (hp : ∀ key, ∃ e, newSolutionPromise C pk p key = .error (.error e)) (env : Env) :
    ∀ {ps : List Bytes}, p ∈ ps → ∀ log : List Effect, ∃ f log', solutionPromises C pk ps env log = .error f log'
  | q :: ps, hmem, log => by
    cases hq : newSolutionPromise C pk q (env.randBytes log 20) with
    | error f =>
      rcases f with m | m
      · exact ⟨.error m, log ++ [.randBytes 20], by simp [solutionPromises, Prog.bind_run, randRead, ask, hq]⟩
      · exact ⟨.panic m, log ++ [.randBytes 20], by simp [solutionPromises, Prog.bind_run, randRead, ask, hq]⟩
    | ok r =>
      have hps : p ∈ ps := (List.mem_cons.1 hmem).resolve_left fun h => by
        obtain ⟨e, he⟩ := hp (env.randBytes log 20)
        rw [h, hq] at he
        cases he
      obtain ⟨f, log', h⟩ := solutionPromises_error hp env hps (log ++ [.randBytes 20])
      exact ⟨f, log', by simp [solutionPromises, Prog.bind_run, randRead, ask, hq, h]⟩

/-- `GetSolutionPromises` fails on a challenge with a puzzle that no key can promise. -/
theorem getSolutionPromises_error {sc : SolutionChallenges} {env : Env} {c : Ctx} {pk : PuzzleKey} {p : Bytes}
    (hready : c.sess.ready stateSolutionsPromised = .ok ()) (hkey : c.tb.getPuzzleKey sc.epoch = .ok pk)
    (hmem : p ∈ sc.puzzles) (hp : ∀ key, ∃ e, newSolutionPromise env.C pk p key = .error (.error e)) :
    ∃ f c', Session.getSolutionPromises sc env c = .error f c' := by
  obtain ⟨f, log', h⟩ := solutionPromises_error hp env hmem c.log
  exact ⟨f, { c with log := log' }, by simp [Session.getSolutionPromises, Prog.bind_run, readyOrFail_run, hready, hkey,
    Ctx.io, Prog.focus, h]⟩

/-! ## `ValidateSolutions` and `RevealSolution` -/

/-- `ValidateSolutions` on a session ready for it, once the fake list decodes and its checks pass, returns the fake
keys and leaves the puzzles, the keys, the epoch and the tumbler as they were. -/
theorem validateSolutions_of {pd : PuzzleDisclosure} {env : Env} {c : Ctx} {pk : PuzzleKey} {fake : List Nat}
    {ks : List Bytes} (hready : c.sess.ready stateSolutionsValidated = .ok ())
    (hf : decodeIndexList pd.fakePuzzleList = .ok fake) (hlen : fake.length ≤ c.sess.puzzles.length)
    (hkey : c.tb.getPuzzleKey c.sess.epoch = .ok pk)
    (hchk : checkPuzzles (validatePuzzle pk.publicKey) c.sess.puzzles pd.fakeFactors 0 fake = .ok ())
    (hpick : pickSecrets c.sess.secrets "bad puzzle reference" fake = .ok ks) :
    ∃ c', Session.validateSolutions pd env c = .ok ks c' ∧ c'.sess.puzzles = c.sess.puzzles ∧
      c'.sess.secrets = c.sess.secrets ∧ c'.sess.epoch = c.sess.epoch ∧ c'.tb = c.tb := by
  refine ⟨⟨c.sid, { c.sess with state := stateSolutionsValidated }, c.tb, c.log,
    c.ghost ++ [.consult c.sess.state c.sess.epoch, .latch stateSolutionsValidated]⟩, ?_, rfl, rfl, rfl, rfl⟩
  simp [Session.validateSolutions, Prog.bind_run, readyOrFail_run, hready, hf, getSess, Nat.not_lt.2 hlen,
    Session.epochPuzzleKey, Ctx.note, hkey, hchk, hpick, modifySess, Session.latch]

/-- `RevealSolution`, once the real puzzles' checks pass, returns their keys. -/
theorem revealSolution_of {po : PaymentOfferReq} {env : Env} {c : Ctx} {pk : PuzzleKey} {ks : List Bytes}
    (hkey : c.tb.getPuzzleKey c.sess.epoch = .ok pk)
    (hchk : checkPuzzles (fun p f => validateBlindedPuzzle pk.publicKey p po.puzzle f) c.sess.puzzles po.realFactors 0
      c.sess.realPuzzleList = .ok ())
    (hpick : pickSecrets c.sess.secrets "bad puzzle reference" c.sess.realPuzzleList = .ok ks) :
    ∃ c', Session.revealSolution po env c = .ok ks c' := by
  refine ⟨{ c with ghost := c.ghost ++ [.consult c.sess.state c.sess.epoch] }, ?_⟩
  simp [Session.revealSolution, Prog.bind_run, Session.epochPuzzleKey, Ctx.note, hkey, getSess, hchk, hpick]

/-! ## The exchange -/

/-- **The honest Puzzle-Solver exchange completes for keys of at most 65534 bytes.** Fix a puzzle key as
`GeneratePuzzleKey` makes it, with `N ≤ 256^65534`, the key of the epoch the challenge names, a session ready for
`GetSolutionPromises`, a client that parses the key, and a puzzle `x < N`. Take any challenge
`createPuzzleSolverChallenge` makes of `x`, with any factors below `N` and any shuffle. Then `GetSolutionPromises`
answers; every `ValidatePuzzle` check of the fake disclosure passes, `ValidateSolutions` returns the fake keys, and the
client accepts the response; every `ValidateBlindedPuzzle` check of the real puzzles passes, `RevealSolution` (on the
session with the challenge's real list, for an offer of `x` with the real factors) returns the real keys, and each
opens its promise to a solution that the matching inverse unblinds to `SolvePuzzle(x)`. -/
theorem puzzle_solver_complete (L : ClientLib) (env : Env) (c₀ : Ctx) (pk : PuzzleKey) (hpk : pk.Valid)
    (hN : pk.rsakey.n ≤ 256 ^ 65534) (epoch : Int) (hready : c₀.sess.ready stateSolutionsPromised = .ok ())
    (hkey : c₀.tb.getPuzzleKey epoch = .ok pk) (key : Bytes) (hparse : L.parsePubKey key = .ok pk.publicKey)
    (x : Nat) (hx : x < pk.rsakey.n) (draws : List (List Nat)) (hdraws : ∀ l ∈ draws, ∀ r ∈ l, r < pk.rsakey.n)
    (words : List UInt32) (ch : PuzzleSolverChallenge)
    (hch : createPuzzleSolverChallenge L (toBytes x) key draws words = .ok (some ch)) :
    ∃ fake real prom c₁ fakeKeys c₂, decodeIndexList ch.fakePuzzleList = .ok fake ∧
      decodeIndexList ch.realPuzzleList = .ok real ∧
      Session.getSolutionPromises ⟨epoch, ch.puzzles⟩ env c₀ = .ok prom c₁ ∧
      checkPuzzles (validatePuzzle pk.publicKey) ch.puzzles ch.fakeFactors 0 fake = .ok () ∧
      Session.validateSolutions ⟨ch.fakePuzzleList, ch.fakeFactors⟩ env c₁ = .ok fakeKeys c₂ ∧
      validatePuzzleSolverResponse env.C ch ⟨prom.promises, prom.keyHashes, fakeKeys⟩ = .ok () ∧
      checkPuzzles (fun p f => validateBlindedPuzzle pk.publicKey p (toBytes x) f) ch.puzzles ch.realFactors 0 real =
        .ok () ∧
      ∀ po : PaymentOfferReq, po.puzzle = toBytes x → po.realFactors = ch.realFactors →
        ∃ keys c₃, Session.revealSolution po env { c₂ with sess := { c₂.sess with realPuzzleList := real } } =
            .ok keys c₃ ∧
          ∀ (j idx : Nat), real[j]? = some idx → ∃ promise k inv sol, prom.promises[idx]? = some promise ∧
            keys[j]? = some k ∧ ch.realInverses[j]? = some inv ∧ revealSolution env.C promise k = .ok sol ∧
            solvePuzzle pk (toBytes x) = .ok (unblindPuzzle pk.publicKey sol inv) := by
  obtain ⟨fake, real, hfd, hrd, hfl, hlen, hps, hfake, hreal⟩ :=
    createPuzzleSolverChallenge_factors hparse hdraws hch
  simp only [PuzzleKey.publicKey] at hps hfake hreal
  obtain ⟨rs, c₁, hrun, hall, hst₁, hpz₁, hsec₁, hep₁, htb₁⟩ :=
    @getSolutionPromises_ok pk hpk hN ⟨epoch, ch.puzzles⟩ env c₀ hready hkey hps
  have hrs : rs.length = realPreimageCount + fakePreimageCount := hall.length_eq.symm.trans hlen
  -- what the tumbler holds at a puzzle's position: its solution, the key and a promise the key opens
  have hat : ∀ (idx : Nat) p, ch.puzzles[idx]? = some p → ∃ r : Bytes × Bytes × Bytes, solvePuzzle pk p = .ok r.1 ∧
      revealSolution env.C r.2.1 r.2.2 = .ok r.1 ∧ c₁.sess.secrets[idx]? = some r.2.2 ∧
      (rs.map (·.2.1))[idx]? = some r.2.1 ∧ ((rs.map (·.2.2)).map env.C.hashB)[idx]? = some (env.C.hashB r.2.2) :=
    fun idx p hp => by
      obtain ⟨r, hr, hs, ho⟩ := solutionPromised_getElem? hall hp
      exact ⟨r, hs, ho, by simp [hsec₁, hr], by simp [hr], by simp [hr]⟩
  have hin : ∀ l : List Nat, (∀ (j idx : Nat), l[j]? = some idx → ∃ p, ch.puzzles[idx]? = some p) →
      ∀ idx ∈ l, idx < c₁.sess.secrets.length := fun l h idx hidx => by
    obtain ⟨j, hj⟩ := List.mem_iff_getElem?.1 hidx
    obtain ⟨p, hp⟩ := h j idx hj
    simpa [hsec₁, hrs, ← hlen] using (List.getElem?_eq_some_iff.1 hp).1
  -- the fake disclosure
  have hchkf : checkPuzzles (validatePuzzle pk.publicKey) ch.puzzles ch.fakeFactors 0 fake = .ok () :=
    checkPuzzles_of fun j idx hj => by
      obtain ⟨r, hr, hp, hf⟩ := hfake j idx hj
      refine ⟨_, by simpa using hf, _, hp, ?_⟩
      simpa [Nat.mod_mod, createPuzzle, PuzzleKey.publicKey] using @validatePuzzle_createPuzzle pk.publicKey r hr
  obtain ⟨fakeKeys, hpickf⟩ := @pickSecrets_of c₁.sess.secrets "bad puzzle reference" fake (hin fake fun j idx hj => by
    obtain ⟨r, -, hp, -⟩ := hfake j idx hj
    exact ⟨_, hp⟩)
  obtain ⟨c₂, hval, hpz₂, hsec₂, hep₂, htb₂⟩ := @validateSolutions_of ⟨ch.fakePuzzleList, ch.fakeFactors⟩ env c₁ pk
    fake fakeKeys (by rw [Session.ready, hst₁]; rfl) hfd (by rw [hpz₁, hlen, hfl]; decide)
    (by rw [htb₁, hep₁]; exact hkey) (by rw [hpz₁]; exact hchkf) hpickf
  -- the real puzzles
  have hchkr : checkPuzzles (fun p f => validateBlindedPuzzle pk.publicKey p (toBytes x) f) ch.puzzles ch.realFactors 0
      real = .ok () := checkPuzzles_of fun j idx hj => by
    obtain ⟨r, ir, hr, -, hp, hf, -⟩ := hreal j idx hj
    exact ⟨_, by simpa using hf, _, hp, validateBlindedPuzzle_blind hr⟩
  obtain ⟨keys, hpickr⟩ := @pickSecrets_of c₁.sess.secrets "bad puzzle reference" real (hin real fun j idx hj => by
    obtain ⟨r, ir, -, -, hp, -⟩ := hreal j idx hj
    exact ⟨_, hp⟩)
  refine ⟨fake, real, _, c₁, fakeKeys, c₂, hfd, hrd, hrun, hchkf, hval,
    validatePuzzleSolverResponse_ok_iff.2 ⟨fake, hfd, checkFakeSolutions_ok_iff.2 fun k idx hk => ?_⟩, hchkr,
    fun po hpo hrf => ?_⟩
  · obtain ⟨r, hr, hp, hf⟩ := hfake k idx hk
    obtain ⟨t, hs, ho, hsec, hprom, hhash⟩ := hat idx _ hp
    obtain ⟨y, hy, hsy⟩ := forall₂_getElem? (pickSecrets_ok hpickf) hk
    rw [hsec, Option.some.injEq] at hsy
    subst hsy
    rw [hpk.solvePuzzle_blind, one_pow, one_mul, Nat.mod_eq_of_lt hr, Except.ok.injEq] at hs
    exact ⟨_, by simpa using hy, hhash, _, hprom, _, ho, by rw [← hs]; simpa using hf⟩
  · obtain ⟨c₃, hrev⟩ := @revealSolution_of po env { c₂ with sess := { c₂.sess with realPuzzleList := real } } pk keys
      (by simp only; rw [htb₂, hep₂, htb₁, hep₁]; exact hkey) (by simp only; rw [hpz₂, hpz₁, hpo, hrf]; exact hchkr)
      (by simp only; rw [hsec₂]; exact hpickr)
    refine ⟨keys, c₃, hrev, fun j idx hj => ?_⟩
    obtain ⟨r, ir, hr, hrir, hp, -, hinv⟩ := hreal j idx hj
    obtain ⟨t, hs, ho, hsec, hprom, -⟩ := hat idx _ hp
    obtain ⟨y, hy, hsy⟩ := forall₂_getElem? (pickSecrets_ok hpickr) hj
    rw [hsec, Option.some.injEq] at hsy
    subst hsy
    rw [hpk.solvePuzzle_blind, Except.ok.injEq] at hs
    refine ⟨_, _, _, _, hprom, hy, hinv, ho, ?_⟩
    rw [← hs, hpk.solvePuzzle_toBytes hx]
    exact congrArg Except.ok (@unblindPuzzle_mul_inverse pk.publicKey (x ^ pk.rsakey.d) r ir hrir).symm

/-- A payer's fresh session in a tumbler whose epoch `0` is keyed with `key`. -/
def payerCtx (key : PuzzleKey) : Ctx :=
  ⟨0, Session.fresh "", ⟨1, [⟨"", "", 0, key⟩], fun _ => none, [], [], 10, 0, 0⟩, [], []⟩

/-- Every blinding with the factor `r`, whose inverse is `ir`, finds its draws in `List.replicate 300 [r]`. -/
theorem solverBlinding_replicate_isSome {pkey : PuzzlePubKey} {p : Bytes} {r ir : Nat}
    (h : newBlindingFactor pkey [r] = some (r, ir)) :
    ∀ i < realPreimageCount + fakePreimageCount,
      (solverBlinding pkey p (List.replicate (realPreimageCount + fakePreimageCount) [r]) i).isSome := fun i hi => by
  rw [solverBlinding, blindPuzzle, List.getD_eq_getElem?_getD, List.getElem?_replicate_of_lt hi, Option.getD_some, h]
  rfl

/-- The shuffle of the solver challenge does not run out of all-ones words. -/
theorem solverShuffle_maxWords (a : List Bytes) : ∃ r, shuffle (fun i j a => swapAt a i j)
    (realPreimageCount + fakePreimageCount) a (List.replicate 299 4294967295) = .ok (some r) := by
  have := shuffle_maxWords (fun i j a => swapAt a i j) (n := realPreimageCount + fakePreimageCount) (by decide) a []
  rwa [List.append_nil] at this

set_option exponentiation.threshold 65534 in
theorem puzzle_solver_complete_toy :
    ∃ ch, createPuzzleSolverChallenge acceptingLib (toBytes 4) [] (List.replicate 300 [2])
        (List.replicate 299 4294967295) = .ok (some ch) ∧
      ∃ fake real prom c₁ fakeKeys c₂, decodeIndexList ch.fakePuzzleList = .ok fake ∧
        decodeIndexList ch.realPuzzleList = .ok real ∧
        Session.getSolutionPromises ⟨0, ch.puzzles⟩ Env.idle (payerCtx key15) = .ok prom c₁ ∧
        checkPuzzles (validatePuzzle key15.publicKey) ch.puzzles ch.fakeFactors 0 fake = .ok () ∧
        Session.validateSolutions ⟨ch.fakePuzzleList, ch.fakeFactors⟩ Env.idle c₁ = .ok fakeKeys c₂ ∧
        validatePuzzleSolverResponse Env.idle.C ch ⟨prom.promises, prom.keyHashes, fakeKeys⟩ = .ok () ∧
        checkPuzzles (fun p f => validateBlindedPuzzle key15.publicKey p (toBytes 4) f) ch.puzzles ch.realFactors 0
          real = .ok () ∧
        ∀ po : PaymentOfferReq, po.puzzle = toBytes 4 → po.realFactors = ch.realFactors →
          ∃ keys c₃, Session.revealSolution po Env.idle { c₂ with sess := { c₂.sess with realPuzzleList := real } } =
              .ok keys c₃ ∧
            ∀ (j idx : Nat), real[j]? = some idx → ∃ promise k inv sol, prom.promises[idx]? = some promise ∧
              keys[j]? = some k ∧ ch.realInverses[j]? = some inv ∧ revealSolution Env.idle.C promise k = .ok sol ∧
              solvePuzzle key15 (toBytes 4) = .ok (unblindPuzzle key15.publicKey sol inv) := by
  obtain ⟨ch, hch⟩ := @createPuzzleSolverChallenge_of acceptingLib (toBytes 4) [] (List.replicate 300 [2])
    (List.replicate 299 4294967295) key15.publicKey rfl
    (@solverBlinding_replicate_isSome key15.publicKey (toBytes 4) 2 8 rfl)
    solverShuffle_maxWords
  refine ⟨ch, hch, puzzle_solver_complete acceptingLib Env.idle (payerCtx key15) key15 key15_valid
    (le_trans (by decide : 15 ≤ 256) (Nat.le_self_pow (n := 65534) (by decide) 256)) 0 rfl rfl [] rfl 4 (by decide)
    (List.replicate 300 [2]) (fun l hl r hr => ?_) (List.replicate 299 4294967295) ch hch⟩
  rw [List.eq_of_mem_replicate hl, List.mem_singleton] at hr
  subst hr
  decide

/-! ## Keys of more than 65534 bytes -/

/-- A prime above any bound with `65537` invertible modulo `p - 1`: one `≡ 2 (mod 65537)`, by Dirichlet's theorem. -/
theorem exists_prime_gt_coprime_pred (B : Nat) : ∃ p, B < p ∧ p.Prime ∧ 3 ≤ p ∧ Nat.Coprime 65537 (p - 1) := by
  have hu : IsUnit ((2 : Nat) : ZMod 65537) := (ZMod.isUnit_iff_coprime 2 65537).2 (by norm_num)
  obtain ⟨p, hp, hprime, hmod⟩ := Nat.forall_exists_prime_gt_and_eq_mod hu (B + 3)
  have h2 : p % 65537 = 2 := by
    have := (ZMod.natCast_eq_natCast_iff' p 2 65537).1 hmod
    omega
  exact ⟨p, by omega, hprime, by omega, (Nat.Prime.coprime_iff_not_dvd (by norm_num)).2 (by omega)⟩

/-- Keys of every size: above any bound there is a valid puzzle key with `E = 65537`, the exponent of
`rsa.GenerateKey`, two primes, no CRT values and the blinding pair `1, 1`. -/
theorem exists_valid_key_gt (B : Nat) : ∃ pk : PuzzleKey, pk.Valid ∧ pk.rsakey.e = 65537 ∧ B < pk.rsakey.n := by
  obtain ⟨p, hBp, hp, hp3, hcp⟩ := exists_prime_gt_coprime_pred B
  obtain ⟨q, hpq, hq, hq3, hcq⟩ := exists_prime_gt_coprime_pred p
  have h1 : 1 < (p - 1) * (q - 1) := lt_of_lt_of_le (by norm_num : 1 < 2 * 2) (Nat.mul_le_mul (by omega) (by omega))
  obtain ⟨d, hd⟩ := Nat.exists_mul_emod_eq_one_of_coprime (Nat.Coprime.mul_right hcp hcq) h1
  have hed : 65537 * d ≡ 1 [MOD (p - 1) * (q - 1)] := by rw [Nat.ModEq, hd, Nat.mod_eq_of_lt h1]
  refine ⟨⟨⟨65537, p * q, d, [p, q], none⟩, 1, 1⟩, ⟨⟨?_, by simp [Nat.ne_of_lt hpq], le_rfl, by simp, ?_,
    fun _ h => by cases h⟩, rfl⟩, rfl, lt_of_lt_of_le hBp (Nat.le_mul_of_pos_right p (by omega))⟩
  · simp only [List.mem_cons, List.mem_singleton, List.not_mem_nil, or_false]
    rintro x (rfl | rfl)
    exacts [⟨hp, hp3⟩, ⟨hq, hq3⟩]
  · simp only [List.mem_cons, List.mem_singleton, List.not_mem_nil, or_false]
    rintro x (rfl | rfl)
    exacts [hed.of_mul_right _, hed.of_mul_left _]

/-- **Every key above `256^65534` fails the exchange**, whatever its primes: on a fresh session keyed with it,
`GetSolutionPromises` fails on a challenge that `createPuzzleSolverChallenge` makes of the puzzle `1` with factors
below `N`. The factor `N - 1` blinds `1` to `(N - 1)^E`, whose solution `N - 1` has more than `65534` bytes, and
`cryptWithXOF` does not promise it. Of the key only its validity (the root of a blinding is the factor, for any
number of distinct primes) and the length of `N` are used. -/
theorem getSolutionPromises_fails_of_large_key {pk : PuzzleKey} (hpk : pk.Valid) (hN : 256 ^ 65534 < pk.rsakey.n) :
    ∃ (L : ClientLib) (ch : PuzzleSolverChallenge), L.parsePubKey [] = .ok pk.publicKey ∧
      (∀ l ∈ List.replicate 300 [pk.rsakey.n - 1], ∀ r ∈ l, r < pk.rsakey.n) ∧
      createPuzzleSolverChallenge L (toBytes 1) [] (List.replicate 300 [pk.rsakey.n - 1])
        (List.replicate 299 4294967295) = .ok (some ch) ∧
      ∃ f c₁, Session.getSolutionPromises ⟨0, ch.puzzles⟩ Env.idle (payerCtx pk) = .error f c₁ := by
  have hn : 1 < pk.rsakey.n := lt_of_le_of_lt (Nat.one_le_pow _ _ (by decide)) hN
  obtain ⟨ir, hir⟩ := Option.isSome_iff_exists.1 ((@modInverse_isSome (pk.rsakey.n - 1) pk.rsakey.n hn).2
    ((Nat.coprime_self_sub_left (by omega)).2 (Nat.coprime_one_left _)))
  have hbf : newBlindingFactor pk.publicKey [pk.rsakey.n - 1] = some (pk.rsakey.n - 1, ir) := by
    simp [newBlindingFactor, show pk.rsakey.n - 1 ≠ 0 by omega, PuzzleKey.publicKey, hir]
  let L : ClientLib := { acceptingLib with parsePubKey := fun _ => .ok pk.publicKey }
  obtain ⟨ch, hch⟩ := @createPuzzleSolverChallenge_of L (toBytes 1) [] (List.replicate 300 [pk.rsakey.n - 1])
    (List.replicate 299 4294967295) pk.publicKey rfl (solverBlinding_replicate_isSome hbf) solverShuffle_maxWords
  refine ⟨L, ch, rfl, fun l hl r hr => ?_, hch, ?_⟩
  · rw [List.eq_of_mem_replicate hl, List.mem_singleton] at hr
    omega
  -- every puzzle is `1 * (N - 1)^E`, whose solution `N - 1` is too long to promise
  obtain ⟨pkey, -, -, hkey, hlen, hmem, -⟩ := createPuzzleSolverChallenge_ok hch
  obtain rfl : pk.publicKey = pkey := Except.ok.inj hkey
  obtain ⟨p, hp⟩ := List.exists_mem_of_length_pos (show 0 < ch.puzzles.length by rw [hlen]; decide)
  obtain ⟨i, b, hb, rfl⟩ := hmem p hp
  obtain ⟨r, ir', hr, -, rfl⟩ := solverBlinding_eq hb
  have hr' : r = pk.rsakey.n - 1 := by
    rw [List.getD_eq_getElem?_getD, List.getElem?_replicate] at hr
    split_ifs at hr
    · simpa using hr
    · cases hr
  subst hr'
  simp only [ite_self, one_mul, Nat.mod_mod, PuzzleKey.publicKey] at hp
  have hsolve : solvePuzzle pk (toBytes ((pk.rsakey.n - 1) ^ pk.rsakey.e % pk.rsakey.n)) =
      .ok (toBytes (pk.rsakey.n - 1)) := by
    simpa [Nat.mod_eq_of_lt (show pk.rsakey.n - 1 < pk.rsakey.n by omega)] using hpk.solvePuzzle_blind 1 (pk.rsakey.n - 1)
  have hlong : 65535 ≤ (toBytes (pk.rsakey.n - 1)).length := lt_length_toBytes (Nat.le_sub_one_of_lt hN)
  exact getSolutionPromises_error rfl rfl hp fun key => by
    obtain ⟨e, he⟩ := cryptWithXOF_of_le (C := Env.idle.C) key hlong
    exact ⟨"failed to create solution promise: " ++ e, by simp [newSolutionPromise, hsolve, createPromise, he]⟩

/-- **Above `256^65534` the exchange fails.** There is a key as `GeneratePuzzleKey` makes it, with `E = 65537` and
`N > 256^65534`, such that on a fresh session keyed with it `GetSolutionPromises` fails on a challenge that
`createPuzzleSolverChallenge` makes of the puzzle `1` with factors below `N`. The key built here has two primes
where `GeneratePuzzleKey` takes five at this size; the failure does not depend on the count, since every valid key
above the bound fails alike (`getSolutionPromises_fails_of_large_key`). -/
theorem puzzle_solver_oversized_key :
    ∃ (pk : PuzzleKey) (L : ClientLib) (ch : PuzzleSolverChallenge), pk.Valid ∧ pk.rsakey.e = 65537 ∧
      256 ^ 65534 < pk.rsakey.n ∧ L.parsePubKey [] = .ok pk.publicKey ∧
      (∀ l ∈ List.replicate 300 [pk.rsakey.n - 1], ∀ r ∈ l, r < pk.rsakey.n) ∧
      createPuzzleSolverChallenge L (toBytes 1) [] (List.replicate 300 [pk.rsakey.n - 1])
        (List.replicate 299 4294967295) = .ok (some ch) ∧
      ∃ f c₁, Session.getSolutionPromises ⟨0, ch.puzzles⟩ Env.idle (payerCtx pk) = .error f c₁ := by
  obtain ⟨pk, hpk, he, hN⟩ := exists_valid_key_gt (256 ^ 65534)
  obtain ⟨L, ch, h⟩ := getSolutionPromises_fails_of_large_key hpk hN
  exact ⟨pk, L, ch, hpk, he, hN, h⟩

end Tumblebit
