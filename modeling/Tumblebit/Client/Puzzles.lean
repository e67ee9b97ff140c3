import Tumblebit.Shuffle
import Tumblebit.Puzzle.IndexList
import Tumblebit.Puzzle.Quotient

/-!
# The client's side of the two exchanges (`cmd/dcrtumble/puzzles.go`)

The client hides its real requests among fakes and checks what the tumbler returns.

* Puzzle-Promise: `createPuzzlePromiseChallenge` mixes `RealTransactionCount` redeem hashes with as many fake
  transactions formatted from random pads, shuffles them, and commits to the two index lists by salted hashes.
  `validatePuzzlePromiseResponse` checks that every disclosed fake secret solves its puzzle and opens its promise to
  a signature of its transaction, then verifies the quotients over the real puzzles.
* Puzzle-Solver: `createPuzzleSolverChallenge` mixes `RealPreimageCount` blindings of the payee's puzzle with
  `FakePreimageCount` blindings of `1`. `validatePuzzleSolverResponse` opens the fake promises with the disclosed
  keys, and `createPreimageChallanges` picks the key hashes of the real ones. `createPuzzleSolverChallenge_ok` says
  where each blinding ends up, and `createPuzzleSolverChallenge_of` when a challenge is made at all.

* The client's puzzle: `createClientPuzzle` draws indices until one is real, then blinds a puzzle of the response
  for the payer. The loop assigns a variable that shadows the one returned, so the puzzle is always the first one,
  real or fake (`createClientPuzzle_index_zero`).

The client's random draws are arguments: the pads and the salt as `rand.Read` fills them, the values `rand.Int`
returns to each `BlindPuzzle`, and the words `Shuffle` reads. A `none` result stands for a run whose draws ran out.

The quotient verifiers read only as many puzzles as there are quotients. With at most one quotient nothing is
checked, so the client accepts a response whatever its real puzzles are (`quotient_verifiers_unsound`).
-/

namespace Tumblebit

/-! ## Constants -/

/-- Modelled from the spec: `RealPreimageCount` of the client's package (15 real preimages). -/
def realPreimageCount : Nat := 15

/-- Modelled from the spec: `FakePreimageCount` of the client's package (285 fake preimages). -/
def fakePreimageCount : Nat := 285

/-! ## Libraries -/

/-- The libraries the client calls besides the hash functions it shares with the tumbler: `puzzle.ParsePubKey`
(an `x509` parse of an RSA key), and the secp256k1 parsers and verifier of `verifySignature`. A curve point and a
signature are kept as pairs of integers. -/
structure ClientLib where
  parsePubKey : Bytes → Except String PuzzlePubKey
  /-- `secp256k1.ParsePubKey`. -/
  parseSecpPubKey : Bytes → Except String (Nat × Nat)
  /-- `ecdsa.ParseDERSignature`. -/
  parseDERSignature : Bytes → Except String (Nat × Nat)
  /-- A DER signature the parser accepts is at most 72 bytes long. -/
  parseDERSignature_length : ∀ b rs, parseDERSignature b = .ok rs → b.length ≤ 72
  /-- `Signature.Verify(hash, pubkey)`. -/
  verify : Nat × Nat → Bytes → Nat × Nat → Bool

/-- `verifySignature`: parse the key and the DER signature, then verify. -/
def verifySignature (L : ClientLib) (sigBytes hash publicKey : Bytes) : Except String Unit := do
  let pubkey ← L.parseSecpPubKey publicKey
  let sig ← L.parseDERSignature sigBytes
  if !L.verify sig hash pubkey then throw "failed to verify the signature"

/-- `puzzlePromiseChallenge`. -/
structure PuzzlePromiseChallenge where
  txHashes : List Bytes
  salt : Bytes
  randomPads : List Bytes
  realTxList : Bytes
  fakeTxList : Bytes
  realSetHash : Bytes
  fakeSetHash : Bytes
  deriving DecidableEq, Repr

/-- The index lists after the shuffle: looking up indices below `n` in a map that sends each of them below `n`
gives, entry by entry, the map's value there. -/
theorem mapM_get_ok {m : ShuffleMap} {n : Nat} (hm : ∀ k < n, ∃ v < n, m.get k = .ok v) {ks l : List Nat}
    (hks : ∀ k ∈ ks, k < n) (h : ks.mapM m.get = .ok l) :
    l.length = ks.length ∧ ∀ (i idx : Nat), l[i]? = some idx → ∃ k, ks[i]? = some k ∧ m.get k = .ok idx ∧ idx < n := by
  have h₂ := mapM_eq_ok_iff.1 h
  refine ⟨h₂.length_eq.symm, fun i idx hi => ?_⟩
  obtain ⟨k, hk, hget⟩ := forall₂_getElem? h₂.flip hi
  obtain ⟨v, hv, hv'⟩ := hm k (hks k (List.mem_iff_getElem?.2 ⟨i, hk⟩))
  rw [hv'] at hget
  cases hget
  exact ⟨k, hk, hv', hv⟩

/-- `puzzlePromiseResponse`, put together from `GetPuzzlePromises` and `FinalizeEscrow`. -/
structure PuzzlePromiseResponse where
  puzzles : List Bytes
  promises : List Bytes
  quotients : List Bytes
  secrets : List Bytes
  puzzleKey : Bytes
  publicKey : Bytes
  deriving DecidableEq, Repr

/-- The loop over the fake list in `validatePuzzlePromiseResponse`, from the `i`-th entry: the `i`-th secret must
solve the puzzle at the entry's index and open its promise to a signature of the transaction there. -/
def checkFakePromises (C : Crypto) (L : ClientLib) (pkey : PuzzlePubKey) (c : PuzzlePromiseChallenge)
    (r : PuzzlePromiseResponse) (i : Nat) : List Nat → Except Fault Unit
  | [] => .ok ()
  | j :: rest => do
    let puzzle ← goIndex r.puzzles j
    let secret ← goIndex r.secrets i
    if !validatePuzzle pkey puzzle secret then throw (.error "obtained secrets didn't verify")
    let promise ← goIndex r.promises j
    let sig ← (revealSolution C promise secret).mapError (.error <| "failed to recover signature: " ++ ·)
    let txHash ← goIndex c.txHashes j
    (verifySignature L sig txHash r.publicKey).mapError (.error <| "signature didn't verify: " ++ ·)
    checkFakePromises C L pkey c r (i + 1) rest

/-- `validatePuzzlePromiseResponse`. -/
def validatePuzzlePromiseResponse (C : Crypto) (L : ClientLib) (c : PuzzlePromiseChallenge)
    (r : PuzzlePromiseResponse) : Except Fault Unit := do
  let pkey ← (L.parsePubKey r.puzzleKey).mapError (.error <| "failed to decode puzzle key: " ++ ·)
  let fakeTxList ← (decodeIndexList c.fakeTxList).mapError (.error <| "failed to decode fake tx index list: " ++ ·)
  let realTxList ← (decodeIndexList c.realTxList).mapError (.error <| "failed to decode real tx index list: " ++ ·)
  checkFakePromises C L pkey c r 0 fakeTxList
  let realPuzzles ← realTxList.mapM (goIndex r.puzzles)
  if !(← verifyQuotients pkey r.quotients realPuzzles) then throw (.error "failed to verify quotients")

/-- `validatePuzzlePromiseResponse` accepts exactly when the key and both lists decode, every fake entry checks
out, every real index names a puzzle, and the quotients verify over the real puzzles. -/
theorem validatePuzzlePromiseResponse_ok_iff {C : Crypto} {L : ClientLib} {c : PuzzlePromiseChallenge}
    {r : PuzzlePromiseResponse} : validatePuzzlePromiseResponse C L c r = .ok () ↔
      ∃ pkey fake real realPuzzles, L.parsePubKey r.puzzleKey = .ok pkey ∧ decodeIndexList c.fakeTxList = .ok fake ∧
        decodeIndexList c.realTxList = .ok real ∧ checkFakePromises C L pkey c r 0 fake = .ok () ∧
        real.mapM (goIndex r.puzzles) = .ok realPuzzles ∧ verifyQuotients pkey r.quotients realPuzzles = .ok true := by
  simp only [validatePuzzlePromiseResponse, Except.bind_eq_ok, Except.mapError_eq_ok]
  constructor
  · rintro ⟨pkey, hk, fake, hf, real, hr, _, hc, zs, hz, ok, hq, hok⟩
    cases ok
    · simp at hok
    · exact ⟨pkey, fake, real, zs, hk, hf, hr, hc, hz, hq⟩
  · rintro ⟨pkey, fake, real, zs, hk, hf, hr, hc, hz, hq⟩
    exact ⟨pkey, hk, fake, hf, real, hr, (), hc, zs, hz, true, hq, rfl⟩

/-! ## What the quotient check leaves out -/

/-- **The quotient verifiers check a prefix.** `VerifyQuotients` accepts any puzzles against no quotient or one, and
`VerifyQuotientsWithSecrets` any secrets against no quotient; given fewer puzzles or secrets than quotients, each
rejects or panics reading one past the end. So `validatePuzzlePromiseResponse`, given at most one quotient, accepts
exactly when the fake entries check out and the real indices are in range, whatever the real puzzles are. -/
theorem quotient_verifiers_unsound :
    (∀ pk zs, verifyQuotients pk [] zs = .ok true ∧ ∀ q, verifyQuotients pk [q] zs = .ok true) ∧
    (∀ pk s ss, verifyQuotientsWithSecrets pk [] (s :: ss) = .ok true) ∧
    (∀ pk qs zs, 2 ≤ qs.length → zs.length < qs.length →
      verifyQuotients pk qs zs = .ok false ∨ verifyQuotients pk qs zs = .error (indexPanic zs.length zs.length)) ∧
    (∀ pk qs ss, ss.length < qs.length → verifyQuotientsWithSecrets pk qs ss = .ok false ∨
      verifyQuotientsWithSecrets pk qs ss = .error (indexPanic ss.length ss.length)) ∧
    ∀ C L c r, r.quotients.length ≤ 1 → (validatePuzzlePromiseResponse C L c r = .ok () ↔
      ∃ pkey fake real, L.parsePubKey r.puzzleKey = .ok pkey ∧ decodeIndexList c.fakeTxList = .ok fake ∧
        decodeIndexList c.realTxList = .ok real ∧ checkFakePromises C L pkey c r 0 fake = .ok () ∧
        ∀ idx ∈ real, idx < r.puzzles.length) := by
  have short : ∀ pk qs zs, qs.length ≤ 1 → verifyQuotients pk qs zs = .ok true := fun pk qs zs h => by
    rw [verifyQuotients, List.drop_eq_nil_of_le h]
    rfl
  refine ⟨fun pk zs => ⟨short pk [] zs (by simp), fun q => short pk [q] zs (by simp)⟩, fun _ _ _ => by simp [verifyQuotientsWithSecrets, goIndex, verifyProducts],
    fun pk qs zs h2 hlt => ?_, fun pk qs ss hlt => ?_, fun C L c r hq => ?_⟩
  · exact verifyChain_short pk zs 1 (qs.drop 1) (by intro h; have := congrArg List.length h; simp at this; omega)
      Nat.one_pos (by omega) (by simp; omega)
  · cases ss with
    | nil => exact .inr rfl
    | cons s0 ss =>
      simpa [verifyQuotientsWithSecrets, goIndex] using verifyProducts_short pk (s0 :: ss) 0 (setBytes s0) qs
        (by rintro rfl; simp at hlt) (Nat.zero_le _) (by simpa using hlt)
  · rw [validatePuzzlePromiseResponse_ok_iff]
    constructor
    · rintro ⟨pkey, fake, real, zs, hk, hf, hr, hc, hz, -⟩
      exact ⟨pkey, fake, real, hk, hf, hr, hc, mapM_goIndex_ok_iff.1 ⟨zs, hz⟩⟩
    · rintro ⟨pkey, fake, real, hk, hf, hr, hc, hin⟩
      obtain ⟨zs, hz⟩ := mapM_goIndex_ok_iff.2 hin
      exact ⟨pkey, fake, real, zs, hk, hf, hr, hc, hz, short _ _ _ hq⟩

/-- Hash functions and a keystream that are all zeros: a promise opens to itself. -/
def zeroCrypto : Crypto :=
  ⟨fun _ => List.replicate 32 0, fun _ => List.length_replicate _ _, fun _ => List.replicate 20 0,
    fun _ => List.length_replicate _ _, fun _ _ => List.replicate 32 0, fun n _ _ => List.replicate n 0,
    fun _ _ _ => List.length_replicate _ _⟩

/-- A client whose puzzle key is `(3, 15)` and whose curve accepts every signature of at most 72 bytes. -/
def acceptingLib : ClientLib where
  parsePubKey _ := .ok ⟨3, 15⟩
  parseSecpPubKey _ := .ok (0, 0)
  parseDERSignature b := if b.length ≤ 72 then .ok (0, 0) else .error "malformed signature: too long"
  parseDERSignature_length b rs h := by
    simp only at h
    split at h
    · assumption
    · cases h
  verify _ _ _ := true

/-- A response with no quotient to a challenge with the fake transaction `0` and the real ones `1` and `2`: the
fake secret `2` solves its puzzle `8 = 2^3 mod 15`, and the real puzzles `0` and `1` are linked by no quotient. -/
theorem quotient_verifiers_unsound_toy :
    validatePuzzlePromiseResponse zeroCrypto acceptingLib ⟨[[7], [8], [9]], [], [], le16 1 ++ le16 2, le16 0, [], []⟩
      ⟨[[8], toBytes 0, toBytes 1], [[5], [6], [7]], [], [[2]], [], []⟩ = .ok () ∧
    ∀ q, verifyQuotients ⟨3, 15⟩ [[1], q] [toBytes 0, toBytes 1] = .ok false :=
  ⟨(quotient_verifiers_unsound.2.2.2.2 _ _ _ _ (by decide)).2 ⟨⟨3, 15⟩, [0], [1, 2], rfl, rfl, rfl, rfl, by decide⟩,
    fun q => by simp [verifyQuotients, verifyChain, goIndex, pure, Except.pure]⟩

/-! ## The client's puzzle -/

/-- The loop labelled `out` in `createClientPuzzle`, over the values `rnd.Int31n(len(r.puzzles))` returns: it stops
at the first one in the real list. `none` when the values run out, where the loop would go on drawing; with an
empty real list it never stops. -/
def pickPuzzle (realTxList : List Nat) : List Nat → Option Nat
  | [] => none
  | which :: rest => if realTxList.contains which then some which else pickPuzzle realTxList rest

/-- The draw that ends the loop is a real index. -/
theorem pickPuzzle_mem {realTxList : List Nat} :
    ∀ {stream : List Nat} {which : Nat}, pickPuzzle realTxList stream = some which → which ∈ realTxList
  | w :: rest, which, h => by
    unfold pickPuzzle at h
    split at h
    · cases h
      exact List.elem_iff.1 ‹_›
    · exact pickPuzzle_mem h

/-- `createClientPuzzle`, with the values `rnd.Int31n` returns as `stream` and those `rand.Int` returns to
`BlindPuzzle` as `draws`. The loop's `which :=` declares a variable that shadows the outer `which`, so its draw is
dropped when the loop ends: the index returned and the puzzle blinded are those of the outer `which`, still `0`.
`Int31n` panics on a bound that is not positive, here `int32(len(r.puzzles))`. -/
def createClientPuzzle (L : ClientLib) (c : PuzzlePromiseChallenge) (r : PuzzlePromiseResponse)
    (stream draws : List Nat) : Except Fault (Option (Nat × Bytes × Bytes)) := do
  let realTxList ← (decodeIndexList c.realTxList).mapError (.error <| "failed to decode tx index list: " ++ ·)
  let which := 0
  if r.puzzles.length % 2 ^ 32 = 0 ∨ 2 ^ 31 ≤ r.puzzles.length % 2 ^ 32 then
    throw (.panic "invalid argument to Int31n")
  match pickPuzzle realTxList stream with
  | none => pure none
  | some _ =>
    let pkey ← (L.parsePubKey r.puzzleKey).mapError (.error <| "failed to decode puzzle key: " ++ ·)
    let p ← goIndex r.puzzles which
    match blindPuzzle pkey p draws with
    | none => pure none
    | some (puzzle, _, factor) => pure (some (which, puzzle, factor))

/-- Whatever the challenge and the draws, the puzzle the client makes is a blinding of the response's first
puzzle, returned under index `0`, real or not. -/
theorem createClientPuzzle_index_zero {L : ClientLib} {c r stream draws which puzzle factor}
    (h : createClientPuzzle L c r stream draws = .ok (some (which, puzzle, factor))) :
    which = 0 ∧ ∃ pkey p blinding, L.parsePubKey r.puzzleKey = .ok pkey ∧ r.puzzles[0]? = some p ∧
      blindPuzzle pkey p draws = some (puzzle, blinding, factor) := by
  simp only [createClientPuzzle, Except.bind_eq_ok] at h
  obtain ⟨real, -, h⟩ := h
  split at h
  · cases h
  rcases hw : pickPuzzle real stream with _ | w <;> simp only [hw, pure_bind] at h
  · cases h
  simp only [Except.bind_eq_ok, Except.mapError_eq_ok, goIndex_eq_ok] at h
  obtain ⟨pkey, hk, p, hp, h⟩ := h
  rcases hb : blindPuzzle pkey p draws with _ | ⟨puzzle', blinding, factor'⟩ <;> simp only [hb] at h
  · cases h
  cases h
  exact ⟨rfl, pkey, p, blinding, hk, hp, hb⟩

/-- The real list of this challenge is `[1]`, and the client's puzzle is index `0`, the fake one. -/
theorem createClientPuzzle_fake_toy :
    decodeIndexList (le16 1) = .ok [1] ∧
    createClientPuzzle acceptingLib ⟨[], [], [], le16 1, [], [], []⟩ ⟨[[4], [5]], [], [], [], [], []⟩ [1] [2] =
      .ok (some (0, [2], [8])) ∧ (0 = 0 ∧ ∃ pkey p blinding, acceptingLib.parsePubKey [] = .ok pkey ∧
        ([[4], [5]] : List Bytes)[0]? = some p ∧ blindPuzzle pkey p [2] = some ([2], blinding, [8])) :=
  have h : createClientPuzzle acceptingLib ⟨[], [], [], le16 1, [], [], []⟩ ⟨[[4], [5]], [], [], [], [], []⟩
      [1] [2] = .ok (some (0, [2], [8])) := rfl
  ⟨rfl, h, createClientPuzzle_index_zero h⟩

/-! ## The Puzzle-Solver challenge -/

/-- `puzzleSolverChallenge`. -/
structure PuzzleSolverChallenge where
  puzzles : List Bytes
  fakePuzzleList : Bytes
  realPuzzleList : Bytes
  fakeFactors : List Bytes
  realFactors : List Bytes
  realInverses : List Bytes
  deriving DecidableEq, Repr

/-- The first loop of `createPuzzleSolverChallenge` at position `i`: `BlindPuzzle` of `1` (the bytes of
`big.NewInt(1)`) below `FakePreimageCount`, and of the payee's puzzle `p` from there on, with the `i`-th draws. -/
def solverBlinding (pkey : PuzzlePubKey) (p : Bytes) (draws : List (List Nat)) (i : Nat) :
    Option (Bytes × Bytes × Bytes) :=
  blindPuzzle pkey (if i < fakePreimageCount then toBytes 1 else p) (draws.getD i [])

/-- `createPuzzleSolverChallenge`: the blindings of `1` first and those of the puzzle after them, shuffled; the
factors keep their order and the index lists follow the shuffle. -/
def createPuzzleSolverChallenge (L : ClientLib) (p puzzleKey : Bytes) (draws : List (List Nat))
    (words : List UInt32) : Except Fault (Option PuzzleSolverChallenge) := do
  let pkey ← (L.parsePubKey puzzleKey).mapError (.error <| "failed to decode puzzle key: " ++ ·)
  match (List.range (realPreimageCount + fakePreimageCount)).mapM (solverBlinding pkey p draws) with
  | none => pure none
  | some bs =>
    match ← shuffle (fun i j a => swapAt a i j) bs.length (bs.map (·.1)) words with
    | none => pure none
    | some (s, puzzles, _) =>
      let fakePuzzleList ← (List.range fakePreimageCount).mapM s.get
      let realPuzzleList ← (List.range' fakePreimageCount realPreimageCount).mapM s.get
      let serFakePuzzleList ← (encodeIndexList (fakePuzzleList.map Int.ofNat)).mapError
        (.error <| "failed to encode fake puzzle indexes: " ++ ·)
      let serRealPuzzleList ← (encodeIndexList (realPuzzleList.map Int.ofNat)).mapError
        (.error <| "failed to encode real puzzle indexes: " ++ ·)
      pure (some ⟨puzzles, serFakePuzzleList, serRealPuzzleList, (bs.take fakePreimageCount).map (·.2.1),
        (bs.drop fakePreimageCount).map (·.2.1), (bs.drop fakePreimageCount).map (·.2.2)⟩)

/-- `puzzleSolverResponse`, put together from `GetSolutionPromises` and `ValidateSolutions`. -/
structure PuzzleSolverResponse where
  promises : List Bytes
  keyHashes : List Bytes
  secrets : List Bytes
  deriving DecidableEq, Repr

/-- The loop of `validatePuzzleSolverResponse`, from the `i`-th entry of the fake list: the `i`-th secret must hash
to the key hash at the entry's index and open its promise to the `i`-th fake factor. -/
def checkFakeSolutions (C : Crypto) (c : PuzzleSolverChallenge) (r : PuzzleSolverResponse) (i : Nat) :
    List Nat → Except Fault Unit
  | [] => .ok ()
  | idx :: rest => do
    let secret ← goIndex r.secrets i
    let keyHash ← goIndex r.keyHashes idx
    if C.hashB secret ≠ keyHash then throw (.error "secret hash didn't verify")
    let promise ← goIndex r.promises idx
    let solution ← (revealSolution C promise secret).mapError (.error <| "puzzle didn't unlock: " ++ ·)
    let factor ← goIndex c.fakeFactors i
    if solution ≠ factor then throw (.error "solution didn't verify")
    checkFakeSolutions C c r (i + 1) rest

/-- `validatePuzzleSolverResponse`. -/
def validatePuzzleSolverResponse (C : Crypto) (c : PuzzleSolverChallenge) (r : PuzzleSolverResponse) :
    Except Fault Unit := do
  let fakePuzzleList ← (decodeIndexList c.fakePuzzleList).mapError fun _ => .error "failed to decode an index list"
  checkFakeSolutions C c r 0 fakePuzzleList

/-- `createPreimageChallanges`: the key hashes at the real indices. -/
def createPreimageChallanges (c : PuzzleSolverChallenge) (r : PuzzleSolverResponse) : Except Fault (List Bytes) := do
  let realPuzzleList ← (decodeIndexList c.realPuzzleList).mapError fun _ => .error "failed to decode an index list"
  realPuzzleList.mapM (goIndex r.keyHashes)

/-! ## The Puzzle-Solver challenge, made and checked -/

/-- What a solver challenge is made of: the key parses, both index lists decode, to `FakePreimageCount` and
`RealPreimageCount` entries; the `i`-th fake entry is where the shuffle put the `i`-th blinding (of `1`), whose factor
is the `i`-th fake factor, and the `j`-th real entry is where it put the `j`-th blinding after the fakes (of the
puzzle), whose factor and inverse are the `j`-th real ones. -/
theorem createPuzzleSolverChallenge_ok {L : ClientLib} {p key : Bytes} {draws : List (List Nat)}
    {words : List UInt32} {ch : PuzzleSolverChallenge}
    (h : createPuzzleSolverChallenge L p key draws words = .ok (some ch)) :
    ∃ pkey fake real, L.parsePubKey key = .ok pkey ∧ ch.puzzles.length = realPreimageCount + fakePreimageCount ∧
      (∀ pz ∈ ch.puzzles, ∃ i b, solverBlinding pkey p draws i = some b ∧ pz = b.1) ∧
      decodeIndexList ch.fakePuzzleList = .ok fake ∧ decodeIndexList ch.realPuzzleList = .ok real ∧
      fake.length = fakePreimageCount ∧ real.length = realPreimageCount ∧
      (∀ i idx, fake[i]? = some idx → ∃ b, solverBlinding pkey p draws i = some b ∧ ch.puzzles[idx]? = some b.1 ∧
        ch.fakeFactors[i]? = some b.2.1) ∧
      ∀ j idx, real[j]? = some idx → ∃ b, solverBlinding pkey p draws (fakePreimageCount + j) = some b ∧
        ch.puzzles[idx]? = some b.1 ∧ ch.realFactors[j]? = some b.2.1 ∧ ch.realInverses[j]? = some b.2.2 := by
  simp only [createPuzzleSolverChallenge, Except.bind_eq_ok, Except.mapError_eq_ok] at h
  obtain ⟨pkey, hkey, h⟩ := h
  split at h
  · cases h
  rename_i bs hbs
  simp only [Except.bind_eq_ok] at h
  obtain ⟨r, hsh, h⟩ := h
  rcases r with _ | ⟨m, puzzles, ws'⟩
  · cases h
  simp only [Except.bind_eq_ok, Except.mapError_eq_ok, pure, Except.pure, Except.ok.injEq, Option.some.injEq] at h
  obtain ⟨fake, hfake, real, hreal, bf, hbf, br, hbr, rfl⟩ := h
  have hbs₂ := mapM_eq_some_iff.1 hbs
  have hlen : bs.length = realPreimageCount + fakePreimageCount := by simpa using hbs₂.length_eq.symm
  obtain ⟨hlen', hget⟩ := shuffle_swapAt_get (List.length_map _ _) hsh
  rw [hlen] at hlen' hget
  have hm : ∀ k < realPreimageCount + fakePreimageCount, ∃ v < realPreimageCount + fakePreimageCount,
      m.get k = .ok v := fun k hk => by
    obtain ⟨v, hv, hv', -⟩ := hget k hk
    exact ⟨v, hv, hv'⟩
  obtain ⟨hfl, hf⟩ := mapM_get_ok hm (fun k hk => by simp [realPreimageCount, fakePreimageCount] at hk ⊢; omega) hfake
  obtain ⟨hrl, hr⟩ := mapM_get_ok hm (fun k hk => by simp [realPreimageCount, fakePreimageCount] at hk ⊢; omega) hreal
  have hdec : ∀ (l : List Nat) b, encodeIndexList (l.map Int.ofNat) = .ok b → decodeIndexList b = .ok l :=
    fun l b hb => by simpa [List.map_map, Function.comp_def] using decodeIndexList_encodeIndexList hb
  -- the blinding first at `k` and where the shuffle put it
  have hat : ∀ k idx, k < realPreimageCount + fakePreimageCount → m.get k = .ok idx →
      ∃ b, solverBlinding pkey p draws k = some b ∧ bs[k]? = some b ∧ puzzles[idx]? = some b.1 := fun k idx hk hg => by
    obtain ⟨v, -, hgv, hv⟩ := hget k hk
    rw [hgv] at hg
    cases hg
    obtain ⟨b, hb, hsb⟩ := forall₂_getElem? hbs₂ (getElem?_range_eq_some.2 ⟨hk, rfl⟩)
    exact ⟨b, hsb, hb, by rw [hv, List.getElem?_map, hb]; rfl⟩
  refine ⟨pkey, fake, real, hkey, hlen', fun pz hpz => ?_, hdec _ _ hbf, hdec _ _ hbr, by simpa using hfl,
    by simpa using hrl, fun i idx hi => ?_, fun j idx hj => ?_⟩
  · obtain ⟨b, hb, rfl⟩ := List.mem_map.1 (shuffle_swapAt_mem hsh pz hpz)
    obtain ⟨i, hi⟩ := List.mem_iff_getElem?.1 hb
    obtain ⟨k, hk, hsb⟩ := forall₂_getElem? hbs₂.flip hi
    exact ⟨k, b, hsb, rfl⟩
  · obtain ⟨k, hk, hgk, -⟩ := hf i idx hi
    obtain ⟨hki, rfl⟩ := getElem?_range_eq_some.1 hk
    obtain ⟨b, hsb, hb, hp⟩ := hat k idx (by simp [realPreimageCount, fakePreimageCount] at hki ⊢; omega) hgk
    exact ⟨b, hsb, hp, by rw [List.getElem?_map, List.getElem?_take_of_lt hki, hb]; rfl⟩
  · obtain ⟨k, hk, hgk, -⟩ := hr j idx hj
    have hj15 : j < realPreimageCount := by simpa [hrl] using (List.getElem?_eq_some_iff.1 hj).1
    rw [List.getElem?_range' _ _ (by simpa using hj15), Nat.one_mul, Option.some.injEq] at hk
    subst hk
    obtain ⟨b, hsb, hb, hp⟩ := hat _ idx (by simp [realPreimageCount, fakePreimageCount] at hj15 ⊢; omega) hgk
    refine ⟨b, hsb, hp, ?_, ?_⟩ <;> rw [List.getElem?_map, List.getElem?_drop, hb] <;> rfl

/-- A solver challenge is made whenever the key parses, every blinding finds a usable draw, and the shuffle's words
do not run out. -/
theorem createPuzzleSolverChallenge_of {L : ClientLib} {p key : Bytes} {draws : List (List Nat)} {words : List UInt32}
    {pkey : PuzzlePubKey} (hkey : L.parsePubKey key = .ok pkey)
    (hb : ∀ i < realPreimageCount + fakePreimageCount, (solverBlinding pkey p draws i).isSome)
    (hw : ∀ a : List Bytes, ∃ r, shuffle (fun i j a => swapAt a i j) (realPreimageCount + fakePreimageCount) a words =
      .ok (some r)) :
    ∃ ch, createPuzzleSolverChallenge L p key draws words = .ok (some ch) := by
  obtain ⟨bs, hbs⟩ := mapM_isSome fun i hi => hb i (List.mem_range.1 hi)
  have hlen : bs.length = realPreimageCount + fakePreimageCount := by
    simpa using (mapM_eq_some_iff.1 hbs).length_eq.symm
  obtain ⟨⟨m, puzzles, ws'⟩, hsh⟩ := hw (bs.map (·.1))
  rw [← hlen] at hsh
  obtain ⟨-, hget⟩ := shuffle_swapAt_get (List.length_map _ _) hsh
  have hm : ∀ k < realPreimageCount + fakePreimageCount, ∃ v < realPreimageCount + fakePreimageCount,
      m.get k = .ok v := fun k hk => by
    obtain ⟨v, hv, hv', -⟩ := hget k (hlen ▸ hk)
    exact ⟨v, hlen ▸ hv, hv'⟩
  have hlist : ∀ l : List Nat, (∀ k ∈ l, k < realPreimageCount + fakePreimageCount) →
      ∃ ks b, l.mapM m.get = .ok ks ∧ encodeIndexList (ks.map Int.ofNat) = .ok b := fun l hl => by
    obtain ⟨ks, hks⟩ := (@mapM_goIndex_ok_iff _ m.perm l).2 fun k hk => by
      obtain ⟨v, -, hv⟩ := hm k (hl k hk)
      exact (List.getElem?_eq_some_iff.1 (goIndex_eq_ok.1 hv)).1
    obtain ⟨-, hks'⟩ := mapM_get_ok hm hl hks
    obtain ⟨b, hb⟩ := @encodeIndexList_of (ks.map Int.ofNat) fun i hi => by
      obtain ⟨k, hk, rfl⟩ := List.mem_map.1 hi
      obtain ⟨j, hj⟩ := List.mem_iff_getElem?.1 hk
      obtain ⟨-, -, -, hlt⟩ := hks' j k hj
      simp [realPreimageCount, fakePreimageCount] at hlt ⊢
      omega
    exact ⟨ks, b, hks, hb⟩
  obtain ⟨fake, bf, hfake, hbf⟩ := hlist (List.range fakePreimageCount) fun k hk => by
    simp [realPreimageCount, fakePreimageCount] at hk ⊢; omega
  obtain ⟨real, br, hreal, hbr⟩ := hlist (List.range' fakePreimageCount realPreimageCount) fun k hk => by
    simp [realPreimageCount, fakePreimageCount] at hk ⊢; omega
  exact ⟨_, by simp only [createPuzzleSolverChallenge, hkey, hbs, hsh, hfake, hreal, hbf, hbr, Except.mapError_ok,
    Except.ok_bind, pure, Except.pure]; rfl⟩

/-- The loop of `validatePuzzleSolverResponse` passes exactly when, at every entry `idx` of the fake list, the secret
at the entry's place hashes to the key hash at `idx` and opens the promise at `idx` to the fake factor at the entry's
place. -/
theorem checkFakeSolutions_ok_iff {C : Crypto} {c : PuzzleSolverChallenge} {r : PuzzleSolverResponse} :
    ∀ {i : Nat} {l : List Nat}, checkFakeSolutions C c r i l = .ok () ↔
      ∀ (k idx : Nat), l[k]? = some idx → ∃ secret, r.secrets[i + k]? = some secret ∧
        r.keyHashes[idx]? = some (C.hashB secret) ∧ ∃ promise, r.promises[idx]? = some promise ∧
        ∃ solution, revealSolution C promise secret = .ok solution ∧ c.fakeFactors[i + k]? = some solution
  | _, [] => by simp [checkFakeSolutions]
  | i, idx :: rest => by
    rw [forall_getElem?_cons]
    simp only [Nat.add_zero, ← Nat.add_assoc, Nat.add_right_comm i _ 1, ← checkFakeSolutions_ok_iff]
    simp only [checkFakeSolutions, Except.bind_eq_ok, goIndex_eq_ok, Except.mapError_eq_ok, ne_eq, Except.throw_eq,
      Except.error_bind, pure, Except.pure, Except.ok_bind, ite_eq_iff, reduceCtorEq, and_false, false_or, not_not]
    constructor
    · rintro ⟨s, hs, _, hk, rfl, p, hp, sol, hsol, f, hf, rfl, hrest⟩
      exact ⟨⟨s, hs, hk, p, hp, sol, hsol, hf⟩, hrest⟩
    · rintro ⟨⟨s, hs, hk, p, hp, sol, hsol, hf⟩, hrest⟩
      exact ⟨s, hs, _, hk, rfl, p, hp, sol, hsol, sol, hf, rfl, hrest⟩

/-- `validatePuzzleSolverResponse` accepts exactly when the fake list decodes and every fake entry checks out. -/
theorem validatePuzzleSolverResponse_ok_iff {C : Crypto} {c : PuzzleSolverChallenge} {r : PuzzleSolverResponse} :
    validatePuzzleSolverResponse C c r = .ok () ↔
      ∃ fake, decodeIndexList c.fakePuzzleList = .ok fake ∧ checkFakeSolutions C c r 0 fake = .ok () := by
  simp only [validatePuzzleSolverResponse, Except.bind_eq_ok, Except.mapError_eq_ok]

end Tumblebit
