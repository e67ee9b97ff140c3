import Tumblebit.Tumbler.StateMachine
import Tumblebit.Puzzle.Quotient

/-!
# What the tumbler discloses

The cut-and-choose of the Puzzle-Promise exchange rests on the fake and the real transactions being
two separate sets: the tumbler discloses the secrets of the fake ones and only the quotients
`q_i = s_(r_i) · s_(r_(i-1))⁻¹ mod N` of the real ones. `ValidatePuzzles` checks each list against its
commitment and the fake transactions against their pads, but never checks that the lists are disjoint
(`validatePuzzles_accepts_overlap`): an index in both lists has its secret disclosed, and multiplying it
through the quotients yields the secrets of the real transactions.
-/

namespace Tumblebit

/-- `ValidatePuzzles` never checks that the fake and the real lists are disjoint. With the hashes
`[FakeTxFormat(pad), h]` and their secrets `[s₀, s₁]`, a client committed to the fake list `[0]` and the
real list `[0, 1]` is given `s₀` as the secret of a fake transaction together with the quotient
`q₁ = s₁ · s₀⁻¹ mod N`, and `s₀ · q₁ ≡ s₁ (mod N)` is the secret of the real transaction `h`. -/
theorem validatePuzzles_accepts_overlap (env : Env) (c : Ctx) (pk : PuzzleKey) (pad salt h s₀ s₁ : Bytes) (ai : Nat)
    (hstate : c.sess.state = statePuzzlesPromised) (hkey : c.tb.getPuzzleKey c.sess.epoch = .ok pk)
    (hpad : pad.length = 32) (hsalt : salt.length = 32) (htx : c.sess.txHashes = [fakeTxFormat env.C pad, h])
    (hsec : c.sess.secrets = [s₀, s₁]) (hfake : c.sess.fakeSetHash = env.C.blake2s256 salt (le16 0))
    (hreal : c.sess.realSetHash = env.C.blake2s256 salt (le16 0 ++ le16 1))
    (hinv : modInverse (setBytes s₀) pk.publicKey.n = some ai) :
    decodeIndexList (le16 0) = .ok [0] ∧ decodeIndexList (le16 0 ++ le16 1) = .ok [0, 1] ∧
    (∃ c', Session.validatePuzzles ⟨le16 0, le16 0 ++ le16 1, [pad], salt⟩ env c =
        .ok ⟨[s₀], [toBytes 1, toBytes (setBytes s₁ * ai % pk.publicKey.n)]⟩ c') ∧
    setBytes s₀ * setBytes (toBytes (setBytes s₁ * ai % pk.publicKey.n)) % pk.publicKey.n =
      setBytes s₁ % pk.publicKey.n := by
  have hd0 : decodeIndexList (le16 0) = .ok [0] := rfl
  have hd1 : decodeIndexList (le16 0 ++ le16 1) = .ok [0, 1] := rfl
  have hr : readyFrom statePuzzlesPromised statePuzzlesValidated = .ok () := rfl
  have hdis : disclose env.C pk c.sess ⟨le16 0, le16 0 ++ le16 1, [pad], salt⟩ [0] [0, 1] =
      .ok ([s₀], [toBytes 1, toBytes (setBytes s₁ * ai % pk.publicKey.n)]) := by
    simp [disclose, hashIndexList, encodeIndexList, hsalt, hfake, hreal, checkFakeTxs, htx, goIndex, hpad, hsec,
      pickSecrets, quotients, quotientChain, hinv, List.mapM, List.mapM.loop]
  refine ⟨hd0, hd1, ?_, quotient_recovers hinv⟩
  simp [Session.validatePuzzles, Prog.bind_run, readyOrFail_run, Session.ready, hstate, hr, hd0, hd1, getSess,
    checkDisclosure, htx, hsalt, Session.epochPuzzleKey, Ctx.note, hkey, hdis]
  exact ⟨_, rfl⟩

/-- A payee session at `PuzzlesPromised` over a 15-bit toy key, with the fake-format hash at index `0`
and the secrets `2` and `4`, both lists committed under a zero salt. -/
def overlapCtx : Ctx :=
  let pk : PuzzleKey := ⟨⟨3, 15, 3, [3, 5], none⟩, 1, 1⟩
  ⟨0, { Session.fresh "" with
      state := statePuzzlesPromised, txHashes := [fakeTxFormat Env.idle.C (List.replicate 32 0), []],
      secrets := [[2], [4]], fakeSetHash := Env.idle.C.blake2s256 (List.replicate 32 0) (le16 0),
      realSetHash := Env.idle.C.blake2s256 (List.replicate 32 0) (le16 0 ++ le16 1) },
    ⟨1, [⟨"", "", 0, pk⟩], fun _ => none, [], [], 10, 0, 0⟩, [], []⟩

theorem validatePuzzles_accepts_overlap_toy :
    ∃ c', Session.validatePuzzles ⟨le16 0, le16 0 ++ le16 1, [List.replicate 32 0], List.replicate 32 0⟩ Env.idle
      overlapCtx = .ok ⟨[[2]], [toBytes 1, toBytes (4 * 8 % 15)]⟩ c' :=
  (validatePuzzles_accepts_overlap Env.idle overlapCtx ⟨⟨3, 15, 3, [3, 5], none⟩, 1, 1⟩
    (List.replicate 32 0) (List.replicate 32 0) [] [2] [4] 8
    rfl rfl rfl rfl rfl rfl rfl rfl (by decide)).2.2.1

end Tumblebit
