import Tumblebit.Puzzle.Puzzle

/-!
# Promises open to what they promise

A promise is its payload XORed with a keystream of the payload's length, keyed by the secret
(`cryptWithXOF`). The keystream is any function of the length, the key prefix and the rest of the secret
(`Crypto.xofStream`), so nothing here depends on BLAKE2s.

- one keystream applied twice cancels (`zipWith_xor_cancel`), so `cryptWithXOF` is its own inverse on what it
  returns, and keeps the length (`cryptWithXOF_ok`); it fails exactly on inputs of `65535` bytes or more
  (`cryptWithXOF_of_lt`, `cryptWithXOF_of_le`);
- **`promise_round_trip`**: `RevealSolution` opens every promise `createPromise` makes with the same secret, and
  the promises of `NewPuzzlePromise` and `NewSolutionPromise` open to the signature and to the solution.
-/

namespace Tumblebit

theorem uint8_xor_cancel (a b : UInt8) : a ^^^ (a ^^^ b) = b := by
  show UInt8.mk (a.toBitVec ^^^ (a.toBitVec ^^^ b.toBitVec)) = b
  rw [← BitVec.xor_assoc, BitVec.xor_self, BitVec.zero_xor]

/-- XOR with a keystream at least as long as the data, twice, gives the data back. -/
theorem zipWith_xor_cancel : ∀ (ks xs : List UInt8), xs.length ≤ ks.length →
    List.zipWith (· ^^^ ·) ks (List.zipWith (· ^^^ ·) ks xs) = xs
  | _, [], _ => by simp
  | [], _ :: _, h => by simp at h
  | k :: ks, x :: xs, h => by
    simp only [List.zipWith_cons_cons, uint8_xor_cancel, List.length_cons] at h ⊢
    rw [zipWith_xor_cancel ks xs (by omega)]

/-- What `cryptWithXOF` returns has the input's length, and `cryptWithXOF` with the same secret maps it back. -/
theorem cryptWithXOF_ok {C : Crypto} {input secret out : Bytes} (h : cryptWithXOF C input secret = .ok out) :
    out.length = input.length ∧ cryptWithXOF C out secret = .ok input := by
  unfold cryptWithXOF at h
  split_ifs at h with h1 h2
  cases h
  have hlen : (List.zipWith (· ^^^ ·) (C.xofStream input.length (secret.take (min 32 secret.length))
      (secret.drop (min 32 secret.length))) input).length = input.length := by
    simp [C.xofStream_length]
  refine ⟨hlen, ?_⟩
  rw [cryptWithXOF, hlen, if_neg h1, if_neg h2]
  dsimp only
  rw [zipWith_xor_cancel _ _ (by simp [C.xofStream_length])]

/-- `cryptWithXOF` fails only on inputs of `65535` bytes or more. -/
theorem cryptWithXOF_of_lt {C : Crypto} {input : Bytes} (secret : Bytes) (h : input.length < 65535) :
    ∃ out, cryptWithXOF C input secret = .ok out := by
  unfold cryptWithXOF
  rw [if_neg (by omega), if_neg (by omega)]
  exact ⟨_, rfl⟩

/-- `cryptWithXOF` fails on inputs of `65535` bytes or more. -/
theorem cryptWithXOF_of_le {C : Crypto} {input : Bytes} (secret : Bytes) (h : 65535 ≤ input.length) :
    ∃ e, cryptWithXOF C input secret = .error e := by
  unfold cryptWithXOF
  by_cases h' : 65535 < input.length
  · exact ⟨_, if_pos h'⟩
  · exact ⟨_, by rw [if_neg h', if_pos (by omega)]⟩

/-- **Promises open.** With any keystream: a promise `createPromise` returns for a payload of at most 65535 bytes has
the payload's length and `RevealSolution` with the same secret returns the payload; the promise of
`NewPuzzlePromise` opens with its secret to the signature, and that of `NewSolutionPromise` with its key to the
solution. -/
theorem promise_round_trip (C : Crypto) :
    (∀ x k c, x.length ≤ 65535 → createPromise C x k = .ok c → c.length = x.length ∧ revealSolution C c k = .ok x) ∧
    (∀ pk sig s puzzle promise secret, newPuzzlePromise C pk sig s = .ok (puzzle, promise, secret) →
      revealSolution C promise secret = .ok sig) ∧
    (∀ pk p key solution promise key', newSolutionPromise C pk p key = .ok (solution, promise, key') →
      revealSolution C promise key' = .ok solution) := by
  refine ⟨fun x k c _ h => cryptWithXOF_ok h, fun pk sig s puzzle promise secret h => ?_,
    fun pk p key solution promise key' h => ?_⟩
  · unfold newPuzzlePromise at h
    split at h
    · cases h
      exact (cryptWithXOF_ok ‹_›).2
    · cases h
  · unfold newSolutionPromise at h
    cases hs : (solvePuzzle pk p).mapError (Fault.wrap "failed to solve the puzzle: ") with
    | error e => simp [hs] at h
    | ok s =>
      simp only [hs, Except.ok_bind] at h
      split at h
      · cases h
        exact (cryptWithXOF_ok ‹_›).2
      · cases h

end Tumblebit
