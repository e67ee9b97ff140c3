import Tumblebit.Puzzle.IndexList

/-!
# RSA puzzles (`puzzle/puzzle.go`, `puzzle/puzzlekey.go`)

A puzzle is `s^e mod N` for a secret `s`; whoever holds the private key solves it. This module is the
faithful model of the puzzle package:

* keys: `PuzzleKey` (an RSA key with its CRT values and a blinding pair) and `PuzzlePubKey`;
* `createPuzzle`, `validatePuzzle`, `validateBlindedPuzzle`, `blindPuzzle`, `unblindPuzzle`;
* solving: `decryptPuzzle` (blinded multi-prime CRT) and `solvePuzzle`, which checks its result;
* promises: `cryptWithXOF`, `createPromise`, `revealSolution`, `newPuzzlePromise`, `newSolutionPromise`;
* the quotient chain: `quotients`, `verifyQuotientsWithSecrets`, `verifyQuotients`.

Big integers are `Nat`, except inside the CRT combination, where `big.Int.Sub` can go negative and the
model uses `Int` (whose `%` is the Euclidean modulus of `big.Int.Mod`).
-/

namespace Tumblebit

/-! ## Keys -/

/-- `PuzzlePubKey`, that is `rsa.PublicKey`: the exponent `E` and the modulus `N`. -/
structure PuzzlePubKey where
  e : Nat
  n : Nat
  deriving DecidableEq, Repr

/-- `rsa.CRTValue` of the third and later primes. -/
structure CRTValue where
  exp : Nat
  coeff : Nat
  r : Nat
  deriving DecidableEq, Repr

/-- `rsa.PrecomputedValues`. -/
structure Precomputed where
  dp : Nat
  dq : Nat
  qinv : Nat
  crtValues : List CRTValue
  deriving DecidableEq, Repr

/-- `rsa.PrivateKey`; `precomputed` is `none` when `Precomputed.Dp == nil`. -/
structure PrivateKey where
  e : Nat
  n : Nat
  d : Nat
  primes : List Nat
  precomputed : Option Precomputed
  deriving DecidableEq, Repr

/-- `PuzzleKey`: an RSA key and the blinding factor used inside every decryption, with its inverse. -/
structure PuzzleKey where
  rsakey : PrivateKey
  factor : Nat
  inverse : Nat
  deriving DecidableEq, Repr

/-- `PuzzleKey.PublicKey`. -/
def PuzzleKey.publicKey (pk : PuzzleKey) : PuzzlePubKey := ⟨pk.rsakey.e, pk.rsakey.n⟩

/-! ## Puzzles -/

/-- `createPuzzle`: the puzzle `secret^e mod N`. -/
def createPuzzle (pk : PuzzlePubKey) (secret : Nat) : Bytes := toBytes (secret ^ pk.e % pk.n)

/-- `ValidatePuzzle`: `secret < N` and it encrypts to the puzzle. -/
def validatePuzzle (pk : PuzzlePubKey) (puzzle secret : Bytes) : Bool :=
  let bigSecret := setBytes secret
  if pk.n ≤ bigSecret then false
  else constantTimeCompare (createPuzzle pk bigSecret) puzzle

/-- `UnblindPuzzle`: `p * r mod N`. -/
def unblindPuzzle (pk : PuzzlePubKey) (p r : Bytes) : Bytes := toBytes (setBytes p * setBytes r % pk.n)

/-- `ValidateBlindedPuzzle`: `secret < N` and `blinding = puzzle * secret^e mod N`. -/
def validateBlindedPuzzle (pk : PuzzlePubKey) (blinding puzzle secret : Bytes) : Bool :=
  let bigSecret := setBytes secret
  if pk.n ≤ bigSecret then false
  else constantTimeCompare (unblindPuzzle pk puzzle (createPuzzle pk bigSecret)) blinding

/-- `modInverse` for `n ≥ 1`: the inverse of `a` in `ℤ/nℤ`, when `a` and `n` are coprime. Go's
`big.Int.GCD` Bezout coefficient, moved into `(0, n)`, is the one element of `[0, n)` found here. -/
def modInverse (a n : Nat) : Option Nat :=
  if Nat.gcd a n ≠ 1 then none else (List.range n).find? (fun x => a * x % n = 1 % n)

/-- `newBlindingFactor` over the values `rand.Int(rand.Reader, N)` draws: the first non-zero one that
has an inverse. `none` when the draws run out, where the loop would go on drawing. -/
def newBlindingFactor (pk : PuzzlePubKey) : List Nat → Option (Nat × Nat)
  | [] => none
  | r :: rs =>
    if r = 0 then newBlindingFactor pk rs
    else match modInverse r pk.n with
      | some ir => some (r, ir)
      | none => newBlindingFactor pk rs

/-- `BlindPuzzle` with the factor `r` and inverse `ir` that `newBlindingFactor` chose:
the blinded puzzle `p * r^e mod N`, the factor and its inverse. -/
def blindPuzzleWith (pk : PuzzlePubKey) (p : Bytes) (r ir : Nat) : Bytes × Bytes × Bytes :=
  (toBytes (setBytes p * (r ^ pk.e % pk.n) % pk.n), toBytes r, toBytes ir)

/-- `BlindPuzzle`: draws a blinding factor, then blinds. -/
def blindPuzzle (pk : PuzzlePubKey) (p : Bytes) (draws : List Nat) : Option (Bytes × Bytes × Bytes) :=
  (newBlindingFactor pk draws).map fun (r, ir) => blindPuzzleWith pk p r ir

/-! ## Solving -/

/-- The two-prime part of the CRT combination in `decryptPuzzle`. -/
def crtFirst (c p q dp dq qinv : Nat) : Int :=
  let m1 : Int := (c ^ dp % p : Nat)
  let m2 : Int := (c ^ dq % q : Nat)
  let m := m1 - m2
  let m := if m < 0 then m + p else m
  (m * qinv) % p * q + m2

/-- One step of the loop over `CRTValues` in `decryptPuzzle`. -/
def crtStep (c : Nat) (m : Int) (prime : Nat) (v : CRTValue) : Int :=
  let m2 : Int := (c ^ v.exp % prime : Nat)
  let m2 := ((m2 - m) * v.coeff) % prime
  let m2 := if m2 < 0 then m2 + prime else m2
  m + m2 * v.r

/-- The loop over `CRTValues`; value `i` pairs with `Primes[2+i]`, which panics when missing. -/
def crtLoop (c : Nat) (primes : List Nat) : Nat → List CRTValue → Int → Except Fault Int
  | _, [], m => .ok m
  | i, v :: vs, m => do
    let prime ← goIndex primes (2 + i)
    crtLoop c primes (i + 1) vs (crtStep c m prime v)

/-- `decryptPuzzle`: blind the ciphertext with `factor^e`, decrypt by CRT (or by `c^D` without
precomputed values), then unblind with `inverse`. -/
def decryptPuzzle (pk : PuzzleKey) (c : Nat) : Except Fault Nat := do
  let priv := pk.rsakey
  if priv.n < c then throw (.error "value too large")
  let c := c * (pk.factor ^ priv.e % priv.n) % priv.n
  let m : Int ← match priv.precomputed with
    | none => pure ((c ^ priv.d % priv.n : Nat) : Int)
    | some pre => do
      let p ← goIndex priv.primes 0
      let q ← goIndex priv.primes 1
      crtLoop c priv.primes 0 pre.crtValues (crtFirst c p q pre.dp pre.dq pre.qinv)
  pure ((m * pk.inverse) % priv.n).toNat

/-- `SolvePuzzle`: decrypt, then check the result against the puzzle. -/
def solvePuzzle (pk : PuzzleKey) (p : Bytes) : Except Fault Bytes := do
  let m ← decryptPuzzle pk (setBytes p)
  if constantTimeCompare (createPuzzle pk.publicKey m) p then pure (toBytes m)
  else throw (.error "error in the CRT computation")

/-! ## Promises -/

/-- `cryptWithXOF`: XOR with the BLAKE2x keystream keyed by the first `min 32 |secret|` bytes of the
secret and fed the rest. `NewXOF` itself rejects the length `65535`. -/
def cryptWithXOF (C : Crypto) (input secret : Bytes) : Except String Bytes :=
  if 65535 < input.length then .error "input too long"
  else if input.length = 65535 then .error "blake2s: XOF length too large"
  else
    let klen := min 32 secret.length
    .ok (List.zipWith (· ^^^ ·) (C.xofStream input.length (secret.take klen) (secret.drop klen)) input)

/-- `createPromise`. -/
def createPromise (C : Crypto) (data secret : Bytes) : Except String Bytes := cryptWithXOF C data secret

/-- `RevealSolution` of the puzzle package. -/
def revealSolution (C : Crypto) (promise secret : Bytes) : Except String Bytes := cryptWithXOF C promise secret

/-- `NewPuzzlePromise` with the secret `rand.Int(rand.Reader, N)` drew: puzzle, promise and secret. -/
def newPuzzlePromise (C : Crypto) (pk : PuzzleKey) (sig : Bytes) (secret : Nat) :
    Except Fault (Bytes × Bytes × Bytes) := do
  let puzzle := createPuzzle pk.publicKey secret
  match createPromise C sig (toBytes secret) with
  | .ok promise => pure (puzzle, promise, toBytes secret)
  | .error e => throw (.error ("failed to create puzzle promise: " ++ e))

/-- `NewSolutionPromise` with the 20 random bytes of the key: solution, promise and key. -/
def newSolutionPromise (C : Crypto) (pk : PuzzleKey) (p : Bytes) (secret : Bytes) :
    Except Fault (Bytes × Bytes × Bytes) := do
  let solution ← (solvePuzzle pk p).mapError (Fault.wrap "failed to solve the puzzle: ")
  match createPromise C solution secret with
  | .ok promise => pure (solution, promise, secret)
  | .error e => throw (.error ("failed to create solution promise: " ++ e))

/-! ## Quotients -/

/-- The loop of `Quotients` from index `1`: `q_i = s_i * s_(i-1)^-1 mod N`. -/
def quotientChain (pk : PuzzlePubKey) (prev : Bytes) : List Bytes → Except Fault (List Bytes)
  | [] => .ok []
  | s :: rest =>
    match modInverse (setBytes prev) pk.n with
    | none => .error (.error "malformed secret")
    | some ai => do
      let qs ← quotientChain pk s rest
      pure (toBytes (setBytes s * ai % pk.n) :: qs)

/-- `Quotients`: `q_0 = 1` and the chain; `quotients[0]` panics on an empty list. -/
def quotients (pk : PuzzlePubKey) : List Bytes → Except Fault (List Bytes)
  | [] => .error (indexPanic 0 0)
  | s :: rest => do
    let qs ← quotientChain pk s rest
    pure (toBytes 1 :: qs)

/-- The loop of `VerifyQuotientsWithSecrets` from index `i` with the running product. -/
def verifyProducts (pk : PuzzlePubKey) (secrets : List Bytes) : Nat → Nat → List Bytes → Except Fault Bool
  | _, _, [] => .ok true
  | i, prod, q :: qs => do
    let prod := prod * setBytes q % pk.n
    let s ← goIndex secrets i
    if constantTimeCompare s (toBytes prod) then verifyProducts pk secrets (i + 1) prod qs else pure false

/-- `VerifyQuotientsWithSecrets`: `s_i = s_0 * q_0 * ... * q_i mod N`; `secrets[0]` panics on an
empty list. -/
def verifyQuotientsWithSecrets (pk : PuzzlePubKey) (qs secrets : List Bytes) : Except Fault Bool := do
  let s0 ← goIndex secrets 0
  verifyProducts pk secrets 0 (setBytes s0) qs

/-- The loop of `VerifyQuotients` from index `i ≥ 1`: `z_i = z_(i-1) * q_i^e mod N`. -/
def verifyChain (pk : PuzzlePubKey) (puzzles : List Bytes) : Nat → List Bytes → Except Fault Bool
  | _, [] => .ok true
  | i, q :: qs => do
    let prev ← goIndex puzzles (i - 1)
    let z := setBytes prev * (setBytes q ^ pk.e % pk.n) % pk.n
    let cur ← goIndex puzzles i
    if constantTimeCompare cur (toBytes z) then verifyChain pk puzzles (i + 1) qs else pure false

/-- `VerifyQuotients`: the loop starts at `i = 1`, so `q_0` is never read. -/
def verifyQuotients (pk : PuzzlePubKey) (qs puzzles : List Bytes) : Except Fault Bool :=
  verifyChain pk puzzles 1 (qs.drop 1)

end Tumblebit
