import Tumblebit.Puzzle.Puzzle

/-!
# Solving puzzles: blinded multi-prime RSA with the CRT

A key as `GeneratePuzzleKey` makes it (`PuzzleKey.Valid`): distinct primes of at least `3`, `N` their product,
`E * D ≡ 1` modulo each `prime - 1`, the values `Precompute` derives, and the blinding pair. For such a key
`decryptPuzzle` computes the RSA root on either of its paths:

- Fermat for one prime (`pow_modEq_pow_mod`, `pow_mul_modEq_self`), then RSA modulo `N`
  (`PrivateKey.Valid.pow_ed`);
- Garner's combination step over `Int` (`crt_combine`). The two steps of the code are instances of it
  (`crtFirst_eq`, `crtStep_eq`), and so is each turn of the loop over `CRTValues` (`PrivateKey.Valid.crtLoop_eq`);
- the blinding by `factor^e` and `inverse` cancels (`PuzzleKey.Valid.unblind_root`), and so does a client's blinding
  once its root is unblinded (`PuzzleKey.Valid.solvePuzzle_blind`, `unblindPuzzle_mul_inverse`);
- **`decryptPuzzle_correct`**: `decryptPuzzle` is `c ↦ c^D mod N` below `N`, and `SolvePuzzle` inverts
  `createPuzzle`. It fails exactly on the byte strings that are not the minimal encoding of an integer below `N`.
-/

namespace Tumblebit

/-! ## Exponents modulo a prime -/

section Prime

variable {p e d : Nat}

/-- `e * d ≡ 1` modulo `p - 1 ≥ 2` leaves `d` a nonzero remainder. -/
theorem mod_pred_pos (h3 : 3 ≤ p) (hed : e * d ≡ 1 [MOD p - 1]) : 0 < d % (p - 1) := by
  refine Nat.pos_of_ne_zero fun h0 => ?_
  have h1 : e * d % (p - 1) = 0 := Nat.mod_eq_zero_of_dvd (Dvd.dvd.mul_left (Nat.dvd_of_mod_eq_zero h0) e)
  have h2 : 1 % (p - 1) = 1 := Nat.mod_eq_of_lt (by omega)
  have h3 : e * d % (p - 1) = 1 % (p - 1) := hed
  omega

/-- Fermat: a power of `x` modulo `p` only depends on the exponent modulo `p - 1`, as long as it stays
positive. -/
theorem pow_modEq_pow_mod (hp : p.Prime) (x k : Nat) (hk : 0 < k % (p - 1)) :
    x ^ (k % (p - 1)) ≡ x ^ k [MOD p] := by
  by_cases hx : p ∣ x
  · have h0 : ∀ j, 0 < j → x ^ j ≡ 0 [MOD p] := fun j hj =>
      (Nat.modEq_zero_iff_dvd).2 (dvd_pow hx (Nat.pos_iff_ne_zero.1 hj))
    exact (h0 _ hk).trans (h0 _ (lt_of_lt_of_le hk (Nat.mod_le _ _))).symm
  · have hcop : x.Coprime p := (Nat.coprime_comm.1 ((Nat.Prime.coprime_iff_not_dvd hp).2 hx))
    have hf : x ^ (p - 1) ≡ 1 [MOD p] := by
      simpa [Nat.totient_prime hp] using Nat.ModEq.pow_totient hcop
    calc x ^ (k % (p - 1)) = x ^ (k % (p - 1)) * 1 ^ (k / (p - 1)) := by simp
      _ ≡ x ^ (k % (p - 1)) * (x ^ (p - 1)) ^ (k / (p - 1)) [MOD p] :=
        Nat.ModEq.mul_left _ (Nat.ModEq.pow _ hf.symm)
      _ = x ^ k := by rw [← pow_mul, ← pow_add, Nat.mod_add_div]

/-- RSA modulo one prime: `x^(e*d) ≡ x` whenever `e * d ≡ 1` modulo `p - 1`. -/
theorem pow_mul_modEq_self (hp : p.Prime) (h3 : 3 ≤ p) (hed : e * d ≡ 1 [MOD p - 1]) (x : Nat) :
    x ^ (e * d) ≡ x [MOD p] := by
  have h1 : e * d % (p - 1) = 1 := by
    have : e * d % (p - 1) = 1 % (p - 1) := hed
    rw [this, Nat.mod_eq_of_lt (by omega)]
  have := pow_modEq_pow_mod hp x (e * d) (by omega)
  rwa [h1, pow_one, Nat.ModEq.comm] at this

end Prime

/-! ## The Chinese remainder step of `decryptPuzzle` -/

/-- The combination step of Garner's algorithm: from `x mod R` and `x mod p`, with `coeff` the inverse of
`R` modulo `p`, it gives `x mod R*p`. -/
theorem crt_combine (x : Nat) {R p coeff : Nat} (hR : 0 < R) (hp : 0 < p) (hcop : R.Coprime p)
    (hc : R * coeff ≡ 1 [MOD p]) :
    ((x % R : Nat) : Int) + ((((x % p : Nat) : Int) - (x % R : Nat)) * coeff % p) * R = ((x % (R * p) : Nat) : Int) := by
  set m : Int := ((x % R : Nat) : Int) with hm
  set h : Int := ((((x % p : Nat) : Int) - m) * coeff) % p with hh
  have h0 : 0 ≤ h := Int.emod_nonneg _ (by omega)
  have h1 : h < p := Int.emod_lt_of_pos _ (by omega)
  have m0 : 0 ≤ m := Int.ofNat_nonneg _
  have m1 : m < R := by rw [hm]; exact_mod_cast Nat.mod_lt _ hR
  have hc' : ((R : Int) * coeff) ≡ 1 [ZMOD p] := by exact_mod_cast (Int.natCast_modEq_iff).2 hc
  have hmodR : m + h * R ≡ x [ZMOD R] := by
    show (m + h * R) % R = x % R
    rw [Int.add_mul_emod_self, hm, Int.ofNat_emod, Int.emod_emod]
  have hmodp : m + h * R ≡ x [ZMOD p] :=
    calc m + h * R ≡ m + ((x % p : Nat) - m) * coeff * R [ZMOD p] :=
          Int.ModEq.add_left _ (Int.ModEq.mul_right _ (Int.mod_modEq _ _))
      _ = m + ((x % p : Nat) - m) * (R * coeff) := by ring
      _ ≡ m + ((x % p : Nat) - m) * 1 [ZMOD p] := Int.ModEq.add_left _ (Int.ModEq.mul_left _ hc')
      _ = ((x % p : Nat) : Int) := by ring
      _ ≡ x [ZMOD p] := by rw [Int.ofNat_emod]; exact Int.mod_modEq _ _
  have hmod : m + h * R ≡ x [ZMOD (R * p)] :=
    (Int.modEq_and_modEq_iff_modEq_mul (by simpa using hcop)).1 ⟨hmodR, hmodp⟩
  have hlt : m + h * R < R * p := by nlinarith
  rw [Int.ofNat_emod, Int.ofNat_mul, ← hmod]
  exact (Int.emod_eq_of_lt (by positivity) hlt).symm

theorem crtFirst_eq {c p q dp dq qinv x : Nat} (hp : 0 < p) (hq : 0 < q) (hcop : q.Coprime p)
    (hqinv : q * qinv ≡ 1 [MOD p]) (h1 : c ^ dp % p = x % p) (h2 : c ^ dq % q = x % q) :
    crtFirst c p q dp dq qinv = ((x % (p * q) : Nat) : Int) := by
  have hcomb := crt_combine x hq hp hcop hqinv
  unfold crtFirst
  simp only [h1, h2]
  rw [Nat.mul_comm p q, ← hcomb, add_comm]
  split_ifs
  · rw [add_mul, Int.add_mul_emod_self_left]
  · rfl

theorem crtStep_eq {c prime R x : Nat} {v : CRTValue} (hR : 0 < R) (hp : 0 < prime) (hcop : R.Coprime prime)
    (hr : v.r = R) (hc : R * v.coeff ≡ 1 [MOD prime]) (hexp : c ^ v.exp % prime = x % prime) :
    crtStep c ((x % R : Nat) : Int) prime v = ((x % (R * prime) : Nat) : Int) := by
  unfold crtStep
  simp only [hexp, hr]
  rw [if_neg (not_lt.2 (Int.emod_nonneg _ (by omega)))]
  exact crt_combine x hR hp hcop hc

/-! ## Keys as `GeneratePuzzleKey` makes them -/

/-- The values `rsa.PrivateKey.Precompute` derives: `Dp`, `Dq` and `Qinv` from the first two primes and,
for the prime at index `i + 2`, its exponent `D mod (prime - 1)`, the product `R` of the primes before it and
the inverse of `R` modulo it. -/
structure Precomputed.Valid (primes : List Nat) (d : Nat) (pre : Precomputed) : Prop where
  dp : ∀ p, primes[0]? = some p → pre.dp = d % (p - 1)
  dq : ∀ q, primes[1]? = some q → pre.dq = d % (q - 1)
  qinv : ∀ p q, primes[0]? = some p → primes[1]? = some q → q * pre.qinv ≡ 1 [MOD p]
  length : pre.crtValues.length + 2 = primes.length
  crtValues : ∀ i v, pre.crtValues[i]? = some v → ∃ prime, primes[i + 2]? = some prime ∧
    v.exp = d % (prime - 1) ∧ v.r = (primes.take (i + 2)).prod ∧ v.r * v.coeff ≡ 1 [MOD prime]

/-- A private key as `rsa.GenerateMultiPrimeKey` returns it: at least two distinct primes, each at least `3`
(`rand.Prime` sets the two top bits), `N` their product, `D` the inverse of `E` modulo the product of the
`prime - 1` (so `E * D ≡ 1` modulo each `prime - 1`), and the values `Precompute` derives. -/
structure PrivateKey.Valid (k : PrivateKey) : Prop where
  prime : ∀ p ∈ k.primes, p.Prime ∧ 3 ≤ p
  nodup : k.primes.Nodup
  two_le : 2 ≤ k.primes.length
  n_eq : k.n = k.primes.prod
  ed : ∀ p ∈ k.primes, k.e * k.d ≡ 1 [MOD p - 1]
  precomputed : ∀ pre, k.precomputed = some pre → pre.Valid k.primes k.d

/-- A puzzle key as `GeneratePuzzleKey` makes it: a valid RSA key, and the blinding factor of
`newBlindingFactor` with its inverse modulo `N`. -/
structure PuzzleKey.Valid (pk : PuzzleKey) : Prop where
  rsakey : pk.rsakey.Valid
  factor_inverse : pk.factor * pk.inverse ≡ 1 [MOD pk.rsakey.n]

/-- In a list of distinct primes, each is coprime to the product of those before it. -/
theorem coprime_prod_take {l : List Nat} (hl : ∀ p ∈ l, p.Prime) (hnd : l.Nodup) {k : Nat} (hk : k < l.length) :
    (l.take k).prod.Coprime l[k] := by
  have hdis := (List.nodup_append.1 ((List.take_append_drop k l).symm ▸ hnd)).2.2
  have hmem : l[k] ∈ l.drop k := by rw [List.drop_eq_getElem_cons hk]; exact List.mem_cons_self _ _
  refine Nat.coprime_list_prod_left_iff.2 fun n hn => ?_
  refine (Nat.coprime_primes (hl n (List.mem_of_mem_take hn)) (hl _ (List.getElem_mem hk))).2 ?_
  rintro rfl
  exact hdis hn hmem

section Key

variable {k : PrivateKey} (hk : k.Valid)
include hk

/-- The product of any primes of the key is positive. -/
theorem PrivateKey.Valid.prod_pos {l : List Nat} (hl : l ⊆ k.primes) : 0 < l.prod :=
  CanonicallyOrderedCommSemiring.list_prod_pos.2 fun p hp => (hk.prime p (hl hp)).1.pos

theorem PrivateKey.Valid.n_pos : 0 < k.n := hk.n_eq ▸ hk.prod_pos (List.Subset.refl _)

/-- RSA: `x^(e*d) ≡ x` modulo `N`, for every `x`, since `N` is a product of distinct primes. -/
theorem PrivateKey.Valid.pow_ed (x : Nat) : x ^ (k.e * k.d) ≡ x [MOD k.n] := by
  have hcop : k.primes.Pairwise Nat.Coprime := hk.nodup.imp_of_mem fun ha hb hne =>
    (Nat.coprime_primes (hk.prime _ ha).1 (hk.prime _ hb).1).2 hne
  rw [hk.n_eq]
  refine (Nat.modEq_list_prod_iff hcop).2 fun i => ?_
  have hmem : k.primes.get i ∈ k.primes := List.mem_iff_get.2 ⟨i, rfl⟩
  exact pow_mul_modEq_self (hk.prime _ hmem).1 (hk.prime _ hmem).2 (hk.ed _ hmem) x

/-- The exponent `D mod (prime - 1)` of a CRT value gives the residue of `c^D`. -/
theorem PrivateKey.Valid.pow_mod_exp {p : Nat} (hp : p ∈ k.primes) (c : Nat) :
    c ^ (k.d % (p - 1)) % p = c ^ k.d % p :=
  pow_modEq_pow_mod (hk.prime p hp).1 c k.d (mod_pred_pos (hk.prime p hp).2 (hk.ed p hp))

/-- Raising to `E` and then to `D`, or the other way, gives `x` back modulo `N`. -/
theorem PrivateKey.Valid.pow_pow_mod {a b : Nat} (hab : a * b = k.e * k.d) (x : Nat) :
    (x ^ a % k.n) ^ b % k.n = x % k.n :=
  calc (x ^ a % k.n) ^ b ≡ (x ^ a) ^ b [MOD k.n] := (Nat.mod_modEq _ _).pow _
    _ = x ^ (k.e * k.d) := by rw [← pow_mul, hab]
    _ ≡ x [MOD k.n] := hk.pow_ed x

/-- The root of a blinded value is the blinded root: `(x r^E)^D ≡ x^D r` modulo `N`. -/
theorem PrivateKey.Valid.blind_root (x r : Nat) : (x * (r ^ k.e % k.n) % k.n) ^ k.d % k.n = x ^ k.d * r % k.n :=
  calc (x * (r ^ k.e % k.n) % k.n) ^ k.d ≡ (x * r ^ k.e) ^ k.d [MOD k.n] :=
        ((Nat.mod_modEq _ _).trans ((Nat.mod_modEq _ _).mul_left _)).pow _
    _ = x ^ k.d * r ^ (k.e * k.d) := by rw [mul_pow, ← pow_mul]
    _ ≡ x ^ k.d * r [MOD k.n] := (hk.pow_ed r).mul_left _

/-- The loop over `CRTValues` extends `c^D mod (product of the first i + 2 primes)` to `c^D mod N`. -/
theorem PrivateKey.Valid.crtLoop_eq {pre : Precomputed} (hpre : pre.Valid k.primes k.d) (c : Nat) (i : Nat)
    (hi : i + 2 ≤ k.primes.length) :
    crtLoop c k.primes i (pre.crtValues.drop i) ((c ^ k.d % (k.primes.take (i + 2)).prod : Nat) : Int) =
      .ok ((c ^ k.d % k.primes.prod : Nat) : Int) := by
  generalize hvs : pre.crtValues.drop i = vs
  induction vs generalizing i with
  | nil =>
    have hlen : pre.crtValues.length ≤ i := List.drop_eq_nil_iff.1 hvs
    rw [List.take_of_length_le (by have := hpre.length; omega)]
    rfl
  | cons v vs ih =>
    have hv : pre.crtValues[i]? = some v := by simpa [hvs] using (List.getElem?_drop pre.crtValues i 0).symm
    obtain ⟨prime, hprime, hexp, hr, hcoeff⟩ := hpre.crtValues i v hv
    have hlt : i + 2 < k.primes.length := (List.getElem?_eq_some_iff.1 hprime).1
    have hget : k.primes[i + 2] = prime := (List.getElem?_eq_some_iff.1 hprime).2
    have hmem : prime ∈ k.primes := hget ▸ List.getElem_mem hlt
    have hstep : crtStep c ((c ^ k.d % (k.primes.take (i + 2)).prod : Nat) : Int) prime v =
        ((c ^ k.d % (k.primes.take (i + 2 + 1)).prod : Nat) : Int) := by
      rw [List.prod_take_succ _ _ hlt, hget]
      refine crtStep_eq (hk.prod_pos (List.take_subset _ _))
        (hk.prime _ hmem).1.pos ?_ hr (hr ▸ hcoeff) (by rw [hexp, hk.pow_mod_exp hmem])
      exact hget ▸ coprime_prod_take (fun p hp => (hk.prime p hp).1) hk.nodup hlt
    have hrest : pre.crtValues.drop (i + 1) = vs := by
      rw [List.drop_eq_getElem_cons (List.getElem?_eq_some_iff.1 hv).1] at hvs
      exact (List.cons.inj hvs).2
    simp only [crtLoop, Nat.add_comm 2 i, goIndex_of_lt hlt, hget, Except.ok_bind, hstep]
    exact ih (i + 1) (by omega) hrest

/-- The first step of the CRT, from the first two primes. -/
theorem PrivateKey.Valid.crtFirst_root {pre : Precomputed} (hpre : pre.Valid k.primes k.d) (c : Nat) {p q : Nat}
    (hp : k.primes[0]? = some p) (hq : k.primes[1]? = some q) :
    crtFirst c p q pre.dp pre.dq pre.qinv = ((c ^ k.d % (k.primes.take 2).prod : Nat) : Int) := by
  obtain ⟨h0, rfl⟩ := List.getElem?_eq_some_iff.1 hp
  obtain ⟨h1, rfl⟩ := List.getElem?_eq_some_iff.1 hq
  have hmem0 : k.primes[0] ∈ k.primes := List.getElem_mem h0
  have hmem1 : k.primes[1] ∈ k.primes := List.getElem_mem h1
  have htake1 : (k.primes.take 1).prod = k.primes[0] := by
    rw [List.prod_take_succ _ 0 h0, List.take_zero, List.prod_nil, one_mul]
  have hcop : k.primes[1].Coprime k.primes[0] := by
    have := coprime_prod_take (fun p hp => (hk.prime p hp).1) hk.nodup h1
    rwa [htake1, Nat.coprime_comm] at this
  rw [List.prod_take_succ _ 1 h1, htake1]
  exact crtFirst_eq (hk.prime _ hmem0).1.pos (hk.prime _ hmem1).1.pos hcop (hpre.qinv _ _ hp hq)
    (by rw [hpre.dp _ hp, hk.pow_mod_exp hmem0]) (by rw [hpre.dq _ hq, hk.pow_mod_exp hmem1])

end Key

/-! ## Solving puzzles -/

section Solve

variable {pk : PuzzleKey} (hpk : pk.Valid)
include hpk

/-- The blinding inside `decryptPuzzle` cancels: `(c * factor^e)^D * inverse ≡ c^D`. -/
theorem PuzzleKey.Valid.unblind_root (c : Nat) :
    (c * (pk.factor ^ pk.rsakey.e % pk.rsakey.n) % pk.rsakey.n) ^ pk.rsakey.d % pk.rsakey.n * pk.inverse %
      pk.rsakey.n = c ^ pk.rsakey.d % pk.rsakey.n := by
  have hc : c * (pk.factor ^ pk.rsakey.e % pk.rsakey.n) % pk.rsakey.n ≡ c * pk.factor ^ pk.rsakey.e [MOD pk.rsakey.n] :=
    (Nat.mod_modEq _ _).trans (Nat.ModEq.mul_left _ (Nat.mod_modEq _ _))
  exact calc (c * (pk.factor ^ pk.rsakey.e % pk.rsakey.n) % pk.rsakey.n) ^ pk.rsakey.d % pk.rsakey.n * pk.inverse
      ≡ (c * pk.factor ^ pk.rsakey.e) ^ pk.rsakey.d * pk.inverse [MOD pk.rsakey.n] :=
        Nat.ModEq.mul_right _ ((Nat.mod_modEq _ _).trans (hc.pow _))
    _ = c ^ pk.rsakey.d * (pk.factor ^ (pk.rsakey.e * pk.rsakey.d) * pk.inverse) := by ring
    _ ≡ c ^ pk.rsakey.d * (pk.factor * pk.inverse) [MOD pk.rsakey.n] :=
        Nat.ModEq.mul_left _ (Nat.ModEq.mul_right _ (hpk.rsakey.pow_ed _))
    _ ≡ c ^ pk.rsakey.d * 1 [MOD pk.rsakey.n] := Nat.ModEq.mul_left _ hpk.factor_inverse
    _ = c ^ pk.rsakey.d := mul_one _

/-- `decryptPuzzle` returns the RSA root `c^D mod N` of every `c ≤ N`, with or without the CRT values. -/
theorem PuzzleKey.Valid.decryptPuzzle_eq {c : Nat} (hc : c ≤ pk.rsakey.n) :
    decryptPuzzle pk c = .ok (c ^ pk.rsakey.d % pk.rsakey.n) := by
  have hk := hpk.rsakey
  have hm : (((((c * (pk.factor ^ pk.rsakey.e % pk.rsakey.n) % pk.rsakey.n) ^ pk.rsakey.d % pk.rsakey.n : Nat) : Int) *
      pk.inverse) % pk.rsakey.n).toNat = c ^ pk.rsakey.d % pk.rsakey.n := by
    rw [← hpk.unblind_root c]
    norm_cast
  unfold decryptPuzzle
  simp only [if_neg (Nat.not_lt.2 hc)]
  cases hpre : pk.rsakey.precomputed with
  | none =>
    simp only [pure_bind, hm]
    rfl
  | some pre =>
    have h0 : 0 < pk.rsakey.primes.length := by have := hk.two_le; omega
    have h1 : 1 < pk.rsakey.primes.length := by have := hk.two_le; omega
    have hv := hk.precomputed pre hpre
    have hloop := hk.crtLoop_eq hv (c * (pk.factor ^ pk.rsakey.e % pk.rsakey.n) % pk.rsakey.n) 0 hk.two_le
    rw [List.drop_zero, ← hk.crtFirst_root hv _ (List.getElem?_eq_getElem h0) (List.getElem?_eq_getElem h1),
      ← hk.n_eq] at hloop
    simp only [goIndex_of_lt h0, goIndex_of_lt h1, Except.ok_bind, hloop, hm]
    rfl

/-- A puzzle that is the minimal encoding of `c < N` is solved to the minimal encoding of `c^D mod N`. -/
theorem PuzzleKey.Valid.solvePuzzle_toBytes {c : Nat} (hc : c < pk.rsakey.n) :
    solvePuzzle pk (toBytes c) = .ok (toBytes (c ^ pk.rsakey.d % pk.rsakey.n)) := by
  have hcheck : createPuzzle pk.publicKey (c ^ pk.rsakey.d % pk.rsakey.n) = toBytes c := by
    rw [createPuzzle, PuzzleKey.publicKey, hpk.rsakey.pow_pow_mod (Nat.mul_comm _ _), Nat.mod_eq_of_lt hc]
  simp only [solvePuzzle, setBytes_toBytes, hpk.decryptPuzzle_eq hc.le, Except.ok_bind, hcheck,
    constantTimeCompare_iff, if_true]
  rfl

/-- `SolvePuzzle` of the blinding `x r^E mod N` of `x` is the blinding `x^D r mod N` of the root of `x`. -/
theorem PuzzleKey.Valid.solvePuzzle_blind (x r : Nat) :
    solvePuzzle pk (toBytes (x * (r ^ pk.rsakey.e % pk.rsakey.n) % pk.rsakey.n)) =
      .ok (toBytes (x ^ pk.rsakey.d * r % pk.rsakey.n)) := by
  rw [hpk.solvePuzzle_toBytes (Nat.mod_lt _ hpk.rsakey.n_pos), hpk.rsakey.blind_root]

/-- `SolvePuzzle` succeeds exactly on the minimal encodings of the integers below `N`. -/
theorem PuzzleKey.Valid.solvePuzzle_ok_iff (p : Bytes) :
    (∃ m, solvePuzzle pk p = .ok m) ↔ ∃ c < pk.rsakey.n, toBytes c = p := by
  constructor
  · rintro ⟨m, hm⟩
    by_cases hn : pk.rsakey.n < setBytes p
    · simp [solvePuzzle, decryptPuzzle, hn] at hm
    · simp only [solvePuzzle, hpk.decryptPuzzle_eq (Nat.le_of_not_lt hn), Except.ok_bind] at hm
      split_ifs at hm with hc
      exact ⟨_, Nat.mod_lt _ hpk.rsakey.n_pos, ((constantTimeCompare_iff _ _).1 hc)⟩
  · rintro ⟨c, hc, rfl⟩
    exact ⟨_, hpk.solvePuzzle_toBytes hc⟩

end Solve

/-- `UnblindPuzzle` with an inverse of the factor takes the factor off. -/
theorem unblindPuzzle_mul_inverse {pk : PuzzlePubKey} {a r ir : Nat} (h : r * ir % pk.n = 1 % pk.n) :
    unblindPuzzle pk (toBytes (a * r % pk.n)) (toBytes ir) = toBytes (a % pk.n) := by
  rw [unblindPuzzle, setBytes_toBytes, setBytes_toBytes]
  congr 1
  calc a * r % pk.n * ir ≡ a * r * ir [MOD pk.n] := (Nat.mod_modEq _ _).mul_right _
    _ = a * (r * ir) := Nat.mul_assoc ..
    _ ≡ a * 1 [MOD pk.n] := Nat.ModEq.mul_left _ h
    _ = a := Nat.mul_one a

/-- **Blinded multi-prime RSA-CRT decryption is correct.** For a key as `GeneratePuzzleKey` makes it,
`decryptPuzzle` returns `c^D mod N` for every `c < N` (on the CRT path and without the CRT values),
`SolvePuzzle` recovers `s` from the puzzle `s^e mod N` of every `s < N`, and it fails exactly on the byte strings
that are not the minimal encoding of an integer below `N`. -/
theorem decryptPuzzle_correct (pk : PuzzleKey) (hpk : pk.Valid) :
    (∀ c < pk.rsakey.n, decryptPuzzle pk c = .ok (c ^ pk.rsakey.d % pk.rsakey.n)) ∧
    (∀ s < pk.rsakey.n, solvePuzzle pk (createPuzzle pk.publicKey s) = .ok (toBytes s)) ∧
    ∀ p, (∃ f, solvePuzzle pk p = .error f) ↔ ¬ ∃ c < pk.rsakey.n, toBytes c = p := by
  refine ⟨fun c hc => hpk.decryptPuzzle_eq hc.le, fun s hs => ?_, fun p => ?_⟩
  · rw [createPuzzle, PuzzleKey.publicKey, hpk.solvePuzzle_toBytes (Nat.mod_lt _ hpk.rsakey.n_pos),
      hpk.rsakey.pow_pow_mod rfl, Nat.mod_eq_of_lt hs]
  · rw [← hpk.solvePuzzle_ok_iff]
    cases solvePuzzle pk p <;> simp

/-- The key with `N = 15 = 3 * 5`, `E = D = 3`, its CRT values, and the blinding pair `2, 8`. -/
def key15 : PuzzleKey := ⟨⟨3, 15, 3, [3, 5], some ⟨1, 3, 2, []⟩⟩, 2, 8⟩

theorem key15_valid : key15.Valid := by
  refine ⟨⟨?_, by decide, by decide, rfl, by simp [key15, Nat.ModEq], fun pre h => ?_⟩, by decide⟩
  · simp only [key15, List.mem_cons, List.mem_singleton, List.not_mem_nil]
    rintro p (rfl | rfl | h)
    exacts [⟨Nat.prime_three, le_rfl⟩, ⟨Nat.prime_five, by decide⟩, h.elim]
  · cases h
    exact ⟨by simp [key15], by simp [key15], by simp [key15, Nat.ModEq], rfl, by simp⟩

theorem decryptPuzzle_correct_key15 :
    (∀ c < 15, decryptPuzzle key15 c = .ok (c ^ 3 % 15)) ∧
    (∀ s < 15, solvePuzzle key15 (createPuzzle key15.publicKey s) = .ok (toBytes s)) ∧
    ∀ p, (∃ f, solvePuzzle key15 p = .error f) ↔ ¬ ∃ c < 15, toBytes c = p :=
  decryptPuzzle_correct key15 key15_valid

end Tumblebit
