import Tumblebit.Puzzle.Puzzle

/-!
# The quotient chain (`Quotients`, `VerifyQuotientsWithSecrets`, `VerifyQuotients`)

The tumbler links the secrets `s₀, …, s_(k-1)` of the real puzzles by the quotients `q_i = s_i · s_(i-1)⁻¹ mod N`,
so that a client who learns one secret learns the next; the client checks the links on the puzzles
`z_i = s_i^e mod N` without learning a secret.

- `modInverse` finds an inverse exactly for a value coprime to `N` (`modInverse_isSome`), and every inverse gives the
  same quotient (`modInverse_unique`);
- the chain of `Quotients` exists exactly when every secret but the last is coprime to `N`
  (`quotientChain_ok_iff`), and its quotients link consecutive secrets (`quotientChain_get`);
- the loops of the two verifiers accept exactly when every link they read holds (`verifyProducts_true_iff`,
  `verifyChain_true_iff`). They read one link for each quotient, whatever the length of the secrets or the
  puzzles;
- **`quotients_complete`**: on secrets below `N`, `Quotients` succeeds iff every secret but the last is coprime
  to `N`, and both verifiers accept what it returns.
-/

namespace Tumblebit

/-! ## Inverses -/

/-- The inverse `modInverse` finds is one. -/
theorem modInverse_spec {a n x : Nat} (h : modInverse a n = some x) : a * x % n = 1 % n := by
  unfold modInverse at h
  split at h
  · cases h
  · simpa using List.find?_some h

/-- For `N > 1`, `modInverse` finds an inverse exactly for a value coprime to `N`. -/
theorem modInverse_isSome {a n : Nat} (hn : 1 < n) : (modInverse a n).isSome ↔ Nat.Coprime a n := by
  unfold modInverse
  by_cases h : Nat.gcd a n = 1
  · obtain ⟨m, hm⟩ := Nat.exists_mul_emod_eq_one_of_coprime h hn
    simp only [h, ne_eq, not_true_eq_false, if_false, List.find?_isSome, List.mem_range, decide_eq_true_eq]
    exact ⟨fun _ => h, fun _ => ⟨m % n, Nat.mod_lt _ (by omega), by rw [Nat.mul_mod_mod, hm, Nat.mod_eq_of_lt hn]⟩⟩
  · simp [h, Nat.Coprime]

/-- Inverses are unique modulo `N`. -/
theorem modInverse_unique {s a ai n : Nat} (h : modInverse s n = some ai) (ha : s * a ≡ 1 [MOD n]) :
    a ≡ ai [MOD n] :=
  calc a = a * 1 := (Nat.mul_one a).symm
    _ ≡ a * (s * ai) [MOD n] := Nat.ModEq.mul_left _ (modInverse_spec h).symm
    _ = s * a * ai := by ring
    _ ≡ 1 * ai [MOD n] := Nat.ModEq.mul_right _ ha
    _ = ai := Nat.one_mul ai

/-- A disclosed secret times the next quotient is the next secret. -/
theorem quotient_recovers {s₀ s₁ ai n : Nat} (h : modInverse s₀ n = some ai) :
    s₀ * setBytes (toBytes (s₁ * ai % n)) % n = s₁ % n :=
  calc s₀ * setBytes (toBytes (s₁ * ai % n)) % n = s₁ * (s₀ * ai % n) % n := by
        rw [setBytes_toBytes, Nat.mul_mod_mod, Nat.mul_mod_mod, Nat.mul_left_comm]
    _ = s₁ % n := by rw [modInverse_spec h, Nat.mul_mod_mod, Nat.mul_one]

/-- The quotient carries one puzzle to the next: `z_(i-1) · q_i^e ≡ z_i (mod N)`. -/
theorem puzzle_link {x y ai n : Nat} (h : modInverse x n = some ai) (e : Nat) :
    x ^ e % n * ((y * ai % n) ^ e % n) % n = y ^ e % n :=
  calc x ^ e % n * ((y * ai % n) ^ e % n) ≡ x ^ e * (y * ai) ^ e [MOD n] :=
        (Nat.mod_modEq _ _).mul ((Nat.mod_modEq _ _).trans ((Nat.mod_modEq _ _).pow e))
    _ = (x * ai) ^ e * y ^ e := by ring
    _ ≡ 1 ^ e * y ^ e [MOD n] := (Nat.ModEq.pow e (show x * ai ≡ 1 [MOD n] from modInverse_spec h)).mul_right _
    _ = y ^ e := by rw [one_pow, one_mul]

/-! ## The chain -/

theorem forall_getElem?_cons {α : Type} {P : Nat → α → Prop} {a : α} {l : List α} :
    (∀ j x, (a :: l)[j]? = some x → P j x) ↔ P 0 a ∧ ∀ j x, l[j]? = some x → P (j + 1) x :=
  ⟨fun h => ⟨h 0 a (by simp), fun j x hx => h (j + 1) x (by simpa using hx)⟩, fun ⟨h0, h⟩ j x hx => by
    cases j with
    | zero =>
      simp only [List.getElem?_cons_zero, Option.some.injEq] at hx
      exact hx ▸ h0
    | succ j => exact h j x (by simpa using hx)⟩

/-- The loop of `Quotients` finds every inverse it needs exactly when every secret but the last is coprime to `N`. -/
theorem quotientChain_ok_iff (pk : PuzzlePubKey) (hn : 1 < pk.n) : ∀ (prev : Bytes) (rest : List Bytes),
    (∃ qs, quotientChain pk prev rest = .ok qs) ↔ ∀ x ∈ (prev :: rest).dropLast, Nat.Coprime (setBytes x) pk.n
  | prev, [] => by simp [quotientChain]
  | prev, s :: rest => by
    rw [List.dropLast_cons₂, List.forall_mem_cons, ← quotientChain_ok_iff pk hn s rest, ← modInverse_isSome hn]
    cases h : modInverse (setBytes prev) pk.n with
    | none => simp [quotientChain, h]
    | some ai => cases hq : quotientChain pk s rest <;> simp [quotientChain, h, hq]

/-- The quotients of the chain: `q_i = s_i · a mod N` for the inverse `a` that `modInverse` finds of `s_(i-1)`. -/
theorem quotientChain_get {pk : PuzzlePubKey} : ∀ {prev : Bytes} {rest qs : List Bytes},
    quotientChain pk prev rest = .ok qs →
    qs.length = rest.length ∧ ∀ (i : Nat) x s, (prev :: rest)[i]? = some x → rest[i]? = some s →
      ∃ ai, modInverse (setBytes x) pk.n = some ai ∧ qs[i]? = some (toBytes (setBytes s * ai % pk.n))
  | prev, [], qs, h => by cases h; simp
  | prev, s :: rest, qs, h => by
    unfold quotientChain at h
    split at h
    · cases h
    · rename_i ai hai
      obtain ⟨qs', hq, hb⟩ := Except.bind_eq_ok.1 h
      cases hb
      have ih := quotientChain_get hq
      refine ⟨by simp [ih.1], fun i x s' hx hs => ?_⟩
      cases i with
      | zero =>
        simp only [List.getElem?_cons_zero, Option.some.injEq] at hx hs
        subst hx hs
        exact ⟨ai, hai, by simp⟩
      | succ i => simpa using ih.2 i x s' (by simpa using hx) (by simpa using hs)

/-! ## The verifiers -/

/-- The loop of `VerifyQuotientsWithSecrets` accepts exactly when, for every quotient it reads, the secret at its
position is the running product. -/
theorem verifyProducts_true_iff (pk : PuzzlePubKey) (ss : List Bytes) : ∀ (i prod : Nat) (qs : List Bytes),
    verifyProducts pk ss i prod qs = .ok true ↔
      ∀ j q, qs[j]? = some q → ss[i + j]? = some (toBytes (prod * ((qs.take (j + 1)).map setBytes).prod % pk.n))
  | _, _, [] => by simp [verifyProducts]
  | i, prod, q :: qs => by
    have ih := verifyProducts_true_iff pk ss (i + 1) (prod * setBytes q % pk.n) qs
    simp only [Nat.mod_mul_mod, Nat.mul_assoc, Nat.add_right_comm i 1] at ih
    rw [forall_getElem?_cons]
    cases hs : ss[i]? with
    | none => simp [verifyProducts, goIndex, hs]
    | some s =>
      by_cases hq : s = toBytes (prod * setBytes q % pk.n)
      · simp [verifyProducts, goIndex, hs, hq, ih, Nat.add_assoc]
      · simp [verifyProducts, goIndex, hs, hq, pure, Except.pure]

/-- The loop of `VerifyQuotients` from `i ≥ 1` accepts exactly when, for every quotient it reads, the puzzle at its
position and the one before are linked by it. -/
theorem verifyChain_true_iff (pk : PuzzlePubKey) (zs : List Bytes) : ∀ (i : Nat) (qs : List Bytes), 0 < i →
    (verifyChain pk zs i qs = .ok true ↔ ∀ j q, qs[j]? = some q →
      ∃ z, zs[i + j - 1]? = some z ∧ zs[i + j]? = some (toBytes (setBytes z * (setBytes q ^ pk.e % pk.n) % pk.n)))
  | _, [], _ => by simp [verifyChain]
  | i, q :: qs, hi => by
    have ih := verifyChain_true_iff pk zs (i + 1) qs (by omega)
    simp only [Nat.add_right_comm i 1] at ih
    rw [forall_getElem?_cons]
    cases hp : zs[i - 1]? with
    | none => simp [verifyChain, goIndex, hp]
    | some z =>
      cases hc : zs[i]? with
      | none => simp [verifyChain, goIndex, hp, hc]
      | some c =>
        by_cases hq : c = toBytes (setBytes z * setBytes q ^ pk.e % pk.n)
        · simp [verifyChain, goIndex, hp, hc, hq, ih, Nat.add_assoc]
        · simp [verifyChain, goIndex, hp, hc, hq, pure, Except.pure]

/-- `VerifyQuotientsWithSecrets` accepts exactly when `secrets[0]` exists and, for every quotient, the secret at its
position is `secrets[0] · q_0 ⋯ q_j mod N`. -/
theorem verifyQuotientsWithSecrets_true_iff (pk : PuzzlePubKey) (qs ss : List Bytes) :
    verifyQuotientsWithSecrets pk qs ss = .ok true ↔ ∃ s0, ss[0]? = some s0 ∧
      ∀ j q, qs[j]? = some q → ss[j]? = some (toBytes (setBytes s0 * ((qs.take (j + 1)).map setBytes).prod % pk.n)) := by
  cases ss with
  | nil => simp [verifyQuotientsWithSecrets, goIndex]
  | cons s0 ss => simp [verifyQuotientsWithSecrets, goIndex, verifyProducts_true_iff]

/-- `VerifyQuotients` accepts exactly when, for every quotient `q_(j+1)` after the first, the puzzles `j` and `j + 1`
exist and are linked by it. -/
theorem verifyQuotients_true_iff (pk : PuzzlePubKey) (qs zs : List Bytes) :
    verifyQuotients pk qs zs = .ok true ↔ ∀ j q, qs[j + 1]? = some q →
      ∃ z, zs[j]? = some z ∧ zs[j + 1]? = some (toBytes (setBytes z * (setBytes q ^ pk.e % pk.n) % pk.n)) := by
  simp [verifyQuotients, verifyChain_true_iff pk zs 1 _ Nat.one_pos, Nat.add_comm 1]

/-- Run past the end of the secrets, the products loop rejects before it or panics reading `secrets[len(secrets)]`. -/
theorem verifyProducts_short (pk : PuzzlePubKey) (ss : List Bytes) : ∀ (i prod : Nat) (qs : List Bytes), qs ≠ [] →
    i ≤ ss.length → ss.length < i + qs.length →
    verifyProducts pk ss i prod qs = .ok false ∨ verifyProducts pk ss i prod qs = .error (indexPanic ss.length ss.length)
  | _, _, [], h, _, _ => absurd rfl h
  | i, prod, q :: qs, _, hi, hlen => by
    rcases Nat.lt_or_ge i ss.length with hlt | hge
    · by_cases hq : ss[i] = toBytes (prod * setBytes q % pk.n)
      · have hne : qs ≠ [] := by rintro rfl; simp only [List.length_cons, List.length_nil] at hlen; omega
        simpa [verifyProducts, goIndex_of_lt hlt, hq] using
          verifyProducts_short pk ss (i + 1) _ qs hne hlt (by simp only [List.length_cons] at hlen; omega)
      · simp [verifyProducts, goIndex_of_lt hlt, hq, pure, Except.pure]
    · obtain rfl : i = ss.length := by omega
      simp [verifyProducts, goIndex_of_le (Nat.le_refl _)]

/-- Run past the end of the puzzles, the chain loop rejects before it or panics reading `puzzles[len(puzzles)]`. -/
theorem verifyChain_short (pk : PuzzlePubKey) (zs : List Bytes) : ∀ (i : Nat) (qs : List Bytes), qs ≠ [] → 0 < i →
    i ≤ zs.length + 1 → zs.length < i + qs.length →
    verifyChain pk zs i qs = .ok false ∨ verifyChain pk zs i qs = .error (indexPanic zs.length zs.length)
  | _, [], h, _, _, _ => absurd rfl h
  | i, q :: qs, _, hi, hle, hlen => by
    rcases Nat.lt_or_ge (i - 1) zs.length with hp | hp
    · rcases Nat.lt_or_ge i zs.length with hc | hc
      · by_cases hq : zs[i] = toBytes (setBytes zs[i - 1] * setBytes q ^ pk.e % pk.n)
        · have hne : qs ≠ [] := by rintro rfl; simp only [List.length_cons, List.length_nil] at hlen; omega
          simpa [verifyChain, goIndex_of_lt hp, goIndex_of_lt hc, hq] using
            verifyChain_short pk zs (i + 1) qs hne (by omega) (by omega) (by simp only [List.length_cons] at hlen; omega)
        · simp [verifyChain, goIndex_of_lt hp, goIndex_of_lt hc, hq, pure, Except.pure]
      · obtain rfl : i = zs.length := by omega
        simp [verifyChain, goIndex_of_lt hp, goIndex_of_le (Nat.le_refl _)]
    · have hp : i - 1 = zs.length := by omega
      right
      simp only [verifyChain, hp, goIndex_of_le (Nat.le_refl _), Except.error_bind]

/-! ## Completeness -/

/-- The products loop accepts the quotients of a chain of secrets below `N`, each read at its position. -/
theorem verifyProducts_chain {pk : PuzzlePubKey} {secrets : List Bytes} :
    ∀ {rest : List Nat} {prev i : Nat} {qs : List Bytes}, quotientChain pk (toBytes prev) (rest.map toBytes) = .ok qs →
      (∀ s ∈ rest, s < pk.n) → (∀ k s, rest[k]? = some s → secrets[i + k]? = some (toBytes s)) →
      verifyProducts pk secrets i prev qs = .ok true
  | [], _, _, qs, h, _, _ => by cases h; rfl
  | s :: rest, prev, i, qs, h, hlt, hsec => by
    simp only [List.map_cons, quotientChain, setBytes_toBytes] at h
    split at h
    · cases h
    · rename_i ai hai
      obtain ⟨qs', hq, hb⟩ := Except.bind_eq_ok.1 h
      cases hb
      have hs : secrets[i]? = some (toBytes s) := hsec 0 s (by simp)
      have hrec : prev * setBytes (toBytes (s * ai % pk.n)) % pk.n = s := by
        rw [quotient_recovers hai, Nat.mod_eq_of_lt (hlt s (List.mem_cons_self _ _))]
      have hnext := verifyProducts_chain hq (fun x hx => hlt x (List.mem_cons_of_mem _ hx)) fun k x hx => by
        rw [show i + 1 + k = i + (k + 1) by omega]
        exact hsec (k + 1) x (by simpa using hx)
      simp only [verifyProducts, hrec, goIndex, hs, Except.ok_bind, constantTimeCompare, beq_self_eq_true, if_true,
        hnext]

theorem quotients_cons_ok {pk : PuzzlePubKey} {s0 : Nat} {rest : List Nat} {qs : List Bytes} :
    quotients pk ((s0 :: rest).map toBytes) = .ok qs ↔
      ∃ qs', quotientChain pk (toBytes s0) (rest.map toBytes) = .ok qs' ∧ toBytes 1 :: qs' = qs := by
  cases h : quotientChain pk (toBytes s0) (rest.map toBytes) <;> simp [quotients, h, pure, Except.pure]

/-- `Quotients` succeeds on secrets given by their minimal encodings exactly when every secret but the last is
coprime to `N`. -/
theorem quotients_ok_iff (pk : PuzzlePubKey) (hn : 1 < pk.n) {ss : List Nat} (hne : ss ≠ []) :
    (∃ qs, quotients pk (ss.map toBytes) = .ok qs) ↔ ∀ s ∈ ss.dropLast, Nat.Coprime s pk.n := by
  obtain ⟨s0, rest, rfl⟩ := List.exists_cons_of_ne_nil hne
  simp only [quotients_cons_ok, exists_comm (α := List Bytes), exists_and_left, exists_eq', and_true]
  rw [quotientChain_ok_iff pk hn, ← List.map_cons, ← List.map_dropLast, List.forall_mem_map]
  simp only [setBytes_toBytes]

/-- `VerifyQuotients` accepts the quotients of secrets against their puzzles `s_i^e mod N`. -/
theorem verifyQuotients_quotients {pk : PuzzlePubKey} {ss : List Nat} {qs : List Bytes}
    (h : quotients pk (ss.map toBytes) = .ok qs) :
    verifyQuotients pk qs (ss.map fun s => toBytes (s ^ pk.e % pk.n)) = .ok true := by
  cases ss with
  | nil => cases h
  | cons s0 rest =>
  obtain ⟨qs', hc, rfl⟩ := quotients_cons_ok.1 h
  obtain ⟨hlen, hget⟩ := quotientChain_get hc
  rw [verifyQuotients_true_iff]
  intro j q hqj
  rw [List.getElem?_cons_succ] at hqj
  have hj : j < rest.length := by
    by_contra hj
    rw [List.getElem?_eq_none (by simp [hlen]; omega)] at hqj
    cases hqj
  have hj' : j < (s0 :: rest).length := by simp; omega
  have hx : ((s0 :: rest).map toBytes)[j]? = some (toBytes (s0 :: rest)[j]) := by
    rw [List.getElem?_map, List.getElem?_eq_getElem hj']; rfl
  have hs : (rest.map toBytes)[j]? = some (toBytes rest[j]) := by
    rw [List.getElem?_map, List.getElem?_eq_getElem hj]; rfl
  obtain ⟨ai, hai, hqi⟩ := hget j _ _ hx hs
  rw [hqi] at hqj
  cases hqj
  refine ⟨toBytes ((s0 :: rest)[j] ^ pk.e % pk.n), ?_, ?_⟩
  · show ((s0 :: rest).map fun s => toBytes (s ^ pk.e % pk.n))[j]? = _
    rw [List.getElem?_map, List.getElem?_eq_getElem hj']; rfl
  · rw [List.map_cons, List.getElem?_cons_succ, List.getElem?_map, List.getElem?_eq_getElem hj]
    simp only [setBytes_toBytes] at hai ⊢
    rw [puzzle_link hai]
    rfl

/-- **Completeness of the quotient chain.** Over `N > 1` and a non-empty list of secrets below `N`, each given by
its minimal encoding: `Quotients` succeeds exactly when every secret but the last is coprime to `N`; it then returns
`q_0 = 1` and `q_(i+1) = s_(i+1) · s_i⁻¹ mod N` for every inverse of `s_i`, and both verifiers accept the quotients,
`VerifyQuotientsWithSecrets` against the secrets and `VerifyQuotients` against the puzzles `s_i^e mod N`. -/
theorem quotients_complete (pk : PuzzlePubKey) (hn : 1 < pk.n) (ss : List Nat) (hne : ss ≠ [])
    (hlt : ∀ s ∈ ss, s < pk.n) :
    ((∃ qs, quotients pk (ss.map toBytes) = .ok qs) ↔ ∀ s ∈ ss.dropLast, Nat.Coprime s pk.n) ∧
    ∀ qs, quotients pk (ss.map toBytes) = .ok qs →
      qs.length = ss.length ∧ qs[0]? = some (toBytes 1) ∧
      (∀ i s s' a, ss[i]? = some s → ss[i + 1]? = some s' → s * a ≡ 1 [MOD pk.n] →
        qs[i + 1]? = some (toBytes (s' * a % pk.n))) ∧
      verifyQuotientsWithSecrets pk qs (ss.map toBytes) = .ok true ∧
      verifyQuotients pk qs (ss.map fun s => toBytes (s ^ pk.e % pk.n)) = .ok true := by
  refine ⟨quotients_ok_iff pk hn hne, fun qs h => ?_⟩
  obtain ⟨s0, rest, rfl⟩ := List.exists_cons_of_ne_nil hne
  have hver := verifyQuotients_quotients h
  obtain ⟨qs', hc, rfl⟩ := quotients_cons_ok.1 h
  obtain ⟨hlen, hget⟩ := quotientChain_get hc
  refine ⟨by simp [hlen], by simp, fun i s s' a hs hs' ha => ?_, ?_, hver⟩
  · obtain ⟨ai, hai, hqi⟩ := hget i (toBytes s) (toBytes s')
      (show ((s0 :: rest).map toBytes)[i]? = _ by rw [List.getElem?_map, hs]; rfl)
      (by rw [List.getElem?_map, ← List.getElem?_cons_succ (a := s0), hs']; rfl)
    simp only [setBytes_toBytes] at hai hqi
    rw [List.getElem?_cons_succ, hqi, (Nat.ModEq.mul_left s' (modInverse_unique hai ha) : s' * a % pk.n = s' * ai % pk.n)]
  · have hs0 : s0 % pk.n = s0 := Nat.mod_eq_of_lt (hlt s0 (List.mem_cons_self _ _))
    have hnext := @verifyProducts_chain pk ((s0 :: rest).map toBytes) _ _ 1 _ hc
      (fun x hx => hlt x (List.mem_cons_of_mem _ hx)) fun k x hx => by simp [Nat.add_comm 1, hx]
    simp only [verifyQuotientsWithSecrets, verifyProducts, List.map_cons, goIndex, List.getElem?_cons_zero,
      Except.ok_bind, setBytes_toBytes, Nat.mul_one, hs0, constantTimeCompare, beq_self_eq_true, if_true, Nat.zero_add]
    exact hnext

theorem quotients_complete_fifteen :
    ((∃ qs, quotients ⟨3, 15⟩ ([2, 4].map toBytes) = .ok qs) ↔ ∀ s ∈ [2, 4].dropLast, Nat.Coprime s 15) ∧
    ∀ qs, quotients ⟨3, 15⟩ ([2, 4].map toBytes) = .ok qs →
      qs.length = 2 ∧ qs[0]? = some (toBytes 1) ∧
      (∀ i s s' a, [2, 4][i]? = some s → [2, 4][i + 1]? = some s' → s * a ≡ 1 [MOD 15] →
        qs[i + 1]? = some (toBytes (s' * a % 15))) ∧
      verifyQuotientsWithSecrets ⟨3, 15⟩ qs ([2, 4].map toBytes) = .ok true ∧
      verifyQuotients ⟨3, 15⟩ qs ([2, 4].map fun s => toBytes (s ^ 3 % 15)) = .ok true :=
  quotients_complete ⟨3, 15⟩ (by decide) [2, 4] (by decide) (by decide)

end Tumblebit
