import Tumblebit.Basic

/-!
# Shuffling with an inverse map (`shuffle/shuffle.go`)

`Shuffle` runs a Fisher–Yates shuffle over `n` positions and calls back `swap(i, j)` for each exchange, so that the
caller permutes its own slice. Alongside, it keeps `idx` (the original index of the element now at each position)
and returns `perm`, read back with `ShuffleMap.Get`: the final position of each original index. The random reader is
the list of little-endian 32-bit words it yields; a draw that would read past the end returns `none`, so a run that
returns is a run on a prefix of the reader's stream, whatever comes after.

- `uniformRandom31` returns a value below `n` (`uniformRandom31_lt`), and a reader of all-ones words never runs out
  (`shuffle_maxWords`); with the swapping callback it makes `Shuffle` the identity (`shuffle_maxWords_id`);
- the loop keeps `ShuffleInv`: `idx` is a bijection of `[0, n)`, and `perm` inverts it at the final positions and is
  still zero at the others (`ShuffleInv.step`). At the end `perm` inverts `idx` everywhere, also at position `0`,
  whose entry the loop never writes (`ShuffleInv.perm_idx`);
- a callback's final state is the fold of the calls a recording callback receives (`shuffleLoop_swaps`);
- **`shuffle_inverse_map`**: every call is `swap(i, j)` with `j ≤ i < n`, `Get` is a bijection of `[0, n)`, and the
  element first at `k` ends at `Get(k)`.
-/

namespace Tumblebit

/-! ## The model -/

/-- `s[i], s[j] = s[j], s[i]` on a slice. An index out of range leaves the slice as it is; `Shuffle` never passes one. -/
def swapAt {α : Type} (l : List α) (i j : Nat) : List α :=
  match l[i]?, l[j]? with
  | some x, some y => (l.set i y).set j x
  | _, _ => l

/-- The rejection loop of `uniformRandom31`: while the low word of `prod` is below `thresh`, read a word `v` and take
`prod = v * n`. -/
def rejectLoop (n thresh prod : Nat) : List UInt32 → Option (Nat × List UInt32)
  | [] => if prod % 2 ^ 32 < thresh then none else some (prod / 2 ^ 32, [])
  | v :: ws => if prod % 2 ^ 32 < thresh then rejectLoop n thresh (v.toNat * n) ws else some (prod / 2 ^ 32, v :: ws)

/-- `uniformRandom31`: the high word of `v * n` for a word `v`, drawn again while the low word is below
`uint32(-n) % uint32(n) = (2^32 - n) % n`. -/
def uniformRandom31 (n : Nat) : List UInt32 → Option (Nat × List UInt32)
  | [] => none
  | v :: ws =>
    let prod := v.toNat * n
    if prod % 2 ^ 32 < n then rejectLoop n ((2 ^ 32 - n) % n) prod ws else some (prod / 2 ^ 32, ws)

/-- `ShuffleMap`: the permutation map. -/
structure ShuffleMap where
  perm : List Nat
  deriving DecidableEq, Repr

/-- `ShuffleMap.Get`: `perm[index]`. -/
def ShuffleMap.get (s : ShuffleMap) (index : Nat) : Except Fault Nat := goIndex s.perm index

/-- The loop of `Shuffle` for the counter `i` down to `1`: draw `j ≤ i`, call `swap(i, j)`, swap `idx[i]` and
`idx[j]`, and record `perm[idx[i]] = i`. The counter here is one less than Go's. -/
def shuffleLoop {σ : Type} (swap : Nat → Nat → σ → σ) :
    Nat → List Nat → List Nat → σ → List UInt32 → Option (List Nat × σ × List UInt32)
  | 0, _, perm, a, ws => some (perm, a, ws)
  | i + 1, idx, perm, a, ws =>
    match uniformRandom31 (i + 2) ws with
    | none => none
    | some (j, ws) =>
      let a := swap (i + 1) j a
      let idx := swapAt idx (i + 1) j
      shuffleLoop swap i idx (perm.set (idx.getD (i + 1) 0) (i + 1)) a ws

/-- `Shuffle(random, n, swap)` on `n ≥ 0`, with the callback's state `a`: panics above `2^31 - 2`, and otherwise
runs the loop from `n - 1` with `idx = [0, …, n-1]` and `perm` all zero. -/
def shuffle {σ : Type} (swap : Nat → Nat → σ → σ) (n : Nat) (a : σ) (ws : List UInt32) :
    Except Fault (Option (ShuffleMap × σ × List UInt32)) :=
  if 2 ^ 31 - 2 < n then .error (.panic "invalid argument to Shuffle")
  else .ok ((shuffleLoop swap (n - 1) (List.range n) (List.replicate n 0) a ws).map fun r => (⟨r.1⟩, r.2))

theorem shuffle_ok {σ : Type} {swap : Nat → Nat → σ → σ} {n : Nat} {a : σ} {ws : List UInt32} {m : ShuffleMap}
    {a' : σ} {ws' : List UInt32} (h : shuffle swap n a ws = .ok (some (m, a', ws'))) :
    shuffleLoop swap (n - 1) (List.range n) (List.replicate n 0) a ws = some (m.perm, a', ws') := by
  unfold shuffle at h
  split at h
  · cases h
  · obtain ⟨⟨perm, b, ws''⟩, hr, he⟩ := Option.map_eq_some'.1 (Except.ok.inj h)
    simp only [Prod.mk.injEq] at he
    obtain ⟨rfl, rfl, rfl⟩ := he
    exact hr

/-! ## Draws -/

theorem rejectLoop_lt {n thresh : Nat} : ∀ {prod : Nat} {ws : List UInt32} {j : Nat} {ws' : List UInt32},
    rejectLoop n thresh prod ws = some (j, ws') → prod < 2 ^ 32 * n → j < n
  | prod, [], j, ws', h, hp => by
    unfold rejectLoop at h
    split at h
    · cases h
    · cases h
      exact Nat.div_lt_of_lt_mul hp
  | prod, v :: ws, j, ws', h, hp => by
    unfold rejectLoop at h
    split at h
    · exact rejectLoop_lt h (Nat.mul_lt_mul_of_pos_right v.toNat_lt_size (by omega))
    · cases h
      exact Nat.div_lt_of_lt_mul hp

/-- A draw is below its bound. -/
theorem uniformRandom31_lt {n : Nat} {ws ws' : List UInt32} {j : Nat} (h : uniformRandom31 n ws = some (j, ws'))
    (hn : 0 < n) : j < n := by
  cases ws with
  | nil => cases h
  | cons v ws =>
    have hp : v.toNat * n < 2 ^ 32 * n := Nat.mul_lt_mul_of_pos_right v.toNat_lt_size hn
    simp only [uniformRandom31] at h
    split at h
    · exact rejectLoop_lt h hp
    · cases h
      exact Nat.div_lt_of_lt_mul hp

/-- The all-ones word is accepted at once below `2^31`: `(2^32 - 1) n` has the low word `2^32 - n ≥ n` and the
high word `n - 1`. -/
theorem uniformRandom31_maxWord {n : Nat} (hn : 0 < n) (h : n ≤ 2 ^ 31) (ws : List UInt32) :
    uniformRandom31 n (4294967295 :: ws) = some (n - 1, ws) := by
  have hlo : 4294967295 * n % 2 ^ 32 = 2 ^ 32 - n := by omega
  have hhi : 4294967295 * n / 2 ^ 32 = n - 1 := by omega
  simp only [uniformRandom31]
  rw [show (4294967295 : UInt32).toNat = 4294967295 from rfl, if_neg (by omega), hhi]

/-- A loop that reads the all-ones word at every draw does not run out of words. -/
theorem shuffleLoop_maxWords {σ : Type} (swap : Nat → Nat → σ → σ) (ws : List UInt32) :
    ∀ (i : Nat) (idx perm : List Nat) (a : σ), i + 1 ≤ 2 ^ 31 →
      (shuffleLoop swap i idx perm a (List.replicate i 4294967295 ++ ws)).isSome
  | 0, _, _, _, _ => rfl
  | i + 1, idx, perm, a, h => by
    rw [List.replicate_succ, List.cons_append, shuffleLoop, uniformRandom31_maxWord (by omega : 0 < i + 2) (by omega)]
    exact shuffleLoop_maxWords swap ws i _ _ _ (by omega)

/-- `Shuffle` of `n` elements returns when its words begin with `n - 1` all-ones words. -/
theorem shuffle_maxWords {σ : Type} (swap : Nat → Nat → σ → σ) {n : Nat} (hn : n ≤ 2 ^ 31 - 2) (a : σ)
    (ws : List UInt32) : ∃ r, shuffle swap n a (List.replicate (n - 1) 4294967295 ++ ws) = .ok (some r) := by
  obtain ⟨r, hr⟩ := Option.isSome_iff_exists.1 (shuffleLoop_maxWords swap ws (n - 1) (List.range n)
    (List.replicate n 0) a (by omega))
  exact ⟨(⟨r.1⟩, r.2), by rw [shuffle, if_neg (by omega), hr]; rfl⟩

/-! ## Swaps -/

/-- The transposition of `i` and `j`. -/
def swapIdx (i j p : Nat) : Nat := if p = i then j else if p = j then i else p

theorem swapIdx_swapIdx (i j p : Nat) : swapIdx i j (swapIdx i j p) = p := by
  unfold swapIdx; split_ifs <;> omega

theorem swapIdx_left (i j : Nat) : swapIdx i j i = j := if_pos rfl

theorem swapIdx_of_ne {i j p : Nat} (hi : p ≠ i) (hj : p ≠ j) : swapIdx i j p = p := by
  simp [swapIdx, hi, hj]

theorem swapIdx_le {i j p : Nat} (hj : j ≤ i) (hp : p ≤ i) : swapIdx i j p ≤ i := by
  unfold swapIdx; split_ifs <;> omega

theorem length_swapAt {α : Type} (l : List α) (i j : Nat) : (swapAt l i j).length = l.length := by
  unfold swapAt; split <;> simp

/-- Swapping reads the slice through the transposition. -/
theorem getElem?_swapAt {α : Type} {l : List α} {i j : Nat} (hi : i < l.length) (hj : j < l.length) (p : Nat) :
    (swapAt l i j)[p]? = l[swapIdx i j p]? := by
  simp only [swapAt, List.getElem?_eq_getElem hi, List.getElem?_eq_getElem hj, List.getElem?_set, List.length_set,
    hi, hj, if_true, swapIdx]
  split_ifs <;> subst_vars <;> simp_all [List.getElem?_eq_getElem]

/-- A swap brings in no new element. -/
theorem mem_of_mem_swapAt {α : Type} {l : List α} {i j : Nat} {y : α} (h : y ∈ swapAt l i j) : y ∈ l := by
  unfold swapAt at h
  split at h
  · rename_i x z hx hz
    rcases List.mem_or_eq_of_mem_set h with h | rfl
    · rcases List.mem_or_eq_of_mem_set h with h | rfl
      exacts [h, List.mem_iff_getElem?.2 ⟨_, hz⟩]
    · exact List.mem_iff_getElem?.2 ⟨_, hx⟩
  · exact h

/-- The invariant of the loop of `Shuffle` with counter `i` (the positions above `i` are final): `idx` is a bijection
of `[0, n)`, and `perm` maps the original index of each final position to that position and is still zero at the
original index of every other position. -/
structure ShuffleInv (n i : Nat) (idx perm : List Nat) : Prop where
  idx_length : idx.length = n
  perm_length : perm.length = n
  lt : ∀ p x : Nat, idx[p]? = some x → x < n
  inj : ∀ p q x : Nat, idx[p]? = some x → idx[q]? = some x → p = q
  surj : ∀ x < n, ∃ p : Nat, idx[p]? = some x
  final : ∀ p x : Nat, i < p → idx[p]? = some x → perm[x]? = some p
  fresh : ∀ p x : Nat, p ≤ i → idx[p]? = some x → perm[x]? = some 0

theorem exists_getElem?_of_lt {α : Type} {l : List α} {i : Nat} (h : i < l.length) : ∃ x, l[i]? = some x :=
  ⟨l[i], List.getElem?_eq_getElem h⟩

theorem getElem?_range_eq_some {n p x : Nat} : (List.range n)[p]? = some x ↔ p < n ∧ x = p := by
  by_cases hp : p < n
  · simp [List.getElem?_range hp, hp, eq_comm]
  · simp [List.getElem?_eq_none (show (List.range n).length ≤ p by simp; omega), hp]

/-- The invariant holds when the loop starts. -/
theorem ShuffleInv.init (n : Nat) : ShuffleInv n (n - 1) (List.range n) (List.replicate n 0) where
  idx_length := List.length_range n
  perm_length := List.length_replicate n 0
  lt p x h := by obtain ⟨hp, rfl⟩ := getElem?_range_eq_some.1 h; exact hp
  inj p q x hp hq := by
    obtain ⟨-, rfl⟩ := getElem?_range_eq_some.1 hp
    exact (getElem?_range_eq_some.1 hq).2
  surj x hx := ⟨x, getElem?_range_eq_some.2 ⟨hx, rfl⟩⟩
  final p x hi h := by have := (getElem?_range_eq_some.1 h).1; omega
  fresh p x _ h := by
    obtain ⟨hp, rfl⟩ := getElem?_range_eq_some.1 h
    exact List.getElem?_replicate_of_lt hp

/-- One step of the loop, at position `i + 1` with the draw `j ≤ i + 1`, makes position `i + 1` final. -/
theorem ShuffleInv.step {n i j : Nat} {idx perm : List Nat} (h : ShuffleInv n (i + 1) idx perm) (hj : j ≤ i + 1)
    (hi : i + 1 < n) :
    ShuffleInv n i (swapAt idx (i + 1) j) (perm.set ((swapAt idx (i + 1) j).getD (i + 1) 0) (i + 1)) := by
  have hlen := h.idx_length
  have hs := getElem?_swapAt (l := idx) (by omega : i + 1 < idx.length) (by omega : j < idx.length)
  obtain ⟨y, hy⟩ := exists_getElem?_of_lt (l := idx) (i := j) (by omega)
  have hlast : (swapAt idx (i + 1) j)[i + 1]? = some y := by rw [hs, swapIdx_left, hy]
  have hget : (swapAt idx (i + 1) j).getD (i + 1) 0 = y := by simp [hlast]
  have hy_lt : y < perm.length := h.perm_length ▸ h.lt j y hy
  have inj : ∀ p q x, (swapAt idx (i + 1) j)[p]? = some x → (swapAt idx (i + 1) j)[q]? = some x → p = q :=
    fun p q x hp hq => by
      rw [hs] at hp hq
      simpa only [swapIdx_swapIdx] using congrArg (swapIdx (i + 1) j) (h.inj _ _ x hp hq)
  refine ⟨by rw [length_swapAt, h.idx_length], by rw [List.length_set, h.perm_length],
    fun p x hx => h.lt _ x (by rwa [hs] at hx), inj, fun x hx => ?_, fun p x hp hx => ?_, fun p x hp hx => ?_⟩
  · obtain ⟨p, hp⟩ := h.surj x hx
    exact ⟨swapIdx (i + 1) j p, by rw [hs, swapIdx_swapIdx, hp]⟩
  · rw [List.getElem?_set, hget]
    by_cases hpi : p = i + 1
    · subst hpi
      rw [hlast] at hx
      cases hx
      simp [hy_lt]
    · have hxy : y ≠ x := fun hxy => hpi (inj _ _ x hx (hxy ▸ hlast))
      rw [hs, swapIdx_of_ne hpi (by omega)] at hx
      rw [if_neg hxy]
      exact h.final p x (by omega) hx
  · have hxy : y ≠ x := fun hxy => by have := inj _ _ x hx (hxy ▸ hlast); omega
    rw [List.getElem?_set, hget, if_neg hxy]
    rw [hs] at hx
    exact h.fresh _ x (swapIdx_le (by omega) (by omega)) hx

/-- When the loop ends, `perm` inverts `idx` at every position, position `0` included. -/
theorem ShuffleInv.perm_idx {n : Nat} {idx perm : List Nat} (h : ShuffleInv n 0 idx perm) {p x : Nat}
    (hx : idx[p]? = some x) : perm[x]? = some p := by
  rcases Nat.eq_zero_or_pos p with rfl | hp
  · exact h.fresh 0 x le_rfl hx
  · exact h.final p x hp hx

/-- When the loop ends, `perm` is a bijection of `[0, n)`. -/
theorem ShuffleInv.bijective {n : Nat} {idx perm : List Nat} (h : ShuffleInv n 0 idx perm) :
    (∀ k < n, ∃ v < n, perm[k]? = some v) ∧ (∀ k k' v, perm[k]? = some v → perm[k']? = some v → k < n → k' < n → k = k') ∧
      ∀ v < n, ∃ k < n, perm[k]? = some v := by
  have hpos : ∀ k < n, ∃ p < n, idx[p]? = some k ∧ perm[k]? = some p := fun k hk => by
    obtain ⟨p, hp⟩ := h.surj k hk
    have : p < idx.length := (List.getElem?_eq_some_iff.1 hp).1
    exact ⟨p, h.idx_length ▸ this, hp, h.perm_idx hp⟩
  refine ⟨fun k hk => ?_, fun k k' v hv hv' hk hk' => ?_, fun v hv => ?_⟩
  · obtain ⟨p, hp, -, hperm⟩ := hpos k hk
    exact ⟨p, hp, hperm⟩
  · obtain ⟨p, -, hidx, hperm⟩ := hpos k hk
    obtain ⟨p', -, hidx', hperm'⟩ := hpos k' hk'
    rw [hv] at hperm
    rw [hv'] at hperm'
    cases hperm
    cases hperm'
    rw [hidx] at hidx'
    exact Option.some.inj hidx'
  · obtain ⟨x, hx⟩ := exists_getElem?_of_lt (l := idx) (i := v) (by rw [h.idx_length]; exact hv)
    exact ⟨x, h.lt v x hx, h.perm_idx hx⟩

/-! ## Runs -/

/-- The loop keeps `ShuffleInv`, and with it any invariant `R` of `idx` and the callback's state that every call
`swap(i, j)` with `j ≤ i < n` keeps. -/
theorem shuffleLoop_inv {σ : Type} {swap : Nat → Nat → σ → σ} {n : Nat} (R : List Nat → σ → Prop)
    (hR : ∀ i j idx a, j ≤ i → i < n → idx.length = n → R idx a → R (swapAt idx i j) (swap i j a)) :
    ∀ {i : Nat} {idx perm : List Nat} {a : σ} {ws : List UInt32} {perm' : List Nat} {a' : σ} {ws' : List UInt32},
      shuffleLoop swap i idx perm a ws = some (perm', a', ws') → (i < n ∨ i = 0) → ShuffleInv n i idx perm →
      R idx a → ∃ idx', ShuffleInv n 0 idx' perm' ∧ R idx' a'
  | 0, idx, _, _, _, _, _, _, h, _, hI, hr => by
    cases h
    exact ⟨idx, hI, hr⟩
  | i + 1, idx, perm, a, ws, perm', a', ws', h, hi, hI, hr => by
    simp only [shuffleLoop] at h
    split at h
    · cases h
    · rename_i j ws₁ hj
      have hjlt := uniformRandom31_lt hj (by omega)
      have hn : i + 1 < n := by omega
      exact shuffleLoop_inv R hR h (.inl (by omega)) (hI.step (by omega) hn)
        (hR _ _ _ _ (by omega) hn hI.idx_length hr)

/-- The callback that records its calls. -/
def recordSwap (i j : Nat) (calls : List (Nat × Nat)) : List (Nat × Nat) := calls ++ [(i, j)]

theorem shuffleLoop_record_append : ∀ (i : Nat) (idx perm : List Nat) (calls : List (Nat × Nat)) (ws : List UInt32),
    shuffleLoop recordSwap i idx perm calls ws =
      (shuffleLoop recordSwap i idx perm [] ws).map fun r => (r.1, calls ++ r.2.1, r.2.2)
  | 0, _, _, _, _ => by simp [shuffleLoop]
  | i + 1, idx, perm, calls, ws => by
    simp only [shuffleLoop]
    split
    · rfl
    · rw [shuffleLoop_record_append i _ _ (recordSwap _ _ calls), shuffleLoop_record_append i _ _ (recordSwap _ _ [])]
      simp [recordSwap, Option.map_map, Function.comp_def]

/-- What a callback ends with is the fold of the calls the recording callback receives on the same words. -/
theorem shuffleLoop_swaps {σ : Type} (swap : Nat → Nat → σ → σ) : ∀ (i : Nat) (idx perm : List Nat) (a : σ)
    (ws : List UInt32), shuffleLoop swap i idx perm a ws = (shuffleLoop recordSwap i idx perm [] ws).map
      fun r => (r.1, r.2.1.foldl (fun a c => swap c.1 c.2 a) a, r.2.2)
  | 0, _, _, _, _ => by simp [shuffleLoop]
  | i + 1, idx, perm, a, ws => by
    simp only [shuffleLoop]
    split
    · rfl
    · rw [shuffleLoop_swaps swap i, shuffleLoop_record_append i _ _ (recordSwap _ _ [])]
      simp [recordSwap, Option.map_map, Function.comp_def]

/-- With a callback that swaps two elements of a slice of length `n`, the slice keeps its length and the element
first at `k` ends at `Get(k)`, a position below `n`. -/
theorem shuffle_swapAt_get {α : Type} {n : Nat} {ws : List UInt32} {a : List α} {m : ShuffleMap} {a' : List α}
    {ws' : List UInt32} (ha : a.length = n) (h : shuffle (fun i j a => swapAt a i j) n a ws = .ok (some (m, a', ws'))) :
    a'.length = n ∧ ∀ k < n, ∃ v < n, m.get k = .ok v ∧ a'[v]? = a[k]? := by
  obtain ⟨idx, hI, hlen, hc⟩ := shuffleLoop_inv
    (fun (idx : List Nat) (b : List α) => b.length = n ∧ ∀ p x : Nat, idx[p]? = some x → b[p]? = a[x]?)
    (fun i j idx b hj hi hlen ⟨hb, hc⟩ => ⟨by rw [length_swapAt, hb], fun p x hx => by
      rw [getElem?_swapAt (by omega) (by omega)] at hx ⊢
      exact hc _ x hx⟩) (shuffle_ok h) (by omega) (ShuffleInv.init n)
    ⟨ha, fun p x hx => by obtain ⟨-, rfl⟩ := getElem?_range_eq_some.1 hx; rfl⟩
  refine ⟨hlen, fun k hk => ?_⟩
  obtain ⟨p, hp⟩ := hI.surj k hk
  have hpn : p < n := hI.idx_length ▸ (List.getElem?_eq_some_iff.1 hp).1
  exact ⟨p, hpn, by simpa [ShuffleMap.get] using hI.perm_idx hp, hc p k hp⟩

/-- With a callback that swaps two elements of a slice, every element the slice ends with was in it at the start. -/
theorem shuffle_swapAt_mem {α : Type} {n : Nat} {ws : List UInt32} {a : List α} {m : ShuffleMap} {a' : List α}
    {ws' : List UInt32} (h : shuffle (fun i j a => swapAt a i j) n a ws = .ok (some (m, a', ws'))) : ∀ y ∈ a', y ∈ a := by
  obtain ⟨_, -, hR⟩ := shuffleLoop_inv (fun _ (b : List α) => ∀ y ∈ b, y ∈ a)
    (fun _ _ _ _ _ _ _ hb y hy => hb y (mem_of_mem_swapAt hy)) (shuffle_ok h) (by omega) (ShuffleInv.init n)
    fun _ hy => hy
  exact hR

/-- **The inverse map of `Shuffle`.** On any words, a run that returns: makes the calls the recording callback
receives, each `swap(i, j)` with `j ≤ i < n`, and leaves any callback at their fold; returns a map whose `Get` is a
bijection of `[0, n)`; and, with a callback that swaps two elements of a slice of length `n`, moves the element first
at `k` to `Get(k)`, also the one the loop leaves at position `0`. -/
theorem shuffle_inverse_map (n : Nat) (ws : List UInt32) :
    (∀ {σ : Type} (swap : Nat → Nat → σ → σ) (a : σ) (m : ShuffleMap) (a' : σ) (ws' : List UInt32),
      shuffle swap n a ws = .ok (some (m, a', ws')) →
      (∃ calls, shuffle recordSwap n [] ws = .ok (some (m, calls, ws')) ∧ (∀ c ∈ calls, c.2 ≤ c.1 ∧ c.1 < n) ∧
        a' = calls.foldl (fun a c => swap c.1 c.2 a) a) ∧
      (∀ k < n, ∃ v < n, m.get k = .ok v) ∧
      (∀ k k' v, k < n → k' < n → m.get k = .ok v → m.get k' = .ok v → k = k') ∧
      ∀ v < n, ∃ k < n, m.get k = .ok v) ∧
    ∀ {α : Type} (a : List α) (m : ShuffleMap) (a' : List α) (ws' : List UInt32), a.length = n →
      shuffle (fun i j a => swapAt a i j) n a ws = .ok (some (m, a', ws')) →
      ∀ k < n, ∃ v, m.get k = .ok v ∧ a'[v]? = a[k]? := by
  have start : n - 1 < n ∨ n - 1 = 0 := by omega
  refine ⟨fun swap a m a' ws' h => ?_, fun a m a' ws' ha h k hk => ?_⟩
  · have hn : ¬ 2 ^ 31 - 2 < n := fun hn => by rw [shuffle, if_pos hn] at h; cases h
    have hloop := shuffle_ok h
    rw [shuffleLoop_swaps] at hloop
    obtain ⟨⟨perm, calls, ws''⟩, hrec, he⟩ := Option.map_eq_some'.1 hloop
    simp only [Prod.mk.injEq] at he
    obtain ⟨rfl, rfl, rfl⟩ := he
    obtain ⟨idx, hI, hcalls⟩ := shuffleLoop_inv (fun _ calls => ∀ c ∈ calls, c.2 ≤ c.1 ∧ c.1 < n)
      (fun i j _ calls hj hi _ hc c hc' => by
        simp only [recordSwap, List.mem_append, List.mem_singleton] at hc'
        rcases hc' with hc' | rfl
        · exact hc c hc'
        · exact ⟨hj, hi⟩) hrec start (ShuffleInv.init n) (by simp)
    obtain ⟨hto, hinj, hsurj⟩ := hI.bijective
    refine ⟨⟨calls, by rw [shuffle, if_neg hn, hrec]; rfl, hcalls, rfl⟩, fun k hk => ?_, fun k k' v hk hk' hv hv' => ?_,
      fun v hv => ?_⟩
    · simpa [ShuffleMap.get] using hto k hk
    · exact hinj k k' v (by simpa [ShuffleMap.get] using hv) (by simpa [ShuffleMap.get] using hv') hk hk'
    · simpa [ShuffleMap.get] using hsurj v hv
  · obtain ⟨v, -, hv⟩ := (shuffle_swapAt_get ha h).2 k hk
    exact ⟨v, hv⟩

end Tumblebit
