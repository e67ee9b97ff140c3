import Tumblebit.Shuffle

/-!
# `Shuffle` is unbiased (`shuffle/shuffle.go`)

Two counting facts make uniform words give a uniform permutation.

- **Lemire's rejection.** For `0 < n ≤ 2^32`, `uniformRandom31 n` skips a word exactly when the low word of `v n` is
  below `2^32 mod n`, the threshold `uint32(-n) % n` it computes (`uniformRandom31_cons_eq`); the fast path on a low
  word of at least `n` is the same test, as the threshold is below `n`. The accepted words of each value `r < n` are
  those with `v n` in `[r 2^32 + 2^32 mod n, (r + 1) 2^32)`, an interval of `⌊2^32 / n⌋` words
  (`card_uniformRandom31`).
- **Fisher–Yates choices.** The draws of a run are a choice sequence `[j_m, …, j_1]` with `j_i ≤ i`, and the
  swapping callback leaves a slice at their `arrange`ment (`shuffle_arrange`); every choice sequence is the draws of a
  run on some words, as every value has a word (`exists_word`, `shuffle_realizes`). On a duplicate-free slice,
  `arrange` maps the choice sequences one to one onto the slice's permutations, the last position fixing the first
  draw (`arrange_injective`, `arrange_surjective`, `arrange_bijOn`).
- **Counting readers.** The loop reads its draws off the words (`loopDraws`, `shuffleLoop_swap_draws`). Among the
  `2^(32 L)` readers of `L` words, every choice sequence of one length is drawn on as many: the first word is
  rejected, or accepted with one value for `⌊2^32 / n⌋` words whatever the value (`drawCount_succ_cons`,
  `drawCount_eq`). So `Shuffle` leaves `[0, n)` at every permutation on as many readers (`card_shuffled_eq`).
-/

namespace Tumblebit

/-! ## Lemire's rejection -/

/-- A product whose low word reaches the threshold is accepted at once. -/
theorem rejectLoop_of_le {n thresh prod : Nat} (h : thresh ≤ prod % 2 ^ 32) (ws : List UInt32) :
    rejectLoop n thresh prod ws = some (prod / 2 ^ 32, ws) := by
  cases ws <;> rw [rejectLoop, if_neg (Nat.not_lt.2 h)]

/-- The threshold `uint32(-n) % n` is `2^32 mod n`. -/
theorem threshold_eq {n : Nat} (hN : n ≤ 2 ^ 32) : (2 ^ 32 - n) % n = 2 ^ 32 % n := by
  conv_rhs => rw [← Nat.sub_add_cancel hN]
  exact (Nat.add_mod_right _ _).symm

section Rejection

variable {n : Nat} (hn : 0 < n) (hN : n ≤ 2 ^ 32)
include hn hN

/-- The fast path of `uniformRandom31` is the first test of the rejection loop: its threshold is below `n`. -/
theorem uniformRandom31_cons (v : UInt32) (ws : List UInt32) :
    uniformRandom31 n (v :: ws) = rejectLoop n (2 ^ 32 % n) (v.toNat * n) ws := by
  have := Nat.mod_lt (2 ^ 32) hn
  rw [uniformRandom31, threshold_eq hN]
  split
  · rfl
  · exact (rejectLoop_of_le (by omega) ws).symm

/-- A rejected product draws again from the next word, as a fresh call would. -/
theorem rejectLoop_of_lt {prod : Nat} (h : prod % 2 ^ 32 < 2 ^ 32 % n) (ws : List UInt32) :
    rejectLoop n (2 ^ 32 % n) prod ws = uniformRandom31 n ws := by
  cases ws with
  | nil => rw [rejectLoop, if_pos h]; rfl
  | cons v ws => rw [rejectLoop, if_pos h, uniformRandom31_cons hn hN]

/-- `uniformRandom31` skips a word exactly when the low word of `v n` is below `2^32 mod n`, and otherwise returns
the high word. -/
theorem uniformRandom31_cons_eq (v : UInt32) (ws : List UInt32) :
    uniformRandom31 n (v :: ws) =
      if v.toNat * n % 2 ^ 32 < 2 ^ 32 % n then uniformRandom31 n ws else some (v.toNat * n / 2 ^ 32, ws) := by
  rw [uniformRandom31_cons hn hN]
  split
  · exact rejectLoop_of_lt hn hN ‹_› ws
  · exact rejectLoop_of_le (Nat.not_lt.1 ‹_›) ws

end Rejection

/-- A word is accepted with the value `r` exactly when `v n` lies in `[r 2^32 + 2^32 mod n, (r + 1) 2^32)`. -/
theorem accepted_iff {n r v : Nat} : (2 ^ 32 % n ≤ v * n % 2 ^ 32 ∧ v * n / 2 ^ 32 = r) ↔
    r * 2 ^ 32 + 2 ^ 32 % n ≤ v * n ∧ v * n < r * 2 ^ 32 + 2 ^ 32 := by
  have := Nat.div_add_mod (v * n) (2 ^ 32)
  have := Nat.mod_lt (v * n) (show 0 < 2 ^ 32 by norm_num)
  omega

/-- `⌈a / n⌉ ≤ v` exactly when `a ≤ v n`. -/
theorem ceil_div_le_iff {a n v : Nat} (hn : 0 < n) : (a + n - 1) / n ≤ v ↔ a ≤ v * n := by
  rw [Nat.div_le_iff_le_mul_add_pred hn, Nat.mul_comm]
  omega

/-- The words accepted with the value `r < n` are the `⌊2^32 / n⌋` words from `⌈(r 2^32 + 2^32 mod n) / n⌉` on. -/
theorem card_accepted {n r : Nat} (hn : 0 < n) (hr : r < n) :
    ((Finset.range (2 ^ 32)).filter fun v => 2 ^ 32 % n ≤ v * n % 2 ^ 32 ∧ v * n / 2 ^ 32 = r).card = 2 ^ 32 / n := by
  have hN : 2 ^ 32 / n * n + 2 ^ 32 % n = 2 ^ 32 := by rw [Nat.mul_comm]; exact Nat.div_add_mod _ _
  have hlast : (r + 1) * 2 ^ 32 ≤ n * 2 ^ 32 := Nat.mul_le_mul_right _ hr
  let a := r * 2 ^ 32 + 2 ^ 32 % n
  have hend : (a + n - 1) / n + 2 ^ 32 / n = (a + 2 ^ 32 / n * n + n - 1) / n := by
    rw [show a + 2 ^ 32 / n * n + n - 1 = a + n - 1 + 2 ^ 32 / n * n by omega, Nat.add_mul_div_right _ _ hn]
  suffices h : ((Finset.range (2 ^ 32)).filter fun v => 2 ^ 32 % n ≤ v * n % 2 ^ 32 ∧ v * n / 2 ^ 32 = r) =
      Finset.Ico ((a + n - 1) / n) ((a + n - 1) / n + 2 ^ 32 / n) by
    rw [h, Nat.card_Ico, Nat.add_sub_cancel_left]
  ext v
  simp only [Finset.mem_filter, Finset.mem_range, Finset.mem_Ico, accepted_iff, hend, ← Nat.not_le,
    ceil_div_le_iff hn]
  constructor
  · rintro ⟨-, h1, h2⟩
    omega
  · rintro ⟨h1, h2⟩
    refine ⟨fun hv => ?_, h1, by omega⟩
    have := Nat.mul_le_mul_right n hv
    omega

/-- Each value below `n` is returned for exactly `⌊2^32 / n⌋` of the `2^32` words. -/
theorem card_uniformRandom31 {n r : Nat} (hn : 0 < n) (hN : n ≤ 2 ^ 32) (hr : r < n) :
    ((Finset.range (2 ^ 32)).filter fun v => uniformRandom31 n [UInt32.ofNat v] = some (r, [])).card =
      2 ^ 32 / n := by
  rw [← card_accepted hn hr]
  refine congrArg Finset.card (Finset.filter_congr fun v hv => ?_)
  rw [uniformRandom31_cons_eq hn hN, UInt32.toNat_ofNat_of_lt (Finset.mem_range.1 hv)]
  by_cases h : v * n % 2 ^ 32 < 2 ^ 32 % n
  · simp only [if_pos h, uniformRandom31, reduceCtorEq, false_iff]
    omega
  · simp only [if_neg h, Option.some.injEq, Prod.mk.injEq, and_true]
    omega

/-! ## Choice sequences and arrangements -/

/-- The choice sequences of `Shuffle` over `m + 1` positions: `[j_m, …, j_1]` with `j_i ≤ i`. The head is the draw for
the position `m`, one more than the length of the rest. -/
def Choices : Nat → List Nat → Prop
  | m, [] => m = 0
  | m, j :: js => m = js.length + 1 ∧ j ≤ m ∧ Choices (m - 1) js

instance Choices.decidable : ∀ (m : Nat) (js : List Nat), Decidable (Choices m js)
  | m, [] => inferInstanceAs (Decidable (m = 0))
  | m, _ :: js => have := Choices.decidable (m - 1) js; inferInstanceAs (Decidable (_ ∧ _ ∧ _))

theorem Choices.length_eq : ∀ {m : Nat} {js : List Nat}, Choices m js → js.length = m
  | _, [], h => (h : _ = 0).symm
  | _, _ :: _, h => h.1.symm

/-- Where the swaps `swap(m, j_m), …, swap(1, j_1)` leave a slice: `Shuffle` with the swapping callback, once its
draws are `[j_m, …, j_1]`. -/
def arrange {α : Type} (l : List α) : List Nat → List α
  | [] => l
  | j :: js => arrange (swapAt l (js.length + 1) j) js

example : arrange (List.range 4) [1, 2, 0] = [3, 0, 2, 1] := rfl

section Arrange

variable {α : Type}

theorem getElem?_swapAt_of_ne {l : List α} {i j p : Nat} (hi : p ≠ i) (hj : p ≠ j) : (swapAt l i j)[p]? = l[p]? := by
  unfold swapAt
  split
  · rw [List.getElem?_set_ne (Ne.symm hj), List.getElem?_set_ne (Ne.symm hi)]
  · rfl

/-- A swap permutes the slice: it takes one copy of each of the two elements out and puts one back. -/
theorem swapAt_perm (l : List α) (i j : Nat) : List.Perm (swapAt l i j) l := by
  classical
  unfold swapAt
  split
  · rename_i x y hx hy
    obtain ⟨hi, rfl⟩ := List.getElem?_eq_some_iff.1 hx
    obtain ⟨hj, rfl⟩ := List.getElem?_eq_some_iff.1 hy
    refine List.perm_iff_count.2 fun b => ?_
    have hj' : j < (l.set i l[j]).length := by rwa [List.length_set]
    rw [List.count_set _ _ _ _ hj', List.count_set _ _ _ _ hi, List.getElem_set, ite_self]
    have := List.boole_getElem_le_count b l i hi
    split_ifs at this ⊢ <;> omega
  · exact List.Perm.refl l

theorem arrange_perm (l : List α) : ∀ js : List Nat, List.Perm (arrange l js) l
  | [] => List.Perm.refl l
  | j :: js => (arrange_perm _ js).trans (swapAt_perm l _ j)

/-- The swaps of a choice sequence for `m` leave every position above `m` as it was. -/
theorem getElem?_arrange_of_lt : ∀ {m : Nat} {l : List α} {js : List Nat}, Choices m js → ∀ {p : Nat}, m < p →
    (arrange l js)[p]? = l[p]?
  | _, _, [], _, _, _ => rfl
  | _, l, j :: js, ⟨hm, hj, hc⟩, p, hp => by
    rw [arrange, getElem?_arrange_of_lt hc (by omega), getElem?_swapAt_of_ne (by omega) (by omega)]

/-- The position `m` ends with the element that the first draw picked. -/
theorem getElem?_arrange_last {m j : Nat} {l : List α} {js : List Nat} (h : Choices m (j :: js))
    (hl : m < l.length) : (arrange l (j :: js))[m]? = l[j]? := by
  obtain ⟨hm, hj, hc⟩ := h
  rw [arrange, getElem?_arrange_of_lt hc (by omega), ← hm, getElem?_swapAt hl (by omega), swapIdx_left]

/-- On a duplicate-free slice, distinct choice sequences give distinct arrangements. -/
theorem arrange_injective : ∀ {l : List α} {m : Nat} {js₁ js₂ : List Nat}, l.Nodup → m < l.length →
    Choices m js₁ → Choices m js₂ → arrange l js₁ = arrange l js₂ → js₁ = js₂
  | _, _, [], [], _, _, _, _, _ => rfl
  | _, _, [], _ :: _, _, _, h₁, h₂, _ => absurd h₂.1 (by rw [(h₁ : _ = 0)]; omega)
  | _, _, _ :: _, [], _, _, h₁, h₂, _ => absurd h₁.1 (by rw [(h₂ : _ = 0)]; omega)
  | l, m, j₁ :: r₁, j₂ :: r₂, hl, hm, h₁, h₂, he => by
    have hj : j₁ = j₂ := List.getElem?_inj (by have := h₁.2.1; omega) hl
      (by rw [← getElem?_arrange_last h₁ hm, ← getElem?_arrange_last h₂ hm, he])
    subst hj
    obtain ⟨hm₁, -, hc₁⟩ := h₁
    obtain ⟨hm₂, -, hc₂⟩ := h₂
    rw [arrange, arrange, ← hm₁, ← hm₂] at he
    rw [arrange_injective ((swapAt_perm l _ _).nodup_iff.2 hl) (by rw [length_swapAt]; omega) hc₁ hc₂ he]

/-- On a duplicate-free slice, every permutation that agrees with the slice above `m` is the arrangement of a choice
sequence for `m`: its entry at `m` picks the first draw. -/
theorem arrange_surjective : ∀ {m : Nat} {l p : List α}, l.Nodup → m < l.length → List.Perm p l →
    (∀ q, m < q → p[q]? = l[q]?) → ∃ js, Choices m js ∧ arrange l js = p
  | 0, l, p, _, hm, hp, hq => by
    refine ⟨[], rfl, ?_⟩
    match l, p, hp with
    | [], _, _ => cases hm
    | _ :: _, [], hp => cases hp.length_eq
    | a :: t, b :: t', hp =>
      have ht : t' = t := List.ext_getElem? fun q => by
        simpa only [List.getElem?_cons_succ] using hq (q + 1) (by omega)
      subst ht
      rw [List.singleton_perm_singleton.1 ((List.perm_append_right_iff t').1 hp)]
      rfl
  | m + 1, l, p, hl, hm, hp, hq => by
    obtain ⟨x, hx⟩ := exists_getElem?_of_lt (l := p) (i := m + 1) (by rw [hp.length_eq]; exact hm)
    obtain ⟨j, hj, hlj⟩ := List.getElem_of_mem (hp.subset (List.mem_iff_getElem?.2 ⟨_, hx⟩))
    have hpn := hp.nodup_iff.2 hl
    have hjm : j ≤ m + 1 := Nat.not_lt.1 fun hjm =>
      absurd (List.getElem?_inj (i := j) (j := m + 1) (by rw [hp.length_eq]; exact hj) hpn
        (by rw [hq j (by omega), List.getElem?_eq_getElem hj, hlj, hx])) (by omega)
    have hagree : ∀ q, m < q → p[q]? = (swapAt l (m + 1) j)[q]? := fun q hq' => by
      rcases Nat.lt_or_eq_of_le (Nat.succ_le_of_lt hq') with hq' | rfl
      · rw [getElem?_swapAt_of_ne (by omega) (by omega), hq q (by omega)]
      · rw [getElem?_swapAt hm (by omega), swapIdx_left, List.getElem?_eq_getElem hj, hlj, hx]
    obtain ⟨js, hc, he⟩ := arrange_surjective (m := m) (l := swapAt l (m + 1) j) ((swapAt_perm l _ _).nodup_iff.2 hl)
      (by rw [length_swapAt]; omega) (hp.trans (swapAt_perm l _ _).symm) hagree
    refine ⟨j :: js, ⟨by rw [hc.length_eq], hjm, hc⟩, ?_⟩
    rw [arrange, hc.length_eq, he]

/-- Arrangement maps the choice sequences for `n` positions one to one onto the permutations of `[0, n)`. -/
theorem arrange_bijOn (n : Nat) :
    Set.BijOn (arrange (List.range n)) {js | Choices (n - 1) js} {p | List.Perm p (List.range n)} := by
  refine ⟨fun js _ => arrange_perm _ js, ?_, fun p hp => ?_⟩
  · cases n with
    | zero =>
      intro js₁ h₁ js₂ h₂ _
      rw [List.eq_nil_of_length_eq_zero h₁.length_eq, List.eq_nil_of_length_eq_zero h₂.length_eq]
    | succ m => exact fun js₁ h₁ js₂ h₂ => arrange_injective (List.nodup_range _) (by simp) h₁ h₂
  · cases n with
    | zero => exact ⟨[], rfl, (List.eq_nil_of_length_eq_zero hp.length_eq).symm⟩
    | succ m =>
      have hlen : p.length = m + 1 := by rw [hp.length_eq, List.length_range]
      exact arrange_surjective (List.nodup_range _) (by simp) hp fun q hq => by
        rw [List.getElem?_eq_none (by omega), List.getElem?_eq_none (by simp; omega)]

end Arrange

/-! ## The draws of `Shuffle` -/

/-- The calls a run records are `swap(i, j_i), …, swap(1, j_1)` for a choice sequence, so the swaps fold to its
arrangement. -/
theorem shuffleLoop_choices : ∀ {i : Nat} {idx perm perm' : List Nat} {ws ws' : List UInt32}
    {calls : List (Nat × Nat)}, shuffleLoop recordSwap i idx perm [] ws = some (perm', calls, ws') →
      Choices i (calls.map Prod.snd) ∧
        ∀ {α : Type} (a : List α), calls.foldl (fun a c => swapAt a c.1 c.2) a = arrange a (calls.map Prod.snd)
  | 0, _, _, _, _, _, _, h => by
    cases h
    exact ⟨rfl, fun _ => rfl⟩
  | i + 1, idx, perm, perm', ws, ws', calls, h => by
    simp only [shuffleLoop] at h
    split at h
    · cases h
    · rename_i j ws₁ hj
      rw [shuffleLoop_record_append] at h
      obtain ⟨⟨perm'', calls', ws''⟩, hr, he⟩ := Option.map_eq_some'.1 h
      simp only [Prod.mk.injEq, recordSwap, List.nil_append, List.singleton_append] at he
      obtain ⟨rfl, rfl, rfl⟩ := he
      obtain ⟨hc, hf⟩ := shuffleLoop_choices hr
      have hl : calls'.length = i := (List.length_map _ _).symm.trans hc.length_eq
      have hj' := uniformRandom31_lt hj (by omega)
      refine ⟨⟨by rw [List.length_map, hl], by omega, hc⟩, fun a => ?_⟩
      rw [List.map_cons, List.foldl_cons, arrange, List.length_map, hl, hf]

/-- A run of `Shuffle` draws a choice sequence for `n` positions, and with the swapping callback it leaves any slice at
the arrangement of those draws, returning the same map and words. -/
theorem shuffle_arrange {n : Nat} {ws ws' : List UInt32} {m : ShuffleMap} {calls : List (Nat × Nat)}
    (h : shuffle recordSwap n [] ws = .ok (some (m, calls, ws'))) :
    Choices (n - 1) (calls.map Prod.snd) ∧ ∀ {α : Type} (a : List α),
      shuffle (fun i j a => swapAt a i j) n a ws = .ok (some (m, arrange a (calls.map Prod.snd), ws')) := by
  have hn : ¬ 2 ^ 31 - 2 < n := fun hn => by rw [shuffle, if_pos hn] at h; cases h
  have hloop := shuffle_ok h
  obtain ⟨hc, hf⟩ := shuffleLoop_choices hloop
  refine ⟨hc, fun a => ?_⟩
  rw [shuffle, if_neg hn, shuffleLoop_swaps, hloop]
  simp only [Option.map_some', hf]

/-- Every value below `n` is drawn by some word, whatever follows it. -/
theorem exists_word {n r : Nat} (hn : 0 < n) (hN : n ≤ 2 ^ 32) (hr : r < n) :
    ∃ v : UInt32, ∀ ws, uniformRandom31 n (v :: ws) = some (r, ws) := by
  obtain ⟨v, hv⟩ := Finset.card_pos.1 (card_uniformRandom31 hn hN hr ▸ Nat.div_pos hN hn)
  have h := (Finset.mem_filter.1 hv).2
  refine ⟨UInt32.ofNat v, fun ws => ?_⟩
  rw [uniformRandom31_cons_eq hn hN] at h ⊢
  split at h
  · cases h
  · rw [if_neg ‹_›, (Prod.mk.inj (Option.some.inj h)).1]

/-- Every choice sequence for `i` is drawn by some words, which the loop reads to the end. -/
theorem shuffleLoop_realizes : ∀ {i : Nat} {js : List Nat}, Choices i js → i < 2 ^ 32 → ∀ idx perm : List Nat,
    ∃ ws perm' calls, shuffleLoop recordSwap i idx perm [] ws = some (perm', calls, []) ∧ calls.map Prod.snd = js
  | _, [], h, _, idx, perm => ⟨[], perm, [], by rw [(h : _ = 0)]; rfl, rfl⟩
  | _, j :: js, ⟨rfl, hj, hc⟩, hi, idx, perm => by
    obtain ⟨v, hv⟩ := exists_word (n := js.length + 2) (by omega) (by omega) (by omega : j < js.length + 2)
    obtain ⟨ws, perm', calls, hr, hs⟩ := shuffleLoop_realizes (i := js.length) hc (by omega)
      (swapAt idx (js.length + 1) j) ((perm.set ((swapAt idx (js.length + 1) j).getD (js.length + 1) 0) (js.length + 1)))
    refine ⟨v :: ws, perm', (js.length + 1, j) :: calls, ?_, by rw [List.map_cons, hs]⟩
    rw [shuffleLoop, hv]
    dsimp only
    rw [shuffleLoop_record_append, hr]
    rfl

/-- Every choice sequence for `n` positions is drawn by a run of `Shuffle` on some words. -/
theorem shuffle_realizes {n : Nat} (hn : n ≤ 2 ^ 31 - 2) {js : List Nat} (hc : Choices (n - 1) js) :
    ∃ ws m calls, shuffle recordSwap n [] ws = .ok (some (m, calls, [])) ∧ calls.map Prod.snd = js := by
  obtain ⟨ws, perm, calls, hr, hs⟩ := shuffleLoop_realizes hc (by omega) (List.range n) (List.replicate n 0)
  exact ⟨ws, ⟨perm⟩, calls, by rw [shuffle, if_neg (by omega), hr]; rfl, hs⟩

/-! ## Uniform words give a uniform permutation -/

/-- The draws `[j_i, …, j_1]` the loop of `Shuffle` reads from its words, from the counter `i` down to `1`; `none`
when the words run out. -/
def loopDraws : Nat → List UInt32 → Option (List Nat)
  | 0, _ => some []
  | i + 1, ws =>
    match uniformRandom31 (i + 2) ws with
    | none => none
    | some (j, ws) => (loopDraws i ws).map (j :: ·)

theorem loopDraws_choices : ∀ {i : Nat} {ws : List UInt32} {js : List Nat}, loopDraws i ws = some js → Choices i js
  | 0, _, _, h => by cases h; rfl
  | i + 1, ws, js, h => by
    unfold loopDraws at h
    split at h
    · cases h
    · rename_i j ws' hj
      obtain ⟨js', hjs, rfl⟩ := Option.map_eq_some'.1 h
      have hc := loopDraws_choices hjs
      exact ⟨by rw [hc.length_eq], by have := uniformRandom31_lt hj (by omega); omega, hc⟩

/-- With the swapping callback, the loop leaves the slice at the arrangement of the draws it reads. -/
theorem shuffleLoop_swap_draws : ∀ (i : Nat) (idx perm : List Nat) {α : Type} (a : List α) (ws : List UInt32),
    (shuffleLoop (fun i j a => swapAt a i j) i idx perm a ws).map (·.2.1) = (loopDraws i ws).map (arrange a)
  | 0, _, _, _, _, _ => rfl
  | i + 1, idx, perm, _, a, ws => by
    unfold shuffleLoop loopDraws
    rcases uniformRandom31 (i + 2) ws with _ | ⟨j, ws'⟩
    · rfl
    · dsimp only
      rw [shuffleLoop_swap_draws i, Option.map_map]
      cases hd : loopDraws i ws' with
      | none => rfl
      | some js => simp [arrange, (loopDraws_choices hd).length_eq]

/-- The readers of `L` words: every list of `L` numbers below `2^32`, each read as the word it is. -/
def readers : Nat → Finset (List Nat)
  | 0 => {[]}
  | L + 1 => (Finset.range (2 ^ 32) ×ˢ readers L).image fun p => p.1 :: p.2

/-- A reader of `L + 1` words is a first word and a reader of `L`: an event is counted word by word. -/
theorem card_filter_readers_succ (L : Nat) (P : List Nat → Prop) [DecidablePred P] :
    ((readers (L + 1)).filter P).card =
      ∑ v in Finset.range (2 ^ 32), ((readers L).filter fun ws => P (v :: ws)).card := by
  rw [readers, Finset.filter_image, Finset.card_image_of_injective _ fun p q h => Prod.ext (List.cons.inj h).1 (List.cons.inj h).2,
    Finset.card_filter, Finset.sum_product]
  simp only [Finset.card_filter, Function.comp]

/-- The readers of `L` words on which the loop from the counter `i` draws `js`. -/
def drawCount (L i : Nat) (js : List Nat) : Nat :=
  ((readers L).filter fun ws => loopDraws i (ws.map UInt32.ofNat) = some js).card

/-- The first draw of the loop at the counter `i + 1` on a word: a rejected word leaves the draws to the words after
it, an accepted one draws the high word of its product. -/
theorem loopDraws_succ_cons {i v : Nat} (hv : v < 2 ^ 32) (hi : i + 2 ≤ 2 ^ 32) (ws : List UInt32) :
    loopDraws (i + 1) (UInt32.ofNat v :: ws) = if v * (i + 2) % 2 ^ 32 < 2 ^ 32 % (i + 2) then loopDraws (i + 1) ws
      else (loopDraws i ws).map ((v * (i + 2) / 2 ^ 32) :: ·) := by
  rw [loopDraws, uniformRandom31_cons_eq (by omega) hi, UInt32.toNat_ofNat_of_lt hv]
  split_ifs <;> rfl

theorem drawCount_succ_cons {L i j : Nat} (js : List Nat) (hi : i + 2 ≤ 2 ^ 32) (hj : j < i + 2) :
    drawCount (L + 1) (i + 1) (j :: js) =
      ((Finset.range (2 ^ 32)).filter fun v => v * (i + 2) % 2 ^ 32 < 2 ^ 32 % (i + 2)).card *
        drawCount L (i + 1) (j :: js) + 2 ^ 32 / (i + 2) * drawCount L i js := by
  have hv : ∀ v ∈ Finset.range (2 ^ 32),
      ((readers L).filter fun ws => loopDraws (i + 1) ((v :: ws).map UInt32.ofNat) = some (j :: js)).card =
        (if v * (i + 2) % 2 ^ 32 < 2 ^ 32 % (i + 2) then drawCount L (i + 1) (j :: js) else 0) +
        (if 2 ^ 32 % (i + 2) ≤ v * (i + 2) % 2 ^ 32 ∧ v * (i + 2) / 2 ^ 32 = j then drawCount L i js else 0) := by
    intro v hv
    simp only [List.map_cons, loopDraws_succ_cons (Finset.mem_range.1 hv) hi]
    by_cases hr : v * (i + 2) % 2 ^ 32 < 2 ^ 32 % (i + 2)
    · simp only [if_pos hr, if_neg (show ¬(_ ∧ _) from fun h => absurd hr (Nat.not_lt.2 h.1)), add_zero]
      rfl
    · simp only [if_neg hr, zero_add, Option.map_eq_some', List.cons.injEq, Nat.not_lt.1 hr, true_and]
      by_cases hval : v * (i + 2) / 2 ^ 32 = j
      · simp only [hval, if_true, true_and, exists_eq_right]
        rfl
      · simp only [hval, if_false, false_and, and_false, exists_false, Finset.filter_False, Finset.card_empty]
  rw [drawCount, card_filter_readers_succ, Finset.sum_congr rfl hv, Finset.sum_add_distrib, Finset.sum_ite,
    Finset.sum_ite]
  simp only [Finset.sum_const, smul_eq_mul, mul_zero, add_zero, card_accepted (by omega) hj]

/-- **Every choice sequence has as many readers.** For choice sequences of one length, the loop draws each on as
many readers of `L` words: the rejected words of a draw are the same whatever it draws, and each value below the
bound has `⌊2^32 / n⌋` accepted words. -/
theorem drawCount_eq : ∀ (L : Nat) {i : Nat} {js₁ js₂ : List Nat}, i + 1 < 2 ^ 32 → Choices i js₁ → Choices i js₂ →
    drawCount L i js₁ = drawCount L i js₂
  | _, 0, js₁, js₂, _, h₁, h₂ => by
    rw [List.eq_nil_of_length_eq_zero h₁.length_eq, List.eq_nil_of_length_eq_zero h₂.length_eq]
  | _, _ + 1, [], _, _, h₁, _ => absurd (h₁ : _ = 0) (Nat.succ_ne_zero _)
  | _, _ + 1, _ :: _, [], _, _, h₂ => absurd (h₂ : _ = 0) (Nat.succ_ne_zero _)
  | 0, _ + 1, _ :: _, _ :: _, _, _, _ => rfl
  | L + 1, i + 1, j₁ :: r₁, j₂ :: r₂, hi, h₁, h₂ => by
    have hc₁ : Choices i r₁ := h₁.2.2
    have hc₂ : Choices i r₂ := h₂.2.2
    rw [drawCount_succ_cons r₁ (by omega) (by have := h₁.2.1; omega),
      drawCount_succ_cons r₂ (by omega) (by have := h₂.2.1; omega), drawCount_eq L hi h₁ h₂,
      drawCount_eq L (by omega) hc₁ hc₂]

/-- The slice `[0, n)` as `Shuffle` with the swapping callback leaves it on the words `ws`, when it returns. -/
def shuffled (n : Nat) (ws : List UInt32) : Option (List Nat) :=
  match shuffle (fun i j a => swapAt a i j) n (List.range n) ws with
  | .ok (some (_, a, _)) => some a
  | _ => none

theorem shuffled_eq {n : Nat} (hn : n ≤ 2 ^ 31 - 2) (ws : List UInt32) :
    shuffled n ws = (loopDraws (n - 1) ws).map (arrange (List.range n)) := by
  rw [shuffled, shuffle, if_neg (by omega), ← shuffleLoop_swap_draws (n - 1) (List.range n) (List.replicate n 0)]
  cases shuffleLoop _ _ _ _ _ _ <;> rfl

/-- The readers on which `Shuffle` leaves `[0, n)` at a permutation are those on which it draws the permutation's
choice sequence. -/
theorem card_shuffled {n L : Nat} (hn : n ≤ 2 ^ 31 - 2) {p : List Nat} (hp : List.Perm p (List.range n)) :
    ∃ js, Choices (n - 1) js ∧
      ((readers L).filter fun ws => shuffled n (ws.map UInt32.ofNat) = some p).card = drawCount L (n - 1) js := by
  obtain ⟨js, hc, rfl⟩ := (arrange_bijOn n).surjOn hp
  refine ⟨js, hc, congrArg Finset.card (Finset.filter_congr fun ws _ => ?_)⟩
  rw [shuffled_eq hn, Option.map_eq_some']
  constructor
  · rintro ⟨js', hjs', he⟩
    rwa [← (arrange_bijOn n).injOn (loopDraws_choices hjs') hc he]
  · exact fun h => ⟨js, h, rfl⟩

theorem card_shuffled_eq {n : Nat} (hn : n ≤ 2 ^ 31 - 2) (L : Nat) {p q : List Nat} (hp : List.Perm p (List.range n))
    (hq : List.Perm q (List.range n)) :
    ((readers L).filter fun ws => shuffled n (ws.map UInt32.ofNat) = some p).card =
      ((readers L).filter fun ws => shuffled n (ws.map UInt32.ofNat) = some q).card := by
  obtain ⟨js₁, hc₁, h₁⟩ := card_shuffled (L := L) hn hp
  obtain ⟨js₂, hc₂, h₂⟩ := card_shuffled (L := L) hn hq
  rw [h₁, h₂, drawCount_eq L (by omega) hc₁ hc₂]

/-- **`Shuffle` is unbiased.** (1) For `0 < n ≤ 2^32`, `uniformRandom31 n` skips exactly the words whose low product
word is below `2^32 mod n`, maps every accepted word to its high product word, below `n`, and returns each value
below `n` for exactly `⌊2^32 / n⌋` of the `2^32` words. (2) For `n ≤ 2^31 - 2`, every choice sequence for `n`
positions is the draws of a run of `Shuffle` on some words, every run's draws are one, the swapping callback leaves a
slice at the arrangement of the draws, and arrangement maps the choice sequences one to one onto the permutations of
`[0, n)`. (3) Together: for every number `L` of words, `Shuffle` leaves `[0, n)` at any two permutations on equally
many of the `2^(32 L)` readers of `L` words, so uniform words give every permutation the same chance. -/
theorem shuffle_unbiased :
    (∀ n, 0 < n → n ≤ 2 ^ 32 →
      (∀ (v : UInt32) (ws : List UInt32), uniformRandom31 n (v :: ws) =
        if v.toNat * n % 2 ^ 32 < 2 ^ 32 % n then uniformRandom31 n ws else some (v.toNat * n / 2 ^ 32, ws)) ∧
      (∀ v : UInt32, v.toNat * n / 2 ^ 32 < n) ∧
      ∀ r < n, ((Finset.range (2 ^ 32)).filter fun v => uniformRandom31 n [UInt32.ofNat v] = some (r, [])).card =
        2 ^ 32 / n) ∧
    ∀ n, n ≤ 2 ^ 31 - 2 →
      (∀ js, Choices (n - 1) js → ∃ ws m calls, shuffle recordSwap n [] ws = .ok (some (m, calls, [])) ∧
        calls.map Prod.snd = js) ∧
      (∀ ws m calls ws', shuffle recordSwap n [] ws = .ok (some (m, calls, ws')) →
        Choices (n - 1) (calls.map Prod.snd) ∧ ∀ {α : Type} (a : List α),
          shuffle (fun i j a => swapAt a i j) n a ws = .ok (some (m, arrange a (calls.map Prod.snd), ws'))) ∧
      Set.BijOn (arrange (List.range n)) {js | Choices (n - 1) js} {p | List.Perm p (List.range n)} ∧
      ∀ L p q, List.Perm p (List.range n) → List.Perm q (List.range n) →
        ((readers L).filter fun ws => shuffled n (ws.map UInt32.ofNat) = some p).card =
          ((readers L).filter fun ws => shuffled n (ws.map UInt32.ofNat) = some q).card :=
  ⟨fun _ hn hN => ⟨uniformRandom31_cons_eq hn hN,
    fun v => Nat.div_lt_of_lt_mul (Nat.mul_lt_mul_of_pos_right v.toNat_lt_size hn),
    fun _ hr => card_uniformRandom31 hn hN hr⟩,
   fun n hn => ⟨fun _ hc => shuffle_realizes hn hc, fun _ _ _ _ h => shuffle_arrange h, arrange_bijOn n,
    fun L _ _ hp hq => card_shuffled_eq hn L hp hq⟩⟩

/-- At `n = 3`: the value `1` has `⌊2^32 / 3⌋` words, the arrangements of the three positions are exactly the
permutations of `[0, 3)`, one per choice sequence, and the identity and a rotation have as many readers of two
words. -/
theorem shuffle_unbiased_three : 0 < 3 ∧ 3 ≤ 2 ^ 32 ∧ 3 ≤ 2 ^ 31 - 2 ∧
    ((Finset.range (2 ^ 32)).filter fun v => uniformRandom31 3 [UInt32.ofNat v] = some (1, [])).card = 1431655765 ∧
    Set.BijOn (arrange (List.range 3)) {js | Choices 2 js} {p | List.Perm p (List.range 3)} ∧
    List.Perm [0, 1, 2] (List.range 3) ∧ List.Perm [2, 0, 1] (List.range 3) ∧
    ((readers 2).filter fun ws => shuffled 3 (ws.map UInt32.ofNat) = some [0, 1, 2]).card =
      ((readers 2).filter fun ws => shuffled 3 (ws.map UInt32.ofNat) = some [2, 0, 1]).card :=
  ⟨by decide, by decide, by decide, (shuffle_unbiased.1 3 (by decide) (by decide)).2.2 1 (by decide),
    (shuffle_unbiased.2 3 (by decide)).2.2.1, by decide, by decide,
    (shuffle_unbiased.2 3 (by decide)).2.2.2 2 _ _ (by decide) (by decide)⟩

end Tumblebit
