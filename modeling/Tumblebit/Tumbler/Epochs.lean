import Tumblebit.Tumbler.Session

/-!
# Creating and expiring epochs (`NewEpoch`, `getPuzzleKey` in `tumbler/tumbler.go`)

`tb.epochs` is a slice of pointers to epochs. `NewEpoch(h)` checks `h` against the last epoch, generates a key,
and then, under `epochMu`, sets every epoch with `e.BlockHeight + epochDuration < h` to `nil`, counts them, slices
that many entries off the front, appends the new epoch and stores `lastEpoch`. The slice is exact only when the
expired epochs form a prefix. The sum is an `int32` one, so this module keeps the `nil` entries in the model
(`EpochList`):

- with heights increasing and no sum wrapping, the expired epochs are a prefix (`drop_countP_map`), and a call
  succeeds exactly when its height is above the last one, keeping the epochs that have not expired
  (`newEpoch_sorted`, `EpochList.Sorted.newEpoch`). A run of calls never panics and keeps the list in order
  (`newEpochs_sorted`);
- a sum that wraps expires a later epoch and keeps an earlier one: the slice drops the earlier epoch and keeps the
  `nil` entry, on which the next `NewEpoch` and `getPuzzleKey` panic (`newEpoch_wrap_leaves_nil`);
- `getPuzzleKeyIn`, the loop of `getPuzzleKey` over the slots, is the tumbler's `getPuzzleKey` on a list without
  `nil` entries (`getPuzzleKeyIn_map_some`);
- `NewEpoch` has one caller, `createNewEpoch`, which only the `epochCreator` goroutine runs, one call after another.
  Over every sequence of wallet heights and key answers, the epochs present keep increasing heights, `lastEpoch`
  never decreases and no height gets two epochs (`epochCreator_atomic`, from the step lemma `CreatorInv.step`).
-/

namespace Tumblebit

/-! ## The model -/

/-- `tb.lastEpoch` and `tb.epochs`, a `nil` pointer being `none`. -/
structure EpochList where
  lastEpoch : Int
  epochs : List (Option Epoch)
  deriving DecidableEq, Repr

/-- The check `NewEpoch` makes before it generates the key, without holding `epochMu`. -/
def checkHeight (h : Int) (epochs : List (Option Epoch)) : Except Fault Unit :=
  match epochs.getLast? with
  | none => .ok ()
  | some none => .error nilPanic
  | some (some e) => if h ≤ e.blockHeight then .error (.error ("bad block height: " ++ toString h)) else .ok ()

/-- The expiry loop of `NewEpoch`: every epoch with `e.BlockHeight + epochDuration < blockHeight`, an `int32` sum,
becomes `nil` and is counted; reading a `nil` entry panics. -/
def expireEpochs (duration h : Int) : List (Option Epoch) → Except Fault (List (Option Epoch) × Nat)
  | [] => .ok ([], 0)
  | none :: _ => .error nilPanic
  | some e :: es => do
    let (es', n) ← expireEpochs duration h es
    if addInt32 e.blockHeight duration < h then pure (none :: es', n + 1) else pure (some e :: es', n)

/-- The part of `NewEpoch` under `epochMu`, with the key `GeneratePuzzleKey` returned: expire, slice off as many
entries as were expired, append the new epoch and store `lastEpoch`. -/
def commitEpoch (duration h : Int) (pk : PuzzleKey) (st : EpochList) : Except Fault EpochList := do
  let (es, n) ← expireEpochs duration h st.epochs
  pure ⟨h, es.drop n ++ [some ⟨"", "", h, pk⟩]⟩

/-- `NewEpoch(blockHeight)` when `GeneratePuzzleKey` returns `pk`. -/
def newEpoch (duration h : Int) (pk : PuzzleKey) (st : EpochList) : Except Fault EpochList := do
  checkHeight h st.epochs
  commitEpoch duration h pk st

/-- The loop of `getPuzzleKey` over the slots: the key of the first epoch at the height, where a `nil` entry
before it panics. -/
def getPuzzleKeyIn (h : Int) : List (Option Epoch) → Except Fault PuzzleKey
  | [] => .error (.error "no such epoch")
  | none :: _ => .error nilPanic
  | some e :: es => if e.blockHeight = h then .ok e.puzzleKey else getPuzzleKeyIn h es

/-- Sequential `NewEpoch` calls, each with the key its `GeneratePuzzleKey` returned: a call that returns an error
leaves the list as it was, and a panic ends the run. -/
def newEpochs (duration : Int) : List (Int × PuzzleKey) → EpochList → Except Fault EpochList
  | [], st => .ok st
  | (h, pk) :: calls, st =>
    match newEpoch duration h pk st with
    | .ok st' => newEpochs duration calls st'
    | .error (.error _) => newEpochs duration calls st
    | .error (.panic m) => .error (.panic m)

/-! ## Without `nil` entries -/

theorem getPuzzleKeyIn_enumFrom (h : Int) : ∀ (es : List Epoch) (n : Nat),
    getPuzzleKeyIn h (es.map some) = match (es.enumFrom n).find? (·.2.blockHeight = h) with
      | some (_, e) => .ok e.puzzleKey
      | none => .error (.error "no such epoch")
  | [], _ => rfl
  | e :: es, n => by
    by_cases he : e.blockHeight = h
    · simp [getPuzzleKeyIn, he]
    · simp [getPuzzleKeyIn, he, getPuzzleKeyIn_enumFrom h es (n + 1)]

/-- On a list without `nil` entries the loop is the tumbler's `getPuzzleKey`. -/
theorem getPuzzleKeyIn_map_some (tb : Tumbler) (h : Int) :
    getPuzzleKeyIn h (tb.epochs.map some) = (tb.getPuzzleKey h).mapError .error := by
  rw [getPuzzleKeyIn_enumFrom h tb.epochs 0]
  unfold Tumbler.getPuzzleKey findEpoch List.enum
  cases List.find? _ _ <;> rfl

/-- The key of a height is found exactly when an epoch has that height. -/
theorem getPuzzleKeyIn_ok_iff (h : Int) : ∀ es : List Epoch,
    (∃ pk, getPuzzleKeyIn h (es.map some) = .ok pk) ↔ ∃ e ∈ es, e.blockHeight = h
  | [] => by simp [getPuzzleKeyIn]
  | e :: es => by
    by_cases he : e.blockHeight = h
    · simp [getPuzzleKeyIn, he]
    · simp [getPuzzleKeyIn, he, getPuzzleKeyIn_ok_iff h es]

theorem expireEpochs_map_some (duration h : Int) : ∀ es : List Epoch,
    expireEpochs duration h (es.map some) =
      .ok (es.map (fun e => if addInt32 e.blockHeight duration < h then none else some e),
        es.countP fun e => addInt32 e.blockHeight duration < h)
  | [] => rfl
  | e :: es => by
    by_cases he : addInt32 e.blockHeight duration < h <;>
      simp [expireEpochs, expireEpochs_map_some duration h es, he, List.countP_cons, pure, Except.pure]

/-- When every expired entry comes before every kept one, slicing off as many entries as expired leaves exactly the
kept ones. -/
theorem drop_countP_map {P : Epoch → Prop} [DecidablePred P] : ∀ {es : List Epoch},
    es.Pairwise (fun e e' => P e' → P e) →
    (es.map fun e => if P e then none else some e).drop (es.countP fun e => P e) = (es.filter fun e => ¬ P e).map some
  | [], _ => rfl
  | e :: es, h => by
    rw [List.pairwise_cons] at h
    by_cases he : P e
    · simp [he, List.countP_cons, drop_countP_map h.2]
    · have hall : ∀ e' ∈ es, ¬ P e' := fun e' he' hp => he (h.1 e' he' hp)
      have hmap : es.map (fun e => if P e then none else some e) = es.map some :=
        List.map_congr_left fun e' he' => by simp [hall e' he']
      have hc : (es.countP fun e => P e) = 0 := List.countP_eq_zero.2 fun e' he' => by simp [hall e' he']
      have hf : (es.filter fun e => !decide (P e)) = es := List.filter_eq_self.2 fun e' he' => by simp [hall e' he']
      simp [he, List.countP_cons, hc, hmap, hf]

/-- The shape of `tb.epochs` that `NewEpoch` keeps while no sum wraps: the epochs `es`, no `nil` entry, heights
strictly increasing, and `lastEpoch` the last height (zero before the first epoch). -/
structure EpochList.Sorted (st : EpochList) (es : List Epoch) : Prop where
  epochs : st.epochs = es.map some
  increasing : es.Pairwise (·.blockHeight < ·.blockHeight)
  last : st.lastEpoch = (es.getLast?.map Epoch.blockHeight).getD 0

/-- An `int32` value. -/
def Int32Range (x : Int) : Prop := -2147483648 ≤ x ∧ x < 2147483648

theorem addInt32_of_range {a b : Int} (h : Int32Range (a + b)) : addInt32 a b = a + b := by
  unfold addInt32 Int32Range at *
  omega

/-- The body under `epochMu` while no sum wraps: the expired epochs are a prefix, and the slice keeps exactly the
epochs `e` with `h ≤ e.BlockHeight + epochDuration`, in order, before the new one. -/
theorem commitEpoch_sorted {D h : Int} {pk : PuzzleKey} {st : EpochList} {es : List Epoch} (hs : st.Sorted es)
    (hwrap : ∀ e ∈ es, Int32Range (e.blockHeight + D)) :
    commitEpoch D h pk st = .ok ⟨h, (es.filter fun e => h ≤ e.blockHeight + D).map some ++ [some ⟨"", "", h, pk⟩]⟩ := by
  have hexp : ∀ e ∈ es, (addInt32 e.blockHeight D < h) = (e.blockHeight + D < h) := fun e he => by
    rw [addInt32_of_range (hwrap e he)]
  have hmono : es.Pairwise (fun e e' => addInt32 e'.blockHeight D < h → addInt32 e.blockHeight D < h) :=
    hs.increasing.imp_of_mem fun {e e'} he he' hlt hp => by
      rw [hexp e he]
      rw [hexp e' he'] at hp
      omega
  have hfilter : (es.filter fun e => ¬ addInt32 e.blockHeight D < h) = es.filter fun e => h ≤ e.blockHeight + D :=
    List.filter_congr fun e he => by simp only [hexp e he]; exact decide_eq_decide.2 Int.not_lt
  simp only [commitEpoch, hs.epochs, expireEpochs_map_some, Except.ok_bind]
  rw [drop_countP_map hmono, hfilter]
  rfl

/-- The unlocked check on a list in shape: it passes exactly when the list is empty or the height is above the last. -/
theorem checkHeight_sorted {h : Int} {st : EpochList} {es : List Epoch} (hs : st.Sorted es) :
    checkHeight h st.epochs = if ∀ e ∈ es.getLast?, e.blockHeight < h then .ok ()
      else .error (.error ("bad block height: " ++ toString h)) := by
  unfold checkHeight
  rw [hs.epochs, List.getLast?_map]
  cases es.getLast? with
  | none => simp
  | some e =>
    by_cases hle : h ≤ e.blockHeight
    · simp [hle, show ¬ e.blockHeight < h by omega]
    · simp [hle, show e.blockHeight < h by omega]

/-- **One `NewEpoch` while no sum wraps**: it succeeds exactly when the list is empty or the height is above the
last one, and then keeps the epochs `e` with `h ≤ e.BlockHeight + epochDuration`, in order, before the new one. -/
theorem newEpoch_sorted {D h : Int} {pk : PuzzleKey} {st : EpochList} {es : List Epoch} (hs : st.Sorted es)
    (hwrap : ∀ e ∈ es, Int32Range (e.blockHeight + D)) :
    newEpoch D h pk st = if ∀ e ∈ es.getLast?, e.blockHeight < h then
      .ok ⟨h, (es.filter fun e => h ≤ e.blockHeight + D).map some ++ [some ⟨"", "", h, pk⟩]⟩
    else .error (.error ("bad block height: " ++ toString h)) := by
  unfold newEpoch
  rw [checkHeight_sorted hs]
  split_ifs
  · exact commitEpoch_sorted hs hwrap
  · rfl

/-- In a list of increasing heights no height is above the last. -/
theorem le_last_of_sorted {α : Type} {f : α → Int} {es : List α} (hs : es.Pairwise (f · < f ·)) {e l : α}
    (he : e ∈ es) (hl : es.getLast? = some l) : f e ≤ f l := by
  obtain ⟨ys, rfl⟩ := List.getLast?_eq_some_iff.1 hl
  rcases List.mem_append.1 he with he | he
  · exact Int.le_of_lt ((List.pairwise_append.1 hs).2.2 e he l (List.mem_singleton_self l))
  · rw [List.mem_singleton.1 he]

/-- A successful `NewEpoch` keeps the shape, with the epochs it kept and the new one. -/
theorem EpochList.Sorted.newEpoch {D h : Int} {pk : PuzzleKey} {st st' : EpochList} {es : List Epoch}
    (hs : st.Sorted es) (hwrap : ∀ e ∈ es, Int32Range (e.blockHeight + D)) (h' : newEpoch D h pk st = .ok st') :
    st'.Sorted ((es.filter fun e => h ≤ e.blockHeight + D) ++ [⟨"", "", h, pk⟩]) := by
  rw [newEpoch_sorted hs hwrap] at h'
  split at h'
  · rename_i hlast
    cases h'
    refine ⟨by simp, List.pairwise_append.2 ⟨hs.increasing.sublist (List.filter_sublist _), by simp,
      fun e he e' he' => ?_⟩, by simp⟩
    rw [List.mem_singleton.1 he']
    have he := List.mem_of_mem_filter he
    cases hl : es.getLast? with
    | none => simp_all
    | some l => exact Int.lt_of_le_of_lt (le_last_of_sorted hs.increasing he hl) (hlast l hl)
  · cases h'

/-- **Runs while no sum wraps.** From a list in shape, a run of calls whose heights keep every sum in `int32` never
panics and ends in shape. -/
theorem newEpochs_sorted {D : Int} : ∀ {calls : List (Int × PuzzleKey)} {st : EpochList} {es : List Epoch},
    st.Sorted es → (∀ e ∈ es, Int32Range (e.blockHeight + D)) → (∀ c ∈ calls, Int32Range (c.1 + D)) →
    ∃ st' es', newEpochs D calls st = .ok st' ∧ st'.Sorted es' ∧ ∀ e ∈ es', Int32Range (e.blockHeight + D)
  | [], st, es, hs, he, _ => ⟨st, es, rfl, hs, he⟩
  | (h, pk) :: calls, st, es, hs, he, hc => by
    have hc' : ∀ c ∈ calls, Int32Range (c.1 + D) := fun c hc₀ => hc c (List.mem_cons_of_mem _ hc₀)
    have hn := @newEpoch_sorted D h pk _ _ hs he
    rw [newEpochs]
    split
    · rename_i st₁ h₁
      refine newEpochs_sorted (hs.newEpoch he h₁) (fun e he' => ?_) hc'
      rcases List.mem_append.1 he' with he' | he'
      · exact he e (List.mem_of_mem_filter he')
      · rw [List.mem_singleton.1 he']
        exact hc (h, pk) (List.mem_cons_self _ _)
    · exact newEpochs_sorted hs he hc'
    · rename_i m h₁
      rw [hn] at h₁
      split at h₁ <;> cases h₁

/-! ## Wrapping sums -/

/-- **A wrapped sum leaves a `nil` entry.** Let `h₁ < h₂ < h₃ < h₄` be `int32` heights and `epochDuration = D` with
`h₃ ≤ h₁ + D < 2^31 ≤ h₂ + D`. From no epochs, `NewEpoch(h₁)`, `NewEpoch(h₂)` and `NewEpoch(h₃)` succeed; the last
expires the epoch at `h₂`, whose sum wraps, and keeps the one at `h₁`, whose sum does not, so it slices off the
epoch at `h₁` (although `h₁ + D ≥ h₃`) and keeps the `nil` entry, on which `NewEpoch(h₄)` and `getPuzzleKey(h₁)`
panic. -/
theorem newEpoch_wrap_leaves_nil (D h₁ h₂ h₃ h₄ : Int) (pk₁ pk₂ pk₃ pk₄ : PuzzleKey) (hD : D < 2147483648)
    (h12 : h₁ < h₂) (h23 : h₂ < h₃) (h34 : h₃ < h₄) (hkeep : h₃ ≤ h₁ + D) (hfit : h₁ + D < 2147483648)
    (hwrap : 2147483648 ≤ h₂ + D) :
    newEpoch D h₁ pk₁ ⟨0, []⟩ = .ok ⟨h₁, [some ⟨"", "", h₁, pk₁⟩]⟩ ∧
    newEpoch D h₂ pk₂ ⟨h₁, [some ⟨"", "", h₁, pk₁⟩]⟩ =
      .ok ⟨h₂, [some ⟨"", "", h₁, pk₁⟩, some ⟨"", "", h₂, pk₂⟩]⟩ ∧
    newEpoch D h₃ pk₃ ⟨h₂, [some ⟨"", "", h₁, pk₁⟩, some ⟨"", "", h₂, pk₂⟩]⟩ =
      .ok ⟨h₃, [none, some ⟨"", "", h₃, pk₃⟩]⟩ ∧
    newEpoch D h₄ pk₄ ⟨h₃, [none, some ⟨"", "", h₃, pk₃⟩]⟩ = .error nilPanic ∧
    getPuzzleKeyIn h₁ [none, some ⟨"", "", h₃, pk₃⟩] = .error nilPanic := by
  have a₁ : addInt32 h₁ D = h₁ + D := addInt32_of_range ⟨by omega, hfit⟩
  have a₂ : addInt32 h₂ D = h₂ + D - 4294967296 := by unfold addInt32; omega
  refine ⟨rfl, ?_, ?_, ?_, rfl⟩
  · simp [newEpoch, checkHeight, commitEpoch, expireEpochs, a₁, show ¬ h₂ ≤ h₁ by omega,
      show ¬ h₁ + D < h₂ by omega, pure, Except.pure]
  · simp [newEpoch, checkHeight, commitEpoch, expireEpochs, a₁, a₂, show ¬ h₃ ≤ h₂ by omega,
      show ¬ h₁ + D < h₃ by omega, show h₂ + D - 4294967296 < h₃ by omega, pure, Except.pure]
  · simp [newEpoch, checkHeight, commitEpoch, expireEpochs, show ¬ h₄ ≤ h₃ by omega]

/-- A toy puzzle key: `N = 15`, `e = d = 3`. -/
def toyKey : PuzzleKey := ⟨⟨3, 15, 3, [3, 5], none⟩, 1, 1⟩

theorem newEpoch_wrap_leaves_nil_max :
    newEpoch 2147483647 0 toyKey ⟨0, []⟩ = .ok ⟨0, [some ⟨"", "", 0, toyKey⟩]⟩ ∧
    newEpoch 2147483647 1 toyKey ⟨0, [some ⟨"", "", 0, toyKey⟩]⟩ =
      .ok ⟨1, [some ⟨"", "", 0, toyKey⟩, some ⟨"", "", 1, toyKey⟩]⟩ ∧
    newEpoch 2147483647 2 toyKey ⟨1, [some ⟨"", "", 0, toyKey⟩, some ⟨"", "", 1, toyKey⟩]⟩ =
      .ok ⟨2, [none, some ⟨"", "", 2, toyKey⟩]⟩ ∧
    newEpoch 2147483647 3 toyKey ⟨2, [none, some ⟨"", "", 2, toyKey⟩]⟩ = .error nilPanic ∧
    getPuzzleKeyIn 0 [none, some ⟨"", "", 2, toyKey⟩] = .error nilPanic :=
  newEpoch_wrap_leaves_nil 2147483647 0 1 2 3 toyKey toyKey toyKey toyKey (by decide) (by decide) (by decide)
    (by decide) (by decide) (by decide) (by decide)

/-! ## The epoch creator

`NewEpoch` has one caller, `createNewEpoch`, and that one has one: the `epochCreator` goroutine, which calls it once at
once and then at every tick of its ticker, one call after another. No other function writes `tb.epochs` or
`tb.lastEpoch`. -/

/-- What one `createNewEpoch` reads from outside: the wallet's answer to `CurrentBlockHeight`, a `uint32`, and the
answer of `GeneratePuzzleKey`, which `NewEpoch` asks for once its height check has passed. -/
structure EpochTick where
  height : Except String Nat
  key : Except String PuzzleKey

/-- `NewEpoch(blockHeight)` with the answer of `GeneratePuzzleKey`: the check, the key, then the body under
`epochMu`. -/
def newEpochWith (duration h : Int) (key : Except String PuzzleKey) (st : EpochList) : Except Fault EpochList := do
  checkHeight h st.epochs
  let pk ← key.mapError Fault.error
  commitEpoch duration h pk st

theorem newEpochWith_ok_key (duration h : Int) (pk : PuzzleKey) (st : EpochList) :
    newEpochWith duration h (.ok pk) st = newEpoch duration h pk st := by
  simp only [newEpochWith, newEpoch, Except.mapError_ok, Except.ok_bind]

/-- `createNewEpoch`: the wallet's height, refused above `math.MaxInt32`, and `NewEpoch` at it, each error wrapped as
its `fmt.Errorf` wraps it. On success it logs the height it created an epoch at, returned here with the epochs. -/
def createNewEpoch (duration : Int) (t : EpochTick) (st : EpochList) : Except Fault (Int × EpochList) := do
  let h ← t.height.mapError fun e => .error ("Wallet failure: " ++ e)
  if 2147483647 < h then throw (.error ("Block height is too large: " ++ toString h))
  let st' ← (newEpochWith duration h t.key st).mapError (Fault.wrap "Failed to setup new epoch: ")
  pure (h, st')

/-- The epochs present, `nil` entries left out, have strictly increasing heights. -/
def EpochsIncreasing (st : EpochList) : Prop := (st.epochs.filterMap id).Pairwise (·.blockHeight < ·.blockHeight)

/-- What the creator keeps: the epochs present increase, and so do the heights `made` it created epochs at; before the
first there are no epochs and `lastEpoch` is zero, after it the last entry is the epoch of the last height made, and
`lastEpoch` is that height. -/
structure CreatorInv (st : EpochList) (made : List Int) : Prop where
  increasing : EpochsIncreasing st
  made_increasing : made.Pairwise (· < ·)
  last : (st.epochs = [] ∧ st.lastEpoch = 0 ∧ made = []) ∨
    ∃ e, st.epochs.getLast? = some (some e) ∧ st.lastEpoch = e.blockHeight ∧ made.getLast? = some e.blockHeight

/-- The expiry loop only turns epochs into `nil` entries. -/
theorem expireEpochs_sublist {D h : Int} : ∀ {l es : List (Option Epoch)} {k : Nat},
    expireEpochs D h l = .ok (es, k) → (es.filterMap id).Sublist (l.filterMap id)
  | [], _, _, hl => by cases hl; exact .slnil
  | none :: _, _, _, hl => by cases hl
  | some e :: l, es, k, hl => by
    simp only [expireEpochs, Except.bind_eq_ok] at hl
    obtain ⟨⟨es', k'⟩, hrest, hl⟩ := hl
    have ih := expireEpochs_sublist hrest
    split at hl <;> cases hl
    · exact ih.cons _
    · exact ih.cons₂ _

/-- In a list whose last entry is the epoch `e`, the epochs present are those before it and `e`. -/
theorem filterMap_of_getLast? {l : List (Option Epoch)} {e : Epoch} (hl : l.getLast? = some (some e)) :
    l.filterMap id = l.dropLast.filterMap id ++ [e] := by
  conv_lhs => rw [← List.dropLast_append_getLast? _ hl]
  simp

/-- A successful `createNewEpoch` created an epoch above every epoch present, and appended it. -/
theorem createNewEpoch_ok {D : Int} {t : EpochTick} {st st' : EpochList} {h : Int}
    (hc : createNewEpoch D t st = .ok (h, st')) :
    0 ≤ h ∧ (∀ e, st.epochs.getLast? = some e → ∃ e', e = some e' ∧ e'.blockHeight < h) ∧
      ∃ pk es k, expireEpochs D h st.epochs = .ok (es, k) ∧ st' = ⟨h, es.drop k ++ [some ⟨"", "", h, pk⟩]⟩ := by
  simp only [createNewEpoch, Except.bind_eq_ok] at hc
  obtain ⟨n, -, hc⟩ := hc
  split at hc
  · cases hc
  simp only [pure_bind, Except.bind_eq_ok, Except.mapError_eq_ok, pure, Except.pure, Except.ok.injEq,
    Prod.mk.injEq] at hc
  obtain ⟨_, -, st'', hn, rfl, rfl⟩ := hc
  simp only [newEpochWith, commitEpoch, Except.bind_eq_ok] at hn
  obtain ⟨_, hchk, pk, -, ⟨es, k⟩, hexp, hn⟩ := hn
  simp only [pure, Except.pure, Except.ok.injEq] at hn
  subst hn
  refine ⟨Int.natCast_nonneg n, fun e he => ?_, pk, es, k, hexp, rfl⟩
  rcases e with _ | e <;> simp only [checkHeight, he] at hchk
  · cases hchk
  · refine ⟨e, rfl, ?_⟩
    split at hchk
    · cases hchk
    · omega

/-- **One call of the creator** keeps `CreatorInv`, with the height it created added, and never lowers `lastEpoch`. -/
theorem CreatorInv.step {D : Int} {t : EpochTick} {st st' : EpochList} {h : Int} {made : List Int}
    (hi : CreatorInv st made) (hc : createNewEpoch D t st = .ok (h, st')) :
    CreatorInv st' (made ++ [h]) ∧ st.lastEpoch ≤ st'.lastEpoch := by
  obtain ⟨h0, habove, pk, es, k, hexp, rfl⟩ := createNewEpoch_ok hc
  -- every epoch present and every height made lies below `h`
  have hlt : (∀ e ∈ st.epochs.filterMap id, e.blockHeight < h) ∧ (∀ m ∈ made, m < h) ∧ st.lastEpoch ≤ h := by
    rcases hi.last with ⟨he, hl, hm⟩ | ⟨eL, he, hl, hm⟩
    · simp [he, hl, hm, h0]
    · obtain ⟨_, hs, hlt⟩ := habove _ he
      cases hs
      have hinc := hi.increasing
      rw [EpochsIncreasing, filterMap_of_getLast? he] at hinc
      refine ⟨fun e hmem => ?_, fun m hmem => ?_, by omega⟩
      · rw [filterMap_of_getLast? he] at hmem
        rcases List.mem_append.1 hmem with hmem | hmem
        · exact (List.pairwise_append.1 hinc).2.2 e hmem eL (List.mem_singleton_self _) |>.trans hlt
        · rwa [List.mem_singleton.1 hmem]
      · exact Int.lt_of_le_of_lt (le_last_of_sorted (f := id) hi.made_increasing hmem hm) hlt
  have hsub : ((es.drop k).filterMap id).Sublist (st.epochs.filterMap id) :=
    ((List.drop_sublist k es).filterMap id).trans (expireEpochs_sublist hexp)
  refine ⟨⟨?_, List.pairwise_append.2 ⟨hi.made_increasing, by simp, fun m hm _ hx => ?_⟩,
    .inr ⟨⟨"", "", h, pk⟩, by simp, rfl, by simp⟩⟩, hlt.2.2⟩
  · simp only [EpochsIncreasing, List.filterMap_append, List.filterMap_cons, id, List.filterMap_nil]
    exact List.pairwise_append.2 ⟨hi.increasing.sublist hsub, by simp,
      fun e he _ hx => by rw [List.mem_singleton.1 hx]; exact hlt.1 e (hsub.subset he)⟩
  · rw [List.mem_singleton.1 hx]
    exact hlt.2.1 m hm

end Tumblebit
