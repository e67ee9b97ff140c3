import Tumblebit.Tumbler.Session

/-!
# The lazy address of an epoch (`getEpochAddress` in `tumbler/tumbler.go`)

`getEpochAddress(h)` is double-checked locking. Under `epochMu.RLock` it reads the epoch's `Address`, and if it is
set returns it with `Pubkey`. Otherwise it takes the epoch's `addrMu`, reads `Address` again, and if it is still
empty asks the wallet for an address and writes `Address` and then `Pubkey`. The writer holds `addrMu` only, so a
reader on the first path is not excluded from the two writes. Concurrent calls on one epoch are modelled as program
counters over the epoch's two fields, the holder of `addrMu` and the wallet's allocations (`AddrRace`), one atomic
read or write a step:

- the allocation is made once: every reachable state keeps `AddrRace.Inv`, under which the wallet has allocated at
  most once and the calls past the lock are the lock's holder (`AddrRace.Inv.step`, `allocated_le_one`);
- a call on the first path can read `Address` after the writer set it and `Pubkey` before it did, and return the new
  address with an empty key (`getEpochAddress_torn_read`).
-/

namespace Tumblebit

/-- Where a call of `getEpochAddress` on the epoch is. -/
inductive AddrPc where
  /-- About to read `Address` under `epochMu.RLock`. -/
  | start
  /-- Read the non-empty `address`; about to read `Pubkey`. -/
  | readPubkey (address : String)
  /-- Found `Address` empty; waiting for `addrMu`. -/
  | lock
  /-- Holds `addrMu`; about to read `Address` again. -/
  | recheck
  /-- Holds `addrMu`; the wallet returned `addr` and `pkey`, about to write `Address`. -/
  | writeAddress (addr pkey : String)
  /-- Holds `addrMu`; wrote `Address`, about to write `Pubkey`. -/
  | writePubkey (addr pkey : String)
  /-- Returned the pair, or an error. -/
  | returned (r : Option (String × String))
  deriving DecidableEq, Repr

/-- Whether a call is past `addrMu.Lock` and before its deferred unlock. -/
def AddrPc.locked : AddrPc → Bool
  | .recheck | .writeAddress _ _ | .writePubkey _ _ => true
  | _ => false

/-- Concurrent calls of `getEpochAddress` on one epoch: its `Address` and `Pubkey`, whether it is too old to be given
an address (`e.BlockHeight + epochDuration < lastEpoch - 1`), the call holding `addrMu`, the pairs
`wallet.GetExtAddress` returned, and each call's counter. -/
structure AddrRace where
  address : String
  pubkey : String
  tooOld : Bool
  holder : Option Nat
  allocated : List (String × String)
  calls : List AddrPc
  deriving DecidableEq, Repr

/-- One atomic step of the call at index `i`. A wallet address is never empty. -/
inductive AddrRace.Step : AddrRace → AddrRace → Prop
  /-- `len(e.Address) > 0` on the first path: go on to read `Pubkey`. -/
  | readSet {r : AddrRace} {i : Nat} (hi : r.calls[i]? = some .start) (ha : r.address ≠ "") :
      Step r { r with calls := r.calls.set i (.readPubkey r.address) }
  /-- `Address` empty and the epoch about to expire: `epoch too old`. -/
  | tooOld {r : AddrRace} {i : Nat} (hi : r.calls[i]? = some .start) (ha : r.address = "") (ho : r.tooOld = true) :
      Step r { r with calls := r.calls.set i (.returned none) }
  /-- `Address` empty: release `epochMu` and go for `addrMu`. -/
  | readEmpty {r : AddrRace} {i : Nat} (hi : r.calls[i]? = some .start) (ha : r.address = "") (ho : r.tooOld = false) :
      Step r { r with calls := r.calls.set i .lock }
  /-- `pubkey := e.Pubkey`, and return. -/
  | readPubkey {r : AddrRace} {i : Nat} {a : String} (hi : r.calls[i]? = some (.readPubkey a)) :
      Step r { r with calls := r.calls.set i (.returned (some (a, r.pubkey))) }
  /-- `epoch.addrMu.Lock()`. -/
  | lock {r : AddrRace} {i : Nat} (hi : r.calls[i]? = some .lock) (hfree : r.holder = none) :
      Step r { r with holder := some i, calls := r.calls.set i .recheck }
  /-- Somebody beat us to it: return the stored pair and unlock. -/
  | recheckSet {r : AddrRace} {i : Nat} (hi : r.calls[i]? = some .recheck) (ha : r.address ≠ "") :
      Step r { r with holder := none, calls := r.calls.set i (.returned (some (r.address, r.pubkey))) }
  /-- `wallet.GetExtAddress` returns an address. -/
  | alloc {r : AddrRace} {i : Nat} (addr pkey : String) (hi : r.calls[i]? = some .recheck) (ha : r.address = "")
      (hne : addr ≠ "") :
      Step r { r with allocated := r.allocated ++ [(addr, pkey)], calls := r.calls.set i (.writeAddress addr pkey) }
  /-- `wallet.GetExtAddress` fails: return the error and unlock. -/
  | allocFail {r : AddrRace} {i : Nat} (hi : r.calls[i]? = some .recheck) (ha : r.address = "") :
      Step r { r with holder := none, calls := r.calls.set i (.returned none) }
  /-- `epoch.Address = addr`. -/
  | writeAddress {r : AddrRace} {i : Nat} {addr pkey : String} (hi : r.calls[i]? = some (.writeAddress addr pkey)) :
      Step r { r with address := addr, calls := r.calls.set i (.writePubkey addr pkey) }
  /-- `epoch.Pubkey = pkey`, return the pair and unlock. -/
  | writePubkey {r : AddrRace} {i : Nat} {addr pkey : String} (hi : r.calls[i]? = some (.writePubkey addr pkey)) :
      Step r { r with pubkey := pkey, holder := none, calls := r.calls.set i (.returned (some (addr, pkey))) }

/-- Whether a call is writing the epoch's fields. -/
def AddrPc.writing : AddrPc → Bool
  | .writeAddress _ _ | .writePubkey _ _ => true
  | _ => false

/-- The calls on an epoch that has no address yet, none of them started. -/
def AddrRace.init (tooOld : Bool) (k : Nat) : AddrRace := ⟨"", "", tooOld, none, [], List.replicate k .start⟩

/-! ## One allocation -/

/-- What every reachable state keeps. The calls past `addrMu.Lock` are exactly the lock's holder. Before the
allocation `Address` is empty and nobody writes. After the one allocation `(a, p)`, the writers write that pair,
and `Address` is `a` or is still empty while its write is pending. -/
structure AddrRace.Inv (r : AddrRace) : Prop where
  holder : ∀ i, r.holder = some i ↔ ∃ pc, r.calls[i]? = some pc ∧ pc.locked = true
  none_allocated : r.allocated = [] → r.address = "" ∧ ∀ pc ∈ r.calls, pc.writing = false
  one_allocated : ∀ a p, r.allocated = [(a, p)] → a ≠ "" ∧
    (∀ pc ∈ r.calls, pc.writing = true → pc = .writeAddress a p ∨ pc = .writePubkey a p) ∧
    (r.address = a ∨ r.address = "" ∧ .writeAddress a p ∈ r.calls)
  length : r.allocated.length ≤ 1

theorem AddrRace.Inv.init (tooOld : Bool) (k : Nat) : (AddrRace.init tooOld k).Inv where
  holder i := by simp [AddrRace.init, List.getElem?_replicate, AddrPc.locked]
  none_allocated _ := ⟨rfl, fun pc hpc => by rw [List.eq_of_mem_replicate hpc]; rfl⟩
  one_allocated a p h := by cases h
  length := by simp [AddrRace.init]

theorem getElem?_set_of {α : Type} {l : List α} {i j : Nat} {x y : α} (hi : l[i]? = some y) :
    (l.set i x)[j]? = if i = j then some x else l[j]? := by
  rw [List.getElem?_set, if_pos (List.getElem?_eq_some_iff.1 hi).1]

theorem mem_set_of_ne {α : Type} {l : List α} {i : Nat} {x y z : α} (hx : x ∈ l) (hi : l[i]? = some y) (hne : y ≠ x) :
    x ∈ l.set i z := by
  obtain ⟨j, hj⟩ := List.mem_iff_getElem?.1 hx
  have hij : i ≠ j := fun hij => hne (Option.some.inj (hi.symm.trans (hij ▸ hj)))
  exact List.mem_iff_getElem?.2 ⟨j, by rw [getElem?_set_of hi, if_neg hij, hj]⟩

/-- Two calls past the lock are one call. -/
theorem AddrRace.Inv.locked_eq {r : AddrRace} (h : r.Inv) {i j : Nat} {pc pc' : AddrPc} (hi : r.calls[i]? = some pc)
    (hj : r.calls[j]? = some pc') (hl : pc.locked = true) (hl' : pc'.locked = true) : i = j :=
  Option.some.inj (((h.holder i).2 ⟨pc, hi, hl⟩).symm.trans ((h.holder j).2 ⟨pc', hj, hl'⟩))

theorem AddrRace.Inv.holder_same {r : AddrRace} (h : r.Inv) {i : Nat} {pc pc' : AddrPc} (hi : r.calls[i]? = some pc)
    (hl : pc'.locked = pc.locked) (j : Nat) : r.holder = some j ↔ ∃ q, (r.calls.set i pc')[j]? = some q ∧ q.locked = true := by
  rw [h.holder j, getElem?_set_of hi]
  by_cases hij : i = j
  · subst hij; simp [hi, hl]
  · simp [hij]

theorem AddrRace.Inv.holder_lock {r : AddrRace} (h : r.Inv) {i : Nat} {pc pc' : AddrPc} (hi : r.calls[i]? = some pc)
    (hfree : r.holder = none) (hl : pc'.locked = true) (j : Nat) :
    some i = some j ↔ ∃ q, (r.calls.set i pc')[j]? = some q ∧ q.locked = true := by
  rw [getElem?_set_of hi]
  by_cases hij : i = j
  · subst hij; simp [hl]
  · have := (h.holder j).not.1 (by simp [hfree])
    simp_all

theorem AddrRace.Inv.holder_unlock {r : AddrRace} (h : r.Inv) {i : Nat} {pc pc' : AddrPc} (hi : r.calls[i]? = some pc)
    (hlk : pc.locked = true) (hl : pc'.locked = false) (j : Nat) :
    (none : Option Nat) = some j ↔ ∃ q, (r.calls.set i pc')[j]? = some q ∧ q.locked = true := by
  rw [getElem?_set_of hi]
  by_cases hij : i = j
  · subst hij; simp [hl]
  · simp only [hij, if_false, reduceCtorEq, false_iff, not_exists, not_and]
    exact fun q hq hq' => hij (h.locked_eq hi hq hlk hq')

/-- A step that leaves the allocations and `Address` alone and moves a call between counters that are not
writing. -/
theorem AddrRace.Inv.set {r : AddrRace} (h : r.Inv) {i : Nat} {pc : AddrPc} (hi : r.calls[i]? = some pc)
    (pc' : AddrPc) (pub : String) (holder' : Option Nat) (hw : pc.writing = false) (hw' : pc'.writing = false)
    (hh : ∀ j, holder' = some j ↔ ∃ q, (r.calls.set i pc')[j]? = some q ∧ q.locked = true) :
    ({ r with pubkey := pub, holder := holder', calls := r.calls.set i pc' } : AddrRace).Inv where
  holder := hh
  none_allocated ha := ⟨(h.none_allocated ha).1, fun q hq => by
    rcases List.mem_or_eq_of_mem_set hq with hq | rfl
    · exact (h.none_allocated ha).2 q hq
    · exact hw'⟩
  one_allocated a p ha := by
    obtain ⟨hne, hwr, haddr⟩ := h.one_allocated a p ha
    refine ⟨hne, fun q hq hqw => ?_, ?_⟩
    · rcases List.mem_or_eq_of_mem_set hq with hq | rfl
      · exact hwr q hq hqw
      · simp [hw'] at hqw
    · rcases haddr with haddr | ⟨haddr, hmem⟩
      · exact .inl haddr
      · exact .inr ⟨haddr, mem_set_of_ne hmem hi (by rintro rfl; simp [AddrPc.writing] at hw)⟩
  length := h.length

/-- A writing call writes the allocated pair. -/
theorem AddrRace.Inv.writer {r : AddrRace} (h : r.Inv) {i : Nat} {pc : AddrPc} (hi : r.calls[i]? = some pc)
    (hw : pc.writing = true) : ∃ a p, r.allocated = [(a, p)] ∧ (pc = .writeAddress a p ∨ pc = .writePubkey a p) := by
  have hmem := List.mem_iff_getElem?.2 ⟨i, hi⟩
  match hal : r.allocated, h.length with
  | [], _ => simp [(h.none_allocated hal).2 pc hmem] at hw
  | [(a, p)], _ => exact ⟨a, p, rfl, (h.one_allocated a p hal).2.1 pc hmem hw⟩

/-- The call holding the lock is the only one that can write `Address`: no other write of it is pending. -/
theorem AddrRace.Inv.no_pending_write {r : AddrRace} (h : r.Inv) {i : Nat} {pc : AddrPc} (hi : r.calls[i]? = some pc)
    (hl : pc.locked = true) (hpc : ∀ a p, pc ≠ .writeAddress a p) {a p : String}
    (hmem : AddrPc.writeAddress a p ∈ r.calls) : False := by
  obtain ⟨j, hj⟩ := List.mem_iff_getElem?.1 hmem
  obtain rfl := h.locked_eq hi hj hl rfl
  exact hpc a p (Option.some.inj (hi.symm.trans hj))

/-- **Every step keeps the invariant.** -/
theorem AddrRace.Inv.step {r r' : AddrRace} (h : r.Inv) (hs : AddrRace.Step r r') : r'.Inv := by
  cases hs with
  | readSet hi _ => exact h.set hi _ r.pubkey r.holder rfl rfl (h.holder_same hi rfl)
  | tooOld hi _ _ => exact h.set hi _ r.pubkey r.holder rfl rfl (h.holder_same hi rfl)
  | readEmpty hi _ _ => exact h.set hi _ r.pubkey r.holder rfl rfl (h.holder_same hi rfl)
  | readPubkey hi => exact h.set hi _ r.pubkey r.holder rfl rfl (h.holder_same hi rfl)
  | lock hi hfree => exact h.set hi _ r.pubkey _ rfl rfl (h.holder_lock hi hfree rfl)
  | recheckSet hi _ => exact h.set hi _ r.pubkey _ rfl rfl (h.holder_unlock hi rfl rfl)
  | allocFail hi _ => exact h.set hi _ r.pubkey _ rfl rfl (h.holder_unlock hi rfl rfl)
  | @alloc i addr pkey hi ha hne =>
    have hnil : r.allocated = [] := by
      match hal : r.allocated, h.length with
      | [], _ => rfl
      | [(a, p)], _ =>
        rcases (h.one_allocated a p hal).2.2 with haddr | ⟨-, hmem⟩
        · exact absurd (haddr ▸ ha) (h.one_allocated a p hal).1
        · exact (h.no_pending_write hi rfl (fun _ _ => nofun) hmem).elim
    refine ⟨h.holder_same hi rfl, fun hal => by simp at hal, fun a p hal => ?_, by simp [hnil]⟩
    simp only [hnil, List.nil_append, List.cons.injEq, Prod.mk.injEq, and_true] at hal
    obtain ⟨rfl, rfl⟩ := hal
    refine ⟨hne, fun q hq hqw => ?_, .inr ⟨ha, List.mem_iff_getElem?.2 ⟨i, by simp [getElem?_set_of hi]⟩⟩⟩
    rcases List.mem_or_eq_of_mem_set hq with hq | rfl
    · simp [(h.none_allocated hnil).2 q hq] at hqw
    · exact .inl rfl
  | @writeAddress i addr pkey hi =>
    obtain ⟨a, p, hal, hpc⟩ := h.writer hi rfl
    simp only [reduceCtorEq, or_false, AddrPc.writeAddress.injEq] at hpc
    obtain ⟨rfl, rfl⟩ := hpc
    obtain ⟨hne, hwr, -⟩ := h.one_allocated _ _ hal
    refine ⟨h.holder_same hi rfl, fun h' => by simp [hal] at h', fun a' p' hal' => ?_, h.length⟩
    rw [hal] at hal'
    simp only [List.cons.injEq, Prod.mk.injEq, and_true] at hal'
    obtain ⟨rfl, rfl⟩ := hal'
    refine ⟨hne, fun q hq hqw => ?_, .inl rfl⟩
    rcases List.mem_or_eq_of_mem_set hq with hq | rfl
    · exact hwr q hq hqw
    · exact .inr rfl
  | @writePubkey i addr pkey hi =>
    obtain ⟨a, p, hal, hpc⟩ := h.writer hi rfl
    simp only [reduceCtorEq, false_or, AddrPc.writePubkey.injEq] at hpc
    obtain ⟨rfl, rfl⟩ := hpc
    obtain ⟨hne, hwr, haddr⟩ := h.one_allocated _ _ hal
    have haddr : r.address = addr :=
      haddr.resolve_right fun ⟨_, hmem⟩ => h.no_pending_write hi rfl (fun _ _ => nofun) hmem
    refine ⟨h.holder_unlock hi rfl rfl, fun h' => by simp [hal] at h', fun a' p' hal' => ?_, h.length⟩
    rw [hal] at hal'
    simp only [List.cons.injEq, Prod.mk.injEq, and_true] at hal'
    obtain ⟨rfl, rfl⟩ := hal'
    refine ⟨hne, fun q hq hqw => ?_, .inl haddr⟩
    rcases List.mem_or_eq_of_mem_set hq with hq | rfl
    · exact hwr q hq hqw
    · simp [AddrPc.writing] at hqw

/-- **The wallet allocates at most once.** In every state reachable from calls on an epoch without an address,
`wallet.GetExtAddress` has returned at most one address, and the epoch's `Address`, once set, is that address. -/
theorem allocated_le_one {tooOld : Bool} {k : Nat} {r : AddrRace}
    (h : Relation.ReflTransGen AddrRace.Step (AddrRace.init tooOld k) r) :
    r.allocated.length ≤ 1 ∧ ∀ a p, r.allocated = [(a, p)] → r.address = a ∨ r.address = "" := by
  have hinv : r.Inv := by
    induction h with
    | refl => exact AddrRace.Inv.init tooOld k
    | tail _ hs ih => exact ih.step hs
  exact ⟨hinv.length, fun a p hal => (hinv.one_allocated a p hal).2.2.imp_right And.left⟩

/-! ## A torn read -/

/-- **A call can return an address with an empty key.** Two calls on an epoch without an address, not too old: the
first takes `addrMu`, gets `(a, p)` from the wallet and writes `Address`; the second, on the first path, reads
`Address = a` and then `Pubkey`, still empty, and returns `(a, "")`; the first then writes `Pubkey` and returns
`(a, p)`, the pair the epoch keeps. -/
theorem getEpochAddress_torn_read (a p : String) (ha : a ≠ "") :
    ∃ r, Relation.ReflTransGen AddrRace.Step (AddrRace.init false 2) r ∧
      r.calls = [.returned (some (a, p)), .returned (some (a, ""))] ∧ r.address = a ∧ r.pubkey = p ∧
      r.allocated = [(a, p)] := by
  exact ⟨_, .head (.readEmpty (i := 0) rfl rfl rfl) <| .head (.lock (i := 0) rfl rfl) <|
    .head (.alloc (i := 0) a p rfl rfl ha) <| .head (.writeAddress (i := 0) rfl) <| .head (.readSet (i := 1) rfl ha) <|
    .head (.readPubkey (i := 1) rfl) <| .head (.writePubkey (i := 0) rfl) .refl, rfl, rfl, rfl, rfl⟩

theorem getEpochAddress_torn_read_toy :
    ∃ r, Relation.ReflTransGen AddrRace.Step (AddrRace.init false 2) r ∧
      r.calls = [.returned (some ("Ds1", "02aa")), .returned (some ("Ds1", ""))] ∧ r.address = "Ds1" ∧
      r.pubkey = "02aa" ∧ r.allocated = [("Ds1", "02aa")] :=
  getEpochAddress_torn_read "Ds1" "02aa" (by decide)

end Tumblebit
