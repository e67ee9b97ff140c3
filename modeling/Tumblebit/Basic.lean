import Mathlib

/-!
# Byte strings, faults and the cryptographic primitives

The program moves byte strings (`[]byte`) between the client, the tumbler and the wallet, and reads
them as unsigned big-endian integers (`big.Int.SetBytes`, `big.Int.Bytes`). This module fixes:

* `Bytes` and the big-endian codec `setBytes`/`toBytes`, with `setBytes_toBytes` and the length bound
  `toBytes_length_le`;
* `Fault`, the two ways a Go call fails: a returned `error` or a run-time `panic`;
* `Crypto`, the hash functions and the XOF keystream the code takes from libraries (BLAKE-256,
  RIPEMD-160, keyed BLAKE2s-256, BLAKE2x), as parameters with the output lengths they guarantee.
-/

namespace Tumblebit

/-- A Go `[]byte`. A `nil` slice and an empty one are the same value for every function modelled here. -/
abbrev Bytes := List UInt8

/-! ## Faults -/

/-- How a Go call fails: it returns an `error`, or it panics and ends the process. -/
inductive Fault where
  | error (msg : String)
  | panic (msg : String)
  deriving DecidableEq, Repr

/-- `fmt.Errorf(prefix + "%v", err)`: wraps the text of a returned error, and lets a panic through. -/
def Fault.wrap (pre : String) : Fault → Fault
  | .error msg => .error (pre ++ msg)
  | .panic msg => .panic msg

@[simp] theorem Fault.wrap_panic (pre msg : String) : (Fault.panic msg).wrap pre = .panic msg := rfl

/-! ### Running `Except` -/

section ExceptRun

variable {ε ε' α β : Type}

@[simp] theorem Except.ok_bind (a : α) (f : α → Except ε β) : (Except.ok a >>= f) = f a := rfl

@[simp] theorem Except.error_bind (e : ε) (f : α → Except ε β) : (Except.error e >>= f) = .error e := rfl

@[simp] theorem Except.map_ok (f : α → β) (a : α) : (f <$> Except.ok a : Except ε β) = .ok (f a) := rfl

@[simp] theorem Except.mapError_ok (f : ε → ε') (a : α) : (Except.ok a : Except ε α).mapError f = .ok a := rfl

@[simp] theorem Except.mapError_error (f : ε → ε') (e : ε) : (Except.error e : Except ε α).mapError f = .error (f e) :=
  rfl

@[simp] theorem Except.throw_eq (e : ε) : (throw e : Except ε α) = .error e := rfl

@[simp] theorem Except.mapError_eq_ok {f : ε → ε'} {x : Except ε α} {a : α} : x.mapError f = .ok a ↔ x = .ok a := by
  cases x <;> simp

theorem Except.bind_eq_ok {x : Except ε α} {f : α → Except ε β} {b : β} :
    (x >>= f) = .ok b ↔ ∃ a, x = .ok a ∧ f a = .ok b := by
  cases x <;> simp

/-- Two lists related pointwise: the entry of the second at an index of the first. -/
theorem forall₂_getElem? {R : α → β → Prop} : ∀ {l₁ : List α} {l₂ : List β}, List.Forall₂ R l₁ l₂ →
    ∀ {i : Nat} {x : α}, l₁[i]? = some x → ∃ y, l₂[i]? = some y ∧ R x y
  | _, _, .nil, _, _, h => by simp at h
  | _, _, .cons hab _, 0, _, h => by
    simp only [List.getElem?_cons_zero, Option.some.injEq] at h
    exact ⟨_, List.getElem?_cons_zero, h ▸ hab⟩
  | _, _, .cons _ hl, i + 1, _, h => by simpa using forall₂_getElem? hl (by simpa using h)

/-- A loop `for i, x := range xs { ys[i], err = f(x) }` that returns succeeded at every element. -/
theorem mapM_eq_ok_iff {f : α → Except ε β} : ∀ {xs : List α} {ys : List β},
    xs.mapM f = .ok ys ↔ List.Forall₂ (fun x y => f x = .ok y) xs ys
  | [], [] => by simp only [List.mapM_nil, pure, Except.pure, List.Forall₂.nil, iff_true]
  | [], _ :: _ => by simp only [List.mapM_nil, pure, Except.pure, Except.ok.injEq, reduceCtorEq, false_iff]; rintro ⟨⟩
  | x :: xs, ys => by
    simp only [List.mapM_cons, Except.bind_eq_ok, pure, Except.pure, Except.ok.injEq, mapM_eq_ok_iff]
    cases ys with
    | nil => simp only [reduceCtorEq, and_false, exists_false, false_iff]; rintro ⟨⟩
    | cons y ys => simp [List.forall₂_cons]

/-- The same loop over a fallible call that reports failure as `nil`. -/
theorem mapM_eq_some_iff {f : α → Option β} : ∀ {xs : List α} {ys : List β},
    xs.mapM f = some ys ↔ List.Forall₂ (fun x y => f x = some y) xs ys
  | [], [] => by simp only [List.mapM_nil, pure, List.Forall₂.nil, iff_true]
  | [], _ :: _ => by simp only [List.mapM_nil, pure, Option.some.injEq, reduceCtorEq, false_iff]; rintro ⟨⟩
  | x :: xs, ys => by
    simp only [List.mapM_cons, Option.bind_eq_bind, Option.bind_eq_some, pure, Option.some.injEq, mapM_eq_some_iff]
    cases ys with
    | nil => simp only [reduceCtorEq, and_false, exists_false, false_iff]; rintro ⟨⟩
    | cons y ys => simp [List.forall₂_cons]

theorem mapM_isSome {f : α → Option β} : ∀ {xs : List α}, (∀ x ∈ xs, (f x).isSome) → ∃ ys, xs.mapM f = some ys
  | [], _ => ⟨[], rfl⟩
  | x :: xs, h => by
    obtain ⟨y, hy⟩ := Option.isSome_iff_exists.1 (h x (List.mem_cons_self _ _))
    obtain ⟨ys, hys⟩ := mapM_isSome fun z hz => h z (List.mem_cons_of_mem _ hz)
    exact ⟨y :: ys, by rw [List.mapM_cons, hy, hys]; rfl⟩

end ExceptRun

/-- The run-time panic of `xs[i]` out of range. -/
def indexPanic (i n : Nat) : Fault :=
  .panic ("runtime error: index out of range [" ++ toString i ++ "] with length " ++ toString n)

/-- The run-time panic of a field access through a `nil` pointer. -/
def nilPanic : Fault :=
  .panic "runtime error: invalid memory address or nil pointer dereference"

/-- `xs[i]`, which panics when `i` is out of range. -/
def goIndex {α : Type} (xs : List α) (i : Nat) : Except Fault α :=
  match xs[i]? with
  | some x => .ok x
  | none => .error (indexPanic i xs.length)

@[simp] theorem goIndex_eq_ok {α : Type} {xs : List α} {i : Nat} {x : α} : goIndex xs i = .ok x ↔ xs[i]? = some x := by
  unfold goIndex
  split <;> rename_i h <;> simp [h]

theorem goIndex_of_lt {α : Type} {xs : List α} {i : Nat} (h : i < xs.length) : goIndex xs i = .ok xs[i] := by
  simp [goIndex, h]

theorem goIndex_of_le {α : Type} {xs : List α} {i : Nat} (h : xs.length ≤ i) :
    goIndex xs i = .error (indexPanic i xs.length) := by
  simp [goIndex, List.getElem?_eq_none h]

/-- The loop `for i, idx := range l { ys[i] = xs[idx] }` runs through exactly when every index is in range. -/
theorem mapM_goIndex_ok_iff {α : Type} {xs : List α} : ∀ {l : List Nat},
    (∃ ys, l.mapM (goIndex xs) = .ok ys) ↔ ∀ i ∈ l, i < xs.length
  | [] => by simp only [List.mapM_nil, List.not_mem_nil, false_implies, implies_true, iff_true]; exact ⟨[], rfl⟩
  | i :: l => by
    rw [List.mapM_cons]
    simp only [Except.bind_eq_ok, List.mem_cons, forall_eq_or_imp, ← mapM_goIndex_ok_iff]
    constructor
    · rintro ⟨_, y, hy, ys, hys, -⟩
      exact ⟨(List.getElem?_eq_some_iff.1 (goIndex_eq_ok.1 hy)).1, ys, hys⟩
    · rintro ⟨hi, ys, hys⟩
      exact ⟨_, _, goIndex_of_lt hi, ys, hys, rfl⟩

/-! ## Big-endian integers -/

/-- Lets `simp` evaluate the byte value of a numeral opcode, `(76 : UInt8).toNat = 76 % UInt8.size`, to `76`. -/
@[simp] theorem uint8_size : UInt8.size = 256 := rfl

theorem uint8_toNat_ofNat (n : Nat) : (UInt8.ofNat n).toNat = n % 256 := rfl

theorem uint8_eq_of_toNat {a b : UInt8} (h : a.toNat = b.toNat) : a = b := UInt8.eq_of_val_eq (Fin.ext h)

theorem uint8_ofNat_toNat (x : UInt8) : UInt8.ofNat x.toNat = x := uint8_eq_of_toNat (Nat.mod_eq_of_lt x.toBitVec.isLt)

/-- `new(big.Int).SetBytes(b)`: the unsigned big-endian value of `b`. -/
def setBytes (b : Bytes) : Nat := b.foldl (fun acc x => acc * 256 + x.toNat) 0

/-- The minimal big-endian digits of `n`, with `fuel` bounding the number of digits. -/
def toBytesAux : Nat → Nat → Bytes
  | 0, _ => []
  | fuel + 1, n => if n = 0 then [] else toBytesAux fuel (n / 256) ++ [UInt8.ofNat (n % 256)]

/-- `z.Bytes()`: the minimal big-endian encoding of `n`, empty for `0`. -/
def toBytes (n : Nat) : Bytes := toBytesAux n n

theorem setBytes_append_byte (b : Bytes) (x : UInt8) : setBytes (b ++ [x]) = setBytes b * 256 + x.toNat := by
  simp [setBytes, List.foldl_append]

theorem setBytes_toBytesAux : ∀ fuel n, n ≤ fuel → setBytes (toBytesAux fuel n) = n
  | 0, n, h => by simp [toBytesAux, setBytes]; omega
  | fuel + 1, n, h => by
    by_cases hn : n = 0
    · simp [toBytesAux, hn, setBytes]
    · have hd : n / 256 ≤ fuel := by omega
      rw [toBytesAux, if_neg hn, setBytes_append_byte, setBytes_toBytesAux fuel _ hd,
        UInt8.toNat_ofNat_of_lt (Nat.mod_lt _ (by decide))]
      simp only [UInt8.size]
      omega

@[simp] theorem setBytes_toBytes (n : Nat) : setBytes (toBytes n) = n :=
  setBytes_toBytesAux n n le_rfl

theorem toBytes_injective {m n : Nat} (h : toBytes m = toBytes n) : m = n := by
  rw [← setBytes_toBytes m, h, setBytes_toBytes]

@[simp] theorem toBytes_inj {m n : Nat} : toBytes m = toBytes n ↔ m = n :=
  ⟨toBytes_injective, congrArg _⟩

theorem toBytesAux_length_le : ∀ fuel n k, n < 256 ^ k → (toBytesAux fuel n).length ≤ k
  | 0, _, _, _ => by simp [toBytesAux]
  | fuel + 1, n, k, h => by
    by_cases hn : n = 0
    · simp [toBytesAux, hn]
    · cases k with
      | zero => simp at h; omega
      | succ k =>
        have hk : n / 256 < 256 ^ k := by rw [Nat.pow_succ] at h; omega
        simp only [toBytesAux, if_neg hn, List.length_append, List.length_singleton]
        have := toBytesAux_length_le fuel (n / 256) k hk
        omega

/-- A value below `256^k` has at most `k` bytes. -/
theorem toBytes_length_le {n k : Nat} (h : n < 256 ^ k) : (toBytes n).length ≤ k :=
  toBytesAux_length_le n n k h

/-- `k` bytes hold values below `256^k`. -/
theorem setBytes_lt (b : Bytes) : setBytes b < 256 ^ b.length := by
  induction b using List.reverseRecOn with
  | nil => simp [setBytes]
  | append_singleton b x ih =>
    have hx : x.toNat < 256 := x.toNat_lt_size
    rw [setBytes_append_byte, List.length_append, List.length_singleton, Nat.pow_succ]
    omega

/-- A value of at least `256^k` has more than `k` bytes. -/
theorem lt_length_toBytes {n k : Nat} (h : 256 ^ k ≤ n) : k < (toBytes n).length := by
  have := setBytes_lt (toBytes n)
  rw [setBytes_toBytes] at this
  exact (Nat.pow_lt_pow_iff_right (by decide)).1 (Nat.lt_of_le_of_lt h this)

/-- `subtle.ConstantTimeCompare(x, y) == 1`: the two slices are equal. -/
def constantTimeCompare (x y : Bytes) : Bool := x == y

@[simp] theorem constantTimeCompare_iff (x y : Bytes) : constantTimeCompare x y = true ↔ x = y := by
  simp [constantTimeCompare]

/-! ## Hash functions and the keystream -/

/-- The primitives the code takes from libraries, with the output lengths they guarantee. -/
structure Crypto where
  /-- `chainhash.HashB`, BLAKE-256. -/
  hashB : Bytes → Bytes
  hashB_length : ∀ b, (hashB b).length = 32
  /-- `ripemd160`, the digest of `OP_RIPEMD160`. -/
  ripemd160 : Bytes → Bytes
  ripemd160_length : ∀ b, (ripemd160 b).length = 20
  /-- `blake2s.New256(key)` fed with a message: keyed BLAKE2s-256, defined for keys of at most 32 bytes. -/
  blake2s256 : Bytes → Bytes → Bytes
  /-- The keystream of `blake2s.NewXOF(len, key)` after writing `rest`: `len` bytes. -/
  xofStream : Nat → Bytes → Bytes → Bytes
  xofStream_length : ∀ n k r, (xofStream n k r).length = n

/-- `dcrutil.Hash160`: RIPEMD-160 of BLAKE-256. -/
def Crypto.hash160 (C : Crypto) (b : Bytes) : Bytes := C.ripemd160 (C.hashB b)

end Tumblebit
