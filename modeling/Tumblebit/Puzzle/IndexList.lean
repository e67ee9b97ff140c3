import Tumblebit.Basic

/-!
# Index lists (`puzzle/puzzlelist.go`, `puzzle/faketx.go`)

Clients name the fake and the real positions of a cut-and-choose as lists of indices. On the wire a
list is a run of little-endian 16-bit words (`encodeIndexList`, `decodeIndexList`); a commitment to a
list is its salted BLAKE2s-256 hash (`hashIndexList`). A fake transaction hash is the BLAKE-256 hash of
a fixed prefix and a random pad (`fakeTxFormat`).
-/

namespace Tumblebit

/-- `binary.Write(buf, binary.LittleEndian, uint16(v))`. -/
def le16 (v : Nat) : Bytes := [UInt8.ofNat (v % 256), UInt8.ofNat (v / 256)]

/-- `EncodeIndexList`: fails at the first index outside `[0, 65535]`. -/
def encodeIndexList : List Int → Except String Bytes
  | [] => .ok []
  | i :: is =>
    if i < 0 ∨ 65535 < i then .error ("index out of bounds: " ++ toString i)
    else do
      let rest ← encodeIndexList is
      pure (le16 i.toNat ++ rest)

/-- The words of a byte string of even length, as `binary.Read` returns them until `io.EOF`. -/
def decodeWords : Bytes → List Nat
  | a :: b :: rest => (a.toNat + 256 * b.toNat) :: decodeWords rest
  | _ => []

/-- `DecodeIndexList`: a string of odd length is rejected, any other is a list of words. -/
def decodeIndexList (b : Bytes) : Except String (List Nat) :=
  if b.length % 2 ≠ 0 then .error ("bad list length: " ++ toString b.length)
  else .ok (decodeWords b)

/-- `HashIndexList`: the BLAKE2s-256 hash, keyed with the salt, of the encoded list. -/
def hashIndexList (C : Crypto) (salt : Bytes) (l : List Int) : Except String Bytes := do
  let buf ← encodeIndexList l
  if 32 < salt.length then throw "blake2s: invalid key size"
  pure (C.blake2s256 salt buf)

/-- The fixed prefix `"fakefakefake"` of a dummy transaction. -/
def fakePrefix : Bytes := [102, 97, 107, 101, 102, 97, 107, 101, 102, 97, 107, 101]

/-- `FakeTxFormat`: the hash of a dummy transaction with a known structure. -/
def fakeTxFormat (C : Crypto) (randomPad : Bytes) : Bytes := C.hashB (fakePrefix ++ randomPad)

theorem decodeIndexList_ok {b : Bytes} (h : b.length % 2 = 0) : decodeIndexList b = .ok (decodeWords b) := by
  simp [decodeIndexList, h]

theorem decodeWords_lt : ∀ (b : Bytes), ∀ v ∈ decodeWords b, v < 65536
  | a :: b :: rest, v, hv => by
    simp only [decodeWords, List.mem_cons] at hv
    rcases hv with rfl | hv
    · have := a.toNat_lt_size; have := b.toNat_lt_size; simp only [UInt8.size] at *; omega
    · exact decodeWords_lt rest v hv
  | [], _, hv => by simp [decodeWords] at hv
  | [_], _, hv => by simp [decodeWords] at hv

/-- Every decoded index fits a 16-bit word. -/
theorem decodeIndexList_lt {b : Bytes} {l : List Nat} (h : decodeIndexList b = .ok l) : ∀ v ∈ l, v < 65536 := by
  unfold decodeIndexList at h
  split at h
  · cases h
  · cases h; exact decodeWords_lt b

theorem le16_length (v : Nat) : (le16 v).length = 2 := rfl

/-- A word written by `le16` reads back. -/
theorem decodeWords_le16_append {v : Nat} (h : v < 65536) (rest : Bytes) :
    decodeWords (le16 v ++ rest) = v :: decodeWords rest := by
  simp only [le16, List.cons_append, List.nil_append, decodeWords, uint8_toNat_ofNat, List.cons.injEq, and_true]
  exact ⟨by omega, rfl⟩

/-- Decoding inverts encoding: an index list that encodes reads back as itself. -/
theorem decodeIndexList_encodeIndexList : ∀ {l : List Int} {b : Bytes}, encodeIndexList l = .ok b →
    decodeIndexList b = .ok (l.map Int.toNat)
  | [], b, h => by cases h; rfl
  | i :: is, b, h => by
    unfold encodeIndexList at h
    split at h
    · cases h
    · cases hr : encodeIndexList is with
      | error e => simp [hr] at h
      | ok rest =>
        simp only [hr, Except.ok_bind, pure, Except.pure, Except.ok.injEq] at h
        subst h
        have hd := decodeIndexList_encodeIndexList hr
        unfold decodeIndexList at hd ⊢
        split at hd
        · cases hd
        · injection hd with hd
          rw [List.length_append, le16_length, if_neg (by omega), decodeWords_le16_append (by omega), hd]
          simp only [List.map_cons, Except.ok.injEq, List.cons.injEq, and_true]

theorem decodeIndexList_le16 {v : Nat} (h : v < 65536) : decodeIndexList (le16 v) = .ok [v] := by
  simpa using decodeIndexList_encodeIndexList (l := [(v : Int)]) (by simp [encodeIndexList]; omega)

/-- `EncodeIndexList` fails exactly on a list with an index outside `[0, 65535]`. -/
theorem encodeIndexList_error_iff : ∀ l : List Int,
    (∃ e, encodeIndexList l = .error e) ↔ ∃ i ∈ l, i < 0 ∨ 65535 < i
  | [] => by simp [encodeIndexList]
  | i :: is => by
    by_cases hi : i < 0 ∨ 65535 < i
    · simp [encodeIndexList, hi]
    · simp only [List.mem_cons, exists_eq_or_imp, hi, false_or]
      rw [← encodeIndexList_error_iff is]
      cases h : encodeIndexList is <;> simp [encodeIndexList, hi, h]

theorem encodeIndexList_of {l : List Int} (h : ∀ i ∈ l, 0 ≤ i ∧ i ≤ 65535) : ∃ b, encodeIndexList l = .ok b := by
  cases he : encodeIndexList l with
  | ok b => exact ⟨b, rfl⟩
  | error e =>
    obtain ⟨i, hi, hout⟩ := (encodeIndexList_error_iff l).1 ⟨e, he⟩
    have := h i hi
    omega

theorem encodeIndexList_range {l : List Int} {b : Bytes} (h : encodeIndexList l = .ok b) :
    ∀ i ∈ l, 0 ≤ i ∧ i ≤ 65535 := fun i hi => by
  by_contra hout
  obtain ⟨e, he⟩ := (encodeIndexList_error_iff l).2 ⟨i, hi, by omega⟩
  rw [h] at he
  cases he

theorem encodeIndexList_length : ∀ {l : List Int} {b : Bytes}, encodeIndexList l = .ok b → b.length = 2 * l.length
  | [], b, h => by cases h; rfl
  | i :: is, b, h => by
    unfold encodeIndexList at h
    split at h
    · cases h
    · obtain ⟨rest, hr, hb⟩ := Except.bind_eq_ok.1 h
      cases hb
      simp only [List.length_append, le16_length, encodeIndexList_length hr, List.length_cons]
      omega

/-- `le16` writes back the two bytes a word was read from. -/
theorem le16_decode (a c : UInt8) : le16 (a.toNat + 256 * c.toNat) = [a, c] := by
  have ha := a.toNat_lt_size
  have hc := c.toNat_lt_size
  simp only [le16, List.cons.injEq, and_true, UInt8.size] at ha hc ⊢
  constructor <;> apply uint8_eq_of_toNat <;> simp only [uint8_toNat_ofNat] <;> omega

/-- Encoding inverts decoding on strings of even length. -/
theorem encodeIndexList_decodeWords : ∀ b : Bytes, b.length % 2 = 0 →
    encodeIndexList ((decodeWords b).map Int.ofNat) = .ok b
  | [], _ => rfl
  | [_], h => by simp at h
  | a :: c :: rest, h => by
    have ha := a.toNat_lt_size
    have hc := c.toNat_lt_size
    have hr : rest.length % 2 = 0 := by simp only [List.length_cons] at h; omega
    simp only [UInt8.size] at ha hc
    simp only [decodeWords, List.map_cons, encodeIndexList, Int.ofNat_eq_coe, encodeIndexList_decodeWords rest hr]
    rw [if_neg (by omega), Int.toNat_ofNat, le16_decode]
    rfl

/-- **The index-list codec.** Encoding fails exactly on an index outside `[0, 65535]` and otherwise writes two
bytes an index, which decode back to the list; decoding fails exactly on a string of odd length and otherwise
encodes back to the string. So the salted hash of a list depends on the list only through its encoding, and the
encoding is injective. -/
theorem index_list_codec (C : Crypto) (salt : Bytes) :
    (∀ l : List Int, ((∃ e, encodeIndexList l = .error e) ↔ ∃ i ∈ l, i < 0 ∨ 65535 < i) ∧
      ∀ b, encodeIndexList l = .ok b → b.length = 2 * l.length ∧ List.map Int.ofNat <$> decodeIndexList b = .ok l) ∧
    (∀ b : Bytes, ((∃ e, decodeIndexList b = .error e) ↔ b.length % 2 = 1) ∧
      ∀ l, decodeIndexList b = .ok l → encodeIndexList (l.map Int.ofNat) = .ok b) ∧
    (∀ l l', encodeIndexList l = encodeIndexList l' → hashIndexList C salt l = hashIndexList C salt l') ∧
    ∀ l l' b, encodeIndexList l = .ok b → encodeIndexList l' = .ok b → l = l' := by
  have decode_encode : ∀ l b, encodeIndexList l = .ok b → List.map Int.ofNat <$> decodeIndexList b = .ok l :=
    fun l b h => by
      rw [decodeIndexList_encodeIndexList h, Except.map_ok, List.map_map]
      conv_rhs => rw [← List.map_id l]
      exact congrArg _ (List.map_congr_left fun i hi => Int.toNat_of_nonneg (encodeIndexList_range h i hi).1)
  refine ⟨fun l => ⟨encodeIndexList_error_iff l, fun b h => ⟨encodeIndexList_length h, decode_encode l b h⟩⟩,
    fun b => ⟨?_, fun l h => ?_⟩, fun l l' h => by simp only [hashIndexList, h], fun l l' b h h' => ?_⟩
  · by_cases hb : b.length % 2 = 0 <;> simp [decodeIndexList, hb]; omega
  · unfold decodeIndexList at h
    split at h
    · cases h
    · cases h; exact encodeIndexList_decodeWords b (by omega)
  · have := (decode_encode l b h).symm.trans (decode_encode l' b h')
    exact Except.ok.inj this

end Tumblebit
