import Tumblebit.Contract.Contract

/-!
# Built scripts as the parser and the engine read them

- what a successful `buildScript` writes: the encoding of each builder call, every push within the
  element-size limit (`buildScript_ok`);
- the parser reads a built script back as the calls that built it (`parseScript_buildScript`), as long as no
  opcode added with `AddOp` is a push opcode;
- the engine runs a script of pushes by pushing each datum, `[0]` read back as the empty array
  (`execScript_pushOps`);
- the P2SH output script of a 20-byte hash parses to `OP_HASH160 <h> OP_EQUAL` and leaves `1` on a stack whose
  top hashes to `h` (`execScript_payToScriptHash`).
-/

namespace Tumblebit

/-! ## What the builder writes -/

/-- The bytes a builder call appends when it succeeds. -/
def BuildItem.encode : BuildItem → Bytes
  | .op o => [o]
  | .data d => pushData d
  | .int v =>
    if v = 0 then [OP_0] else if v = -1 then [OP_1NEGATE]
    else if 1 ≤ v ∧ v ≤ 16 then [UInt8.ofNat (OP_1.toNat - 1 + v.toNat)] else pushData (scriptNumBytes v)

/-- The element-size limit of `AddData`, met by every push a successful build made. -/
def BuildItem.Fits : BuildItem → Prop
  | .op _ => True
  | .data d => d.length ≤ maxScriptElementSize
  | .int v => ¬ (v = 0 ∨ v = -1 ∨ (1 ≤ v ∧ v ≤ 16)) → (scriptNumBytes v).length ≤ maxScriptElementSize

/-- Once a call failed, the builder ignores every later call. -/
theorem ScriptBuilder.add_of_err {b : ScriptBuilder} (h : b.err.isSome) (i : BuildItem) : b.add i = b := by
  cases i <;> simp [ScriptBuilder.add, ScriptBuilder.addOp, ScriptBuilder.addData, ScriptBuilder.addInt64, h]

theorem ScriptBuilder.foldl_of_err {b : ScriptBuilder} (h : b.err.isSome) (items : List BuildItem) :
    items.foldl ScriptBuilder.add b = b := by
  induction items with
  | nil => rfl
  | cons i is ih => rw [List.foldl_cons, ScriptBuilder.add_of_err h, ih]

/-- A builder with no error yet. -/
theorem ScriptBuilder.err_none_of_add {b : ScriptBuilder} {i : BuildItem} (h : (b.add i).err = none) : b.err = none := by
  by_contra hn
  rw [ScriptBuilder.add_of_err (Option.ne_none_iff_isSome.1 hn)] at h
  exact hn h

theorem ScriptBuilder.addData_ok {b : ScriptBuilder} {d : Bytes} (h : (b.addData d).err = none) :
    b.err = none ∧ (b.addData d).script = b.script ++ pushData d ∧ d.length ≤ maxScriptElementSize := by
  have h₀ : b.err = none := ScriptBuilder.err_none_of_add (i := .data d) h
  have h₁ : b.err.isSome = false := by simp [h₀]
  unfold ScriptBuilder.addData at h ⊢
  by_cases h₂ : maxScriptSize < b.script.length + (pushData d).length
  · simp [h₁, h₂] at h
  by_cases h₃ : maxScriptElementSize < d.length
  · simp [h₁, h₂, h₃] at h
  simp only [h₁, h₂, h₃, Bool.false_eq_true, if_false, true_and]
  exact ⟨h₀, Nat.le_of_not_lt h₃⟩

/-- A call that leaves no error appends its bytes, within the limits. -/
theorem ScriptBuilder.add_ok {b : ScriptBuilder} {i : BuildItem} (h : (b.add i).err = none) :
    b.err = none ∧ (b.add i).script = b.script ++ i.encode ∧ i.Fits := by
  have h₀ : b.err = none := ScriptBuilder.err_none_of_add h
  have h₁ : b.err.isSome = false := by simp [h₀]
  cases i with
  | op o =>
    simp only [ScriptBuilder.add, ScriptBuilder.addOp, h₁, Bool.false_eq_true, if_false] at h ⊢
    by_cases h₂ : maxScriptSize < b.script.length + 1
    · simp [h₂] at h
    simp [h₂, h₀, BuildItem.encode, BuildItem.Fits]
  | data d => exact ScriptBuilder.addData_ok h
  | int v =>
    simp only [ScriptBuilder.add, ScriptBuilder.addInt64, h₁, Bool.false_eq_true, if_false] at h ⊢
    by_cases h₂ : maxScriptSize < b.script.length + 9
    · simp [h₂] at h
    simp only [h₂, if_false, BuildItem.encode, BuildItem.Fits] at h ⊢
    by_cases h₃ : v = 0
    · simp [h₃, h₀]
    by_cases h₄ : v = -1
    · simp [h₄, h₀]
    by_cases h₅ : 1 ≤ v ∧ v ≤ 16
    · simp [h₃, h₄, h₅, h₀]
    simp only [h₃, h₄, h₅, if_false] at h ⊢
    obtain ⟨-, hs, hd⟩ := ScriptBuilder.addData_ok h
    exact ⟨h₀, hs, fun _ => hd⟩

theorem ScriptBuilder.foldl_ok {items : List BuildItem} {b : ScriptBuilder}
    (h : (items.foldl ScriptBuilder.add b).err = none) :
    (items.foldl ScriptBuilder.add b).script = b.script ++ (items.map BuildItem.encode).flatten ∧
      ∀ i ∈ items, i.Fits := by
  induction items generalizing b with
  | nil => simp
  | cons i is ih =>
    rw [List.foldl_cons] at h ⊢
    have hi : (b.add i).err = none := by
      by_contra hn
      rw [ScriptBuilder.foldl_of_err (Option.ne_none_iff_isSome.1 hn)] at h
      exact hn h
    obtain ⟨-, hs, hf⟩ := ScriptBuilder.add_ok hi
    obtain ⟨hs', hfs⟩ := ih h
    refine ⟨by simp [hs', hs], ?_⟩
    rintro j (_ | ⟨_, hj⟩)
    exacts [hf, hfs j hj]

/-- A script the builder produced is its calls' bytes, each push within the limit. -/
theorem buildScript_ok {items : List BuildItem} {s : Bytes} (h : buildScript items = .ok s) :
    s = (items.map BuildItem.encode).flatten ∧ ∀ i ∈ items, i.Fits := by
  unfold buildScript ScriptBuilder.finish at h
  split at h
  · cases h
  · rename_i hn
    cases h
    simpa [ScriptBuilder.new] using ScriptBuilder.foldl_ok hn

/-! ## What the parser reads back -/

/-- The opcode the parser reads from the canonical push of `data`: `OP_0` for the empty array and for
`[0]`, `OP_1` to `OP_16` and `OP_1NEGATE` for those single bytes, a push otherwise. -/
def pushOp (data : Bytes) : Op :=
  match data with
  | [] => .push OP_0 []
  | [x] =>
    if x = 0 then .push OP_0 []
    else if x.toNat ≤ 16 then .code (UInt8.ofNat (OP_1.toNat - 1 + x.toNat))
    else if x = 0x81 then .code OP_1NEGATE
    else .push 1 [x]
  | _ =>
    .push (if data.length < OP_PUSHDATA1.toNat then UInt8.ofNat data.length else if data.length ≤ 0xff then OP_PUSHDATA1
      else if data.length ≤ 0xffff then OP_PUSHDATA2 else OP_PUSHDATA4) data

/-- The opcode the parser reads from what a builder call appended. -/
def BuildItem.parsed : BuildItem → Op
  | .op o => .code o
  | .data d => pushOp d
  | .int v =>
    if v = 0 then .push OP_0 [] else if v = -1 then .code OP_1NEGATE
    else if 1 ≤ v ∧ v ≤ 16 then .code (UInt8.ofNat (OP_1.toNat - 1 + v.toNat)) else pushOp (scriptNumBytes v)

@[simp] theorem BuildItem.parsed_op (o : UInt8) : BuildItem.parsed (.op o) = .code o := rfl

@[simp] theorem BuildItem.parsed_data (d : Bytes) : BuildItem.parsed (.data d) = pushOp d := rfl

@[simp] theorem parseAux_nil (fuel : Nat) : parseAux fuel [] = .ok [] := by
  cases fuel <;> rfl

theorem parseAux_step {fuel : Nat} {op : UInt8} {rest rest' : Bytes} {o : Op} (h : parseOne op rest = .ok (o, rest')) :
    parseAux (fuel + 1) (op :: rest) = (parseAux fuel rest').map (o :: ·) := by
  simp only [parseAux, h, bind, Except.bind]
  cases parseAux fuel rest' <;> rfl

/-- An opcode byte above the push opcodes is read as itself. -/
theorem parseOne_code {op : UInt8} (ho : 0x4e < op.toNat) (rest : Bytes) : parseOne op rest = .ok (.code op, rest) := by
  have h₀ : op ≠ OP_0 := fun h => by simp [h, OP_0] at ho
  have h₁ : op ≠ OP_PUSHDATA1 := fun h => by simp [h, OP_PUSHDATA1] at ho
  have h₂ : op ≠ OP_PUSHDATA2 := fun h => by simp [h, OP_PUSHDATA2] at ho
  have h₄ : op ≠ OP_PUSHDATA4 := fun h => by simp [h, OP_PUSHDATA4] at ho
  have hl : ¬ op.toNat < OP_PUSHDATA1.toNat := by simp [OP_PUSHDATA1]; omega
  simp [parseOne, h₀, h₁, h₂, h₄, hl]

theorem leValue_leBytes_two {n : Nat} (h : n < 65536) : leValue (leBytes 2 n) = n := by
  simp only [leBytes, leValue, List.foldr, uint8_toNat_ofNat]
  omega

theorem OP_1_toNat : OP_1.toNat = 81 := rfl

theorem OP_PUSHDATA1_toNat : OP_PUSHDATA1.toNat = 76 := rfl

/-- A direct push: the opcode is the length. -/
theorem parseOne_direct {op : UInt8} {d : Bytes} (h0 : op ≠ OP_0) (hlt : op.toNat < OP_PUSHDATA1.toNat)
    (hn : op.toNat = d.length) (rest : Bytes) : parseOne op (d ++ rest) = .ok (.push op d, rest) := by
  rw [parseOne, if_neg h0, if_pos hlt, takePush, if_neg (by simp [hn]), hn, List.take_left', List.drop_left'] <;> rfl

/-- The parser reads the canonical push of `data` back as `pushOp data`. -/
theorem parseAux_pushData {d : Bytes} (hd : d.length ≤ 0xffff) (fuel : Nat) (rest : Bytes) :
    parseAux (fuel + 1) (pushData d ++ rest) = (parseAux fuel rest).map (pushOp d :: ·) := by
  rcases d with _ | ⟨x, _ | ⟨y, t⟩⟩
  · exact parseAux_step (by simp [parseOne, pushOp])
  · by_cases h0 : x = 0
    · simp only [pushData, pushOp, h0, if_true, List.singleton_append]
      exact parseAux_step (by simp [parseOne])
    by_cases h16 : x.toNat ≤ 16
    · have hx : 0 < x.toNat := Nat.pos_of_ne_zero fun h => h0 (uint8_eq_of_toNat h)
      simp only [pushData, pushOp, h0, h16, if_false, if_true, List.singleton_append]
      exact parseAux_step (parseOne_code (by simp [uint8_toNat_ofNat, OP_1]; omega) _)
    by_cases h81 : x = 0x81
    · simp only [pushData, pushOp, h0, h16, h81, if_false, if_true, List.singleton_append]
      exact parseAux_step (parseOne_code (by decide) _)
    simp only [pushData, pushOp, h0, h16, h81, if_false, List.cons_append, List.nil_append]
    exact parseAux_step (@parseOne_direct 1 [x] (by decide) (by decide) rfl rest)
  · set d := x :: y :: t with hdef
    have h2 : 2 ≤ d.length := by simp [hdef]
    simp only [pushData, pushOp]
    by_cases h1 : d.length < OP_PUSHDATA1.toNat
    · have hn : (UInt8.ofNat d.length).toNat = d.length := by
        rw [OP_PUSHDATA1_toNat] at h1
        rw [uint8_toNat_ofNat]; omega
      simp only [h1, if_true, List.singleton_append]
      refine parseAux_step (parseOne_direct (fun h => ?_) (by rw [hn]; exact h1) hn rest)
      have := congrArg UInt8.toNat h
      rw [hn] at this
      simp [OP_0] at this
    by_cases h255 : d.length ≤ 0xff
    · simp only [h1, h255, if_false, if_true, List.cons_append, List.nil_append]
      refine parseAux_step ?_
      have hn : leValue [UInt8.ofNat d.length] = d.length := by simp [leValue, uint8_toNat_ofNat]; omega
      simp [parseOne, OP_0, OP_PUSHDATA1, takePush, hn]
    · simp only [h1, h255, hd, if_false, if_true, List.cons_append, List.nil_append, List.append_assoc]
      refine parseAux_step ?_
      have hl : (leBytes 2 d.length).length = 2 := rfl
      simp [parseOne, OP_0, OP_PUSHDATA1, OP_PUSHDATA2, takePush, hl, List.take_left', List.drop_left',
        leValue_leBytes_two (show d.length < 65536 by omega)]

/-- A builder call the parser can read back: within the size limit, and, for an opcode, not a push opcode. -/
def BuildItem.Readable (i : BuildItem) : Prop := i.Fits ∧ ∀ o, i = .op o → 0x4e < o.toNat

theorem pushData_ne_nil (d : Bytes) : pushData d ≠ [] := by
  unfold pushData
  split
  · simp
  · split_ifs <;> simp
  · dsimp only
    split_ifs <;> simp

theorem BuildItem.encode_ne_nil (i : BuildItem) : i.encode ≠ [] := by
  cases i with
  | op o => simp [BuildItem.encode]
  | data d => exact pushData_ne_nil d
  | int v =>
    simp only [BuildItem.encode]
    split_ifs
    · simp
    · simp
    · simp
    · exact pushData_ne_nil _

/-- The parser reads each builder call back as its opcode. -/
theorem parseAux_encode {i : BuildItem} (hi : i.Readable) (fuel : Nat) (rest : Bytes) :
    parseAux (fuel + 1) (i.encode ++ rest) = (parseAux fuel rest).map (i.parsed :: ·) := by
  obtain ⟨hf, ho⟩ := hi
  have hmax : maxScriptElementSize ≤ 0xffff := by decide
  cases i with
  | op o => exact parseAux_step (parseOne_code (ho o rfl) rest)
  | data d => exact parseAux_pushData (Nat.le_trans hf hmax) fuel rest
  | int v =>
    simp only [BuildItem.encode, BuildItem.parsed]
    by_cases h0 : v = 0
    · simp only [h0, if_true]
      exact parseAux_pushData (d := []) (by decide) fuel rest
    by_cases h1 : v = -1
    · simp only [h0, h1, if_false, if_true]
      exact parseAux_step (parseOne_code (by decide) rest)
    by_cases h16 : 1 ≤ v ∧ v ≤ 16
    · simp only [h0, h1, h16, and_self, if_false, if_true, List.singleton_append]
      exact parseAux_step (parseOne_code (by simp only [uint8_toNat_ofNat, OP_1_toNat]; omega) rest)
    simp only [h0, h1, h16, if_false]
    exact parseAux_pushData (Nat.le_trans (hf (by simp only [not_or]; exact ⟨h0, h1, h16⟩)) hmax) fuel rest

theorem parseAux_encodes {items : List BuildItem} (h : ∀ i ∈ items, i.Readable) {fuel : Nat} (hf : items.length ≤ fuel)
    (rest : Bytes) :
    parseAux fuel ((items.map BuildItem.encode).flatten ++ rest) =
      (parseAux (fuel - items.length) rest).map (items.map BuildItem.parsed ++ ·) := by
  induction items generalizing fuel with
  | nil =>
    simp only [List.map_nil, List.flatten_nil, List.nil_append, List.length_nil, Nat.sub_zero]
    cases parseAux fuel rest <;> rfl
  | cons i is ih =>
    obtain ⟨k, rfl⟩ : ∃ k, fuel = k + 1 := ⟨fuel - 1, by simp at hf; omega⟩
    rw [List.map_cons, List.flatten_cons, List.append_assoc, parseAux_encode (h i (List.mem_cons_self _ _)),
      ih (fun j hj => h j (List.mem_cons_of_mem _ hj)) (by simp at hf; omega)]
    simp only [List.length_cons, Nat.add_sub_add_right, List.map_cons]
    cases parseAux (k - is.length) rest <;> rfl

theorem length_le_flatten_encode (items : List BuildItem) : items.length ≤ (items.map BuildItem.encode).flatten.length := by
  induction items with
  | nil => simp
  | cons i is ih =>
    have := List.length_pos.2 i.encode_ne_nil
    simp only [List.length_cons, List.map_cons, List.flatten_cons, List.length_append]
    omega

/-- The parser reads a built script back as the opcodes of its calls. -/
theorem parseScript_buildScript {items : List BuildItem} {s : Bytes} (h : buildScript items = .ok s)
    (hops : ∀ o, BuildItem.op o ∈ items → 0x4e < o.toNat) : parseScript s = .ok (items.map BuildItem.parsed) := by
  obtain ⟨rfl, hfits⟩ := buildScript_ok h
  have hr := parseAux_encodes (fun i hi => ⟨hfits i hi, fun o ho => hops o (ho ▸ hi)⟩)
    (length_le_flatten_encode items) []
  rw [List.append_nil] at hr
  rw [parseScript, hr, parseAux_nil]
  simp [Except.map]

/-! ## What the engine pushes -/

/-- What the canonical push of `data` leaves on the stack: `OP_0` pushes the empty array for `[0]`. -/
def pushed (data : Bytes) : Bytes := if data = [0] then [] else data

/-- A small-integer opcode pushes its value. -/
theorem execOp_smallInt {C : Crypto} {chk : SigCheck} {ec : ExecCtx} {vm : VM} {x : UInt8} (hx : vm.executing = true)
    (h1 : 1 ≤ x.toNat) (h16 : x.toNat ≤ 16) :
    execOp C chk ec vm (.code (UInt8.ofNat (OP_1.toNat - 1 + x.toNat))) = .ok (vm.push [x]) := by
  have hb : (UInt8.ofNat (OP_1.toNat - 1 + x.toNat)).toNat = 80 + x.toNat := by
    simp only [uint8_toNat_ofNat, OP_1_toNat]; omega
  have hne : ∀ c : UInt8, c.toNat < 81 ∨ 96 < c.toNat → UInt8.ofNat (OP_1.toNat - 1 + x.toNat) ≠ c :=
    fun c hc h => by rw [← h, hb] at hc; omega
  simp only [execOp, hne OP_IF (by decide), hne OP_NOTIF (by decide), hne OP_ELSE (by decide),
    hne OP_ENDIF (by decide), or_self, if_false, hx, if_true, execCode, hne OP_1NEGATE (by decide)]
  have hle : OP_1 ≤ UInt8.ofNat (OP_1.toNat - 1 + x.toNat) ∧ UInt8.ofNat (OP_1.toNat - 1 + x.toNat) ≤ OP_16 := by
    constructor
    · show OP_1.toNat ≤ (UInt8.ofNat _).toNat
      rw [hb, OP_1_toNat]; omega
    · show (UInt8.ofNat _).toNat ≤ OP_16.toNat
      rw [hb]; simp [OP_16]; omega
  rw [if_pos hle, hb, OP_1_toNat, show 80 + x.toNat - 81 + 1 = x.toNat by omega, uint8_ofNat_toNat]

/-- In an executing branch, the parsed canonical push of `data` pushes `pushed data`. -/
theorem execOp_pushOp {C : Crypto} {chk : SigCheck} {ec : ExecCtx} {vm : VM} {d : Bytes}
    (hd : d.length ≤ maxScriptElementSize) (hx : vm.executing = true) :
    execOp C chk ec vm (pushOp d) = .ok (vm.push (pushed d)) := by
  rcases d with _ | ⟨x, _ | ⟨y, t⟩⟩
  · simp [pushOp, execOp, hx, minimalPush, pushed]
  · by_cases h0 : x = 0
    · simp [pushOp, h0, execOp, hx, minimalPush, pushed]
    by_cases h16 : x.toNat ≤ 16
    · have h1 : 1 ≤ x.toNat := Nat.pos_of_ne_zero fun h => h0 (uint8_eq_of_toNat h)
      simp only [pushOp, h0, h16, if_false, if_true, pushed, List.cons.injEq, and_true]
      exact execOp_smallInt hx h1 h16
    by_cases h81 : x = 0x81
    · subst h81
      simp [pushOp, execOp, hx, execCode, pushed, OP_1NEGATE, OP_IF, OP_NOTIF, OP_ELSE, OP_ENDIF]
    have hm : minimalPush 1 [x] = true := by
      simp only [minimalPush, h81, if_false]
      rw [if_neg (by omega)]
      rfl
    simp [pushOp, h0, h16, h81, execOp, hx, hm, pushed, maxScriptElementSize]
  · set d := x :: y :: t with hdef
    have h2 : 2 ≤ d.length := by simp [hdef]
    have hne : d ≠ [0] := by simp [hdef]
    have hm : minimalPush (if d.length < OP_PUSHDATA1.toNat then UInt8.ofNat d.length else if d.length ≤ 0xff then
        OP_PUSHDATA1 else if d.length ≤ 0xffff then OP_PUSHDATA2 else OP_PUSHDATA4) d = true := by
      have hmax : d.length ≤ 2048 := hd
      rw [OP_PUSHDATA1_toNat]
      simp only [minimalPush, hdef]
      by_cases h75 : d.length < 76
      · simp only [← hdef, h75, if_true, uint8_toNat_ofNat, show d.length ≤ 75 by omega]
        simp; omega
      · simp only [← hdef, h75, if_false, show ¬ d.length ≤ 75 by omega]
        by_cases h255 : d.length ≤ 255
        · simp [h255]
        · simp [h255, show d.length ≤ 65535 by omega]
    simp only [pushOp, execOp, hx, Bool.not_true, Bool.false_eq_true, if_false, pushed, hne]
    rw [if_neg (Nat.not_lt.2 hd), hm]
    rfl

/-- The operations `opCount` counts: the opcodes above `OP_16`. -/
theorem opCount_append (a b : List Op) : opCount (a ++ b) = opCount a + opCount b := by
  simp [opCount, List.filter_append]

theorem opCount_code (o : UInt8) : opCount [.code o] = if OP_16 < o then 1 else 0 := by
  by_cases h : OP_16 < o <;> simp [opCount, h]

theorem opCount_pushOp (d : Bytes) : opCount [pushOp d] = 0 := by
  rcases d with _ | ⟨x, _ | ⟨y, t⟩⟩
  · rfl
  · simp only [pushOp]
    split_ifs with h0 h16
    · rfl
    · rw [opCount_code, if_neg]
      show ¬ OP_16.toNat < (UInt8.ofNat _).toNat
      simp only [uint8_toNat_ofNat, OP_1_toNat, OP_16]
      simp; omega
    · rw [opCount_code, if_neg (by decide)]
    · rfl
  · rfl

theorem opCount_pushOps (ds : List Bytes) : opCount (ds.map pushOp) = 0 := by
  induction ds with
  | nil => rfl
  | cons d ds ih => rw [List.map_cons, ← List.singleton_append, opCount_append, opCount_pushOp, ih]

theorem pushOp_isPush (d : Bytes) : (pushOp d).isPush = true := by
  rcases d with _ | ⟨x, _ | ⟨y, t⟩⟩
  · rfl
  · simp only [pushOp]
    split_ifs with h0 h16
    · rfl
    · have : 0 < x.toNat := Nat.pos_of_ne_zero fun h => h0 (uint8_eq_of_toNat h)
      simp only [Op.isPush, Bool.or_eq_true, Bool.and_eq_true, decide_eq_true_eq]
      refine .inr ⟨?_, ?_⟩
      · show OP_1.toNat ≤ (UInt8.ofNat _).toNat
        simp only [uint8_toNat_ofNat, OP_1_toNat]; omega
      · show (UInt8.ofNat _).toNat ≤ OP_16.toNat
        simp only [uint8_toNat_ofNat, OP_1_toNat, OP_16]; simp; omega
    · rfl
    · rfl
  · rfl

/-- A run of canonical pushes from an executing state pushes each in turn. -/
theorem foldlM_pushOps {C : Crypto} {chk : SigCheck} {ec : ExecCtx} {ds : List Bytes}
    (hds : ∀ d ∈ ds, d.length ≤ maxScriptElementSize) (stk : List Bytes) :
    (ds.map pushOp).foldlM (execOp C chk ec) ⟨stk, []⟩ = .ok ⟨(ds.map pushed).reverse ++ stk, []⟩ := by
  induction ds generalizing stk with
  | nil => rfl
  | cons d ds ih =>
    rw [List.map_cons, List.foldlM_cons, @execOp_pushOp _ _ _ ⟨stk, []⟩ _ (hds d (List.mem_cons_self _ _)) rfl,
      Except.ok_bind]
    rw [show VM.push ⟨stk, []⟩ (pushed d) = ⟨pushed d :: stk, []⟩ from rfl,
      ih (fun e he => hds e (List.mem_cons_of_mem _ he))]
    simp

theorem execScript_pushOps {C : Crypto} {chk : SigCheck} {tx : MsgTx} {idx : Nat} {ds : List Bytes}
    (hds : ∀ d ∈ ds, d.length ≤ maxScriptElementSize) (stk : List Bytes) :
    execScript C chk tx idx (ds.map pushOp) ⟨stk, []⟩ = .ok ⟨(ds.map pushed).reverse ++ stk, []⟩ := by
  simp only [execScript, opCount_pushOps, foldlM_pushOps hds]
  rfl

/-! ## The P2SH output -/

theorem pushData_direct {d : Bytes} (h2 : 2 ≤ d.length) (h76 : d.length < 76) : pushData d = UInt8.ofNat d.length :: d := by
  rcases d with _ | ⟨x, _ | ⟨y, t⟩⟩
  · simp at h2
  · simp at h2
  · simp only [pushData, OP_PUSHDATA1_toNat, h76, if_true, List.singleton_append]

theorem payToScriptHash_encode {h : Bytes} (hl : h.length = 20) :
    payToScriptHash h = ([BuildItem.op OP_HASH160, .data h, .op OP_EQUAL].map BuildItem.encode).flatten := by
  simp [payToScriptHash, BuildItem.encode, pushData_direct (d := h) (by omega) (by omega), hl, OP_DATA_20]

theorem parseScript_payToScriptHash {h : Bytes} (hl : h.length = 20) :
    parseScript (payToScriptHash h) = .ok [.code OP_HASH160, pushOp h, .code OP_EQUAL] := by
  have hr := @parseAux_encodes [BuildItem.op OP_HASH160, .data h, .op OP_EQUAL]
    (by simp [BuildItem.Readable, BuildItem.Fits, hl, maxScriptElementSize, OP_HASH160, OP_EQUAL]) 23
    (by simp) []
  rw [List.append_nil, ← payToScriptHash_encode hl] at hr
  rw [parseScript, show (payToScriptHash h).length = 23 by simp [payToScriptHash, hl], hr, parseAux_nil]
  rfl

theorem isScriptHash_payToScriptHash {h : Bytes} (hl : h.length = 20) : isScriptHash (payToScriptHash h) = true := by
  simp [isScriptHash, payToScriptHash, hl, List.getElem?_append_left, List.getElem?_append_right]

theorem pushOp_direct {d : Bytes} (h2 : 2 ≤ d.length) (h76 : d.length < 76) : pushOp d = .push (UInt8.ofNat d.length) d := by
  rcases d with _ | ⟨x, _ | ⟨y, t⟩⟩
  · simp at h2
  · simp at h2
  · simp only [pushOp, OP_PUSHDATA1_toNat, h76, if_true]

theorem pushed_of_two_le {d : Bytes} (h2 : 2 ≤ d.length) : pushed d = d := by
  rw [pushed, if_neg]
  rintro rfl
  simp at h2

/-- The output script of a P2SH payment to `S` accepts `S` on top of the stack. -/
theorem execScript_payToScriptHash (C : Crypto) (chk : SigCheck) (tx : MsgTx) (idx : Nat) (S : Bytes)
    (rest : List Bytes) :
    execScript C chk tx idx [.code OP_HASH160, pushOp (C.hash160 S), .code OP_EQUAL] ⟨S :: rest, []⟩ =
      .ok ⟨[1] :: rest, []⟩ := by
  have hl : (C.hash160 S).length = 20 := C.ripemd160_length _
  have hcount : opCount [.code OP_HASH160, pushOp (C.hash160 S), .code OP_EQUAL] = 2 := by
    rw [show [Op.code OP_HASH160, pushOp (C.hash160 S), .code OP_EQUAL] =
      [.code OP_HASH160] ++ [pushOp (C.hash160 S)] ++ [.code OP_EQUAL] from rfl, opCount_append, opCount_append,
      opCount_pushOp, opCount_code, opCount_code]
    decide
  have hhash : execOp C chk ⟨tx, idx, [.code OP_HASH160, pushOp (C.hash160 S), .code OP_EQUAL]⟩ ⟨S :: rest, []⟩
      (.code OP_HASH160) = .ok ⟨C.hash160 S :: rest, []⟩ := by
    simp [execOp, execCode, VM.executing, VM.pop, VM.push, OP_HASH160, OP_IF, OP_NOTIF, OP_ELSE, OP_ENDIF,
      OP_1NEGATE, OP_1, OP_16, OP_VERIFY, OP_DROP, OP_EQUAL, OP_EQUALVERIFY, OP_RIPEMD160]
  simp only [execScript, hcount, List.foldlM_cons, hhash, Except.ok_bind,
    @execOp_pushOp _ _ _ ⟨C.hash160 S :: rest, []⟩ _ (by rw [hl]; decide) rfl, pushed_of_two_le (by omega : 2 ≤ (C.hash160 S).length)]
  simp [execOp, execCode, VM.executing, VM.pop, VM.push, fromBool, OP_EQUAL, OP_IF, OP_NOTIF, OP_ELSE, OP_ENDIF,
      OP_1NEGATE, OP_1, OP_16, OP_VERIFY, OP_DROP]
  rfl

end Tumblebit
