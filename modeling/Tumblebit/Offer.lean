import Tumblebit.Contract.RoundTrip
import Tumblebit.Tumbler.Payer

/-!
# The tumbler's redeem and the payer's offer

The payer escrows its payment in an offer: `Wallet.CreateOffer` builds the script with
`buildOfferContract` over the `HashB` commitments of the tumbler's keys, and the tumbler redeems it in
`Wallet.PublishSolution` with a signature script that pushes the keys (`redeemP2SHContract`).

- The offer checks each commitment with `OP_RIPEMD160`, whose digest has 20 bytes, against a 32-byte `HashB`
  commitment. For every nonempty key list the first `OP_EQUALVERIFY` of the hash-preimage branch fails, and
  the redeem never satisfies the offer (`redeem_never_satisfies_offer`).
- `PaymentOffer` stores the script the payer sends as the escrow script and compares it with nothing, and
  `Wallet.ValidateOffer` reads only output 0 of the escrow transaction. `BuildRedeemTx` spends the first P2SH
  output to the stored script instead. A payer pays the amount to itself in output 0 and a little to a script
  of its own in output 1. The tumbler then publishes its keys in a redeem of output 1
  (`paymentOffer_redeems_foreign_output`).
-/

namespace Tumblebit

/-! ## The hash-preimage branch of an offer -/

theorem opCount_int (v : Int) : opCount [BuildItem.parsed (.int v)] = 0 := by
  simp only [BuildItem.parsed]
  split_ifs with h0 h1 h16
  · rfl
  · rw [opCount_code, if_neg (by decide)]
  · rw [opCount_code, if_neg]
    show ¬ OP_16.toNat < (UInt8.ofNat _).toNat
    simp only [uint8_toNat_ofNat, OP_1_toNat, OP_16]
    simp; omega
  · exact opCount_pushOp _

theorem opCount_hashChecks {op : UInt8} (hop : OP_16 < op) (hs : List Bytes) :
    opCount ((hashChecks op hs).map BuildItem.parsed) = 2 * hs.length := by
  induction hs with
  | nil => rfl
  | cons h hs ih =>
    rw [hashChecks, List.flatMap_cons, ← hashChecks, List.map_append, opCount_append, ih]
    simp only [List.map_cons, List.map_nil, BuildItem.parsed]
    rw [show [Op.code op, pushOp h, .code OP_EQUALVERIFY] = [.code op] ++ [pushOp h] ++ [.code OP_EQUALVERIFY] from rfl,
      opCount_append, opCount_append, opCount_code, opCount_code, opCount_pushOp, if_pos hop, if_pos (by decide)]
    simp only [List.length_cons]
    omega

/-- The builder calls of `buildOfferContract`. -/
def offerContractItems (pkPayer pkRedeemer : Bytes) (hashes : List Bytes) (hashOp : UInt8) (locktime : Int) :
    List BuildItem :=
  [.op OP_IF] ++ hashChecks hashOp hashes ++ [.data pkRedeemer, .op OP_CHECKSIG, .op OP_ELSE, .int locktime,
    .op OP_CHECKLOCKTIMEVERIFY, .op OP_DROP, .data pkPayer, .op OP_CHECKSIG, .op OP_ENDIF]

theorem buildOfferContract_eq (pkPayer pkRedeemer : Bytes) (hashes : List Bytes) (hashOp : UInt8) (locktime : Int) :
    buildOfferContract pkPayer pkRedeemer hashes hashOp locktime =
      buildScript (offerContractItems pkPayer pkRedeemer hashes hashOp locktime) := rfl

/-- The operations an offer script counts: two per hash and seven others. -/
theorem opCount_offer (pkPayer pkRedeemer : Bytes) (hashes : List Bytes) (locktime : Int) :
    opCount ((offerContractItems pkPayer pkRedeemer hashes OP_RIPEMD160 locktime).map BuildItem.parsed) =
      2 * hashes.length + 7 := by
  simp only [offerContractItems, List.map_append, opCount_append,
    opCount_hashChecks (show OP_16 < OP_RIPEMD160 by decide)]
  rw [show ([BuildItem.data pkRedeemer, .op OP_CHECKSIG, .op OP_ELSE, .int locktime, .op OP_CHECKLOCKTIMEVERIFY,
      .op OP_DROP, .data pkPayer, .op OP_CHECKSIG, .op OP_ENDIF].map BuildItem.parsed) =
      [pushOp pkRedeemer] ++ [.code OP_CHECKSIG] ++ [.code OP_ELSE] ++ [BuildItem.parsed (.int locktime)] ++
        [.code OP_CHECKLOCKTIMEVERIFY] ++ [.code OP_DROP] ++ [pushOp pkPayer] ++ [.code OP_CHECKSIG] ++
        [.code OP_ENDIF] from rfl]
  simp only [List.map_cons, List.map_nil, BuildItem.parsed_op, BuildItem.parsed_data, opCount_append, opCount_pushOp,
    opCount_int, show opCount [.code OP_IF] = 1 from rfl, show opCount [.code OP_CHECKSIG] = 1 from rfl,
    show opCount [.code OP_ELSE] = 1 from rfl, show opCount [.code OP_CHECKLOCKTIMEVERIFY] = 1 from rfl,
    show opCount [.code OP_DROP] = 1 from rfl, show opCount [.code OP_ENDIF] = 1 from rfl]
  omega

/-- The first hash check of an offer's redeem branch meets the last pushed key: its RIPEMD-160 digest, 20
bytes, is compared with the committed hash, so a hash of another length never matches. -/
theorem execScript_offer_fails (C : Crypto) (chk : SigCheck) (tx : MsgTx) (idx : Nat) (pkPayer pkRedeemer : Bytes)
    {h₁ : Bytes} (hs : List Bytes) (locktime : Int) (hlen : h₁.length ≠ 20) (hfit : h₁.length ≤ maxScriptElementSize)
    (k : Bytes) (stk : List Bytes) :
    execScript C chk tx idx ((offerContractItems pkPayer pkRedeemer (h₁ :: hs) OP_RIPEMD160 locktime).map
      BuildItem.parsed) ⟨[1] :: k :: stk, []⟩ =
      .error (if 255 < 2 * (hs.length + 1) + 7 then "exceeded max operation limit" else "OP_EQUALVERIFY failed") := by
  have hops : (offerContractItems pkPayer pkRedeemer (h₁ :: hs) OP_RIPEMD160 locktime).map BuildItem.parsed =
      .code OP_IF :: .code OP_RIPEMD160 :: pushOp h₁ :: .code OP_EQUALVERIFY ::
        (offerContractItems pkPayer pkRedeemer hs OP_RIPEMD160 locktime).tail.map BuildItem.parsed := by
    simp [offerContractItems, hashChecks]
  have hk : (C.ripemd160 k).length = 20 := C.ripemd160_length k
  have hne : pushed h₁ ≠ C.ripemd160 k := by
    intro h
    have hl := congrArg List.length h
    rw [hk, pushed] at hl
    split_ifs at hl with h0
    · simp at hl
    · exact hlen hl
  unfold execScript
  rw [opCount_offer, List.length_cons]
  split_ifs with hc
  · rfl
  set ec : ExecCtx := ⟨tx, idx, (offerContractItems pkPayer pkRedeemer (h₁ :: hs) OP_RIPEMD160 locktime).map
    BuildItem.parsed⟩
  have hif : execOp C chk ec ⟨[1] :: k :: stk, []⟩ (.code OP_IF) = .ok ⟨k :: stk, [.yes]⟩ := by
    simp [execOp, VM.executing, VM.pop, asBool, OP_IF, OP_NOTIF]
  have hrip : execOp C chk ec ⟨k :: stk, [.yes]⟩ (.code OP_RIPEMD160) = .ok ⟨C.ripemd160 k :: stk, [.yes]⟩ := by
    simp [execOp, execCode, VM.executing, VM.pop, VM.push, OP_RIPEMD160, OP_IF, OP_NOTIF, OP_ELSE, OP_ENDIF,
      OP_1NEGATE, OP_1, OP_16, OP_VERIFY, OP_DROP, OP_EQUAL, OP_EQUALVERIFY]
  have hpush := @execOp_pushOp C chk ec ⟨C.ripemd160 k :: stk, [.yes]⟩ h₁ hfit rfl
  have heqv : execOp C chk ec ⟨pushed h₁ :: C.ripemd160 k :: stk, [.yes]⟩ (.code OP_EQUALVERIFY) =
      .error "OP_EQUALVERIFY failed" := by
    simp [execOp, execCode, VM.executing, VM.pop, hne, OP_IF, OP_NOTIF, OP_ELSE, OP_ENDIF, OP_1NEGATE, OP_1, OP_16,
      OP_VERIFY, OP_DROP, OP_EQUAL, OP_EQUALVERIFY]
  rw [hops, List.foldlM_cons, hif, Except.ok_bind, List.foldlM_cons, hrip, Except.ok_bind, List.foldlM_cons, hpush,
    Except.ok_bind, show VM.push ⟨C.ripemd160 k :: stk, [.yes]⟩ (pushed h₁) =
      ⟨pushed h₁ :: C.ripemd160 k :: stk, [.yes]⟩ from rfl, List.foldlM_cons, heqv]
  rfl

/-! ## The redeem of an offer -/

theorem parsed_int_one : BuildItem.parsed (.int 1) = pushOp [1] := by decide

/-- The parser reads the signature script of a redeem as the pushes of the signature, the secrets, `1` and
the contract. -/
theorem parseScript_redeem {contract sig T : Bytes} {secrets : List Bytes}
    (hT : redeemP2SHContract contract sig secrets = .ok T) :
    parseScript T = .ok ((sig :: secrets ++ [[1], contract]).map pushOp) ∧
      ∀ d ∈ sig :: secrets ++ [[1], contract], d.length ≤ maxScriptElementSize := by
  have hitems : ([BuildItem.data sig] ++ secrets.map BuildItem.data ++ [BuildItem.int 1, BuildItem.data contract]).map
      BuildItem.parsed = (sig :: secrets ++ [[1], contract]).map pushOp := by
    simp [parsed_int_one, Function.comp_def]
  obtain ⟨-, hfits⟩ := buildScript_ok hT
  refine ⟨hitems ▸ parseScript_buildScript hT (by simp), fun d hd => ?_⟩
  rcases List.mem_cons.1 hd with rfl | hd
  · exact hfits (.data d) (by simp)
  rcases List.mem_append.1 hd with hd | hd
  · exact hfits (.data d) (by simp [hd])
  rcases List.mem_cons.1 hd with rfl | hd
  · decide
  rw [List.mem_singleton.1 hd]
  exact hfits (.data contract) (by simp)

/-- The tumbler's redeem never satisfies an offer script. Whatever the keys, the signature and the lock
time, running the signature script that `redeemP2SHContract` builds from the keys against the P2SH output of
the offer script that `buildOfferContract` builds from their `HashB` commitments with `OP_RIPEMD160` fails:
the first check hashes a key to 20 bytes and compares it with a 32-byte commitment (past 124 keys the
script has too many operations to run at all). -/
theorem redeem_never_satisfies_offer (C : Crypto) (chk : SigCheck) (pkPayer pkRedeemer sig : Bytes)
    (keys : List Bytes) (locktime : Int) (S T : Bytes) (tx : MsgTx) (txIn : TxIn) (hkeys : keys ≠ [])
    (hS : buildOfferContract pkPayer pkRedeemer (keys.map C.hashB) OP_RIPEMD160 locktime = .ok S)
    (hT : redeemP2SHContract S sig keys = .ok T) (hin : tx.txIn[0]? = some txIn)
    (hsig : txIn.signatureScript = T) :
    verifyScript C chk (payToScriptHash (C.hash160 S)) tx 0 =
      .error (if 255 < 2 * keys.length + 7 then "exceeded max operation limit" else "OP_EQUALVERIFY failed") := by
  obtain ⟨k₁, ks, rfl⟩ := List.exists_cons_of_ne_nil hkeys
  obtain ⟨hparseT, hfitT⟩ := parseScript_redeem hT
  have hS2 : 2 ≤ S.length := by
    obtain ⟨rfl, -⟩ := buildScript_ok hS
    refine Nat.le_trans ?_ (length_le_flatten_encode _)
    simp [offerContractItems]
  have hparseS : parseScript S = .ok ((offerContractItems pkPayer pkRedeemer ((k₁ :: ks).map C.hashB) OP_RIPEMD160
      locktime).map BuildItem.parsed) := by
    refine parseScript_buildScript hS fun o ho => ?_
    simp [offerContractItems, hashChecks] at ho
    rcases ho with rfl | rfl | rfl | ⟨-, rfl | rfl⟩ | rfl | rfl | rfl | rfl | rfl | rfl <;> decide
  have hl : (C.hash160 S).length = 20 := C.ripemd160_length _
  have hpushes := @execScript_pushOps C chk tx 0 _ hfitT []
  obtain ⟨kTop, stk, hstk⟩ : ∃ kTop stk, ((k₁ :: ks).map pushed).reverse ++ [pushed sig] = kTop :: stk := by
    cases h : ((k₁ :: ks).map pushed).reverse with
    | nil => simp at h
    | cons a l => exact ⟨a, l ++ [pushed sig], rfl⟩
  have hstack : ((sig :: (k₁ :: ks) ++ [[1], S]).map pushed).reverse ++ [] = S :: [1] :: kTop :: stk := by
    rw [← hstk]
    simp [pushed_of_two_le hS2, show pushed [1] = [1] from rfl]
  rw [hstack] at hpushes
  have hlen : (C.hashB k₁).length ≠ 20 := by rw [C.hashB_length]; decide
  have hfit : (C.hashB k₁).length ≤ maxScriptElementSize := by rw [C.hashB_length]; decide
  have hoffer := execScript_offer_fails C chk tx 0 pkPayer pkRedeemer (ks.map C.hashB) locktime hlen hfit kTop stk
  subst hsig
  have hne : ¬(txIn.signatureScript = [] ∧ payToScriptHash (C.hash160 S) = []) := by simp [payToScriptHash]
  have hall : ∀ o ∈ (sig :: (k₁ :: ks) ++ [[1], S]).map pushOp, o.isPush = true := by
    intro o ho
    obtain ⟨d, -, rfl⟩ := List.mem_map.1 ho
    exact pushOp_isPush d
  generalize (sig :: (k₁ :: ks) ++ [[1], S]).map pushOp = ops at hparseT hpushes hall
  have hpush : ¬∃ o, o ∈ ops ∧ o.isPush = false := fun ⟨o, ho, h⟩ => by simp [hall o ho] at h
  simp [verifyScript, hin, hne, hparseT, parseScript_payToScriptHash hl, isScriptHash_payToScriptHash hl, hpushes,
    hpush, execScript_payToScriptHash, hparseS, hoffer, show asBool [1] = true from rfl]

theorem redeem_never_satisfies_offer_one_key :
    ∃ S T, buildOfferContract [] [] ([[0]].map (Env.idle).C.hashB) OP_RIPEMD160 0 = .ok S ∧
      redeemP2SHContract S [] [[0]] = .ok T ∧
      verifyScript (Env.idle).C (fun _ _ _ _ _ => .ok true) (payToScriptHash ((Env.idle).C.hash160 S))
        ⟨[⟨⟨[], 0, 0⟩, 0, T⟩], [], 0, 0⟩ 0 = .error "OP_EQUALVERIFY failed" :=
  ⟨_, _, rfl, rfl, redeem_never_satisfies_offer (Env.idle).C _ [] [] [] [[0]] 0 _ _ _ _ (List.cons_ne_nil _ _) rfl rfl
    rfl rfl⟩

/-! ## What the tumbler checks of an offer -/

/-- Every offer script begins with `OP_IF`. -/
theorem buildOfferContract_head {pkPayer pkRedeemer : Bytes} {hashes : List Bytes} {hashOp : UInt8} {locktime : Int}
    {S : Bytes} (h : buildOfferContract pkPayer pkRedeemer hashes hashOp locktime = .ok S) : S.head? = some OP_IF := by
  obtain ⟨rfl, -⟩ := buildScript_ok h
  rfl

theorem payToScriptHash_inj {h h' : Bytes} (e : payToScriptHash h = payToScriptHash h') : h = h' := by
  simpa [payToScriptHash] using e

/-- Hashes that keep the first bytes of their input: `HashB` pads or cuts it to 32 bytes, RIPEMD-160 to 20. -/
def prefixCrypto : Crypto where
  hashB b := (b ++ List.replicate 32 0).take 32
  hashB_length b := by simp
  ripemd160 b := (b ++ List.replicate 20 0).take 20
  ripemd160_length b := by simp
  blake2s256 _ _ := List.replicate 32 0
  xofStream n _ _ := List.replicate n 0
  xofStream_length _ _ _ := List.length_replicate _ _

theorem prefixCrypto_hash160_head {S : Bytes} {x : UInt8} (h : S.head? = some x) :
    (prefixCrypto.hash160 S).head? = some x := by
  cases S with
  | nil => cases h
  | cons y t => cases h; rfl

/-- The payer's own redeem script: two drops, which any spender satisfies. -/
def foreignScript : Bytes := [OP_DROP, OP_DROP]

/-- The payer's escrow transaction: the whole amount to a script of the payer's in output 0, and one
percent of it to the P2SH of `foreignScript` in output 1. -/
def foreignEscrowTx : MsgTx :=
  ⟨[], [⟨contractValue, 0, []⟩, ⟨1000000, 0, payToScriptHash (prefixCrypto.hash160 foreignScript)⟩], 0, 0⟩

/-- A wallet that answers every request of the exchange: it finds `foreignEscrowTx` with two
confirmations, signs with `[1]`, and publishes what it is given. Every address decodes to one P2PKH
address, and the fee is 100 atoms a byte. -/
def foreignEnv : Env :=
  { Env.idle with
    C := prefixCrypto
    lib := ⟨fun _ _ _ _ _ => .ok true, fun _ => .ok ⟨.pubKeyHashSecp, "a", "a", []⟩, fun _ => .ok [], fun _ => "",
      fun _ => [], fun _ => [], fun _ => some foreignEscrowTx, fun n => n * 100, fun o => decide (o.value ≤ 0)⟩
    rpc := ⟨fun _ _ => .ok ("a", "a"), fun _ _ _ => .error "", fun _ _ => .ok "", fun _ _ _ => .error "",
      fun _ _ => .error "", fun _ _ _ _ => .ok [1], fun _ _ => .ok ([], 2), fun _ _ => .ok [],
      fun _ => .error ""⟩ }

/-- The puzzle key of the epoch: `N = 15`, `e = 3`. -/
def foreignKey : PuzzleKey := ⟨⟨3, 15, 3, [3, 5], none⟩, 1, 1⟩

/-- A payer session after `ValidateSolutions`, with one puzzle and its key. -/
def foreignSession : Session :=
  { Session.fresh "a" with state := stateSolutionsValidated, puzzles := [[2]], secrets := [List.replicate 20 7] }

/-- The tumbler holding `foreignSession` in the epoch at height `0`, whose address is known. -/
def foreignCtx : Ctx :=
  ⟨0, foreignSession, ⟨0, [⟨"e", "e", 0, foreignKey⟩], fun _ => none, [], [], 10, 5, 0⟩, [], []⟩

/-- The payer's offer: the contract amount, `foreignScript` as the escrow script, the one puzzle as the real
one, blinded by `1`. -/
def foreignOffer : PaymentOfferReq :=
  ⟨contractValue, "a", [1], foreignScript, [1], [2], le16 0, [[1]]⟩

/-- `PaymentOffer` with `foreignOffer` succeeds. The wallet publishes a redeem whose signature script
pushes the session's key, and it spends output 1 of the escrow transaction. That output holds less than
the contract's amount, and it pays to no offer script. -/
theorem paymentOffer_redeems_foreign_output :
    ∃ c con tx, Session.paymentOffer foreignOffer foreignEnv foreignCtx = .ok () c ∧
      c.sess.contract = some con ∧ con.escrowTx = some foreignEscrowTx ∧ con.redeemTx = some tx ∧
      Effect.rpc (.publishTransaction (foreignEnv.lib.serialize tx)) ∈ c.log ∧
      (∃ T, tx.txIn.map (·.signatureScript) = [T] ∧
        redeemP2SHContract foreignScript con.redeemSig foreignSession.secrets = .ok T) ∧
      tx.txIn.map (·.prevOut.index) = [1] ∧
      ∀ o ∈ foreignEscrowTx.txOut[1]?, o.value < con.amount ∧
        ∀ pkPayer pkRedeemer hashes locktime S, buildOfferContract pkPayer pkRedeemer hashes OP_RIPEMD160 locktime = .ok S →
          o.pkScript ≠ payToScriptHash (foreignEnv.C.hash160 S) := by
  refine ⟨_, _, _, rfl, rfl, rfl, rfl, by decide, ⟨_, rfl, rfl⟩, rfl, fun o ho => ?_⟩
  cases ho
  refine ⟨by decide, fun pkPayer pkRedeemer hashes locktime S hS e => ?_⟩
  have hhead : (foreignEnv.C.hash160 S).head? = some OP_IF := prefixCrypto_hash160_head (buildOfferContract_head hS)
  exact absurd ((congrArg List.head? (payToScriptHash_inj e)).trans hhead) (by decide)

end Tumblebit
