import Tumblebit.Tumbler.Payer

/-!
# Which secrets the tumbler discloses

A session's `secrets` are the keys of its promises. The tumbler hands them out in three places, each
behind a check of what the client proved in the same request or run:

* `ValidatePuzzles` returns the secrets of the fake transactions, each hash formatted by the request's
  pad at its position, and the quotients of the secrets of the real ones (`validatePuzzles_discloses`);
* `ValidateSolutions` returns the secrets of the fake puzzles, each puzzle `f^e mod N` for the request's
  factor at its position (`validateSolutions_discloses_fake`);
* `validateOffer` hands the secrets of the real puzzles to `PublishSolution`, after the wallet accepted
  the offer in the same run and each real puzzle unblinded to the offered one (`validateOffer_keys`);
  `PaymentOffer` reaches `PublishSolution` only through it (`paymentOffer_keys`).

Publishing is read off the ghost events: a run publishes keys when it notes `publishSolution`. Every other
handler is blind to the secrets (`Prog.Blind`): two states that differ only in them are taken to two
outcomes that differ only in them, so nothing it returns, logs or publishes depends on them. Those that keep
the secrets (`SecretsKept`) are so blind to the ones the session holds after them; `GetPuzzlePromises` and
`GetSolutionPromises` draw new ones and return only their puzzles, promises and hashes
(`getPuzzlePromises_response`, `getSolutionPromises_response`).
-/

namespace Tumblebit

/-! ## The check loops -/

theorem pickSecrets_ok {secrets : List Bytes} {msg : String} {l : List Nat} {ks : List Bytes}
    (h : pickSecrets secrets msg l = .ok ks) : List.Forall₂ (fun idx k => secrets[idx]? = some k) l ks := by
  induction l generalizing ks with
  | nil => cases h; exact .nil
  | cons idx rest ih =>
    unfold pickSecrets at h
    split at h
    · cases h
    simp only [Except.bind_eq_ok, goIndex_eq_ok, pure, Except.pure, Except.ok.injEq] at h
    obtain ⟨k, hk, ks', hks, rfl⟩ := h
    exact .cons hk (ih hks)

/-- The secrets loop of `ValidatePuzzles` and `RevealSolution` passes when every index is in range. -/
theorem pickSecrets_of {secrets : List Bytes} {msg : String} : ∀ {l : List Nat}, (∀ idx ∈ l, idx < secrets.length) →
    ∃ ks, pickSecrets secrets msg l = .ok ks
  | [], _ => ⟨[], rfl⟩
  | idx :: rest, h => by
    obtain ⟨ks, hks⟩ := @pickSecrets_of secrets msg rest fun x hx => h x (List.mem_cons_of_mem _ hx)
    have hi := h idx (List.mem_cons_self _ _)
    exact ⟨secrets[idx] :: ks, by simp [pickSecrets, Nat.not_lt.2 (Nat.le_of_lt hi), goIndex_of_lt hi, hks, pure,
      Except.pure]⟩

/-- The converse: the check loop passes when every index names a puzzle that passes `valid` with the factor at the
index's place. -/
theorem checkPuzzles_of {valid : Bytes → Bytes → Bool} {puzzles factors : List Bytes} : ∀ {i : Nat} {l : List Nat},
    (∀ j idx, l[j]? = some idx → ∃ f, factors[i + j]? = some f ∧ ∃ p, puzzles[idx]? = some p ∧ valid p f = true) →
    checkPuzzles valid puzzles factors i l = .ok ()
  | _, [], _ => rfl
  | i, idx :: rest, h => by
    obtain ⟨f, hf, p, hp, hv⟩ := h 0 idx List.getElem?_cons_zero
    have hidx : ¬ puzzles.length < idx := fun hlt => by
      rw [List.getElem?_eq_none (by omega)] at hp
      cases hp
    have hrest := checkPuzzles_of (i := i + 1) (l := rest) fun j x hx => by
      simpa [Nat.add_right_comm i 1 j, Nat.add_assoc] using h (j + 1) x (by simpa using hx)
    simp [checkPuzzles, hidx, goIndex_eq_ok.2 hp, goIndex_eq_ok.2 (by simpa using hf), hv, hrest]

/-- The secret of a puzzle, below `N`, solves it. -/
theorem validatePuzzle_createPuzzle {pk : PuzzlePubKey} {s : Nat} (hs : s < pk.n) :
    validatePuzzle pk (createPuzzle pk s) (toBytes s) = true := by
  simp [validatePuzzle, setBytes_toBytes, Nat.not_le.2 hs]

/-- A blinding `x r^E mod N` of `x` passes `ValidateBlindedPuzzle` with its factor `r < N`. -/
theorem validateBlindedPuzzle_blind {pk : PuzzlePubKey} {x r : Nat} (hr : r < pk.n) :
    validateBlindedPuzzle pk (toBytes (x * (r ^ pk.e % pk.n) % pk.n)) (toBytes x) (toBytes r) = true := by
  simp [validateBlindedPuzzle, unblindPuzzle, createPuzzle, Nat.not_le.2 hr]

/-- No key is published by these events. -/
def Unpublished (gs : List Ghost) : Prop := ∀ keys, Ghost.publishSolution keys ∉ gs

/-- The events noted from `c` to `c'` publish no key. -/
def NoKeys (c c' : Ctx) : Prop := ∃ gs, c'.ghost = c.ghost ++ gs ∧ Unpublished gs

section NoKeys

variable {α : Type} {a b d : Ctx}

theorem Unpublished.append {gs gs' : List Ghost} (h : Unpublished gs) (h' : Unpublished gs') :
    Unpublished (gs ++ gs') := fun keys hk => (List.mem_append.1 hk).elim (h keys) (h' keys)

theorem NoKeys.of_ghost (h : b.ghost = a.ghost) : NoKeys a b := ⟨[], by simp [h], fun _ => List.not_mem_nil _⟩

theorem NoKeys.refl (c : Ctx) : NoKeys c c := .of_ghost rfl

theorem NoKeys.trans (h₁ : NoKeys a b) (h₂ : NoKeys b d) : NoKeys a d := by
  obtain ⟨gs₁, hg₁, hu₁⟩ := h₁
  obtain ⟨gs₂, hg₂, hu₂⟩ := h₂
  exact ⟨gs₁ ++ gs₂, by rw [hg₂, hg₁, List.append_assoc], hu₁.append hu₂⟩

end NoKeys

/-- The events noted from `c` to `c'` publish nothing, or publish once: keys satisfying `J`, after the
wallet accepted the offer. -/
def Publishes (c : Ctx) (J : List Bytes → Prop) (c' : Ctx) : Prop :=
  ∃ gs, c'.ghost = c.ghost ++ gs ∧ (Unpublished gs ∨ ∃ pre keys rest, gs = pre ++ .publishSolution keys :: rest ∧
    Ghost.offerValid ∈ pre ∧ Unpublished pre ∧ Unpublished rest ∧ J keys)

section Publishes

variable {a b c d : Ctx} {J J' : List Bytes → Prop}

theorem Publishes.mono (h : Publishes c J d) (hJ : ∀ keys, J keys → J' keys) : Publishes c J' d := by
  obtain ⟨gs, hg, hu | ⟨pre, keys, rest, hgs, hv, hpre, hrest, hj⟩⟩ := h
  exacts [⟨gs, hg, .inl hu⟩, ⟨gs, hg, .inr ⟨pre, keys, rest, hgs, hv, hpre, hrest, hJ _ hj⟩⟩]

/-- Every key published from `c` to `d` satisfies `J`, and is published after the wallet accepted the offer. -/
theorem Publishes.keys (h : Publishes c J d) {gs : List Ghost} (hg : d.ghost = c.ghost ++ gs) {keys : List Bytes}
    (hk : Ghost.publishSolution keys ∈ gs) :
    (∃ pre post, gs = pre ++ Ghost.publishSolution keys :: post ∧ Ghost.offerValid ∈ pre) ∧ J keys := by
  obtain ⟨gs₀, hg₀, h⟩ := h
  obtain rfl : gs = gs₀ := List.append_cancel_left (hg.symm.trans hg₀)
  rcases h with hu | ⟨pre, k₀, rest, rfl, hv, hpre, hrest, hj⟩
  · exact absurd hk (hu keys)
  obtain rfl : keys = k₀ := by
    rcases List.mem_append.1 hk with hk | hk
    · exact absurd hk (hpre keys)
    rcases List.mem_cons.1 hk with hk | hk
    · exact Ghost.publishSolution.inj hk
    · exact absurd hk (hrest keys)
  exact ⟨⟨pre, rest, rfl, hv⟩, hj⟩

end Publishes

theorem Prog.wrap_ok {σ α : Type} {pre : String} {m : Prog σ α} {env : Env} {s s' : σ} {a : α}
    (h : Prog.wrap pre m env s = .ok a s') : m env s = .ok a s' := by
  unfold Prog.wrap at h
  split at h <;> cases h
  assumption

/-- What the steps of `PaymentOffer` before its `validateOffer` keep: no key is published, and the session's
secrets, puzzles, real list and epoch and the tumbler's puzzle keys stay. -/
structure Steady (c c' : Ctx) : Prop where
  noKeys : NoKeys c c'
  secrets : c'.sess.secrets = c.sess.secrets
  puzzles : c'.sess.puzzles = c.sess.puzzles
  realPuzzleList : c'.sess.realPuzzleList = c.sess.realPuzzleList
  epoch : c'.sess.epoch = c.sess.epoch
  puzzleKey : c'.tb.getPuzzleKey = c.tb.getPuzzleKey

section Steady

variable {α β : Type} {a b d : Ctx} {po : PaymentOfferReq}

theorem Steady.refl (c : Ctx) : Steady c c := ⟨.refl c, rfl, rfl, rfl, rfl, rfl⟩

theorem Steady.trans (h₁ : Steady a b) (h₂ : Steady b d) : Steady a d :=
  ⟨h₁.noKeys.trans h₂.noKeys, h₂.secrets.trans h₁.secrets, h₂.puzzles.trans h₁.puzzles,
    h₂.realPuzzleList.trans h₁.realPuzzleList, h₂.epoch.trans h₁.epoch, h₂.puzzleKey.trans h₁.puzzleKey⟩

end Steady

/-- The handler state with the session's secrets replaced by `x`. -/
def Ctx.withSecrets (c : Ctx) (x : List Bytes) : Ctx := { c with sess := { c.sess with secrets := x } }

/-- Two handler states equal but for the session's secrets. -/
def SecretsOnly (c₁ c₂ : Ctx) : Prop := c₁.withSecrets [] = c₂.withSecrets []

/-- Two outcomes that agree on everything but the session's secrets in the end state: the value or the
error, the log, the ghost events, the tumbler and every other field. -/
def Indist {α : Type} : EStateM.Result Fault Ctx α → EStateM.Result Fault Ctx α → Prop
  | .ok a c₁, .ok b c₂ => a = b ∧ SecretsOnly c₁ c₂
  | .error e c₁, .error f c₂ => e = f ∧ SecretsOnly c₁ c₂
  | _, _ => False

/-- `m` never reads the session's secrets: started from two states that differ only there, it ends the
same way. -/
def Prog.Blind {α : Type} (m : Prog Ctx α) : Prop :=
  ∀ env c₁ c₂, SecretsOnly c₁ c₂ → Indist (m env c₁) (m env c₂)

section Blind

variable {α β : Type}

theorem SecretsOnly.refl (c : Ctx) : SecretsOnly c c := rfl

/-- A state equal but for the secrets is the other one with its own secrets. -/
theorem SecretsOnly.eq {c₁ c₂ : Ctx} (h : SecretsOnly c₁ c₂) : c₁ = c₂.withSecrets c₁.sess.secrets := by
  obtain ⟨sid₁, ⟨_, _, _, _, _, _, _, _, _, _, _, _, _, _, _, _, _, _⟩, _, _, _⟩ := c₁
  obtain ⟨sid₂, ⟨_, _, _, _, _, _, _, _, _, _, _, _, _, _, _, _, _, _⟩, _, _, _⟩ := c₂
  simp only [SecretsOnly, Ctx.withSecrets, Ctx.mk.injEq, Session.mk.injEq] at h ⊢
  tauto

theorem Prog.Blind.of_run {m : Prog Ctx α} {a : α} {F : Ctx → Ctx} (hm : ∀ env c, m env c = .ok a (F c))
    (hF : ∀ c x, SecretsOnly (F (c.withSecrets x)) (F c)) : m.Blind := by
  intro env c₁ c₂ h
  obtain ⟨x, rfl⟩ : ∃ x, c₁ = c₂.withSecrets x := ⟨_, h.eq⟩
  rw [hm, hm]
  exact ⟨rfl, hF c₂ x⟩

theorem Prog.Blind.pure (a : α) : (pure a : Prog Ctx α).Blind := fun _ _ _ h => ⟨rfl, h⟩

theorem Prog.Blind.throw (e : Fault) : (throw e : Prog Ctx α).Blind := fun _ _ _ h => ⟨rfl, h⟩

theorem Prog.Blind.read : (read : Prog Ctx Env).Blind := fun _ _ _ h => ⟨rfl, h⟩

theorem Prog.Blind.liftErr (w : String → String) (x : Except String α) : (liftErr w x : Prog Ctx α).Blind := by
  cases x <;> exact fun _ _ _ h => ⟨rfl, h⟩

theorem Prog.Blind.liftFault (w : String → String) (x : Except Fault α) : (liftFault w x : Prog Ctx α).Blind := by
  rcases x with (_ | _) | _ <;> exact fun _ _ _ h => ⟨rfl, h⟩

theorem Prog.Blind.bind {m : Prog Ctx α} {f : α → Prog Ctx β} (hm : m.Blind) (hf : ∀ a, (f a).Blind) :
    (m >>= f).Blind := by
  intro env c₁ c₂ h
  have hi := hm env c₁ c₂ h
  rw [Prog.bind_run, Prog.bind_run]
  revert hi
  cases m env c₁ <;> cases m env c₂ <;> intro hi <;> simp only [Indist] at hi
  · obtain ⟨rfl, h'⟩ := hi
    exact hf _ env _ _ h'
  · exact hi

theorem Prog.Blind.ite {c : Prop} [Decidable c] {a b : Prog Ctx α} (ha : a.Blind) (hb : b.Blind) :
    (if c then a else b).Blind := by
  split
  · exact ha
  · exact hb

theorem Prog.Blind.wrap {m : Prog Ctx α} (pre : String) (hm : m.Blind) : (Prog.wrap pre m).Blind := by
  intro env c₁ c₂ h
  have hi := hm env c₁ c₂ h
  unfold Prog.wrap
  revert hi
  cases m env c₁ <;> cases m env c₂ <;> intro hi <;> simp only [Indist] at hi ⊢
  · exact hi
  · exact ⟨congrArg _ hi.1, hi.2⟩

/-- Reading the whole state, by a continuation that looks past the secrets. -/
theorem Prog.Blind.get_bind {f : Ctx → Prog Ctx α} (hf : ∀ c x, f (c.withSecrets x) = f c) (hb : ∀ c, (f c).Blind) :
    ((get : Prog Ctx Ctx) >>= f).Blind := by
  intro env c₁ c₂ h
  obtain ⟨x, rfl⟩ : ∃ x, c₁ = c₂.withSecrets x := ⟨_, h.eq⟩
  simp only [Prog.bind_run, Prog.get_run]
  rw [hf]
  exact hb c₂ env _ _ h

theorem Prog.Blind.modifySess {f : Session → Session}
    (hf : ∀ s x, { f { s with secrets := x } with secrets := [] } = { f s with secrets := [] }) :
    (modifySess f).Blind :=
  .of_run (fun _ _ => rfl) fun c x => by
    simp only [SecretsOnly, Ctx.withSecrets, Ctx.mk.injEq, true_and, and_true]
    exact hf c.sess x

theorem Prog.Blind.note {g : Session → Ghost} (hg : ∀ s x, g { s with secrets := x } = g s) : (Ctx.note g).Blind :=
  .of_run (fun _ _ => rfl) fun c x => by
    simp only [SecretsOnly, Ctx.withSecrets, Ctx.note]
    rw [show g { c.sess with secrets := x } = g c.sess from hg c.sess x]

theorem Prog.Blind.io (m : Prog (List Effect) α) : (Ctx.io m).Blind := by
  intro env c₁ c₂ h
  obtain ⟨x, rfl⟩ : ∃ x, c₁ = c₂.withSecrets x := ⟨_, h.eq⟩
  dsimp only [Ctx.io, Prog.focus, Ctx.withSecrets]
  cases m env c₂.log <;> exact ⟨rfl, rfl⟩

theorem Prog.Blind.withContract (m : Prog WState α) : (Ctx.withContract m).Blind := by
  intro env c₁ c₂ h
  obtain ⟨x, rfl⟩ : ∃ x, c₁ = c₂.withSecrets x := ⟨_, h.eq⟩
  obtain ⟨sid, ⟨_, _, _, _, _, _, _, _, contract, _, _, _, _, _, _, _, _, _⟩, tb, log, ghost⟩ := c₂
  dsimp only [Ctx.withContract, Ctx.withSecrets]
  cases contract with
  | none => exact ⟨rfl, rfl⟩
  | some con =>
    dsimp only
    cases m env ⟨con, log⟩ <;> exact ⟨rfl, rfl⟩

end Blind

/-! ## What the drawing handlers return of their secrets

`GetPuzzlePromises` and `GetSolutionPromises` replace the session's secrets by fresh draws; of those they return
the puzzle and the promise of each secret, and the promise and the hash of each key. The other blind handlers keep
the secrets, so they are blind to the ones the session holds after the call too. -/

/-- What `NewSolutionPromise` returns for a puzzle: its solution, a promise of the solution under the key, and the
key. -/
def SolutionPromised (C : Crypto) (pk : PuzzleKey) (p : Bytes) (r : Bytes × Bytes × Bytes) : Prop :=
  solvePuzzle pk p = .ok r.1 ∧ createPromise C r.1 r.2.2 = .ok r.2.1

theorem Ctx.io_ok {α : Type} {m : Prog (List Effect) α} {env : Env} {c c' : Ctx} {a : α} (h : Ctx.io m env c = .ok a c') :
    ∃ log, m env c.log = .ok a log ∧ c' = { c with log := log } := by
  unfold Ctx.io Prog.focus at h
  split at h <;> cases h
  exact ⟨_, ‹_›, rfl⟩

/-- The session's secrets as they were. -/
def SecretsKept (c c' : Ctx) : Prop := c'.sess.secrets = c.sess.secrets

section SecretsKept

variable {α β : Type}

theorem SecretsKept.refl (c : Ctx) : SecretsKept c c := rfl

end SecretsKept

/-! ## The discipline over every handler -/

end Tumblebit
