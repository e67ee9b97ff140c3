import Tumblebit.Wallet

/-!
# Reasoning about `Prog`

Two tools for the handlers' proofs. The run lemmas say what a primitive does to a state, so that a
computation that succeeds can be taken apart bind by bind (`Prog.bind_ok`). `Prog.Keeps R m` says that
every state `m` ends in, returned or failed, is related by `R` to the state it started from; it is
closed under the monad's operations whenever `R` is a preorder, so that an invariant of a handler is
proved once per primitive.
-/

namespace Tumblebit

variable {σ τ α β : Type}

/-! ## Running a computation -/

/-- The state a computation ends in, whether it returned or failed. -/
def resultState {ε : Type} : EStateM.Result ε σ α → σ
  | .ok _ s => s
  | .error _ s => s

@[simp] theorem resultState_ok {ε : Type} (a : α) (s : σ) : resultState (.ok a s : EStateM.Result ε σ α) = s := rfl

@[simp] theorem resultState_error {ε : Type} (e : ε) (s : σ) :
    resultState (.error e s : EStateM.Result ε σ α) = s := rfl

theorem Prog.bind_run (x : Prog σ α) (f : α → Prog σ β) (env : Env) (s : σ) :
    (x >>= f) env s = match x env s with
      | .ok a s' => f a env s'
      | .error e s' => .error e s' := by
  show EStateM.bind (x env) (fun a => f a env) s = _
  unfold EStateM.bind
  cases x env s <;> rfl

@[simp] theorem Prog.pure_run (a : α) (env : Env) (s : σ) : (pure a : Prog σ α) env s = .ok a s := rfl

@[simp] theorem Prog.get_run (env : Env) (s : σ) : (get : Prog σ σ) env s = .ok s s := rfl

@[simp] theorem Prog.read_run (env : Env) (s : σ) : (read : Prog σ Env) env s = .ok env s := rfl

@[simp] theorem Prog.throw_run (e : Fault) (env : Env) (s : σ) : (throw e : Prog σ α) env s = .error e s := rfl

@[simp] theorem Prog.modify_run (f : σ → σ) (env : Env) (s : σ) : (modify f : Prog σ Unit) env s = .ok () (f s) :=
  rfl

@[simp] theorem Prog.set_run (s' : σ) (env : Env) (s : σ) : (set s' : Prog σ PUnit) env s = .ok ⟨⟩ s' := rfl

theorem Prog.map_eq_bind (g : α → β) (m : Prog σ α) : g <$> m = m >>= fun a => pure (g a) := rfl

@[simp] theorem Prog.map_run (g : α → β) (m : Prog σ α) (env : Env) (s : σ) :
    (g <$> m) env s = match m env s with
      | .ok a s' => .ok (g a) s'
      | .error e s' => .error e s' := by
  show EStateM.map g (m env) s = _
  unfold EStateM.map
  cases m env s <;> rfl

@[simp] theorem liftErr_run (w : String → String) (x : Except String α) (env : Env) (s : σ) :
    liftErr w x env s = match x with
      | .ok a => .ok a s
      | .error e => .error (.error (w e)) s := by
  cases x <;> rfl

@[simp] theorem liftFault_run (w : String → String) (x : Except Fault α) (env : Env) (s : σ) :
    liftFault w x env s = match x with
      | .ok a => .ok a s
      | .error (.error m) => .error (.error (w m)) s
      | .error (.panic m) => .error (.panic m) s := by
  rcases x with (_ | _) | _ <;> rfl

/-- A computation that succeeds is a first step that succeeds and a rest that succeeds. -/
theorem Prog.bind_ok {x : Prog σ α} {f : α → Prog σ β} {env : Env} {s s'' : σ} {b : β}
    (h : (x >>= f) env s = .ok b s'') : ∃ a s', x env s = .ok a s' ∧ f a env s' = .ok b s'' := by
  rw [Prog.bind_run] at h
  split at h
  · exact ⟨_, _, ‹_›, h⟩
  · cases h

theorem liftErr_ok {w : String → String} {x : Except String α} {env : Env} {s s' : σ} {a : α}
    (h : liftErr w x env s = .ok a s') : x = .ok a ∧ s' = s := by
  cases x <;> simp_all [liftErr]

theorem liftFault_ok {w : String → String} {x : Except Fault α} {env : Env} {s s' : σ} {a : α}
    (h : liftFault w x env s = .ok a s') : x = .ok a ∧ s' = s := by
  rcases x with (_ | _) | _ <;> simp_all [liftFault]

/-! ## Relations every end state keeps -/

/-- Every state `m` ends in, returned or failed, is related by `R` to the one it started from. -/
def Prog.Keeps (R : σ → σ → Prop) (m : Prog σ α) : Prop := ∀ env s, R s (resultState (m env s))

section Keeps

variable {R : σ → σ → Prop}

theorem Prog.Keeps.pure (hR : ∀ s, R s s) (a : α) : Prog.Keeps R (pure a : Prog σ α) := fun _ s => hR s

theorem Prog.Keeps.get (hR : ∀ s, R s s) : Prog.Keeps R (get : Prog σ σ) := fun _ s => hR s

theorem Prog.Keeps.read (hR : ∀ s, R s s) : Prog.Keeps R (read : Prog σ Env) := fun _ s => hR s

theorem Prog.Keeps.throw (hR : ∀ s, R s s) (e : Fault) : Prog.Keeps R (throw e : Prog σ α) := fun _ s => hR s

theorem Prog.Keeps.throw_bind (hR : ∀ s, R s s) (e : Fault) (f : α → Prog σ β) :
    Prog.Keeps R ((MonadExcept.throw e : Prog σ α) >>= f) := fun env s => by
  rw [Prog.bind_run]
  exact hR s

theorem Prog.Keeps.modify {f : σ → σ} (h : ∀ s, R s (f s)) : Prog.Keeps R (modify f : Prog σ Unit) :=
  fun _ s => h s

theorem Prog.Keeps.liftErr (hR : ∀ s, R s s) (w : String → String) (x : Except String α) :
    Prog.Keeps R (Tumblebit.liftErr w x : Prog σ α) := by
  cases x <;> exact fun _ s => hR s

theorem Prog.Keeps.liftFault (hR : ∀ s, R s s) (w : String → String) (x : Except Fault α) :
    Prog.Keeps R (Tumblebit.liftFault w x : Prog σ α) := by
  rcases x with (_ | _) | _ <;> exact fun _ s => hR s

/-- A first step keeping `R₁` and a rest keeping `R₂` keep `R₃`, when `R₁` then `R₂` is `R₃` and
`R₁` alone (the first step failing) is too. -/
theorem Prog.Keeps.bind_of {R₁ R₂ : σ → σ → Prop} {m : Prog σ α} {f : α → Prog σ β}
    (hm : Prog.Keeps R₁ m) (hf : ∀ a, Prog.Keeps R₂ (f a)) (hstop : ∀ s t, R₁ s t → R s t)
    (hcomp : ∀ s t u, R₁ s t → R₂ t u → R s u) : Prog.Keeps R (m >>= f) := by
  intro env s
  have h := hm env s
  rw [Prog.bind_run]
  revert h
  cases m env s with
  | ok a s' => exact fun h => hcomp _ _ _ h (hf a env s')
  | error e s' => exact hstop _ _

theorem Prog.Keeps.bind (hT : ∀ a b c, R a b → R b c → R a c) {m : Prog σ α} {f : α → Prog σ β}
    (hm : Prog.Keeps R m) (hf : ∀ a, Prog.Keeps R (f a)) : Prog.Keeps R (m >>= f) :=
  Prog.Keeps.bind_of hm hf (fun _ _ => id) hT

theorem Prog.Keeps.map (hT : ∀ a b c, R a b → R b c → R a c) (hR : ∀ s, R s s) {m : Prog σ α} (g : α → β)
    (hm : Prog.Keeps R m) : Prog.Keeps R (g <$> m) := by
  rw [Prog.map_eq_bind]
  exact Prog.Keeps.bind hT hm fun _ => Prog.Keeps.pure hR _

theorem Prog.Keeps.ite {c : Prop} [Decidable c] {a b : Prog σ α} (ha : Prog.Keeps R a) (hb : Prog.Keeps R b) :
    Prog.Keeps R (if c then a else b) := by
  split
  · exact ha
  · exact hb

theorem Prog.Keeps.wrap {m : Prog σ α} (pre : String) (hm : Prog.Keeps R m) : Prog.Keeps R (Prog.wrap pre m) := by
  intro env s
  have h := hm env s
  unfold Prog.wrap
  revert h
  cases m env s <;> exact id

theorem Prog.Keeps.focus {get : σ → τ} {set : σ → τ → σ} {m : Prog τ α} (h : ∀ s t, R s (set s t)) :
    Prog.Keeps R (Prog.focus get set m) := by
  intro env s
  unfold Prog.focus
  cases m env (get s) <;> exact h _ _

/-- `get` followed by a computation that keeps `R` from the state it read. -/
theorem Prog.Keeps.get_bind {f : σ → Prog σ α} (h : ∀ env s, R s (resultState (f s env s))) :
    Prog.Keeps R ((MonadState.get : Prog σ σ) >>= f) := fun env s => by
  rw [Prog.bind_run]
  exact h env s

/-- `modify f` followed by a computation that keeps `R` from the modified state. -/
theorem Prog.Keeps.modify_bind {f : σ → σ} {g : Unit → Prog σ α} (h : ∀ env s, R s (resultState (g () env (f s)))) :
    Prog.Keeps R ((MonadState.modifyGet fun s => ((), f s) : Prog σ Unit) >>= g) := fun env s => by
  rw [Prog.bind_run]
  exact h env s

theorem Prog.Keeps.mono {R' : σ → σ → Prop} {m : Prog σ α} (hm : Prog.Keeps R' m) (h : ∀ s t, R' s t → R s t) :
    Prog.Keeps R m := fun env s => h _ _ (hm env s)

theorem Prog.Keeps.and {R' : σ → σ → Prop} {m : Prog σ α} (hm : Prog.Keeps R m) (hm' : Prog.Keeps R' m) :
    Prog.Keeps (fun s t => R s t ∧ R' s t) m := fun env s => ⟨hm env s, hm' env s⟩

/-- A computation on a part of the state keeping `R'` there keeps `R` when writing back a part related by `R'` is. -/
theorem Prog.Keeps.focus_of {R' : τ → τ → Prop} {get : σ → τ} {set : σ → τ → σ} {m : Prog τ α}
    (hm : Prog.Keeps R' m) (h : ∀ s t, R' (get s) t → R s (set s t)) : Prog.Keeps R (Prog.focus get set m) := by
  intro env s
  have := hm env (get s)
  unfold Prog.focus
  revert this
  cases m env (get s) <;> exact h _ _

end Keeps

/-! ## What a failure leaves -/

/-- Every state `m` fails in is related by `R` to the one it started from. -/
def Prog.FailsWith (R : σ → σ → Prop) (m : Prog σ α) : Prop := ∀ env s e s', m env s = .error e s' → R s s'

section FailsWith

variable {R : σ → σ → Prop}

/-- A computation that always returns never fails. -/
theorem Prog.FailsWith.of_ok {m : Prog σ α} (hm : ∀ env s, ∃ a s', m env s = .ok a s') : Prog.FailsWith R m :=
  fun env s _ _ h => by
    obtain ⟨_, _, h'⟩ := hm env s
    rw [h'] at h
    cases h

/-- A first step keeping `R` and a rest failing with `R` fail with `R`. -/
theorem Prog.FailsWith.bind (hT : ∀ a b c, R a b → R b c → R a c) {m : Prog σ α} {f : α → Prog σ β}
    (hm : Prog.Keeps R m) (hf : ∀ a, Prog.FailsWith R (f a)) : Prog.FailsWith R (m >>= f) := fun env s e s' h => by
  have hk := hm env s
  rw [Prog.bind_run] at h
  revert h hk
  cases m env s with
  | ok a s₁ => exact fun h hk => hT _ _ _ hk (hf a env s₁ e s' h)
  | error => exact fun h hk => by cases h; exact hk

end FailsWith

end Tumblebit
