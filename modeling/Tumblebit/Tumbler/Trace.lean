import Tumblebit.Tumbler.Session

/-!
# The abstract session

What the state machine of `session.go` is for, stated without the handlers. A session goes through
the states `ready` approves, one latch at a time, from the initial state along one of two chains:
the payee's `Initial → EscrowComplete → PuzzlesPromised → PuzzlesValidated → EscrowPublished` and
the payer's `Initial → SolutionsPromised → SolutionsValidated → OfferReceived → SolutionPublished`.
Its epoch is written only while a role is being opened, every read of the epoch comes after that,
and `FinalizeExchange(ReasonSuccess)` comes only in a final state.

`Trace a e gs b e'` says that the ghost events `gs` take the abstract session from state `a` and
epoch `e` to state `b` and epoch `e'`. The handlers are proved to produce traces
(`Tumblebit.Tumbler.StateMachine`); this module derives from a trace that starts at the initial state
everything the state machine promises: the chains (`chain_prefix`), that a final state is kept
(`Trace.latch_final`), that the epoch is fixed once a role is open (`Trace.consult_mem`,
`Trace.epoch_of_not_opens`) and that success is finalized only in a final state (`Trace.finalize_mem`).
-/

namespace Tumblebit

/-! ## States and events -/

/-- The two final states. -/
def IsFinal (a : Nat) : Prop := a = stateEscrowPublished ∨ a = stateSolutionPublished

theorem isFinal_escrowPublished : IsFinal stateEscrowPublished := .inl rfl

theorem isFinal_solutionPublished : IsFinal stateSolutionPublished := .inr rfl

/-- The states from which `ready` admits the first state of a role: the initial state, and
`MaxPayeeState`, whose successor is the payer's first state. -/
def Opens (a : Nat) : Prop := a = stateInitial ∨ a = maxPayeeState

def Ghost.latchOf : Ghost → Option Nat
  | .latch n => some n
  | _ => none

/-- The states a ghost history latched, in order. -/
def latchesOf (gs : List Ghost) : List Nat := gs.filterMap Ghost.latchOf

@[simp] theorem latchesOf_nil : latchesOf [] = [] := rfl

@[simp] theorem latchesOf_append (gs gs' : List Ghost) : latchesOf (gs ++ gs') = latchesOf gs ++ latchesOf gs' :=
  List.filterMap_append _ _ _

/-- An event that leaves the state alone, allowed at state `a` and epoch `e`: `FinalizeExchange` notes
the state it was entered in, which success requires to be final, and a read of the epoch notes the
state and the epoch it saw, past the opening of a role. -/
def Ghost.QuietAt (a : Nat) (e : Int) : Ghost → Prop
  | .latch _ => False
  | .finalize r st => st = a ∧ (r = reasonSuccess → IsFinal a)
  | .consult st e' => st = a ∧ e' = e ∧ ¬ Opens a
  | _ => True

theorem Ghost.QuietAt.latchOf {a : Nat} {e : Int} {g : Ghost} (h : g.QuietAt a e) : g.latchOf = none := by
  cases g <;> first | rfl | exact h.elim

/-! ## Traces -/

/-- The traces of the abstract session: a latch moves to a state `ready` approves, the epoch may be
written in a state that opens a role, and every other event is quiet. -/
inductive Trace : Nat → Int → List Ghost → Nat → Int → Prop where
  | nil (a : Nat) (e : Int) : Trace a e [] a e
  | quiet {a b : Nat} {e e' : Int} {g : Ghost} {gs : List Ghost} :
      g.QuietAt a e → Trace a e gs b e' → Trace a e (g :: gs) b e'
  | latch {a n b : Nat} {e e' : Int} {gs : List Ghost} :
      readyFrom a n = .ok () → Trace n e gs b e' → Trace a e (.latch n :: gs) b e'
  | setEpoch {a b : Nat} {e e₁ e' : Int} {gs : List Ghost} :
      Opens a → Trace a e₁ gs b e' → Trace a e gs b e'

section Trace

variable {a b c n : Nat} {e e₁ e' : Int} {gs gs' : List Ghost}

theorem Trace.append (h₁ : Trace a e gs b e₁) (h₂ : Trace b e₁ gs' c e') : Trace a e (gs ++ gs') c e' := by
  induction h₁ with
  | nil => exact h₂
  | quiet hg _ ih => exact .quiet hg (ih h₂)
  | latch hr _ ih => exact .latch hr (ih h₂)
  | setEpoch ho _ ih => exact .setEpoch ho (ih h₂)

theorem Trace.of_quiet (h : ∀ g ∈ gs, g.QuietAt a e) : Trace a e gs a e := by
  induction gs with
  | nil => exact .nil a e
  | cons g gs ih => exact .quiet (h g (.head _)) (ih fun g hg => h g (.tail _ hg))

end Trace

/-! ## What `ready` approves -/

section Ready

variable {a n : Nat}

/-- What `ready` approves, in numbers: from the initial state either role's first state, and past it
the next state unless the session is final. -/
theorem readyFrom_ok_iff : readyFrom a n = .ok () ↔ (a = 0 ∧ (n = 1 ∨ n = 6)) ∨ (a ≠ 0 ∧ a ≠ 4 ∧ a ≠ 9 ∧ n = a + 1) := by
  unfold readyFrom
  split_ifs <;> simp_all [stateInitial, stateEscrowComplete, stateSolutionsPromised, stateEscrowPublished,
    stateSolutionPublished]
  omega

theorem readyFrom_initial (h : readyFrom stateInitial n = .ok ()) :
    n = stateEscrowComplete ∨ n = stateSolutionsPromised := by
  simp only [readyFrom_ok_iff, stateInitial, stateEscrowComplete, stateSolutionsPromised] at h ⊢
  omega

/-- Past the initial state, `ready` approves only the next state, and nothing from a final one. -/
theorem readyFrom_succ (ha : a ≠ stateInitial) (h : readyFrom a n = .ok ()) : n = a + 1 ∧ ¬ IsFinal a := by
  simp only [readyFrom_ok_iff, IsFinal, stateInitial, stateEscrowPublished, stateSolutionPublished] at ha h ⊢
  omega

/-- No latch reaches a state that opens a role. -/
theorem not_opens_of_ready (h : readyFrom a n = .ok ()) : ¬ Opens n := by
  simp only [readyFrom_ok_iff, Opens, stateInitial, maxPayeeState] at h ⊢
  omega

/-- `ready` admits a role's first state only from a state that opens a role. -/
theorem opens_of_ready (h : readyFrom a n = .ok ()) (hn : n = stateEscrowComplete ∨ n = stateSolutionsPromised) :
    Opens a := by
  simp only [readyFrom_ok_iff, Opens, stateInitial, maxPayeeState, stateEscrowComplete,
    stateSolutionsPromised] at h hn ⊢
  omega

/-- A handler past its `ready` check for a state other than a role's first runs past the opening. -/
theorem ready_not_opens (hn : n ≠ stateEscrowComplete ∧ n ≠ stateSolutionsPromised) (h : readyFrom a n = .ok ()) :
    ¬ Opens a := by
  simp only [readyFrom_ok_iff, Opens, stateInitial, maxPayeeState, stateEscrowComplete,
    stateSolutionsPromised] at h hn ⊢
  omega

end Ready

/-! ## What a trace promises -/

section Promises

variable {a b n st : Nat} {e e' e₀ : Int} {gs : List Ghost}

/-- Past the opening of a role, the epoch is never written again. -/
theorem Trace.epoch_of_not_opens (h : Trace a e gs b e') (ha : ¬ Opens a) : e' = e ∧ ¬ Opens b := by
  induction h with
  | nil => exact ⟨rfl, ha⟩
  | quiet _ _ ih => exact ih ha
  | latch hr _ ih => exact ih (not_opens_of_ready hr)
  | setEpoch ho _ _ => exact absurd ho ha

/-- Every read of the epoch comes past the opening and sees the epoch the session ends with. -/
theorem Trace.consult_mem (h : Trace a e gs b e') (hm : Ghost.consult st e₀ ∈ gs) : ¬ Opens st ∧ e₀ = e' := by
  induction h with
  | nil => cases hm
  | @quiet a b e e' g gs hg ht ih =>
    rcases List.mem_cons.1 hm with rfl | hm
    · obtain ⟨rfl, rfl, ho⟩ := hg
      exact ⟨ho, (ht.epoch_of_not_opens ho).1.symm⟩
    · exact ih hm
  | latch _ _ ih => exact ih (List.mem_cons.1 hm |>.resolve_left (by simp))
  | setEpoch _ _ ih => exact ih hm

/-- `FinalizeExchange(ReasonSuccess)` is entered only in a final state. -/
theorem Trace.finalize_mem (h : Trace a e gs b e') (hm : Ghost.finalize reasonSuccess st ∈ gs) : IsFinal st := by
  induction h with
  | nil => cases hm
  | quiet hg _ ih =>
    rcases List.mem_cons.1 hm with rfl | hm
    · exact hg.1 ▸ hg.2 rfl
    · exact ih hm
  | latch _ _ ih => exact ih (List.mem_cons.1 hm |>.resolve_left (by simp))
  | setEpoch _ _ ih => exact ih hm

/-- A final state is never left. -/
theorem Trace.of_final (h : Trace a e gs b e') (ha : IsFinal a) : b = a ∧ latchesOf gs = [] := by
  induction h with
  | nil => exact ⟨rfl, rfl⟩
  | quiet hg _ ih => simpa [latchesOf, hg.latchOf] using ih ha
  | latch hr _ _ => exact absurd (readyFrom_succ (by rcases ha with rfl | rfl <;> decide) hr).2 (not_not.2 ha)
  | setEpoch _ _ ih => exact ih ha

/-- Once a final state is latched, the session stays in it. -/
theorem Trace.latch_final (h : Trace a e gs b e') (hm : n ∈ latchesOf gs) (hn : IsFinal n) : b = n := by
  induction h with
  | nil => cases hm
  | quiet hg _ ih => exact ih (by simpa [latchesOf, hg.latchOf] using hm)
  | @latch a m b e e' gs _ ht ih =>
    simp only [latchesOf, List.filterMap_cons, Ghost.latchOf, List.mem_cons] at hm
    rcases hm with rfl | hm
    · exact (ht.of_final hn).1
    · exact ih hm
  | setEpoch _ _ ih => exact ih hm

/-- The latches of a trace approve one another, and the last is the state it ends in. -/
theorem Trace.chain (h : Trace a e gs b e') :
    List.Chain (fun x y => readyFrom x y = .ok ()) a (latchesOf gs) ∧ (a :: latchesOf gs).getLast (by simp) = b := by
  induction h with
  | nil => exact ⟨.nil, rfl⟩
  | quiet hg _ ih => simpa [latchesOf, hg.latchOf] using ih
  | latch hr _ ih =>
    simp only [latchesOf, List.filterMap_cons, Ghost.latchOf] at ih ⊢
    exact ⟨.cons hr ih.1, by rw [List.getLast_cons (by simp)]; exact ih.2⟩
  | setEpoch _ _ ih => exact ih

end Promises

/-! ## The two chains -/

/-- The payee's states, `Initial` to `EscrowPublished`. -/
def payeeChain : List Nat :=
  [stateInitial, stateEscrowComplete, statePuzzlesPromised, statePuzzlesValidated, stateEscrowPublished]

/-- The payer's states, `Initial` to `SolutionPublished`. -/
def payerChain : List Nat :=
  [stateInitial, stateSolutionsPromised, stateSolutionsValidated, stateOfferReceived, stateSolutionPublished]

/-- Past the initial state, approved latches count up to the end of the role: from `a` they are a
prefix of `a + 1, …, top`, the final state of the role `a` is in. -/
theorem chain_range {top : Nat} (htop : IsFinal top) :
    ∀ (ls : List Nat) (a : Nat), a ≠ stateInitial → a ≤ top → top ≤ a + 4 →
      List.Chain (fun x y => readyFrom x y = .ok ()) a ls → ls <+: List.range' (a + 1) (top - a)
  | [], _, _, _, _, _ => List.nil_prefix
  | b :: ls, a, ha, hat, hta, .cons hab hls => by
    obtain ⟨rfl, hfin⟩ := readyFrom_succ ha hab
    have hlt : a < top := lt_of_le_of_ne hat fun h => hfin (h ▸ htop)
    have hrange : List.range' (a + 1) (top - a) = (a + 1) :: List.range' (a + 1 + 1) (top - (a + 1)) := by
      rw [show top - a = top - (a + 1) + 1 by omega, List.range'_succ]
    rw [hrange]
    exact (List.prefix_cons_inj _).2 (chain_range htop ls (a + 1) (by simp [stateInitial]) hlt (by omega) hls)

/-- The states a session goes through from the initial one are a prefix of one of the two chains. -/
theorem chain_prefix {ls : List Nat} (h : List.Chain (fun x y => readyFrom x y = .ok ()) stateInitial ls) :
    stateInitial :: ls <+: payeeChain ∨ stateInitial :: ls <+: payerChain := by
  cases h with
  | nil => exact .inl (by simp [payeeChain])
  | @cons _ b ls hb hls =>
    rcases readyFrom_initial hb with rfl | rfl
    · have := chain_range (.inl rfl) ls _ (by decide) (by decide) (by decide) hls
      exact .inl ((List.prefix_cons_inj _).2 ((List.prefix_cons_inj _).2 this))
    · have := chain_range (.inr rfl) ls _ (by decide) (by decide) (by decide) hls
      exact .inr ((List.prefix_cons_inj _).2 ((List.prefix_cons_inj _).2 this))

/-- The states a trace from the initial state goes through follow one of the two chains. -/
theorem Trace.states_prefix {e e' : Int} {gs : List Ghost} {b : Nat} (h : Trace stateInitial e gs b e') :
    stateInitial :: latchesOf gs <+: payeeChain ∨ stateInitial :: latchesOf gs <+: payerChain :=
  chain_prefix h.chain.1

/-- Neither `Max` state is ever reached. -/
theorem Trace.ne_max {e e' : Int} {gs : List Ghost} {b n : Nat} (h : Trace stateInitial e gs b e')
    (hn : n ∈ stateInitial :: latchesOf gs) : n ≠ maxPayeeState ∧ n ≠ maxPayerState := by
  have : n ∈ payeeChain ∨ n ∈ payerChain := h.states_prefix.imp (·.subset hn) (·.subset hn)
  simp only [payeeChain, payerChain, List.mem_cons, List.mem_singleton, List.not_mem_nil, or_false] at this
  simp only [maxPayeeState, maxPayerState, stateInitial, stateEscrowComplete, statePuzzlesPromised,
    statePuzzlesValidated, stateEscrowPublished, stateSolutionsPromised, stateSolutionsValidated, stateOfferReceived,
    stateSolutionPublished] at this ⊢
  omega

end Tumblebit
