import Tumblebit.Tumbler.Payer

/-!
# A session's life

The calls a session receives: its handlers as the RPC layer invokes them, the deferred
`validateOffer` the ticker runs, and the `FinalizeExchange` calls of the RPC layer (after a failed
handler) and of the ticker (on expiry). `runCalls` runs them one after another on one session; a
returned error lets the next call run, a panic ends the process and the run.
-/

namespace Tumblebit

/-- Why the RPC layer or the ticker finalizes an exchange. -/
inductive AbortReason where
  | sessionExpired
  | failedExchange
  | internalError
  deriving DecidableEq, Repr

def AbortReason.code : AbortReason → Nat
  | .sessionExpired => reasonSessionExpired
  | .failedExchange => reasonFailedExchange
  | .internalError => reasonInternalError

/-- A call on a session. -/
inductive Call where
  | setupEscrow (er : EscrowRequest)
  | signChallengeHashes (hashes : List Bytes)
  | getPuzzlePromises (cp : SignatureChallenges)
  | validatePuzzles (cd : TransactionDisclosure)
  | finalizeEscrow
  | getSolutionPromises (sc : SolutionChallenges)
  | validateSolutions (pd : PuzzleDisclosure)
  | paymentOffer (po : PaymentOfferReq)
  | validateOffer (po : PaymentOfferReq)
  | finalize (reason : AbortReason)

/-- The computation of a call, its response dropped. -/
def Call.run : Call → Prog Ctx Unit
  | .setupEscrow er => do let _ ← Session.setupEscrow er
  | .signChallengeHashes hashes => do let _ ← Session.signChallengeHashes hashes
  | .getPuzzlePromises cp => do let _ ← Session.getPuzzlePromises cp
  | .validatePuzzles cd => do let _ ← Session.validatePuzzles cd
  | .finalizeEscrow => do let _ ← Session.finalizeEscrow
  | .getSolutionPromises sc => do let _ ← Session.getSolutionPromises sc
  | .validateSolutions pd => do let _ ← Session.validateSolutions pd
  | .paymentOffer po => Session.paymentOffer po
  | .validateOffer po => Session.validateOffer po
  | .finalize reason => Session.finalizeExchange reason.code

/-- The calls run one after another; a panic stops the run where it happened. -/
def runCalls (env : Env) : List Call → Ctx → Ctx
  | [], c => c
  | call :: calls, c =>
    match call.run env c with
    | .ok _ c' => runCalls env calls c'
    | .error (.error _) c' => runCalls env calls c'
    | .error (.panic _) c' => c'

end Tumblebit
