import FusionRouter.Release.Evaluator

/-!
# Verification of attestations

The last of the four phases restates the decision table: a block has to name a
failed gate, and an approval with waivers only has to name a waived one.
-/

namespace FusionRouter

namespace Release

structure SignatureBlock where
  version : Nat
  algorithm : String
  publicKeyId : String
  signatureBytesBase64 : String
  signedAt : Int
deriving Repr, DecidableEq

/-- A signer; each of the two recognises what it has signed itself. -/
structure Signer where
  sign : List UInt8 → SignatureBlock
  verify : List UInt8 → SignatureBlock → Except String Bool
  verify_sign : ∀ payload, verify payload (sign payload) = .ok true

structure ReleaseAttestation where
  schemaVersion : String
  assessmentId : String
  policyEvaluation : PolicyEvaluation
deriving Repr, DecidableEq

structure AttestationEnvelope where
  envelopeVersion : String
  attestation : ReleaseAttestation
  signature : SignatureBlock

def envelopeVersion : String := "v1"

def attestationSchemaVersion : String := "fusion.router.release.attestation.v1"

structure VerificationReport where
  schemaValid : Bool
  canonicalValid : Bool
  signatureValid : Bool
  semanticValid : Bool
  summary : String
deriving Repr, DecidableEq

section Phases

variable (signer : Signer)
  (toCanonicalBytes : ReleaseAttestation → Except String (List UInt8))

def signAttestation (assessmentId : String) (evaluation : PolicyEvaluation) :
    Except String AttestationEnvelope := do
  let attestation := ⟨attestationSchemaVersion, assessmentId, evaluation⟩
  let bytes ← toCanonicalBytes attestation
  return ⟨envelopeVersion, attestation, signer.sign bytes⟩

def PolicyEvaluation.semanticValid (evaluation : PolicyEvaluation) : Bool :=
  match evaluation.decision with
  | .approved => evaluation.requiredFailures.isEmpty
  | .approvedWithWaivers => !evaluation.waivedFailures.isEmpty
  | .blocked => !evaluation.requiredFailures.isEmpty

def verify (envelope : AttestationEnvelope) : VerificationReport :=
  if envelope.envelopeVersion = envelopeVersion ∧
      envelope.attestation.schemaVersion = attestationSchemaVersion then
    match toCanonicalBytes envelope.attestation with
    | .error error => ⟨true, false, false, false,
        "Phase 2 Failed: Canonical serialization: " ++ error⟩
    | .ok bytes =>
      match signer.verify bytes envelope.signature with
      | .ok true =>
        let valid := envelope.attestation.policyEvaluation.semanticValid
        ⟨true, true, true, valid,
          if valid then "Attestation 4-phase verification succeeded"
          else "Phase 4 Warning: Semantic decision inconsistency"⟩
      | _ => ⟨true, true, false, false,
          "Phase 3 Failed: Cryptographic signature verification failed"⟩
  else ⟨false, false, false, false, "Phase 1 Failed: Schema version mismatch"⟩

end Phases

/-- There is a result, and a policy for the environment or a failure that no
waiver covers. -/
def Supported (ctx : EvaluationContext) (executions : List GateExecution) :
    Prop :=
  EvaluationContext.results executions ≠ [] ∧
    (ctx.policy ≠ none ∨ ∃ gate, .success ⟨gate, false⟩ ∈ executions ∧ ctx.waiverFor gate = none)

open EvaluationContext in
theorem semanticValid_evaluate (ctx : EvaluationContext) (executions : List GateExecution) :
    (ctx.evaluate executions).semanticValid = true ↔ Supported ctx executions := by
  unfold Supported
  by_cases empty : results executions = []
  · have none : ctx.remainingFailures executions = [] := by
      apply remainingFailures_eq_nil_iff.mpr
      intro gate member
      cases policy : ctx.policy <;> simp [requiredFailed, failed, empty, policy] at member
    simp [PolicyEvaluation.semanticValid, evaluate, decision, empty, none]
  · cases configured : ctx.policy with
    | none =>
      have remains : ctx.remainingFailures executions ≠ [] ↔
          ∃ gate, .success ⟨gate, false⟩ ∈ executions ∧ ctx.waiverFor gate = none := by
        rw [Ne, remainingFailures_eq_nil_iff, requiredFailed, configured]
        simp only [mem_failed, ne_eq]
        grind
      rw [← remains]
      simp [PolicyEvaluation.semanticValid, evaluate, decision, empty, configured]
    | some policy =>
      by_cases remaining : ctx.remainingFailures executions = [] <;>
        by_cases waived : ctx.waivedFailures executions = [] <;>
        simp [PolicyEvaluation.semanticValid, evaluate, decision, empty,
          configured, remaining, waived]

/-- A signed evaluation is valid exactly if it is supported.  What is valid
approves with required failures exactly if it approves with waivers. -/
theorem verifier_agrees (signer : Signer)
    (toCanonicalBytes : ReleaseAttestation → Except String (List UInt8)) :
    (∀ ctx executions assessmentId envelope, signAttestation signer toCanonicalBytes assessmentId
          (ctx.evaluate executions) = .ok envelope →
        ((verify signer toCanonicalBytes envelope).semanticValid = true ↔
          Supported ctx executions)) ∧ ∀ envelope,
      (verify signer toCanonicalBytes envelope).semanticValid = true →
      ((envelope.attestation.policyEvaluation.decision.Approves →
          envelope.attestation.policyEvaluation.requiredFailures = []) ↔
        ¬ (envelope.attestation.policyEvaluation.decision = .approvedWithWaivers ∧
          envelope.attestation.policyEvaluation.requiredFailures ≠ [])) := by
  constructor
  · intro ctx executions assessmentId envelope signed
    rw [← semanticValid_evaluate ctx executions]
    cases bytes : toCanonicalBytes
        ⟨attestationSchemaVersion, assessmentId, ctx.evaluate executions⟩ with
    | error error =>
      simp [signAttestation, bytes, bind, Except.bind] at signed
    | ok payload =>
      simp only [signAttestation, bytes, bind, Except.bind, pure, Except.pure,
        Except.ok.injEq] at signed
      subst signed
      simp [verify, bytes, signer.verify_sign]
  · intro envelope valid
    have consistent : envelope.attestation.policyEvaluation.semanticValid = true := by
      unfold verify at valid
      split at valid
      · split at valid
        · cases valid
        · split at valid
          · exact valid
          · cases valid
      · cases valid
    unfold PolicyEvaluation.semanticValid at consistent
    unfold ReleaseDecision.Approves
    cases decided : envelope.attestation.policyEvaluation.decision with
    | approved =>
      rw [decided] at consistent
      simpa using consistent
    | approvedWithWaivers | blocked => simp

namespace Sample

/-- A signer whose signature is the length of the payload. -/
def signer : Signer :=
  { sign := fun payload => ⟨1, "length", "key", toString payload.length, 0⟩
    verify := fun payload signature =>
      .ok (signature.signatureBytesBase64 == toString payload.length)
    verify_sign := by simp }

def bytes (_ : ReleaseAttestation) : Except String (List UInt8) := .ok []

/-- It approves with a waiver and names a failure that has none. -/
def contradictory : PolicyEvaluation :=
  { ctx.evaluate [] with
    decision := .approvedWithWaivers
    requiredFailures := [.replay1]
    waivedFailures := [⟨⟨.sdk1, none, 1⟩, .sdk1⟩] }

end Sample

open Sample in
/-- The block for want of evidence is not valid, the contradictory one is. -/
theorem empty_evidence_invalid :
    (∃ envelope, signAttestation signer bytes "asm-0" (ctx.evaluate []) = .ok envelope ∧
        (verify signer bytes envelope).semanticValid = false) ∧ ∃ envelope,
      signAttestation signer bytes "asm-1" contradictory = .ok envelope ∧
        (verify signer bytes envelope).semanticValid = true ∧
        envelope.attestation.policyEvaluation.decision.Approves ∧
        envelope.attestation.policyEvaluation.requiredFailures ≠ [] := by
  refine ⟨⟨_, rfl, by decide⟩, ⟨_, rfl, by decide, ?_, by decide⟩⟩
  exact Or.inr rfl

end Release

end FusionRouter
