import FusionRouter.Release.Verifier

/-!
# What a signature covers

The signer authenticates the canonical bytes of the attestation.  Of the
signature block it reads the version and the signature alone, so the
algorithm, the key id and the signing time can be rewritten.
-/

namespace FusionRouter.Release

/-- Strict base64: a text decodes to the value it encodes and to no other. -/
structure Base64 where
  encode : List UInt8 → String
  decode : String → Except String (List UInt8)
  decode_eq_ok_iff : ∀ text bytes, decode text = .ok bytes ↔ encode bytes = text

structure HmacSha256Signer where
  keyId : String
  key : List UInt8

def constantTimeEq (a b : List UInt8) : Bool :=
  a.length == b.length && (a.zip b).foldl (fun diff pair => diff ||| (pair.1 ^^^ pair.2)) 0 == 0

theorem foldl_diff_eq_zero_iff : ∀ {a b : List UInt8} (diff : UInt8), a.length = b.length →
    ((a.zip b).foldl (fun diff pair => diff ||| (pair.1 ^^^ pair.2)) diff = 0 ↔ diff = 0 ∧ a = b)
  | [], [], diff, _ => by simp
  | x :: a, y :: b, diff, same => by
    have rest := foldl_diff_eq_zero_iff (diff ||| (x ^^^ y)) (Nat.succ.inj same)
    simp only [List.zip_cons_cons, List.foldl_cons, rest,
      UInt8.or_eq_zero_iff, UInt8.xor_eq_zero_iff, List.cons.injEq, and_assoc]

theorem constantTimeEq_iff : constantTimeEq a b = true ↔ a = b := by
  unfold constantTimeEq
  by_cases same : a.length = b.length
  · simp [same, foldl_diff_eq_zero_iff 0 same]
  · have different : a ≠ b := fun equal => same (congrArg _ equal)
    simp [same, different]

namespace HmacSha256Signer

variable (hmacSha256 : List UInt8 → List UInt8 → List UInt8) (base64 : Base64)
  (signer : HmacSha256Signer) (now : Int)

def sign (payload : List UInt8) : SignatureBlock :=
  { version := 1
    algorithm := "hmac-sha256"
    publicKeyId := signer.keyId
    signatureBytesBase64 := base64.encode (hmacSha256 signer.key payload)
    signedAt := now }

def verify (payload : List UInt8) (signature : SignatureBlock) : Except String Bool :=
  if signature.version ≠ 1 then .ok false
  else
    match base64.decode signature.signatureBytesBase64 with
    | .error error => .error ("signature base64 decode error: " ++ error)
    | .ok supplied =>
      .ok (constantTimeEq (hmacSha256 signer.key payload) supplied)

theorem verify_eq_true_iff :
    verify hmacSha256 base64 signer payload signature = .ok true ↔
      signature.version = 1 ∧ signature.signatureBytesBase64 =
        base64.encode (hmacSha256 signer.key payload) := by
  have decoded := base64.decode_eq_ok_iff signature.signatureBytesBase64
    (hmacSha256 signer.key payload)
  unfold verify
  split
  case isTrue other => simp [other]
  case isFalse version =>
    rw [eq_comm (b := base64.encode _), ← decoded]
    cases base64.decode signature.signatureBytesBase64 with
    | error error => simp
    | ok supplied =>
      simp [constantTimeEq_iff, not_not.mp version, eq_comm (a := hmacSha256 signer.key payload)]

def toSigner : Signer :=
  { sign := signer.sign hmacSha256 base64 now
    verify := signer.verify hmacSha256 base64
    verify_sign := fun _ =>
      (verify_eq_true_iff hmacSha256 base64 signer).mpr ⟨rfl, rfl⟩ }

variable {Rest : Type}
  (toCanonicalBytes : ReleaseAttestation × Rest → Except String (List UInt8))

/-- Verify an attestation, whose remaining fields are serialized with it. -/
def verifySigned (attestation : ReleaseAttestation × Rest)
    (signature : SignatureBlock) : VerificationReport :=
  Release.verify (signer.toSigner hmacSha256 base64 now)
    (fun head => toCanonicalBytes (head, attestation.2)) ⟨envelopeVersion, attestation.1, signature⟩

theorem signatureValid_iff :
    (verifySigned hmacSha256 base64 signer now toCanonicalBytes attestation
        signature).signatureValid = true ↔ attestation.1.schemaVersion = attestationSchemaVersion ∧
        ∃ payload, toCanonicalBytes attestation = .ok payload ∧
          signature.version = 1 ∧ signature.signatureBytesBase64 =
            base64.encode (hmacSha256 signer.key payload) := by
  have checked : ∀ payload, (signer.toSigner hmacSha256 base64 now).verify
      payload signature = .ok true ↔ _ := fun payload =>
    verify_eq_true_iff hmacSha256 base64 signer
  unfold verifySigned Release.verify
  by_cases schema : attestation.1.schemaVersion = attestationSchemaVersion
  · cases bytes : toCanonicalBytes attestation with
    | error error => simp [schema, bytes]
    | ok payload =>
      simp only [schema, bytes, and_self, ↓reduceIte, Except.ok.injEq,
        exists_eq_left', true_and, ← checked payload]
      split <;> simp_all
  · simp [schema]

/-- What is presented for a signed attestation verifies exactly if it is the
signed one under the same signature and version, where the signature presented
authenticates nothing that was not signed. -/
theorem signature_covers {signed : ReleaseAttestation × Rest}
    (schema : signed.1.schemaVersion = attestationSchemaVersion)
    (canonical : toCanonicalBytes signed = .ok payload)
    (injective : ∀ other, toCanonicalBytes other = .ok payload → other = signed)
    (changed : ReleaseAttestation × Rest) (signature : SignatureBlock)
    (unforgeable : ∀ other, signature.signatureBytesBase64 =
      base64.encode (hmacSha256 signer.key other) → other = payload) :
    (verifySigned hmacSha256 base64 signer now toCanonicalBytes changed
        signature).signatureValid = true ↔ changed = signed ∧ signature.version = 1 ∧
        signature.signatureBytesBase64 = (signer.sign hmacSha256 base64 now
          payload).signatureBytesBase64 := by
  rw [signatureValid_iff]
  constructor
  · rintro ⟨-, other, bytes, version, text⟩
    obtain rfl := unforgeable other text
    exact ⟨injective changed bytes, version, text⟩
  · rintro ⟨rfl, version, text⟩
    exact ⟨schema, payload, canonical, version, text⟩

end HmacSha256Signer

namespace Sample

def write (bytes : List UInt8) : String :=
  String.ofList (bytes.map Char.ofUInt8)

/-- A coding that writes a byte as one letter. -/
def letters : Base64 :=
  { encode := write
    decode := fun text =>
      if write (text.toList.map Char.toUInt8) = text then
        .ok (text.toList.map Char.toUInt8)
      else .error "Invalid symbol"
    decode_eq_ok_iff := by
      intro text bytes
      constructor
      · grind
      · rintro rfl
        have back : ∀ byte, (Char.ofUInt8 byte).toUInt8 = byte := UInt8.toUInt8_toUInt32
        simp [write, Function.comp_def, back] }

/-- A MAC that appends the key. -/
def mac (key payload : List UInt8) : List UInt8 := payload ++ key

def opsKey : HmacSha256Signer := ⟨"ops-key", [1]⟩

def attested : ReleaseAttestation × String :=
  (⟨attestationSchemaVersion, "asm-1", contradictory⟩, "linux")

def canonical (signed : ReleaseAttestation × String) : Except String (List UInt8) :=
  .ok (if signed = attested then [7] else [])

end Sample

open Sample HmacSha256Signer

theorem signed_attestation_verifies :
    (verifySigned mac letters opsKey 5 canonical attested
      (opsKey.sign mac letters 5 [7])).signatureValid = true := by
  refine (signature_covers mac letters opsKey 5 canonical rfl rfl ?_ attested
    _ ?_).mpr ⟨rfl, rfl, rfl⟩
  · intro other bytes
    by_contra different
    simp [canonical, different] at bytes
  · intro other text
    have read := (letters.decode_eq_ok_iff _ _).mpr text.symm
    have same := read.symm.trans ((letters.decode_eq_ok_iff _ _).mpr rfl)
    exact List.append_cancel_right (Except.ok.inj same)

/-- The signature is attributed to another algorithm, key and time. -/
theorem relabelled_signature_verifies :
    (verifySigned mac letters opsKey 5 canonical attested
      { opsKey.sign mac letters 5 [7] with
        algorithm := "none"
        publicKeyId := "other"
        signedAt := 9 }).signatureValid = true := by
  rw [signatureValid_iff]
  exact ⟨rfl, [7], rfl, rfl, rfl⟩

end FusionRouter.Release
