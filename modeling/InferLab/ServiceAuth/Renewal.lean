import InferLab.ServiceAuth.TrustSnapshot

/-!
# Service authentication: renewal of trust policies

A template says what a policy says apart from its generation and its times. From it the next
policy is derived and signed when the last one is about to expire.
-/

namespace InferLab.ServiceAuth

open Wire

/-- The schema of a template. -/
def serviceTrustRenewalTemplateSchema : String := "inferlab.service-trust-renewal-template.v1"

/-- The bound of a template file. -/
def maxServiceTrustRenewalTemplateBytes : ℕ := 256 * 1024

/-- `b"inferlab.service-trust-renewal-template-fingerprint.v1\0"`. -/
def templateFingerprintDomain : Bytes :=
  utf8 "inferlab.service-trust-renewal-template-fingerprint.v1" ++ [0]

/-- `b"inferlab.service-trust-renewal-authority-fingerprint.v1\0"`. -/
def authorityFingerprintDomain : Bytes :=
  utf8 "inferlab.service-trust-renewal-authority-fingerprint.v1" ++ [0]

/-- The reasons why a renewal fails. -/
inductive ServiceTrustRenewalErrorKind
  | templateTooLarge
  | invalidJson
  | invalidTemplateSchema
  | invalidPolicySchema
  | invalidClusterId
  | clusterMismatch
  | invalidRootKeyId
  | invalidTemplate
  | invalidTiming
  | invalidTime
  | arithmeticOverflow
  | generationExhausted
  | semanticDrift
  | wrongRootKey
  | signingFailed
deriving Repr, DecidableEq

/-- A renewal that fails. -/
structure ServiceTrustRenewalError where
  kind : ServiceTrustRenewalErrorKind
  message : String
deriving Repr, DecidableEq

/-- How a function ends that does not return: with an error, or in a failed `expect`. -/
inductive RenewalFailure
  | error (error : ServiceTrustRenewalError)
  | panicked (message : String)
deriving Repr, DecidableEq

/-- A template as its file has it. -/
structure EncodedRenewalTemplate where
  schema : String
  clusterId : String
  policySchema : String
  trustedCredentials : List ServiceTrustCredential
  revokedServiceIds : List String
  revokedCredentials : List ServiceCredentialReference
  gatewayServiceIds : List String
deriving Repr, DecidableEq

/-- A template with the digest of what it says. -/
structure RenewalTemplate extends EncodedRenewalTemplate where
  semanticFingerprint : String
deriving Repr, DecidableEq

/-! ## Fingerprints -/

namespace Renewal

/-- A text that does not fit ends the process. -/
def valueTooLong : RenewalFailure := .panicked "bounded renewal values fit in u32"

/-- A list that does not fit ends the process. -/
def listTooLong : RenewalFailure := .panicked "validated renewal template counts fit in u32"

/-- A text, with its length before it. -/
def appendText (text : String) : Encoder RenewalFailure Unit := appendString valueTooLong text

end Renewal

/-- A lower-case hexadecimal digit. -/
def hexDigit (n : ℕ) : Char := "0123456789abcdef".toList.getD n '0'

/-- The digest in hexadecimal digits. -/
def sha256Hex [Sha256] (bytes : Bytes) : String :=
  String.ofList ((Sha256.digest bytes).flatMap fun byte =>
    [hexDigit (byte.toNat / 16), hexDigit (byte.toNat % 16)])

lemma hexDigit_injective {m n : ℕ} (hm : m < 16) (hn : n < 16) (h : hexDigit m = hexDigit n) :
    m = n := by
  have hall : ∀ m < 16, ∀ n < 16, hexDigit m = hexDigit n → m = n := by decide
  exact hall m hm n hn h

lemma hexDigits_injective {bytes bytes' : Bytes}
    (h : (bytes.flatMap fun byte => [hexDigit (byte.toNat / 16), hexDigit (byte.toNat % 16)]) =
      bytes'.flatMap fun byte => [hexDigit (byte.toNat / 16), hexDigit (byte.toNat % 16)]) :
    bytes = bytes' := by
  induction bytes generalizing bytes' with
  | nil =>
    cases bytes' with
    | nil => rfl
    | cons byte' bytes' => cases h
  | cons byte bytes ih =>
    cases bytes' with
    | nil => cases h
    | cons byte' bytes' =>
      simp only [List.flatMap_cons, List.cons_append, List.nil_append, List.cons.injEq] at h
      obtain ⟨hhigh, hlow, hrest⟩ := h
      have hbyte := byte.toNat_lt
      have hbyte' := byte'.toNat_lt
      have hhigh := hexDigit_injective (by omega) (by omega) hhigh
      have hlow := hexDigit_injective (by omega) (by omega) hlow
      rw [ih hrest, UInt8.toNat_inj.mp (by omega : byte.toNat = byte'.toNat)]

/-- Equal texts are texts of equal digests. -/
theorem digest_eq_of_sha256Hex [Sha256] {bytes bytes' : Bytes}
    (h : sha256Hex bytes = sha256Hex bytes') : Sha256.digest bytes = Sha256.digest bytes' :=
  hexDigits_injective (String.ofList_inj.mp h)

open Renewal in
/-- The bytes that the fingerprint is the digest of. -/
def appendTemplate (template : EncodedRenewalTemplate) : Encoder RenewalFailure Unit := do
  appendText template.schema
  appendText template.clusterId
  appendText template.policySchema
  ServiceTrust.appendLists Renewal.valueTooLong Renewal.listTooLong template.trustedCredentials
    template.revokedServiceIds template.revokedCredentials template.gatewayServiceIds

/-- What a template says, in bytes. -/
def EncodedRenewalTemplate.canonicalSemantics (template : EncodedRenewalTemplate) :
    Except RenewalFailure Bytes :=
  encode do
    extend templateFingerprintDomain
    appendTemplate template

open Renewal in
/-- The template together with the key that signs its policies. -/
def RenewalTemplate.authorityFingerprint [Sha256] (template : RenewalTemplate)
    (rootKeyId rootPublicKeyBase64 : String) : Except RenewalFailure String := do
  require (isId rootKeyId) (RenewalFailure.error
    ⟨.invalidRootKeyId, "service-trust renewal root key ID is invalid"⟩)
  let semantics ← template.canonicalSemantics
  let bytes ← encode do
    extend authorityFingerprintDomain
    appendBytes Renewal.valueTooLong semantics
    appendText rootKeyId
    appendText rootPublicKeyBase64
  pure (sha256Hex bytes)

/-! ## Templates -/

/-- The policy that a template is checked with. -/
def EncodedRenewalTemplate.policyForValidation (template : EncodedRenewalTemplate) :
    ServiceTrustPolicyPayload where
  schema := template.policySchema
  clusterId := template.clusterId
  generation := 1
  issuedAtMs := 1
  expiresAtMs := some 2
  trustedCredentials := template.trustedCredentials
  revokedServiceIds := template.revokedServiceIds
  revokedCredentials := template.revokedCredentials
  gatewayServiceIds := template.gatewayServiceIds

variable [Ed25519] [Base64]

/-- A template of this cluster whose policy compiles. -/
def RenewalTemplate.decode [Sha256] [Json EncodedRenewalTemplate] (bytes : Bytes)
    (expectedClusterId : String) : Except RenewalFailure RenewalTemplate := do
  require (bytes.length ≤ maxServiceTrustRenewalTemplateBytes) (RenewalFailure.error
    ⟨.templateTooLarge, "service-trust renewal template exceeds the byte limit"⟩)
  require (isId expectedClusterId) (RenewalFailure.error
    ⟨.invalidClusterId, "expected service-trust renewal cluster ID is invalid"⟩)
  let some encoded := (Json.fromSlice bytes : Option EncodedRenewalTemplate)
    | throw (.error ⟨.invalidJson, "service-trust renewal template is not exact valid JSON"⟩)
  require (encoded.schema == serviceTrustRenewalTemplateSchema) (RenewalFailure.error
    ⟨.invalidTemplateSchema, "service-trust renewal template schema is unsupported"⟩)
  require (isId encoded.clusterId) (RenewalFailure.error
    ⟨.invalidClusterId, "service-trust renewal template cluster ID is invalid"⟩)
  require (encoded.clusterId == expectedClusterId) (RenewalFailure.error
    ⟨.clusterMismatch, "service-trust renewal template cluster does not match this authority"⟩)
  require (encoded.policySchema == ServiceTrustPolicyVersion.v2.policySchema) (RenewalFailure.error
    ⟨.invalidPolicySchema, "service-trust renewal template requires policy schema v2"⟩)
  let _ ← (compilePolicy encoded.policyForValidation).mapError fun _ => RenewalFailure.error
    ⟨.invalidTemplate, "service-trust renewal template policy semantics are invalid"⟩
  let semantics ← encoded.canonicalSemantics
  pure { toEncodedRenewalTemplate := encoded, semanticFingerprint := sha256Hex semantics }

namespace RenewalTemplate

/-- Whether a policy says what the template says. -/
def semanticallyMatchesPolicy (template : RenewalTemplate) (policy : ServiceTrustPolicyPayload) :
    Bool :=
  policy.schema == template.policySchema && policy.clusterId == template.clusterId &&
    policy.trustedCredentials == template.trustedCredentials &&
    policy.revokedServiceIds == template.revokedServiceIds &&
    policy.revokedCredentials == template.revokedCredentials &&
    policy.gatewayServiceIds == template.gatewayServiceIds

/-- The policy says what the template says, and compiles. -/
def validatePolicySemantics (template : RenewalTemplate) (policy : ServiceTrustPolicyPayload) :
    Except ServiceTrustRenewalError Unit := do
  require (template.semanticallyMatchesPolicy policy) (⟨.semanticDrift,
    "service-trust snapshot differs from renewal template semantics"⟩ : ServiceTrustRenewalError)
  let _ ← (compilePolicy policy).mapError fun _ => (⟨.semanticDrift,
    "service-trust snapshot policy semantics are invalid"⟩ : ServiceTrustRenewalError)
  pure ()

/-- The snapshot does so too, signed by the expected root. -/
def validateSnapshotSemantics (template : RenewalTemplate) (snapshot : ServiceTrustSnapshot)
    (expectedRootKeyId : String) : Except ServiceTrustRenewalError Unit := do
  require (isId expectedRootKeyId) (⟨.invalidRootKeyId,
    "expected service-trust renewal root key ID is invalid"⟩ : ServiceTrustRenewalError)
  require (snapshot.authentication.keyId == expectedRootKeyId) (⟨.wrongRootKey,
    "service-trust snapshot was signed by a different root authority"⟩ : ServiceTrustRenewalError)
  template.validatePolicySemantics snapshot.policy

end RenewalTemplate

/-! ## Timing -/

/-- The shortest lifetime of a policy. -/
def minServiceTrustRenewalPolicyLifetimeMs : ℕ := 250

/-- The longest lifetime of a policy. -/
def maxServiceTrustRenewalPolicyLifetimeMs : ℕ := 7 * 24 * 60 * 60 * 1000

/-- When policies are renewed, and how. -/
structure RenewalTimingConfig where
  policyLifetimeMs : UInt64
  renewBeforeMs : UInt64
  pollIntervalMs : UInt64
  retryIntervalMs : UInt64
  requestTimeoutMs : UInt64
deriving Repr, DecidableEq

namespace RenewalTimingConfig

/-- `RenewalTimingConfig::new`. -/
def validate (timing : RenewalTimingConfig) : Bool :=
  (minServiceTrustRenewalPolicyLifetimeMs ≤ timing.policyLifetimeMs.toNat &&
    timing.policyLifetimeMs.toNat ≤ maxServiceTrustRenewalPolicyLifetimeMs) &&
  (timing.renewBeforeMs ≠ 0 && timing.renewBeforeMs < timing.policyLifetimeMs) &&
  ([timing.pollIntervalMs, timing.retryIntervalMs, timing.requestTimeoutMs].all fun interval =>
    interval ≠ 0 && interval.toNat ≤ maxServiceTrustRenewalPolicyLifetimeMs) &&
  -- the sum cannot overflow: both are at most the largest lifetime
  timing.requestTimeoutMs.toNat + timing.retryIntervalMs.toNat < timing.renewBeforeMs.toNat

end RenewalTimingConfig

/-- Whether a policy is to be renewed. -/
inductive RenewalSchedule
  | waiting (deadlineMs waitMs : UInt64)
  | due (deadlineMs : UInt64)
  | late (deadlineMs lateByMs : UInt64)
deriving Repr, DecidableEq

/-- When the policy that expires at `expiresAtMs` is to be renewed. -/
def RenewalTimingConfig.schedule (timing : RenewalTimingConfig)
    (expiresAtMs effectiveNowMs : UInt64) : Except ServiceTrustRenewalError RenewalSchedule := do
  require (timing.renewBeforeMs ≤ expiresAtMs) (⟨.arithmeticOverflow,
    "service-trust renewal deadline cannot be represented"⟩ : ServiceTrustRenewalError)
  let deadlineMs := expiresAtMs - timing.renewBeforeMs
  if effectiveNowMs < deadlineMs then
    pure (.waiting deadlineMs (min (deadlineMs - effectiveNowMs) timing.pollIntervalMs))
  else if effectiveNowMs < expiresAtMs then pure (.due deadlineMs)
  else pure (.late deadlineMs (effectiveNowMs - expiresAtMs))

/-! ## The next policy -/

namespace RenewalTemplate

/-- The generation after the previous one. -/
def nextGeneration : Option UInt64 → Except ServiceTrustRenewalError UInt64
  | none => .ok 1
  | some previous =>
    if previous.toNat + 1 < 2 ^ 64 then .ok (previous + 1)
    else .error ⟨.generationExhausted, "service-trust renewal generation is exhausted"⟩

/-- The policy that follows, of the next generation. -/
def deriveNextPolicy (template : RenewalTemplate) (previousGeneration : Option UInt64)
    (issuedAtMs : UInt64) (timing : RenewalTimingConfig) :
    Except ServiceTrustRenewalError ServiceTrustPolicyPayload := do
  require (issuedAtMs ≠ 0) (⟨.invalidTime,
    "service-trust renewal issue time must be positive"⟩ : ServiceTrustRenewalError)
  let generation ← nextGeneration previousGeneration
  require (issuedAtMs.toNat + timing.policyLifetimeMs.toNat < 2 ^ 64) (⟨.arithmeticOverflow,
    "service-trust renewal expiry cannot be represented"⟩ : ServiceTrustRenewalError)
  let policy : ServiceTrustPolicyPayload := {
    schema := template.policySchema
    clusterId := template.clusterId
    generation := generation
    issuedAtMs := issuedAtMs
    expiresAtMs := some (issuedAtMs + timing.policyLifetimeMs)
    trustedCredentials := template.trustedCredentials
    revokedServiceIds := template.revokedServiceIds
    revokedCredentials := template.revokedCredentials
    gatewayServiceIds := template.gatewayServiceIds }
  let _ ← (compilePolicy policy).mapError fun _ => (⟨.invalidTemplate,
    "service-trust renewal could not derive a valid policy"⟩ : ServiceTrustRenewalError)
  pure policy

/-- The policy that follows, signed and checked again. -/
def signNext (template : RenewalTemplate) (previousGeneration : Option UInt64)
    (issuedAtMs : UInt64) (timing : RenewalTimingConfig)
    (signer : ServiceTrustRootSigningIdentity) :
    Except ServiceTrustRenewalError ServiceTrustSnapshot := do
  let policy ← template.deriveNextPolicy previousGeneration issuedAtMs timing
  let snapshot ← (signer.sign policy).mapError fun _ =>
    (⟨.signingFailed, "service-trust renewal signing failed"⟩ : ServiceTrustRenewalError)
  template.validateSnapshotSemantics snapshot signer.keyId
  pure snapshot

/-- What a signed next policy is. -/
structure SignedNext (template : RenewalTemplate) (previousGeneration : Option UInt64)
    (issuedAtMs : UInt64) (timing : RenewalTimingConfig)
    (signer : ServiceTrustRootSigningIdentity) (snapshot : ServiceTrustSnapshot) : Prop where
  generation : nextGeneration previousGeneration = .ok snapshot.policy.generation
  bounded : issuedAtMs.toNat + timing.policyLifetimeMs.toNat < 2 ^ 64
  issuedAtMs_eq : snapshot.policy.issuedAtMs = issuedAtMs
  expiresAtMs_eq : snapshot.policy.expiresAtMs = some (issuedAtMs + timing.policyLifetimeMs)
  signed : signer.sign snapshot.policy = .ok snapshot
  semantics : template.validateSnapshotSemantics snapshot signer.keyId = .ok ()

lemma SignedNext.of_signNext {template : RenewalTemplate} {previousGeneration : Option UInt64}
    {issuedAtMs : UInt64} {timing : RenewalTimingConfig}
    {signer : ServiceTrustRootSigningIdentity} {snapshot : ServiceTrustSnapshot}
    (h : template.signNext previousGeneration issuedAtMs timing signer = .ok snapshot) :
    SignedNext template previousGeneration issuedAtMs timing signer snapshot := by
  obtain ⟨policy, hpolicy, h⟩ := of_bind h
  obtain ⟨signed, hsigned, h⟩ := of_bind h
  obtain ⟨_, hsemantics, h⟩ := of_bind h
  obtain rfl : signed = snapshot := Except.ok.inj h
  have hsigned := of_mapError hsigned
  have heq : signed.policy = policy := (of_sign hsigned).2.1
  obtain ⟨_, _, hpolicy⟩ := of_bind hpolicy
  obtain ⟨generation, hgeneration, hpolicy⟩ := of_bind hpolicy
  obtain ⟨_, hbounded, hpolicy⟩ := of_bind hpolicy
  obtain ⟨_, _, hpolicy⟩ := of_bind hpolicy
  have hfields := heq.trans (Except.ok.inj hpolicy).symm
  refine ⟨?_, of_decide_eq_true (of_require hbounded), ?_, ?_, heq ▸ hsigned, hsemantics⟩
  · rw [hfields]
    exact hgeneration
  · rw [hfields]
  · rw [hfields]

end RenewalTemplate

/-- A clock that never steps back. -/
structure RenewalEffectiveClock where
  effectiveNowMs : Option UInt64
deriving Repr, DecidableEq

/-- The clock after a reading. -/
def RenewalEffectiveClock.observe (clock : RenewalEffectiveClock) (observedWallNowMs : UInt64) :
    UInt64 :=
  clock.effectiveNowMs.elim observedWallNowMs (max · observedWallNowMs)

end InferLab.ServiceAuth
