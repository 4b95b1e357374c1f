import InferLab.ServiceAuth.Requests

/-!
# Service authentication: trust policies

Which services and keys are trusted is stated in a policy that a root key signs. The first
version of policies never expires; the second carries the time of its expiry.
-/

namespace InferLab.ServiceAuth

open Wire Except

/-- The versions of a policy; the second one expires. -/
inductive ServiceTrustPolicyVersion
  | v1
  | v2
deriving Repr, DecidableEq

namespace ServiceTrustPolicyVersion

/-- The schema of a policy. -/
def policySchema : ServiceTrustPolicyVersion → String
  | v1 => "inferlab.service-trust-policy.v1"
  | v2 => "inferlab.service-trust-policy.v2"

/-- The schema of its authentication. -/
def authenticationSchema : ServiceTrustPolicyVersion → String
  | v1 => "inferlab.service-trust-authentication.v1"
  | v2 => "inferlab.service-trust-authentication.v2"

/-- The policy schema and a zero byte. -/
def payloadDomain : ServiceTrustPolicyVersion → Bytes
  | v1 => utf8 "inferlab.service-trust-policy.v1" ++ [0]
  | v2 => utf8 "inferlab.service-trust-policy.v2" ++ [0]

end ServiceTrustPolicyVersion

/-- A credential that a policy trusts. -/
structure ServiceTrustCredential where
  serviceId : String
  credentialId : String
  publicKeyBase64 : String
deriving Repr, DecidableEq

/-- A credential that a policy revokes. -/
structure ServiceCredentialReference where
  serviceId : String
  credentialId : String
deriving Repr, DecidableEq

/-- The form that errors and key rings use. -/
def ServiceCredentialReference.qualifiedId (reference : ServiceCredentialReference) : String :=
  s!"{reference.serviceId}/{reference.credentialId}"

/-- What the root signs. -/
structure ServiceTrustPolicyPayload where
  schema : String
  clusterId : String
  generation : UInt64
  issuedAtMs : UInt64
  expiresAtMs : Option UInt64
  trustedCredentials : List ServiceTrustCredential
  revokedServiceIds : List String
  revokedCredentials : List ServiceCredentialReference
  gatewayServiceIds : List String
deriving Repr, DecidableEq

/-- How a snapshot says which root signed it. -/
structure ServiceTrustSnapshotAuthentication where
  schema : String
  algorithm : String
  keyId : String
  signature : String
deriving Repr, DecidableEq

/-- A signed policy. -/
structure ServiceTrustSnapshot where
  policy : ServiceTrustPolicyPayload
  authentication : ServiceTrustSnapshotAuthentication
deriving Repr, DecidableEq

/-- Why a snapshot is not taken. -/
structure ServiceTrustError where
  message : String
deriving Repr, DecidableEq

/-! ## The shape of a policy -/

/-- The most credentials of a policy. -/
def maxPolicyCredentials : ℕ := 256

/-- The most services of a list of a policy. -/
def maxPolicyServiceIds : ℕ := 256

namespace ServiceTrust

/-- An identifier; the label says of what. -/
def validateId (value label : String) : Except ServiceTrustError Unit :=
  require (isId value) (⟨s!"{label} must contain 1 to {maxIdBytes} ASCII letters, digits, " ++
    "'.', '_', or '-'"⟩ : ServiceTrustError)

/-- The version that a policy's schema names. -/
def policyVersion (schema : String) : Except ServiceTrustError ServiceTrustPolicyVersion :=
  if schema = ServiceTrustPolicyVersion.v1.policySchema then .ok .v1
  else if schema = ServiceTrustPolicyVersion.v2.policySchema then .ok .v2
  else .error ⟨s!"unsupported service-trust policy schema '{schema}'; expected " ++
    "'inferlab.service-trust-policy.v1' or 'inferlab.service-trust-policy.v2'"⟩

/-- The version that an authentication's schema names. -/
def authenticationVersion (schema : String) : Except ServiceTrustError ServiceTrustPolicyVersion :=
  if schema = ServiceTrustPolicyVersion.v1.authenticationSchema then .ok .v1
  else if schema = ServiceTrustPolicyVersion.v2.authenticationSchema then .ok .v2
  else .error ⟨s!"unsupported service-trust authentication schema '{schema}'; expected " ++
    "'inferlab.service-trust-authentication.v1' or 'inferlab.service-trust-authentication.v2'"⟩

end ServiceTrust

/-- The version of a policy. -/
def ServiceTrustPolicyPayload.version (policy : ServiceTrustPolicyPayload) :
    Except ServiceTrustError ServiceTrustPolicyVersion :=
  ServiceTrust.policyVersion policy.schema

namespace ServiceTrust

/-- The first version has no expiry, the second one after its issue. -/
def validateExpiry : ServiceTrustPolicyVersion → Option UInt64 → UInt64 →
    Except ServiceTrustError Unit
  | .v1, none, _ => .ok ()
  | .v1, some _, _ => .error ⟨"service-trust policy v1 must omit expires_at_ms"⟩
  | .v2, none, _ => .error ⟨"service-trust policy v2 must include expires_at_ms"⟩
  | .v2, some expiresAtMs, issuedAtMs =>
    require (issuedAtMs < expiresAtMs)
      (⟨"service-trust policy v2 expiry must be later than its issue time"⟩ : ServiceTrustError)

/-- A credential is well formed. -/
def validateCredential (credential : ServiceTrustCredential) : Except ServiceTrustError Unit := do
  validateId credential.serviceId "service ID"
  validateId credential.credentialId "credential ID"
  require ((utf8 credential.publicKeyBase64).length ≤ 128)
    (⟨"service public key encoding exceeds 128 bytes"⟩ : ServiceTrustError)

/-- A reference is well formed. -/
def validateReference (credential : ServiceCredentialReference) :
    Except ServiceTrustError Unit := do
  validateId credential.serviceId "service ID"
  validateId credential.credentialId "credential ID"

/-- What can be checked of a policy before its keys are decoded. -/
def validatePolicyShape (policy : ServiceTrustPolicyPayload) : Except ServiceTrustError Unit := do
  let version ← policy.version
  validateId policy.clusterId "cluster ID"
  require (policy.generation ≠ 0)
    (⟨"service-trust policy generation must be positive"⟩ : ServiceTrustError)
  require (policy.issuedAtMs ≠ 0)
    (⟨"service-trust policy issue time must be positive"⟩ : ServiceTrustError)
  validateExpiry version policy.expiresAtMs policy.issuedAtMs
  require (policy.trustedCredentials.length ≤ maxPolicyCredentials)
    (⟨s!"service-trust policy exceeds the {maxPolicyCredentials}-credential bound"⟩ :
      ServiceTrustError)
  require (policy.revokedServiceIds.length ≤ maxPolicyServiceIds &&
    policy.revokedCredentials.length ≤ maxPolicyCredentials &&
    policy.gatewayServiceIds.length ≤ maxPolicyServiceIds)
    (⟨"service-trust policy identity list exceeds its configured bound"⟩ : ServiceTrustError)
  policy.trustedCredentials.forM validateCredential
  policy.revokedServiceIds.forM (validateId · "service ID")
  policy.revokedCredentials.forM validateReference
  policy.gatewayServiceIds.forM (validateId · "gateway service ID")

/-- What holds of a policy whose shape is valid. -/
structure Shaped (policy : ServiceTrustPolicyPayload) (v : ServiceTrustPolicyVersion) :
    Prop where
  version : policy.version = .ok v
  generation : policy.generation ≠ 0
  issuedAtMs : policy.issuedAtMs ≠ 0
  expiry : validateExpiry v policy.expiresAtMs policy.issuedAtMs = .ok ()

variable {policy : ServiceTrustPolicyPayload}

lemma exists_shaped {u : Unit} (h : validatePolicyShape policy = .ok u) :
    ∃ version, Shaped policy version := by
  simp only [validatePolicyShape, bind_eq_ok_iff, require_eq_ok_iff, decide_eq_true_eq] at h
  obtain ⟨version, hversion, _, _, _, hgeneration, _, hissued, _, hexpiry, _⟩ := h
  exact ⟨version, hversion, hgeneration, hissued, hexpiry⟩

lemma Shaped.expiresAtMs_eq_none (h : Shaped policy .v1) : policy.expiresAtMs = none := by
  have hexpiry := h.expiry
  cases hexpires : policy.expiresAtMs with
  | none => rfl
  | some expiresAtMs =>
    rw [hexpires] at hexpiry
    cases hexpiry

/-- A policy of the second version expires after its issue. -/
theorem Shaped.exists_expiresAtMs (h : Shaped policy .v2) :
    ∃ expiresAtMs, policy.expiresAtMs = some expiresAtMs ∧ policy.issuedAtMs < expiresAtMs := by
  have hexpiry := h.expiry
  cases hexpires : policy.expiresAtMs with
  | none =>
    rw [hexpires] at hexpiry
    cases hexpiry
  | some expiresAtMs =>
    rw [hexpires] at hexpiry
    exact ⟨expiresAtMs, rfl, of_decide_eq_true (of_require hexpiry)⟩

/-- The authentication names a known version and algorithm. -/
def validateAuthentication (authentication : ServiceTrustSnapshotAuthentication) :
    Except ServiceTrustError ServiceTrustPolicyVersion := do
  let version ← authenticationVersion authentication.schema
  require (authentication.algorithm == signatureAlgorithm)
    (⟨s!"unsupported service-trust signature algorithm '{authentication.algorithm}'; " ++
      s!"expected '{signatureAlgorithm}'"⟩ : ServiceTrustError)
  validateId authentication.keyId "service-trust root key ID"
  pure version

/-! ## The bytes that a root signs -/

section Lists

variable {ε : Type} (tooLong tooMany : ε)

/-- A credential in the signed bytes. -/
def appendCredential (credential : ServiceTrustCredential) : Encoder ε Unit := do
  appendString tooLong credential.serviceId
  appendString tooLong credential.credentialId
  appendString tooLong credential.publicKeyBase64

/-- A reference in the signed bytes. -/
def appendReference (credential : ServiceCredentialReference) : Encoder ε Unit := do
  appendString tooLong credential.serviceId
  appendString tooLong credential.credentialId

/-- The lists of policies and of the templates that they are derived from. -/
def appendLists (trustedCredentials : List ServiceTrustCredential)
    (revokedServiceIds : List String) (revokedCredentials : List ServiceCredentialReference)
    (gatewayServiceIds : List String) : Encoder ε Unit := do
  appendCount tooMany trustedCredentials.length
  trustedCredentials.forM (appendCredential tooLong)
  appendCount tooMany revokedServiceIds.length
  revokedServiceIds.forM (appendString tooLong)
  appendCount tooMany revokedCredentials.length
  revokedCredentials.forM (appendReference tooLong)
  appendCount tooMany gatewayServiceIds.length
  gatewayServiceIds.forM (appendString tooLong)

end Lists

/-- The error of a text that is too long. -/
def valueTooLong : ServiceTrustError := ⟨"service-trust value exceeds canonical limit"⟩

/-- The error of a list that is too long. -/
def listTooLong : ServiceTrustError := ⟨"service-trust list exceeds canonical limit"⟩

/-- A text, with its length before it. -/
def appendText (text : String) : Encoder ServiceTrustError Unit := appendString valueTooLong text

/-- Only the second version states an expiry. -/
def appendExpiry (version : ServiceTrustPolicyVersion) (expiresAtMs : Option UInt64) :
    Encoder ServiceTrustError Unit :=
  match version, expiresAtMs with
  | .v1, _ => pure ()
  | .v2, some expiresAtMs => extend (be64 expiresAtMs)
  | .v2, none => throw ⟨"service-trust policy v2 must include expires_at_ms"⟩

/-- The signed bytes of a policy. -/
def appendPolicy (version : ServiceTrustPolicyVersion) (policy : ServiceTrustPolicyPayload)
    (authentication : ServiceTrustSnapshotAuthentication) : Encoder ServiceTrustError Unit := do
  appendText policy.schema
  appendText policy.clusterId
  extend (be64 policy.generation)
  extend (be64 policy.issuedAtMs)
  appendExpiry version policy.expiresAtMs
  appendLists valueTooLong listTooLong policy.trustedCredentials policy.revokedServiceIds
    policy.revokedCredentials policy.gatewayServiceIds
  appendText authentication.schema
  appendText authentication.algorithm
  appendText authentication.keyId

/-- The bytes of a policy that a root signs. -/
def canonicalPayload (policy : ServiceTrustPolicyPayload)
    (authentication : ServiceTrustSnapshotAuthentication) : Except ServiceTrustError Bytes := do
  validatePolicyShape policy
  let policyVersion ← policy.version
  let authenticationVersion ← validateAuthentication authentication
  require (policyVersion = authenticationVersion)
    (⟨s!"service-trust policy schema '{policy.schema}' cannot use authentication schema " ++
      s!"'{authentication.schema}'"⟩ : ServiceTrustError)
  encode do
    extend policyVersion.payloadDomain
    appendPolicy policyVersion policy authentication

lemma of_canonicalPayload {authentication : ServiceTrustSnapshotAuthentication} {u : Bytes}
    (h : canonicalPayload policy authentication = .ok u) :
    ∃ version, Shaped policy version ∧
      (encode do
        extend version.payloadDomain
        appendPolicy version policy authentication) = .ok u := by
  simp only [canonicalPayload, bind_eq_ok_iff] at h
  obtain ⟨_, hshape, version, hversion, _, _, _, _, h⟩ := h
  obtain ⟨version', hshaped⟩ := exists_shaped hshape
  obtain rfl : version = version' := ok.inj (hversion.symm.trans hshaped.version)
  exact ⟨version, hshaped, h⟩

/-- What is not signed is fixed by what is. -/
theorem authentication_of_canonicalPayload {authentication : ServiceTrustSnapshotAuthentication}
    {u : Bytes} (h : canonicalPayload policy authentication = .ok u) :
    ∃ version, policy.version = .ok version ∧
      authentication.schema = version.authenticationSchema ∧
      authentication.algorithm = signatureAlgorithm := by
  simp only [canonicalPayload, validateAuthentication, bind_eq_ok_iff, require_eq_ok_iff] at h
  obtain ⟨_, _, version, hversion, _, ⟨found, hfound, _, halgorithm, _, _, hpure⟩, _, hsame, _⟩ := h
  obtain rfl := ok.inj hpure
  obtain rfl := of_decide_eq_true hsame
  refine ⟨version, hversion, ?_, eq_of_beq halgorithm⟩
  unfold authenticationVersion at hfound
  by_cases hv1 : authentication.schema = ServiceTrustPolicyVersion.v1.authenticationSchema
  · rw [if_pos hv1] at hfound
    rw [hv1, ← ok.inj hfound]
  rw [if_neg hv1] at hfound
  by_cases hv2 : authentication.schema = ServiceTrustPolicyVersion.v2.authenticationSchema
  · rw [if_pos hv2] at hfound
    rw [hv2, ← ok.inj hfound]
  · rw [if_neg hv2] at hfound
    cases hfound

end ServiceTrust

/-! ## Compiled policies -/

/-- A policy in the form that requests are checked with. -/
structure CompiledServiceTrustPolicy where
  keys : TrustedServiceKeyRing
  gatewayServiceIds : List String
deriving Repr, DecidableEq

/-- Every gateway is trusted and named once. -/
def checkGateways (trusted : List String) : List String → List String →
    Except ServiceTrustError Unit
  | _, [] => .ok ()
  | seen, gatewayId :: gatewayIds => do
    ServiceTrust.validateId gatewayId "gateway service ID"
    require (trusted.contains gatewayId)
      (⟨s!"gateway service ID '{gatewayId}' is missing from trusted credentials"⟩ :
        ServiceTrustError)
    require (!seen.contains gatewayId)
      (⟨s!"gateway service ID '{gatewayId}' is duplicated"⟩ : ServiceTrustError)
    checkGateways trusted (gatewayId :: seen) gatewayIds

/-- The key ring of a policy. It is parsed from the text that the static configuration uses. -/
def compilePolicy [Ed25519] [Base64] (policy : ServiceTrustPolicyPayload) :
    Except ServiceTrustError CompiledServiceTrustPolicy := do
  ServiceTrust.validatePolicyShape policy
  let encodedKeys := ",".intercalate (policy.trustedCredentials.map fun credential =>
    s!"{credential.serviceId}/{credential.credentialId}={credential.publicKeyBase64}")
  let revokedServiceIds := ",".intercalate policy.revokedServiceIds
  let revokedCredentials :=
    ",".intercalate (policy.revokedCredentials.map ServiceCredentialReference.qualifiedId)
  let keys ← (TrustedServiceKeyRing.parseWithRevokedCredentials encodedKeys revokedServiceIds
    revokedCredentials).mapError fun error =>
      ⟨s!"invalid service-trust policy: {error.message}"⟩
  checkGateways keys.orderedServiceIds [] policy.gatewayServiceIds
  require (!policy.gatewayServiceIds.isEmpty)
    (⟨"at least one gateway service ID is required"⟩ : ServiceTrustError)
  pure ⟨keys, policy.gatewayServiceIds⟩

/-- A snapshot whose signature has been checked. -/
structure VerifiedServiceTrustSnapshot where
  policy : ServiceTrustPolicyPayload
  signingKeyId : String
  signature : String
  compiled : CompiledServiceTrustPolicy
deriving Repr, DecidableEq

/-! ## Root keys -/

/-- The key of a root. -/
structure ServiceTrustRootSigningIdentity where
  keyId : String
  seed : Bytes
deriving Repr, DecidableEq

/-- Signs a policy that compiles. -/
def ServiceTrustRootSigningIdentity.sign [Ed25519] [Base64]
    (identity : ServiceTrustRootSigningIdentity) (policy : ServiceTrustPolicyPayload) :
    Except ServiceTrustError ServiceTrustSnapshot := do
  let _ ← compilePolicy policy
  let version ← policy.version
  let authentication : ServiceTrustSnapshotAuthentication := {
    schema := version.authenticationSchema
    algorithm := signatureAlgorithm
    keyId := identity.keyId
    signature := "" }
  let message ← ServiceTrust.canonicalPayload policy authentication
  pure {
    policy := policy
    authentication := { authentication with
      signature := Base64.encode (Ed25519.sign identity.seed message) } }

variable {snapshot : ServiceTrustSnapshot}

/-- What is signed: the policy, with all of the authentication but the signature. -/
theorem of_sign [Ed25519] [Base64] {identity : ServiceTrustRootSigningIdentity}
    {policy : ServiceTrustPolicyPayload} (h : identity.sign policy = .ok snapshot) :
    (∃ compiled, compilePolicy policy = .ok compiled) ∧ snapshot.policy = policy ∧
      snapshot.authentication.keyId = identity.keyId ∧
      ∃ message, ServiceTrust.canonicalPayload policy
        { snapshot.authentication with signature := "" } = .ok message ∧
        snapshot.authentication.signature =
          Base64.encode (Ed25519.sign identity.seed message) := by
  obtain ⟨compiled, hcompiled, h⟩ := of_bind h
  obtain ⟨version, _, h⟩ := of_bind h
  obtain ⟨message, hmessage, h⟩ := of_bind h
  obtain rfl := ok.inj h
  exact ⟨⟨compiled, hcompiled⟩, rfl, rfl, message, hmessage, rfl⟩

/-- The roots whose policies are taken. -/
structure TrustedServiceTrustRootKeyRing where
  keys : List (String × Bytes)
  orderedKeyIds : List String
  revokedKeyIds : List String
deriving Repr, DecidableEq

/-- A policy that a trusted root has signed, with its key ring. -/
def TrustedServiceTrustRootKeyRing.verify [Ed25519] [Base64]
    (ring : TrustedServiceTrustRootKeyRing) (snapshot : ServiceTrustSnapshot) :
    Except ServiceTrustError VerifiedServiceTrustSnapshot := do
  let _ ← ServiceTrust.validateAuthentication snapshot.authentication
  require (!ring.revokedKeyIds.contains snapshot.authentication.keyId)
    (⟨s!"service-trust root '{snapshot.authentication.keyId}' is revoked"⟩ : ServiceTrustError)
  let some verifyingKey := ring.keys.lookup snapshot.authentication.keyId
    | throw ⟨s!"service-trust root '{snapshot.authentication.keyId}' is not trusted"⟩
  let message ← ServiceTrust.canonicalPayload snapshot.policy snapshot.authentication
  let signature ← (decodeExact 64 snapshot.authentication.signature
    "service-trust Ed25519 signature").mapError fun error => ⟨error.message⟩
  require (Ed25519.verifyStrict verifyingKey message signature)
    (⟨"service-trust signature verification failed"⟩ : ServiceTrustError)
  let compiled ← compilePolicy snapshot.policy
  pure {
    policy := snapshot.policy
    signingKeyId := snapshot.authentication.keyId
    signature := snapshot.authentication.signature
    compiled := compiled }

/-- What a root signs is accepted by every ring that trusts the root. -/
theorem exists_verify_of_sign [Ed25519] [Base64] [LawfulEd25519] [LawfulBase64]
    {identity : ServiceTrustRootSigningIdentity} {policy : ServiceTrustPolicyPayload}
    {ring : TrustedServiceTrustRootKeyRing} (h : identity.sign policy = .ok snapshot)
    (hseed : identity.seed.length = 32)
    (hkey : ring.keys.lookup identity.keyId = some (Ed25519.publicKey identity.seed))
    (hunrevoked : identity.keyId ∉ ring.revokedKeyIds) :
    ∃ verified, ring.verify snapshot = .ok verified := by
  obtain ⟨⟨compiled, hcompiled⟩, hpolicy, hid, message, hmessage, hsignature⟩ := of_sign h
  -- the signature is not part of what is signed
  have hmessage : ServiceTrust.canonicalPayload snapshot.policy snapshot.authentication =
      .ok message := by
    rw [hpolicy]
    exact hmessage
  have hvalid := hmessage
  simp only [ServiceTrust.canonicalPayload, bind_eq_ok_iff] at hvalid
  obtain ⟨_, _, _, _, version, hversion, _⟩ := hvalid
  have hdecoded : decodeExact 64 snapshot.authentication.signature
      "service-trust Ed25519 signature" = .ok (Ed25519.sign identity.seed message) := by
    rw [hsignature]
    simp only [decodeExact, bind_eq_ok_iff, mapError_eq_ok_iff, require_eq_ok_iff,
      decide_eq_true_eq]
    exact ⟨_, LawfulBase64.decode_encode _, (), LawfulEd25519.length_sign _ _ hseed, rfl⟩
  refine ⟨⟨snapshot.policy, snapshot.authentication.keyId, snapshot.authentication.signature,
    compiled⟩, ?_⟩
  unfold TrustedServiceTrustRootKeyRing.verify
  rw [bind_eq_ok_iff]
  refine ⟨version, hversion, ?_⟩
  rw [hid, hkey, bind_eq_ok_iff]
  refine ⟨(), require_eq_ok_iff.mpr (by simpa using hunrevoked), ?_⟩
  simp only [bind_eq_ok_iff, mapError_eq_ok_iff, require_eq_ok_iff]
  exact ⟨message, hmessage, _, hdecoded, (), LawfulEd25519.verifyStrict_sign _ _ hseed, compiled,
    hpolicy ▸ hcompiled, rfl⟩

/-- What a verified snapshot has been checked for. -/
structure RootVerified [Ed25519] [Base64] (ring : TrustedServiceTrustRootKeyRing)
    (snapshot : ServiceTrustSnapshot) (verified : VerifiedServiceTrustSnapshot) : Prop where
  unrevoked : snapshot.authentication.keyId ∉ ring.revokedKeyIds
  signed : ∃ verifyingKey message signature,
    ring.keys.lookup snapshot.authentication.keyId = some verifyingKey ∧
    ServiceTrust.canonicalPayload snapshot.policy snapshot.authentication = .ok message ∧
    decodeExact 64 snapshot.authentication.signature "service-trust Ed25519 signature" =
      .ok signature ∧
    Ed25519.verifyStrict verifyingKey message signature = true
  compiled : compilePolicy snapshot.policy = .ok verified.compiled
  policy_eq : verified.policy = snapshot.policy
  signingKeyId_eq : verified.signingKeyId = snapshot.authentication.keyId
  signature_eq : verified.signature = snapshot.authentication.signature

lemma RootVerified.of_verify [Ed25519] [Base64] {ring : TrustedServiceTrustRootKeyRing}
    {verified : VerifiedServiceTrustSnapshot} (h : ring.verify snapshot = .ok verified) :
    RootVerified ring snapshot verified := by
  unfold TrustedServiceTrustRootKeyRing.verify at h
  obtain ⟨_, _, h⟩ := of_bind h
  obtain ⟨_, hunrevoked, h⟩ := of_bind h
  cases hkey : ring.keys.lookup snapshot.authentication.keyId with
  | none =>
    rw [hkey] at h
    cases h
  | some key =>
    rw [hkey] at h
    obtain ⟨message, hmessage, h⟩ := of_bind h
    obtain ⟨signature, hsignature, h⟩ := of_bind h
    obtain ⟨_, hverified, h⟩ := of_bind h
    obtain ⟨compiled, hcompiled, h⟩ := of_bind h
    obtain rfl := ok.inj h
    have hunrevoked := of_require hunrevoked
    exact {
      unrevoked := by simpa using hunrevoked
      signed := ⟨key, message, signature, hkey, hmessage, of_mapError hsignature,
        of_require hverified⟩
      compiled := hcompiled
      policy_eq := rfl
      signingKeyId_eq := rfl
      signature_eq := rfl }

/-- A verified policy was signed in one way only. -/
theorem RootVerified.snapshot_eq [Ed25519] [Base64] {ring ring' : TrustedServiceTrustRootKeyRing}
    {a b : ServiceTrustSnapshot} {verified : VerifiedServiceTrustSnapshot}
    (ha : RootVerified ring a verified) (hb : RootVerified ring' b verified) : a = b := by
  obtain ⟨_, _, _, -, hmessage, -⟩ := ha.signed
  obtain ⟨_, _, _, -, hmessage', -⟩ := hb.signed
  have hpolicy : a.policy = b.policy := ha.policy_eq.symm.trans hb.policy_eq
  have hkey := ha.signingKeyId_eq.symm.trans hb.signingKeyId_eq
  have hsignature := ha.signature_eq.symm.trans hb.signature_eq
  obtain ⟨version, hversion, hschema, halgorithm⟩ :=
    ServiceTrust.authentication_of_canonicalPayload hmessage
  obtain ⟨version', hversion', hschema', halgorithm'⟩ :=
    ServiceTrust.authentication_of_canonicalPayload hmessage'
  rw [← hpolicy] at hversion'
  obtain rfl := ok.inj (hversion.symm.trans hversion')
  obtain ⟨policy, ⟨schema, algorithm, keyId, signature⟩⟩ := a
  obtain ⟨policy', ⟨schema', algorithm', keyId', signature'⟩⟩ := b
  simp only at hpolicy hkey hsignature hschema hschema' halgorithm halgorithm'
  rw [hpolicy, hkey, hsignature, hschema, hschema', halgorithm, halgorithm']

/-! ## Validity at a receiver -/

/-- The reasons why a policy is not valid now. -/
inductive ServiceTrustValidityErrorKind
  | invalidConfiguration
  | legacyV1Disallowed
  | issuedInFuture
  | lifetimeExceeded
  | expired
deriving Repr, DecidableEq

/-- The reason as status reports give it. -/
def ServiceTrustValidityErrorKind.asStr : ServiceTrustValidityErrorKind → String
  | .invalidConfiguration => "invalid_configuration"
  | .legacyV1Disallowed => "legacy_v1_disallowed"
  | .issuedInFuture => "issued_in_future"
  | .lifetimeExceeded => "lifetime_exceeded"
  | .expired => "expired"

/-- A policy that is not valid now. -/
structure ServiceTrustValidityError where
  kind : ServiceTrustValidityErrorKind
  message : String
deriving Repr, DecidableEq

/-- What a receiver asks of a policy's window. -/
structure ServiceTrustReceiverValidityConfig where
  allowV1 : Bool
  maxFutureSkewMs : UInt64
  maxLifetimeMs : UInt64
deriving Repr, DecidableEq

/-- What a receiver keeps of an accepted window. -/
structure ServiceTrustReceiverValidity where
  version : ServiceTrustPolicyVersion
  expiresAtMs : Option UInt64
deriving Repr, DecidableEq

/-- Whether a receiver may use a policy at a time. -/
def ServiceTrustPolicyPayload.validateReceiverValidity (policy : ServiceTrustPolicyPayload)
    (nowMs : UInt64) (config : ServiceTrustReceiverValidityConfig) :
    Except ServiceTrustValidityError ServiceTrustReceiverValidity := do
  (ServiceTrust.validatePolicyShape policy).mapError fun error =>
    ⟨.invalidConfiguration, s!"cannot validate malformed service-trust policy: {error.message}"⟩
  let version ← policy.version.mapError fun error =>
    ⟨.invalidConfiguration, s!"cannot validate unsupported service-trust policy: {error.message}"⟩
  match version with
  | .v1 =>
    require config.allowV1 (⟨.legacyV1Disallowed,
      "legacy non-expiring service-trust policy v1 is disabled"⟩ : ServiceTrustValidityError)
    pure ⟨version, none⟩
  | .v2 =>
    let some expiresAtMs := policy.expiresAtMs
      | throw ⟨.invalidConfiguration, "service-trust policy v2 is missing its required expiry"⟩
    require (policy.issuedAtMs.toNat ≤
        saturatingAdd u64Max nowMs.toNat config.maxFutureSkewMs.toNat)
      (⟨.issuedInFuture, "service-trust policy issue time exceeds the configured future-skew " ++
        s!"allowance of {config.maxFutureSkewMs} ms"⟩ : ServiceTrustValidityError)
    require (policy.issuedAtMs ≤ expiresAtMs) (⟨.invalidConfiguration,
      "service-trust policy expiry must be later than its issue time"⟩ : ServiceTrustValidityError)
    require (expiresAtMs - policy.issuedAtMs ≤ config.maxLifetimeMs) (⟨.lifetimeExceeded,
      s!"service-trust policy lifetime exceeds the configured {config.maxLifetimeMs} ms maximum"⟩ :
        ServiceTrustValidityError)
    require (nowMs < expiresAtMs)
      (⟨.expired, "service-trust policy is expired"⟩ : ServiceTrustValidityError)
    pure ⟨version, some expiresAtMs⟩

/-- A policy may be used at a time: it has not expired, was not issued beyond the tolerated skew
and does not live too long. -/
structure ServiceTrustPolicyPayload.InWindow (policy : ServiceTrustPolicyPayload)
    (nowMs : UInt64) (config : ServiceTrustReceiverValidityConfig) (expiresAtMs : UInt64) :
    Prop where
  expires : policy.expiresAtMs = some expiresAtMs
  unexpired : nowMs < expiresAtMs
  issued : policy.issuedAtMs.toNat ≤ nowMs.toNat + config.maxFutureSkewMs.toNat
  lifetime : expiresAtMs.toNat ≤ policy.issuedAtMs.toNat + config.maxLifetimeMs.toNat

/-- A policy of the first version needs the receiver's leave, and nothing else. -/
theorem ServiceTrustPolicyPayload.of_validateReceiverValidity {policy : ServiceTrustPolicyPayload}
    {nowMs : UInt64} {config : ServiceTrustReceiverValidityConfig}
    {validity : ServiceTrustReceiverValidity}
    (h : policy.validateReceiverValidity nowMs config = .ok validity) :
    (policy.version = .ok .v1 ∧ config.allowV1 = true ∧ validity = ⟨.v1, none⟩) ∨
    (policy.version = .ok .v2 ∧ ∃ expiresAtMs, policy.InWindow nowMs config expiresAtMs ∧
      validity = ⟨.v2, some expiresAtMs⟩) := by
  unfold validateReceiverValidity at h
  obtain ⟨_, _, h⟩ := of_bind h
  obtain ⟨version, hversion, h⟩ := of_bind h
  have hversion := of_mapError hversion
  cases version with
  | v1 =>
    left
    obtain ⟨_, hallowed, h⟩ := of_bind h
    cases h
    exact ⟨hversion, of_require hallowed, rfl⟩
  | v2 =>
    right
    cases hexpires : policy.expiresAtMs with
    | none =>
      rw [hexpires] at h
      cases h
    | some expiresAtMs =>
      rw [hexpires] at h
      obtain ⟨_, hissued, h⟩ := of_bind h
      obtain ⟨_, hordered, h⟩ := of_bind h
      obtain ⟨_, hlifetime, h⟩ := of_bind h
      obtain ⟨_, hunexpired, h⟩ := of_bind h
      cases h
      have hissued := of_decide_eq_true (of_require hissued)
      have hordered := of_decide_eq_true (of_require hordered)
      have hlifetime := UInt64.le_iff_toNat_le.mp
        (of_decide_eq_true (of_require hlifetime))
      rw [UInt64.toNat_sub_of_le _ _ hordered] at hlifetime
      refine ⟨hversion, expiresAtMs, ⟨hexpires, ?_, ?_, ?_⟩, rfl⟩
      · exact of_decide_eq_true (of_require hunexpired)
      · exact le_trans hissued (Nat.min_le_left _ _)
      · omega

end InferLab.ServiceAuth
