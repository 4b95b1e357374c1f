import InferLab.ServiceAuth.TrustSnapshot

/-!
# Service authentication: application receipts

A receiver that has activated a policy attests so with a receipt, signed with its own key. The
receipt is verified with the key ring of the policy that it is about.
-/

namespace InferLab.ServiceAuth

open Wire

/-- The schema of a receipt. -/
def serviceTrustReceiptSchema : String := "inferlab.service-trust-receipt.v1"

/-- The schema of its authentication. -/
def serviceTrustReceiptAuthenticationSchema : String :=
  "inferlab.service-trust-receipt-authentication.v1"

/-- `b"inferlab.service-trust-receipt.v1\0"`. -/
def receiptDomain : Bytes := utf8 "inferlab.service-trust-receipt.v1" ++ [0]

/-- What a receiver signs when it has applied a policy. -/
structure ServiceTrustReceiptPayload where
  schema : String
  clusterId : String
  generation : UInt64
  rootKeyId : String
  snapshotSignature : String
  receiverServiceId : String
  receiverCredentialId : String
  appliedAtMs : UInt64
deriving Repr, DecidableEq

/-- The signature of a receipt. -/
structure ServiceTrustReceiptAuthentication where
  schema : String
  algorithm : String
  signature : String
deriving Repr, DecidableEq

/-- A signed receipt. -/
structure ServiceTrustApplicationReceipt where
  payload : ServiceTrustReceiptPayload
  authentication : ServiceTrustReceiptAuthentication
deriving Repr, DecidableEq

/-- A receipt is well formed. -/
def validateReceipt [Base64] (payload : ServiceTrustReceiptPayload)
    (authentication : ServiceTrustReceiptAuthentication) : Except AuthenticationError Unit := do
  require (payload.schema == serviceTrustReceiptSchema) (AuthenticationError.new
    (s!"unsupported service-trust receipt schema '{payload.schema}'; " ++
      s!"expected '{serviceTrustReceiptSchema}'"))
  validateId payload.clusterId "cluster ID"
  require (payload.generation ≠ 0)
    (AuthenticationError.new "service-trust receipt generation must be positive")
  validateId payload.rootKeyId "service-trust root key ID"
  let _ ← decodeExact 64 payload.snapshotSignature "root service-trust snapshot signature"
  validateId payload.receiverServiceId "receiver service ID"
  validateId payload.receiverCredentialId "receiver credential ID"
  require (payload.appliedAtMs ≠ 0)
    (AuthenticationError.new "service-trust receipt application time must be positive")
  require (authentication.schema == serviceTrustReceiptAuthenticationSchema)
    (AuthenticationError.new
      (s!"unsupported service-trust receipt authentication schema '{authentication.schema}'; " ++
        s!"expected '{serviceTrustReceiptAuthenticationSchema}'"))
  require (authentication.algorithm == signatureAlgorithm) (AuthenticationError.new
    (s!"unsupported service-trust receipt signature algorithm '{authentication.algorithm}'; " ++
      s!"expected '{signatureAlgorithm}'"))

/-- The signed bytes of a receipt. -/
def appendReceipt (payload : ServiceTrustReceiptPayload)
    (authentication : ServiceTrustReceiptAuthentication) : Encoder AuthenticationError Unit := do
  appendValue payload.schema
  appendValue payload.clusterId
  extend (be64 payload.generation)
  appendValue payload.rootKeyId
  appendValue payload.snapshotSignature
  appendValue payload.receiverServiceId
  appendValue payload.receiverCredentialId
  extend (be64 payload.appliedAtMs)
  appendValue authentication.schema
  appendValue authentication.algorithm

/-- The bytes of a receipt that its receiver signs. -/
def canonicalReceipt [Base64] (payload : ServiceTrustReceiptPayload)
    (authentication : ServiceTrustReceiptAuthentication) : Except AuthenticationError Bytes := do
  validateReceipt payload authentication
  encode do
    extend receiptDomain
    appendReceipt payload authentication

variable [Ed25519] [Base64]

/-- The receipt for a snapshot; who attests is taken from the signer. -/
def signTrustReceiptWithKey (serviceId credentialId : String) (seed : Bytes)
    (snapshot : VerifiedServiceTrustSnapshot) (appliedAtMs : UInt64) :
    Except AuthenticationError ServiceTrustApplicationReceipt := do
  let payload : ServiceTrustReceiptPayload := {
    schema := serviceTrustReceiptSchema
    clusterId := snapshot.policy.clusterId
    generation := snapshot.policy.generation
    rootKeyId := snapshot.signingKeyId
    snapshotSignature := snapshot.signature
    receiverServiceId := serviceId
    receiverCredentialId := credentialId
    appliedAtMs := appliedAtMs }
  let authentication : ServiceTrustReceiptAuthentication := {
    schema := serviceTrustReceiptAuthenticationSchema
    algorithm := signatureAlgorithm
    signature := "" }
  let message ← canonicalReceipt payload authentication
  pure {
    payload := payload
    authentication := { authentication with
      signature := Base64.encode (Ed25519.sign seed message) } }

/-- A receipt is verified with the one credential that it names. -/
def TrustedServiceKeyRing.verifyTrustReceipt (ring : TrustedServiceKeyRing)
    (receipt : ServiceTrustApplicationReceipt) :
    Except AuthenticationError ServiceTrustReceiptPayload := do
  validateReceipt receipt.payload receipt.authentication
  let serviceId := receipt.payload.receiverServiceId
  let credentialId := receipt.payload.receiverCredentialId
  require (!ring.revokedServiceIds.contains serviceId)
    (⟨.revokedService, none, s!"service identity '{serviceId}' is revoked"⟩ : AuthenticationError)
  let some credentials := ring.credentialsOf serviceId
    | throw ⟨.unknownService, some credentialId, s!"service identity '{serviceId}' is not trusted"⟩
  let some credential := credentials.find? fun candidate => candidate.credentialId == credentialId
    | throw ⟨.unknownService, some credentialId,
        s!"service credential '{serviceId}/{credentialId}' is not trusted"⟩
  require (!ring.revokedCredentials.contains (serviceId, credentialId))
    (⟨.revokedCredential, some credentialId,
      s!"service credential '{serviceId}/{credentialId}' is revoked"⟩ : AuthenticationError)
  let message ← canonicalReceipt receipt.payload receipt.authentication
  let signature ← decodeExact 64 receipt.authentication.signature
    "service-trust receipt Ed25519 signature"
  require (Ed25519.verifyStrict credential.verifyingKey message signature)
    (⟨.signature, some credentialId, "service-trust receipt signature verification failed"⟩ :
      AuthenticationError)
  pure receipt.payload

/-- What a verified receipt has been checked for. -/
structure ReceiptVerified (ring : TrustedServiceKeyRing)
    (receipt : ServiceTrustApplicationReceipt) : Prop where
  valid : validateReceipt receipt.payload receipt.authentication = .ok ()
  serviceUnrevoked : receipt.payload.receiverServiceId ∉ ring.revokedServiceIds
  credentialUnrevoked :
    (receipt.payload.receiverServiceId, receipt.payload.receiverCredentialId) ∉
      ring.revokedCredentials
  signed : ∃ credentials credential message signature,
    ring.credentialsOf receipt.payload.receiverServiceId = some credentials ∧
    credential ∈ credentials ∧ credential.credentialId = receipt.payload.receiverCredentialId ∧
    canonicalReceipt receipt.payload receipt.authentication = .ok message ∧
    decodeExact 64 receipt.authentication.signature "service-trust receipt Ed25519 signature" =
      .ok signature ∧
    Ed25519.verifyStrict credential.verifyingKey message signature = true

lemma ReceiptVerified.of_verifyTrustReceipt {ring : TrustedServiceKeyRing}
    {receipt : ServiceTrustApplicationReceipt} {payload : ServiceTrustReceiptPayload}
    (h : ring.verifyTrustReceipt receipt = .ok payload) :
    ReceiptVerified ring receipt ∧ payload = receipt.payload := by
  unfold TrustedServiceKeyRing.verifyTrustReceipt at h
  obtain ⟨_, hvalid, h⟩ := of_bind h
  obtain ⟨_, hservice, h⟩ := of_bind h
  cases hcredentials : ring.credentialsOf receipt.payload.receiverServiceId with
  | none =>
    simp only [hcredentials] at h
    cases h
  | some credentials =>
    simp only [hcredentials] at h
    cases hcredential : credentials.find? fun candidate =>
        candidate.credentialId == receipt.payload.receiverCredentialId with
    | none =>
      simp only [hcredential] at h
      cases h
    | some credential =>
      simp only [hcredential] at h
      obtain ⟨_, hunrevoked, h⟩ := of_bind h
      obtain ⟨message, hmessage, h⟩ := of_bind h
      obtain ⟨signature, hsignature, h⟩ := of_bind h
      obtain ⟨_, hverified, h⟩ := of_bind h
      have hservice := of_require hservice
      have hunrevoked := of_require hunrevoked
      have hid := List.find?_some hcredential
      refine ⟨⟨hvalid, by simpa using hservice, by simpa using hunrevoked, ?_⟩,
        (Except.ok.inj h).symm⟩
      exact ⟨credentials, credential, message, signature, hcredentials,
        List.mem_of_find?_eq_some hcredential, by simpa using hid, hmessage, hsignature,
        of_require hverified⟩

end InferLab.ServiceAuth
