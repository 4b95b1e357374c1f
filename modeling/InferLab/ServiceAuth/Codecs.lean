import InferLab.Codec
import InferLab.ServiceAuth.Renewal
import InferLab.ServiceAuth.TrustReceipt

/-!
# Service authentication: an instance of the JSON parameters

Every codec stands for `serde_json` where the model is evaluated: it writes records field by
field and reads them again, with or without the new line at the end of a file. At the end there
is a root with two policies for one service and the receipt of that service for the first.
-/

namespace InferLab.Codec

open ServiceAuth

variable {α : Type} (c : Codec α)

/-- Everything is read, up to a new line at the end. -/
def fromSlice (bytes : Wire.Bytes) : Option α :=
  (c.get bytes).bind fun (a, rest) => if rest = [] ∨ rest = [10] then some a else none

lemma fromSlice_put (a : α) : c.fromSlice (c.put a) = some a := by
  have h := c.get_put a []
  rw [List.append_nil] at h
  simp [fromSlice, h]

lemma fromSlice_put_newline (a : α) : c.fromSlice (c.put a ++ [10]) = some a := by
  simp [fromSlice, c.get_put]

/-- The codec as what serde writes and reads. -/
@[reducible]
def json : Json α where
  toVec := c.put
  fromSlice := c.fromSlice

/-- The same, with the indented form. -/
@[reducible]
def prettyJson : PrettyJson α where
  toVec := c.put
  fromSlice := c.fromSlice
  toVecPretty := c.put

lemma lawful_json : @LawfulJson α c.json := @LawfulJson.mk α c.json c.fromSlice_put

lemma lawful_prettyJson : @LawfulPrettyJson α c.prettyJson :=
  @LawfulPrettyJson.mk α c.prettyJson c.fromSlice_put_newline

end InferLab.Codec

namespace InferLab.ServiceAuth

open Codec

/-- A credential, field by field. -/
def credentialCodec : Codec ServiceTrustCredential :=
  (string.pair (string.pair string)).map
    (fun c => (c.serviceId, c.credentialId, c.publicKeyBase64)) (fun (a, b, c) => ⟨a, b, c⟩)
    fun _ => rfl

/-- A reference, field by field. -/
def referenceCodec : Codec ServiceCredentialReference :=
  (string.pair string).map (fun r => (r.serviceId, r.credentialId)) (fun (a, b) => ⟨a, b⟩)
    fun _ => rfl

/-- A policy, field by field. -/
def policyCodec : Codec ServiceTrustPolicyPayload :=
  (string.pair (string.pair (u64.pair (u64.pair ((option u64).pair ((list credentialCodec).pair
    ((list string).pair ((list referenceCodec).pair (list string))))))))).map
    (fun p => (p.schema, p.clusterId, p.generation, p.issuedAtMs, p.expiresAtMs,
      p.trustedCredentials, p.revokedServiceIds, p.revokedCredentials, p.gatewayServiceIds))
    (fun (a, b, c, d, e, f, g, h, i) => ⟨a, b, c, d, e, f, g, h, i⟩)
    fun _ => rfl

/-- A snapshot, field by field. -/
def snapshotCodec : Codec ServiceTrustSnapshot :=
  (policyCodec.pair (string.pair (string.pair (string.pair string)))).map
    (fun s => (s.policy, s.authentication.schema, s.authentication.algorithm,
      s.authentication.keyId, s.authentication.signature))
    (fun (p, a, b, c, d) => ⟨p, a, b, c, d⟩)
    fun _ => rfl

/-- A receipt, field by field. -/
def receiptCodec : Codec ServiceTrustApplicationReceipt :=
  (string.pair (string.pair (u64.pair (string.pair (string.pair (string.pair (string.pair
    (u64.pair (string.pair (string.pair string)))))))))).map
    (fun r => (r.payload.schema, r.payload.clusterId, r.payload.generation, r.payload.rootKeyId,
      r.payload.snapshotSignature, r.payload.receiverServiceId, r.payload.receiverCredentialId,
      r.payload.appliedAtMs, r.authentication.schema, r.authentication.algorithm,
      r.authentication.signature))
    (fun (a, b, c, d, e, f, g, h, i, j, k) => ⟨⟨a, b, c, d, e, f, g, h⟩, i, j, k⟩)
    fun _ => rfl

/-- A template, field by field. -/
def templateCodec : Codec EncodedRenewalTemplate :=
  (string.pair (string.pair (string.pair ((list credentialCodec).pair ((list string).pair
    ((list referenceCodec).pair (list string))))))).map
    (fun t => (t.schema, t.clusterId, t.policySchema, t.trustedCredentials, t.revokedServiceIds,
      t.revokedCredentials, t.gatewayServiceIds))
    (fun (a, b, c, d, e, f, g) => ⟨a, b, c, d, e, f, g⟩)
    fun _ => rfl

/-! ## A policy -/

/-- The key of the root. -/
def rootSeed : Wire.Bytes := List.replicate 32 1

/-- The key of the node. -/
def nodeSeed : Wire.Bytes := List.replicate 32 2

/-- A policy that trusts one key of one service. -/
def nodePolicy (generation : UInt64) : ServiceTrustPolicyPayload where
  schema := ServiceTrustPolicyVersion.v2.policySchema
  clusterId := "c"
  generation := generation
  issuedAtMs := 1000
  expiresAtMs := some 100000
  trustedCredentials := [⟨"n", "k", "AgICAgICAgICAgICAgICAgICAgICAgICAgICAgICAgI="⟩]
  revokedServiceIds := []
  revokedCredentials := []
  gatewayServiceIds := ["n"]

/-- The one root that is trusted. -/
def roots : TrustedServiceTrustRootKeyRing := ⟨[("r", rootSeed)], ["r"], []⟩

/-- The policy with a signature. -/
def nodeSnapshot (generation : UInt64) (signature : String) : ServiceTrustSnapshot where
  policy := nodePolicy generation
  authentication := {
    schema := ServiceTrustPolicyVersion.v2.authenticationSchema
    algorithm := signatureAlgorithm
    keyId := "r"
    signature := signature }

/-- Two policies with the signatures of the root. -/
def firstSnapshot : ServiceTrustSnapshot := nodeSnapshot 1
  "AA538I2DNpQg//spsRSWI0he0pNNIrysGms2yvvUXVTg/fJ6yF2qE/5QDjgQwLqoSQh7naHyJj1iGjDiDaF+Xw=="

/-- The policy of the second generation. -/
def secondSnapshot : ServiceTrustSnapshot := nodeSnapshot 2
  "AAXGgJSz6p5YbK67q2D09U1ZuGiGQYDUqfStKTGyPCmFhGJyZdxYUTMMcJ/KDrECiUNlRrJnU4JiUePZ6UEZYA=="

/-- What the policies of the root are made from. -/
def nodeTemplate : EncodedRenewalTemplate where
  schema := serviceTrustRenewalTemplateSchema
  clusterId := (nodePolicy 1).clusterId
  policySchema := (nodePolicy 1).schema
  trustedCredentials := (nodePolicy 1).trustedCredentials
  revokedServiceIds := []
  revokedCredentials := []
  gatewayServiceIds := (nodePolicy 1).gatewayServiceIds

/-- The node's receipt for the first policy. -/
def firstReceipt : ServiceTrustApplicationReceipt where
  payload := {
    schema := serviceTrustReceiptSchema
    clusterId := "c"
    generation := 1
    rootKeyId := "r"
    snapshotSignature := firstSnapshot.authentication.signature
    receiverServiceId := "n"
    receiverCredentialId := "k"
    appliedAtMs := 2000 }
  authentication := {
    schema := serviceTrustReceiptAuthenticationSchema
    algorithm := signatureAlgorithm
    signature :=
      "AAsiO20it0EyV2G18/BsLZ4INgmyKsViWpWKr09d1+2jN7jVkwxZdqJJtIAnGjetWWGi/fNPtnYw1oxsYv7yvQ==" }

end InferLab.ServiceAuth
