import InferLab.ControlAuth
import InferLab.ServiceAuth.Renewal
import InferLab.ServiceAuth.TrustReceipt

/-!
# Signed messages are unambiguous

Seven encoders make the bytes that are signed or fingerprinted. No two of them ever make the
same bytes, and one of them makes the same bytes only from values that agree in all fields.
-/

namespace InferLab.SignedMessages

open Wire ServiceAuth ServiceTrust

/-- The values that are encoded, with the key ids that become part of the message. -/
inductive SignedMessage
  | routing (payload : ControlAuth.RoutingPayload) (keyId : String)
  | write (payload : ControlAuth.ControlWritePayload) (writerId : String)
  | request (payload : ServiceRequestPayload) (serviceId : String)
  | policy (payload : ServiceTrustPolicyPayload)
      (authentication : ServiceTrustSnapshotAuthentication)
  | receipt (payload : ServiceTrustReceiptPayload)
      (authentication : ServiceTrustReceiptAuthentication)
  | template (encoded : EncodedRenewalTemplate)
deriving Repr, DecidableEq

/-- The encoders. The two versions of policies have one each. -/
inductive Kind
  | routing
  | write
  | request
  | policyV1
  | policyV2
  | receipt
  | template
deriving Repr, DecidableEq

def Kind.all : List Kind := [routing, write, request, policyV1, policyV2, receipt, template]

lemma Kind.mem_all (k : Kind) : k ∈ all := by cases k <;> decide

def Kind.domain : Kind → Bytes
  | routing => ControlAuth.payloadDomain
  | write => ControlAuth.writePayloadDomain
  | request => requestDomain
  | policyV1 => ServiceTrustPolicyVersion.v1.payloadDomain
  | policyV2 => ServiceTrustPolicyVersion.v2.payloadDomain
  | receipt => receiptDomain
  | template => templateFingerprintDomain

/-- The encoder of a version of policies. -/
def Kind.ofVersion : ServiceTrustPolicyVersion → Kind
  | .v1 => policyV1
  | .v2 => policyV2

namespace SignedMessage

def kind : SignedMessage → Kind
  | routing _ _ => .routing
  | write _ _ => .write
  | request _ _ => .request
  | policy payload _ =>
    if payload.schema = ServiceTrustPolicyVersion.v1.policySchema then .policyV1 else .policyV2
  | receipt _ _ => .receipt
  | template _ => .template

/-- The message without the signature field, which is the only field that is not encoded. -/
def unsigned : SignedMessage → SignedMessage
  | policy payload authentication => .policy payload { authentication with signature := "" }
  | receipt payload authentication => .receipt payload { authentication with signature := "" }
  | message => message

/-- The bytes that are signed or fingerprinted, if the encoder accepts the value. -/
def canonical [Base64] : SignedMessage → Option Bytes
  | routing payload keyId => (ControlAuth.canonicalPayload payload keyId).toOption
  | write payload writerId => (ControlAuth.canonicalWritePayload payload writerId).toOption
  | request payload serviceId => (payload.canonicalPayload serviceId).toOption
  | policy payload authentication => (canonicalPayload payload authentication).toOption
  | receipt payload authentication => (canonicalReceipt payload authentication).toOption
  | template encoded => encoded.canonicalSemantics.toOption

end SignedMessage

/-! ## The encoders one by one -/

section Encoders

open Agrees

lemma appendWorker_agrees (a b : ControlAuth.RoutingWorker) :
    Agrees (a = b) (ControlAuth.appendWorker a) (ControlAuth.appendWorker b) := by
  have hweight : Agrees (a.weight = b.weight) (extend (be32 a.weight.toNat) : Encoder String Unit)
      (extend (be32 b.weight.toNat)) := by
    apply Agrees.extend
    · rw [be32, be32, length_beBytes, length_beBytes]
    · exact fun h => UInt32.toNat_inj.mp (beBytes_injective a.weight.toNat_lt b.weight.toNat_lt h)
  apply (string.seq (string.seq hweight)).imp
  rintro ⟨hid, hurl, hweight⟩
  cases a
  cases b
  simp_all

lemma appendRouting_agrees {a b : ControlAuth.RoutingPayload} {k l : String} :
    Agrees (a = b ∧ k = l) (ControlAuth.appendRouting a k) (ControlAuth.appendRouting b l) := by
  apply (string.seq (string.seq (string.seq (string.seq (be64.seq (be64.seq (string.seq
    (lastList appendWorker_agrees)))))))).imp
  rintro ⟨-, -, hkey, hcluster, hrevision, hterm, hpolicy, hworkers⟩
  cases a
  cases b
  simp_all

lemma appendWrite_agrees {a b : ControlAuth.ControlWritePayload} {k l : String} :
    Agrees (a = b ∧ k = l) (ControlAuth.appendWrite a k) (ControlAuth.appendWrite b l) := by
  apply (string.seq (string.seq (string.seq (string.seq (string.seq (string.seq (be64.seq
    (be64.seq (string.seq (string.seq (lastList appendWorker_agrees))))))))))).imp
  rintro ⟨-, -, hwriter, -, -, hcluster, hrevision, hissued, hnonce, hpolicy, hworkers⟩
  cases a
  cases b
  simp_all

lemma appendRequest_agrees {a b : ServiceRequestPayload} {k l : String} :
    Agrees (a = b ∧ k = l) (appendRequest a k) (appendRequest b l) := by
  apply (string.seq (string.seq (string.seq (string.seq (string.seq (string.seq (string.seq
    (be64.seq (string.seq bytes))))))))).imp
  rintro ⟨-, -, hservice, haudience, hmethod, hpath, hcluster, hissued, hnonce, hbody⟩
  cases a
  cases b
  simp_all

lemma appendReceipt_agrees {a b : ServiceTrustReceiptPayload}
    {c d : ServiceTrustReceiptAuthentication} :
    Agrees (a = b ∧ c.schema = d.schema ∧ c.algorithm = d.algorithm) (appendReceipt a c)
      (appendReceipt b d) := by
  apply (string.seq (string.seq (be64.seq (string.seq (string.seq (string.seq (string.seq
    (be64.seq (string.seq string))))))))).imp
  rintro ⟨hschema, hcluster, hgeneration, hroot, hsignature, hservice, hcredential, happlied,
    hauthentication⟩
  refine ⟨?_, hauthentication⟩
  cases a
  cases b
  simp_all

section Lists

variable {ε : Type} {tooLong tooMany : ε}

lemma appendCredential_agrees (a b : ServiceTrustCredential) :
    Agrees (a = b) (appendCredential tooLong a) (appendCredential tooLong b) := by
  apply (string.seq (string.seq string)).imp
  rintro ⟨hservice, hcredential, hkey⟩
  cases a
  cases b
  simp_all

lemma appendReference_agrees (a b : ServiceCredentialReference) :
    Agrees (a = b) (appendReference tooLong a) (appendReference tooLong b) := by
  apply (string.seq string).imp
  rintro ⟨hservice, hcredential⟩
  cases a
  cases b
  simp_all

lemma appendLists_agrees {trusted trusted' : List ServiceTrustCredential}
    {revoked revoked' : List String} {credentials credentials' : List ServiceCredentialReference}
    {gateways gateways' : List String} :
    Agrees (trusted = trusted' ∧ revoked = revoked' ∧ credentials = credentials' ∧
        gateways = gateways')
      (appendLists tooLong tooMany trusted revoked credentials gateways)
      (appendLists tooLong tooMany trusted' revoked' credentials' gateways') :=
  list appendCredential_agrees (list (fun _ _ => string) (list appendReference_agrees
    (lastList fun _ _ => string)))

end Lists

lemma appendTemplate_agrees {a b : EncodedRenewalTemplate} :
    Agrees (a = b) (appendTemplate a) (appendTemplate b) := by
  apply (string.seq (string.seq (string.seq appendLists_agrees))).imp
  rintro ⟨hschema, hcluster, hpolicy, hlists⟩
  cases a
  cases b
  simp_all

/-- The first version writes no expiry. -/
theorem appendExpiry_agrees {version : ServiceTrustPolicyVersion} {a b : Option UInt64} :
    Agrees (version = .v2 → a = b) (appendExpiry version a)
      (appendExpiry version b) := by
  cases version with
  | v1 => exact done.imp fun _ h => by cases h
  | v2 =>
    cases a with
    | none => exact fun s t s' t' h => by cases h
    | some x =>
      cases b with
      | none => exact fun s t s' t' _ h => by cases h
      | some y =>
        apply be64.imp
        rintro rfl _
        rfl

lemma appendPolicy_agrees {version : ServiceTrustPolicyVersion}
    {a b : ServiceTrustPolicyPayload} {c d : ServiceTrustSnapshotAuthentication}
    (hexpiry : version = .v1 → a.expiresAtMs = b.expiresAtMs) :
    Agrees (a = b ∧ c.schema = d.schema ∧ c.algorithm = d.algorithm ∧ c.keyId = d.keyId)
      (appendPolicy version a c) (appendPolicy version b d) := by
  apply (string.seq (string.seq (be64.seq (be64.seq (appendExpiry_agrees.seq
    (appendLists_agrees.seq (string.seq (string.seq string)))))))).imp
  rintro ⟨hschema, hcluster, hgeneration, hissued, hexpires, hlists, hauthentication⟩
  have hexpires : a.expiresAtMs = b.expiresAtMs := by
    cases version with
    | v1 => exact hexpiry rfl
    | v2 => exact hexpires rfl
  refine ⟨?_, hauthentication⟩
  cases a
  cases b
  simp_all

end Encoders

/-- A constant piece of a message. -/
theorem constant {ε : Type} {d : Bytes} : Agrees True (extend d : Encoder ε Unit) (extend d) :=
  Agrees.extend rfl fun _ => trivial

/-! ## Messages -/

section Messages

open Agrees

variable {u : Bytes}

lemma of_toOption_eq_some {ε α : Type} {x : Except ε α} {a : α} (h : x.toOption = some a) :
    x = .ok a := by
  cases x with
  | error e => cases h
  | ok b =>
    cases h
    rfl

lemma kind_policy {policy : ServiceTrustPolicyPayload}
    {authentication : ServiceTrustSnapshotAuthentication} {version : ServiceTrustPolicyVersion}
    (h : policy.version = .ok version) :
    (SignedMessage.policy policy authentication).kind = .ofVersion version := by
  unfold ServiceTrustPolicyPayload.version policyVersion at h
  show (if _ then _ else _) = _
  split at h
  · rename_i hschema
    cases h
    rw [if_pos hschema]
    rfl
  · rename_i hschema
    split at h
    · cases h
      rw [if_neg hschema]
      rfl
    · cases h

/-- A message starts with the domain of its encoder. -/
theorem domain_starts [Base64] {message : SignedMessage} (h : message.canonical = some u) :
    message.kind.domain <+: u := by
  cases message with
  | routing payload keyId =>
    obtain ⟨_, _, h⟩ := of_bind (of_toOption_eq_some h)
    exact starts_of_encode (appendRouting_agrees.imp fun _ => trivial) h
  | write payload writerId =>
    obtain ⟨_, _, h⟩ := of_bind (of_toOption_eq_some h)
    obtain ⟨_, _, h⟩ := of_bind h
    exact starts_of_encode (appendWrite_agrees.imp fun _ => trivial) h
  | request payload serviceId =>
    obtain ⟨_, _, h⟩ := of_bind (of_toOption_eq_some h)
    obtain ⟨_, _, h⟩ := of_bind h
    obtain ⟨_, _, h⟩ := of_bind h
    exact starts_of_encode (appendRequest_agrees.imp fun _ => trivial) h
  | policy payload authentication =>
    obtain ⟨version, hshaped, h⟩ := of_canonicalPayload (of_toOption_eq_some h)
    rw [kind_policy hshaped.version]
    have hstarts := starts_of_encode
      ((appendPolicy_agrees fun _ => rfl).imp fun _ => trivial) h
    cases version with
    | v1 => exact hstarts
    | v2 => exact hstarts
  | receipt payload authentication =>
    obtain ⟨_, _, h⟩ := of_bind (of_toOption_eq_some h)
    exact starts_of_encode (appendReceipt_agrees.imp fun _ => trivial) h
  | template encoded =>
    exact starts_of_encode (appendTemplate_agrees.imp fun _ => trivial) (of_toOption_eq_some h)

/-- No domain is the beginning of another. -/
theorem domain_injective (k l : Kind) : k.domain <+: l.domain → k = l := by
  have hall : ∀ k ∈ Kind.all, ∀ l ∈ Kind.all, k.domain <+: l.domain → k = l := by decide +kernel
  exact hall k k.mem_all l l.mem_all

/-- Equal messages are of one kind. -/
theorem kind_eq_of_canonical [Base64] {a b : SignedMessage} (ha : a.canonical = some u)
    (hb : b.canonical = some u) : a.kind = b.kind := by
  rcases List.prefix_or_prefix_of_prefix (domain_starts ha) (domain_starts hb) with h | h
  · exact domain_injective _ _ h
  · exact (domain_injective _ _ h).symm

/-- Policies with equal messages agree. -/
theorem policy_of_canonical {p q : ServiceTrustPolicyPayload}
    {c d : ServiceTrustSnapshotAuthentication}
    (hp : canonicalPayload p c = .ok u)
    (hq : canonicalPayload q d = .ok u)
    (hkind : (SignedMessage.policy p c).kind = (SignedMessage.policy q d).kind) :
    p = q ∧ c.schema = d.schema ∧ c.algorithm = d.algorithm ∧ c.keyId = d.keyId := by
  obtain ⟨version, hp', hp⟩ := of_canonicalPayload hp
  obtain ⟨version', hq', hq⟩ := of_canonicalPayload hq
  rw [kind_policy hp'.version, kind_policy hq'.version] at hkind
  obtain rfl : version = version' := by
    cases version <;> cases version' <;> first | rfl | cases hkind
  have hexpiry : version = .v1 → p.expiresAtMs = q.expiresAtMs := by
    rintro rfl
    rw [hp'.expiresAtMs_eq_none, hq'.expiresAtMs_eq_none]
  exact (of_encode (constant.seq (appendPolicy_agrees hexpiry)) hp hq).2

/-- One encoder makes equal messages only from values that agree in all encoded fields. -/
theorem unsigned_eq_of_canonical [Base64] {a b : SignedMessage} (ha : a.canonical = some u)
    (hb : b.canonical = some u) : a.unsigned = b.unsigned := by
  have hkind := kind_eq_of_canonical ha hb
  cases a <;> cases b
  case routing.routing p k q l =>
    obtain ⟨_, _, hp⟩ := of_bind (of_toOption_eq_some ha)
    obtain ⟨_, _, hq⟩ := of_bind (of_toOption_eq_some hb)
    obtain ⟨-, rfl, rfl⟩ := of_encode (constant.seq appendRouting_agrees) hp hq
    rfl
  case write.write p k q l =>
    obtain ⟨_, _, hp⟩ := of_bind (of_toOption_eq_some ha)
    obtain ⟨_, _, hp⟩ := of_bind hp
    obtain ⟨_, _, hq⟩ := of_bind (of_toOption_eq_some hb)
    obtain ⟨_, _, hq⟩ := of_bind hq
    obtain ⟨-, rfl, rfl⟩ := of_encode (constant.seq appendWrite_agrees) hp hq
    rfl
  case request.request p k q l =>
    obtain ⟨_, _, hp⟩ := of_bind (of_toOption_eq_some ha)
    obtain ⟨_, _, hp⟩ := of_bind hp
    obtain ⟨_, _, hp⟩ := of_bind hp
    obtain ⟨_, _, hq⟩ := of_bind (of_toOption_eq_some hb)
    obtain ⟨_, _, hq⟩ := of_bind hq
    obtain ⟨_, _, hq⟩ := of_bind hq
    obtain ⟨-, rfl, rfl⟩ := of_encode (constant.seq appendRequest_agrees) hp hq
    rfl
  case policy.policy p c q d =>
    obtain ⟨rfl, hschema, halgorithm, hkey⟩ := policy_of_canonical (of_toOption_eq_some ha)
      (of_toOption_eq_some hb) hkind
    simp [SignedMessage.unsigned, hschema, halgorithm, hkey]
  case receipt.receipt p c q d =>
    obtain ⟨_, _, hp⟩ := of_bind (of_toOption_eq_some ha)
    obtain ⟨_, _, hq⟩ := of_bind (of_toOption_eq_some hb)
    obtain ⟨-, rfl, hschema, halgorithm⟩ := of_encode (constant.seq appendReceipt_agrees) hp hq
    simp [SignedMessage.unsigned, hschema, halgorithm]
  case template.template p q =>
    obtain ⟨-, rfl⟩ := of_encode (constant.seq appendTemplate_agrees) (of_toOption_eq_some ha)
      (of_toOption_eq_some hb)
    rfl
  -- the other pairs are of two kinds
  all_goals grind [SignedMessage.kind]

end Messages

/-- Messages that two accepted values are encoded to are equal only if the values come from one
encoder and agree in every encoded field. So where a signature verifies no other message than
the one that it was made for, a signature of one kind of message verifies for no other kind. -/
theorem signed_messages_unambiguous [Ed25519] [Base64] (a b : SignedMessage) (u v : Bytes)
    (ha : a.canonical = some u) (hb : b.canonical = some v) :
    (u = v → a.kind = b.kind ∧ a.unsigned = b.unsigned) ∧
    ∀ seed : Bytes,
      (Ed25519.verifyStrict (Ed25519.publicKey seed) v (Ed25519.sign seed u) = true → v = u) →
      Ed25519.verifyStrict (Ed25519.publicKey seed) v (Ed25519.sign seed u) = true →
      a.kind = b.kind ∧ a.unsigned = b.unsigned := by
  have hequal : u = v → a.kind = b.kind ∧ a.unsigned = b.unsigned := by
    rintro rfl
    exact ⟨kind_eq_of_canonical ha hb, unsigned_eq_of_canonical ha hb⟩
  exact ⟨hequal, fun seed hunforgeable hverified => hequal (hunforgeable hverified).symm⟩

/-- A policy with one gateway, as the control plane distributes it. -/
def gatewayPolicy : ServiceTrustPolicyPayload where
  schema := "inferlab.service-trust-policy.v2"
  clusterId := "inferlab-primary"
  generation := 1
  issuedAtMs := 1700000000000
  expiresAtMs := some 1700000060000
  trustedCredentials := [⟨"gateway-primary", "key-a", "AAAA"⟩]
  revokedServiceIds := []
  revokedCredentials := []
  gatewayServiceIds := ["gateway-primary"]

/-- The authentication of `gatewayPolicy` with a given signature. -/
def gatewayAuthentication (signature : String) : ServiceTrustSnapshotAuthentication where
  schema := "inferlab.service-trust-authentication.v2"
  algorithm := "ed25519"
  keyId := "root-a"
  signature := signature

/-- The same policy before and after it is signed. -/
theorem signed_messages_unambiguous_policy :
    ∃ u, @SignedMessage.canonical standardBase64
        (.policy gatewayPolicy (gatewayAuthentication "")) = some u ∧
      @SignedMessage.canonical standardBase64
        (.policy gatewayPolicy (gatewayAuthentication "AA==")) = some u ∧
      (SignedMessage.policy gatewayPolicy (gatewayAuthentication "")).unsigned =
        (SignedMessage.policy gatewayPolicy (gatewayAuthentication "AA==")).unsigned := by
  have hequal : @SignedMessage.canonical standardBase64
        (.policy gatewayPolicy (gatewayAuthentication "")) =
      @SignedMessage.canonical standardBase64
        (.policy gatewayPolicy (gatewayAuthentication "AA==")) := by decide +kernel
  have haccepted : (@SignedMessage.canonical standardBase64
      (.policy gatewayPolicy (gatewayAuthentication ""))).isSome := by decide +kernel
  obtain ⟨u, hu⟩ := Option.isSome_iff_exists.mp haccepted
  exact ⟨u, hu, hequal ▸ hu, ((@signed_messages_unambiguous checksumEd25519 standardBase64 _ _ u u
    hu (hequal ▸ hu)).1 rfl).2⟩

end InferLab.SignedMessages
