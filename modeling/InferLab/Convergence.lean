import InferLab.Distributor.Invariant
import InferLab.Receiver.Rollback
import InferLab.SignedMessages

/-!
# Convergence: what a stored receipt shows

One distributor and any number of receivers. They are joined by a network that may lose, delay,
repeat or make up messages: what is served to a receiver and what is posted to the distributor is
arbitrary. So a receipt shows something only as far as signatures do. `Unforgeable` says what is
assumed of them, about the messages that occur in a state.
-/

namespace InferLab.Convergence

open ServiceAuth Wire Option Except List

/-- A request to a peer that a receiver has signed with its key. -/
structure SignedRequest where
  seed : Bytes
  message : Bytes
deriving Repr, DecidableEq

/-- A distributor, its receivers, and signed requests. -/
structure Fleet (ι : Type) where
  distributor : Distributor.DistributorState
  receivers : ι → Receiver.ReceiverState
  requests : List SignedRequest

section Model

variable {ι : Type} [DecidableEq ι] [Ed25519] [Base64] [Receiver.UrlParser]
  [Json Distributor.DurableState] [Json ServiceTrustSnapshot]
  [Json ServiceTrustApplicationReceipt] [PrettyJson Receiver.PersistedServiceTrustFloor]
  [PrettyJson Receiver.PersistedServiceTrustCache] (config : Distributor.DistributorConfig)
  (roots : TrustedServiceTrustRootKeyRing)

/-- What happens to a fleet. -/
inductive FleetAction (ι : Type)
  | distributor (action : Distributor.DistributorAction)
  | receiver (i : ι) (action : Receiver.ReceiverAction)
  /-- Requests are the other use of the keys. -/
  | request (seed : Bytes) (serviceId : String) (payload : ServiceRequestPayload)

def Fleet.step (w : Fleet ι) : FleetAction ι → Option (Fleet ι)
  | .distributor action =>
    (w.distributor.step config roots action).map fun distributor =>
      { w with distributor := distributor }
  | .receiver i action =>
    ((w.receivers i).step action).map fun receiver =>
      { w with receivers := Function.update w.receivers i receiver }
  | .request seed serviceId payload =>
    (payload.canonicalPayload serviceId).toOption.map fun message =>
      { w with requests := w.requests ++ [⟨seed, message⟩] }

def fleetSystem : System (Fleet ι) where
  init w := w.distributor = ⟨none, none⟩ ∧ (∀ i, (w.receivers i).Fresh) ∧ w.requests = []
  step w w' := ∃ action, w.step config roots action = some w'

end Model

/-! ## What is assumed of signatures -/

section Assumptions

variable {ι : Type} [Ed25519] [Base64] [Json Distributor.DurableState]
  (roots : TrustedServiceTrustRootKeyRing)

/-- The state that the distributor has in memory, and the one in its file. -/
def Fleet.Holds (w : Fleet ι) (state : Distributor.DurableState) : Prop :=
  (∃ process ∈ w.distributor.process, process.runtime.durable = state) ∨
    Distributor.decodeFile w.distributor.file = some state

/-- The receivers have signed the message with the private part of the key. -/
def Fleet.Signs (w : Fleet ι) (key message : Bytes) : Prop :=
  (∃ i, ∃ attestation ∈ (w.receivers i).attestations,
    Ed25519.publicKey attestation.identity.seed = key ∧
    canonicalReceipt attestation.receipt.payload attestation.receipt.authentication =
      .ok message) ∨
  ∃ request ∈ w.requests, Ed25519.publicKey request.seed = key ∧ request.message = message

/-- A stored receipt, with the key that the current policy has for its receiver. -/
def Fleet.Presents (w : Fleet ι) (key message signature : Bytes) : Prop :=
  ∃ state snapshot verified receipt credentials credential,
    w.Holds state ∧ state.currentSnapshot = some snapshot ∧ roots.verify snapshot = .ok verified ∧
    receipt ∈ state.receipts ∧
    verified.compiled.keys.credentialsOf receipt.payload.receiverServiceId = some credentials ∧
    credential ∈ credentials ∧ credential.credentialId = receipt.payload.receiverCredentialId ∧
    credential.verifyingKey = key ∧
    canonicalReceipt receipt.payload receipt.authentication = .ok message ∧
    decodeExact 64 receipt.authentication.signature "service-trust receipt Ed25519 signature" =
      .ok signature

/-- The message of a policy that the distributor holds or that was active at a receiver, with
the signature that it was verified with. -/
def Fleet.HasPolicy (w : Fleet ι) (message signature : Bytes) : Prop :=
  ∃ (ring : TrustedServiceTrustRootKeyRing) (signed : ServiceTrustSnapshot)
    (verified : VerifiedServiceTrustSnapshot),
    ring.verify signed = .ok verified ∧
    ServiceTrust.canonicalPayload signed.policy signed.authentication = .ok message ∧
    decodeExact 64 signed.authentication.signature "service-trust Ed25519 signature" =
      .ok signature ∧
    ((∃ state, w.Holds state ∧ state.currentSnapshot = some signed) ∨
      ∃ i, ∃ m ∈ (w.receivers i).moments, m.active = some verified)

/-- No one but the holder of a key signs with it, and no signature fits two policies. -/
structure Fleet.Unforgeable (w : Fleet ι) : Prop where
  receipts : ∀ key message signature, w.Presents roots key message signature →
    Ed25519.verifyStrict key message signature = true → w.Signs key message
  policies : ∀ message message' signature, w.HasPolicy message signature →
    w.HasPolicy message' signature → message = message'

end Assumptions

/-! ## Messages and what they are about -/

section Messages

variable [Base64]

/-- Receipts with equal messages are about the same. -/
theorem payload_eq_of_canonicalReceipt {a b : ServiceTrustApplicationReceipt} {message : Bytes}
    (ha : canonicalReceipt a.payload a.authentication = .ok message)
    (hb : canonicalReceipt b.payload b.authentication = .ok message) : a.payload = b.payload := by
  have ha' : (SignedMessages.SignedMessage.receipt a.payload a.authentication).canonical =
      some message := by rw [SignedMessages.SignedMessage.canonical, ha]; rfl
  have hb' : (SignedMessages.SignedMessage.receipt b.payload b.authentication).canonical =
      some message := by rw [SignedMessages.SignedMessage.canonical, hb]; rfl
  exact (SignedMessages.SignedMessage.receipt.inj
    (SignedMessages.unsigned_eq_of_canonical ha' hb')).1

/-- The message of a receipt is not that of a request. -/
theorem canonicalReceipt_ne_request {receipt : ServiceTrustApplicationReceipt}
    {payload : ServiceRequestPayload} {serviceId : String} {message : Bytes}
    (hreceipt : canonicalReceipt receipt.payload receipt.authentication = .ok message)
    (hrequest : payload.canonicalPayload serviceId = .ok message) : False := by
  have ha : (SignedMessages.SignedMessage.receipt receipt.payload
      receipt.authentication).canonical = some message := by
    rw [SignedMessages.SignedMessage.canonical, hreceipt]; rfl
  have hb : (SignedMessages.SignedMessage.request payload serviceId).canonical =
      some message := by rw [SignedMessages.SignedMessage.canonical, hrequest]; rfl
  cases SignedMessages.kind_eq_of_canonical ha hb

/-- Policies with equal messages are equal. -/
theorem policy_eq_of_canonicalPayload {a b : ServiceTrustSnapshot} {message : Bytes}
    (ha : ServiceTrust.canonicalPayload a.policy a.authentication = .ok message)
    (hb : ServiceTrust.canonicalPayload b.policy b.authentication = .ok message) :
    a.policy = b.policy := by
  have ha' : (SignedMessages.SignedMessage.policy a.policy a.authentication).canonical =
      some message := by rw [SignedMessages.SignedMessage.canonical, ha]; rfl
  have hb' : (SignedMessages.SignedMessage.policy b.policy b.authentication).canonical =
      some message := by rw [SignedMessages.SignedMessage.canonical, hb]; rfl
  exact (SignedMessages.SignedMessage.policy.inj
    (SignedMessages.unsigned_eq_of_canonical ha' hb')).1

end Messages

/-! ## What a receipt shows -/

section Soundness

variable {ι : Type} [Ed25519] [Base64]

/-- A receiver that is trusted by the policy attested it with the policy active and its floor
saved. -/
structure Applied (config : Distributor.DistributorConfig) (snapshot : ServiceTrustSnapshot)
    (verified : VerifiedServiceTrustSnapshot) (receipt : ServiceTrustApplicationReceipt)
    (attestation : Receiver.Attestation) : Prop where
  slot : Distributor.receiptReceiverSlot config attestation.receipt =
    Distributor.receiptReceiverSlot config receipt
  serviceId : attestation.identity.serviceId = receipt.payload.receiverServiceId
  credentialId : attestation.identity.credentialId = receipt.payload.receiverCredentialId
  trusted : ∃ credentials credential,
    verified.compiled.keys.credentialsOf attestation.identity.serviceId = some credentials ∧
    credential ∈ credentials ∧ credential.credentialId = attestation.identity.credentialId ∧
    credential.verifyingKey = Ed25519.publicKey attestation.identity.seed
  serviceUnrevoked : attestation.identity.serviceId ∉ verified.compiled.keys.revokedServiceIds
  credentialUnrevoked : (attestation.identity.serviceId, attestation.identity.credentialId) ∉
    verified.compiled.keys.revokedCredentials
  floor : ∃ floor, attestation.moment.floor = some floor ∧
    floor.generation = snapshot.policy.generation ∧
    floor.signingKeyId = snapshot.authentication.keyId ∧
    floor.signature = snapshot.authentication.signature
  policy : ∃ active, attestation.moment.active = some active ∧ active.policy = snapshot.policy

lemma payload_of_signTrustReceiptWithKey {serviceId credentialId : String} {seed : Bytes}
    {snapshot : VerifiedServiceTrustSnapshot} {appliedAtMs : UInt64}
    {receipt : ServiceTrustApplicationReceipt}
    (h : signTrustReceiptWithKey serviceId credentialId seed snapshot appliedAtMs = .ok receipt) :
    receipt.payload = {
      schema := serviceTrustReceiptSchema
      clusterId := snapshot.policy.clusterId
      generation := snapshot.policy.generation
      rootKeyId := snapshot.signingKeyId
      snapshotSignature := snapshot.signature
      receiverServiceId := serviceId
      receiverCredentialId := credentialId
      appliedAtMs := appliedAtMs } := by
  obtain ⟨message, _, h⟩ := of_bind h
  rw [← ok.inj h]

variable [DecidableEq ι] [Receiver.UrlParser]
  [Json Distributor.DurableState] [Json ServiceTrustSnapshot]
  [Json ServiceTrustApplicationReceipt] [PrettyJson Receiver.PersistedServiceTrustFloor]
  [PrettyJson Receiver.PersistedServiceTrustCache] {config : Distributor.DistributorConfig}
  {roots : TrustedServiceTrustRootKeyRing}

variable (config roots) in
/-- The parts of the fleet on their own. -/
structure Fleet.Composed (w : Fleet ι) : Prop where
  distributor : (Distributor.distributorSystem config roots).Reachable w.distributor
  receivers : ∀ i, Receiver.receiverSystem.Reachable (w.receivers i)
  requests : ∀ request ∈ w.requests, ∃ payload serviceId,
    ServiceRequestPayload.canonicalPayload payload serviceId = .ok request.message

lemma Fleet.Composed.step {w w' : Fleet ι} {action : FleetAction ι}
    (hw : w.Composed config roots) (h : w.step config roots action = some w') :
    w'.Composed config roots := by
  cases action with
  | distributor action =>
    obtain ⟨distributor, hstep, rfl⟩ := map_eq_some_iff.mp h
    exact ⟨hw.distributor.trans (.single ⟨action, hstep⟩), hw.receivers,
      hw.requests⟩
  | receiver i action =>
    obtain ⟨receiver, hstep, rfl⟩ := map_eq_some_iff.mp h
    refine ⟨hw.distributor, fun j => ?_, hw.requests⟩
    show Receiver.receiverSystem.Reachable (Function.update w.receivers i receiver j)
    by_cases hj : j = i
    · subst hj
      rw [Function.update_self]
      exact (hw.receivers j).trans (.single ⟨action, hstep⟩)
    · rw [Function.update_of_ne hj]
      exact hw.receivers j
  | request seed serviceId payload =>
    obtain ⟨message, hmessage, rfl⟩ := map_eq_some_iff.mp h
    refine ⟨hw.distributor, hw.receivers, fun request hmem => ?_⟩
    rcases mem_append.mp hmem with hold | hnew
    · exact hw.requests request hold
    · obtain rfl := mem_singleton.mp hnew
      exact ⟨payload, serviceId, SignedMessages.of_toOption_eq_some hmessage⟩

lemma Fleet.Composed.of_reachable {w : Fleet ι} (h : (fleetSystem config roots).Reachable w) :
    w.Composed config roots := by
  apply h.invariant
  · rintro w ⟨hdistributor, hreceivers, hrequests⟩
    refine ⟨⟨_, hdistributor, .refl⟩,
      fun i => ⟨_, hreceivers i, .refl⟩, ?_⟩
    rw [hrequests]
    exact fun request hmem => absurd hmem not_mem_nil
  · rintro w w' hw ⟨action, hstep⟩
    exact hw.step hstep

omit [DecidableEq ι] in
lemma Fleet.Holds.valid [LawfulJson Distributor.DurableState] {w : Fleet ι}
    (hw : w.Composed config roots) {state : Distributor.DurableState} (h : w.Holds state) :
    state.Valid config roots := by
  have hconsistent := Distributor.DistributorState.Consistent.of_reachable hw.distributor
  rcases h with ⟨process, hprocess, rfl⟩ | hfile
  · exact (hconsistent.process process hprocess).valid
  · obtain ⟨stored, hstored, hvalid⟩ := hconsistent.file
    rwa [some.inj (hfile.symm.trans hstored)]

omit [DecidableEq ι] in
/-- The message of a stored receipt was signed by a receiver as a receipt: requests are signed
with the same keys, but their messages differ. -/
theorem Fleet.Unforgeable.exists_attestation {w : Fleet ι} (hw : w.Composed config roots)
    {key message signature : Bytes} {receipt : ServiceTrustApplicationReceipt}
    (hunforgeable : w.Unforgeable roots) (hpresents : w.Presents roots key message signature)
    (hverified : Ed25519.verifyStrict key message signature = true)
    (hmessage : canonicalReceipt receipt.payload receipt.authentication = .ok message) :
    ∃ i, ∃ attestation ∈ (w.receivers i).attestations,
      Ed25519.publicKey attestation.identity.seed = key ∧
      attestation.receipt.payload = receipt.payload := by
  rcases hunforgeable.receipts key message signature hpresents hverified with
    ⟨i, attestation, hmem, hkey, hsigned⟩ | ⟨request, hmem, -, hrequest⟩
  · exact ⟨i, attestation, hmem, hkey, payload_eq_of_canonicalReceipt hsigned hmessage⟩
  · obtain ⟨payload, serviceId, hpayload⟩ := hw.requests request hmem
    rw [hrequest] at hpayload
    exact (canonicalReceipt_ne_request hmessage hpayload).elim

omit [DecidableEq ι] [Receiver.UrlParser] [Json ServiceTrustSnapshot]
  [Json ServiceTrustApplicationReceipt] [PrettyJson Receiver.PersistedServiceTrustFloor]
  [PrettyJson Receiver.PersistedServiceTrustCache] in
/-- The policy that was active under the signature of the current one is the current one. -/
theorem Fleet.Unforgeable.policy_eq {w : Fleet ι} (hunforgeable : w.Unforgeable roots)
    {state : Distributor.DurableState} (hheld : w.Holds state) {snapshot : ServiceTrustSnapshot}
    (hsnapshot : state.currentSnapshot = some snapshot) {verified : VerifiedServiceTrustSnapshot}
    (hverified : roots.verify snapshot = .ok verified) {i : ι} {m : Receiver.Moment}
    (hm : m ∈ (w.receivers i).moments) {active : VerifiedServiceTrustSnapshot}
    (hactive : m.active = some active) (hgenuine : Receiver.Genuine active)
    (hsignature : active.signature = snapshot.authentication.signature) :
    active.policy = snapshot.policy := by
  obtain ⟨roots', signed, hsigned⟩ := hgenuine
  have hactive' := RootVerified.of_verify hsigned
  obtain ⟨_, message, signature, -, hmessage, hdecoded, -⟩ :=
    (RootVerified.of_verify hverified).signed
  obtain ⟨_, message', signature', -, hmessage', hdecoded', -⟩ := hactive'.signed
  have hsame : signature' = signature := by
    rw [← hactive'.signature_eq, hsignature] at hdecoded'
    exact ok.inj (hdecoded'.symm.trans hdecoded)
  have hcurrent : w.HasPolicy message signature :=
    ⟨roots, snapshot, verified, hverified, hmessage, hdecoded, .inl ⟨state, hheld, hsnapshot⟩⟩
  have hpast : w.HasPolicy message' signature :=
    ⟨roots', signed, active, hsigned, hmessage', hsame ▸ hdecoded', .inr ⟨i, m, hm, hactive⟩⟩
  rw [← hunforgeable.policies message message' signature hcurrent hpast] at hmessage'
  rw [hactive'.policy_eq]
  exact policy_eq_of_canonicalPayload hmessage' hmessage

/-- Where the distributor holds a receipt for its current policy, a receiver with a credential of
that slot, which the policy trusts and does not revoke, had the policy's floor saved and the
policy active when it attested. -/
theorem convergence_soundness [LawfulJson Distributor.DurableState]
    [LawfulPrettyJson Receiver.PersistedServiceTrustFloor] {w : Fleet ι}
    (h : (fleetSystem config roots).Reachable w) (hunforgeable : w.Unforgeable roots)
    {state : Distributor.DurableState} (hheld : w.Holds state)
    {receipt : ServiceTrustApplicationReceipt} (hreceipt : receipt ∈ state.receipts) :
    ∃ snapshot verified, state.currentSnapshot = some snapshot ∧
      roots.verify snapshot = .ok verified ∧
      Distributor.receiptReceiverSlot config receipt ∈ config.expectedReceivers ∧
      ∃ i, ∃ attestation ∈ (w.receivers i).attestations,
        attestation.moment ∈ (w.receivers i).moments ∧
        Applied config snapshot verified receipt attestation := by
  have hw := Fleet.Composed.of_reachable h
  obtain ⟨snapshot, hsnapshot, hfor⟩ := (hheld.valid hw).receipts receipt hreceipt
  obtain ⟨verified, hverified, hreceiptVerified⟩ := hfor.verifies
  have hchecked := (ReceiptVerified.of_verifyTrustReceipt hreceiptVerified).1
  obtain ⟨credentials, credential, message, signature, hcredentials, hmem, hid, hmessage,
    hdecoded, hstrict⟩ := hchecked.signed
  have hpresents : w.Presents roots credential.verifyingKey message signature :=
    ⟨state, snapshot, verified, receipt, credentials, credential, hheld, hsnapshot, hverified,
      hreceipt, hcredentials, hmem, hid, rfl, hmessage, hdecoded⟩
  obtain ⟨i, attestation, hattested, hkey, hpayload⟩ :=
    hunforgeable.exists_attestation hw hpresents hstrict hmessage
  have hsound := (Receiver.ReceiverState.Safe.of_reachable (hw.receivers i)).sound
  obtain ⟨active, appliedAtMs, hgenuine, hmoment, hsigned⟩ :=
    hsound.attested attestation hattested
  have hrecorded := hsound.recorded attestation hattested
  -- the fields of the receipt are those of the policy that was active
  have hfields := hpayload.symm.trans (payload_of_signTrustReceiptWithKey hsigned)
  have hmatches := hfor.identifies
  simp only [Distributor.receiptMatchesSnapshot, hfields, Bool.and_eq_true, beq_iff_eq] at hmatches
  obtain ⟨⟨⟨-, hgeneration⟩, hroot⟩, hsignature⟩ := hmatches
  have hservice : attestation.identity.serviceId = receipt.payload.receiverServiceId := by
    rw [hfields]
  have hcredential : attestation.identity.credentialId = receipt.payload.receiverCredentialId := by
    rw [hfields]
  have hpolicy : active.policy = snapshot.policy := hunforgeable.policy_eq hheld hsnapshot
    hverified hrecorded (by rw [hmoment]) hgenuine hsignature
  refine ⟨snapshot, verified, hsnapshot, hverified, hfor.expected, i, attestation, hattested,
    hrecorded, ?_⟩
  exact {
    slot := by
      unfold Distributor.receiptReceiverSlot Distributor.qualifiedReceiver
      rw [hpayload]
    serviceId := hservice
    credentialId := hcredential
    trusted := ⟨credentials, credential, hservice ▸ hcredentials, hmem, hcredential ▸ hid,
      hkey.symm⟩
    serviceUnrevoked := hservice ▸ hchecked.serviceUnrevoked
    credentialUnrevoked := by
      rw [hservice, hcredential]
      exact hchecked.credentialUnrevoked
    floor := ⟨.fromVerified active, by rw [hmoment], hgeneration, hroot, hsignature⟩
    policy := ⟨active, by rw [hmoment], hpolicy⟩ }

end Soundness

/-! ## A receipt on its way -/

section Example

open Codec

def sampleStep : Fleet Unit → FleetAction Unit → Option (Fleet Unit) :=
  @Fleet.step Unit _ checksumEd25519 standardBase64 Receiver.originParser
    Distributor.durableCodec.json snapshotCodec.json receiptCodec.json
    Receiver.floorCodec.prettyJson Receiver.cacheCodec.prettyJson Distributor.nodeConfig
    ServiceAuth.roots

def sampleSystem : System (Fleet Unit) :=
  @fleetSystem Unit _ checksumEd25519 standardBase64 Receiver.originParser
    Distributor.durableCodec.json snapshotCodec.json receiptCodec.json
    Receiver.floorCodec.prettyJson Receiver.cacheCodec.prettyJson Distributor.nodeConfig
    ServiceAuth.roots

def freshFleet : Fleet Unit := ⟨⟨none, none⟩, fun _ => Receiver.freshReceiver, []⟩

/-- The receiver applies the policy, and its receipt is delivered after the policy is published. -/
def deliveredReceipt : List (FleetAction Unit) := [
  .receiver () (.startRemote Receiver.remoteConfig (Receiver.startInput firstSnapshot)),
  .distributor (.start ⟨none, none⟩),
  .distributor (.request .snapshot (snapshotCodec.put firstSnapshot)),
  .distributor .replace,
  .distributor (.finish true),
  .distributor (.request .receipts (receiptCodec.put firstReceipt)),
  .distributor .replace,
  .distributor (.finish true)]

def heldState : Distributor.DurableState :=
  ⟨Distributor.stateSchema, some firstSnapshot, [firstReceipt]⟩

def verifiedFirst : Option VerifiedServiceTrustSnapshot :=
  (@TrustedServiceTrustRootKeyRing.verify checksumEd25519 standardBase64 ServiceAuth.roots
    firstSnapshot).toOption

/-- What the fleet has come to. -/
def Delivered (w : Fleet Unit) : Prop :=
  w.distributor.process.map (fun process => process.runtime.durable) = some heldState ∧
  @Distributor.decodeFile Distributor.durableCodec.json w.distributor.file = some heldState ∧
  (w.receivers ()).attestations.map (fun attestation =>
    (attestation.identity, attestation.receipt)) = [(Receiver.nodeIdentity, firstReceipt)] ∧
  ∀ m ∈ (w.receivers ()).moments, m.active = none ∨ m.active = verifiedFirst

instance decidableDelivered (w : Fleet Unit) : Decidable (Delivered w) :=
  inferInstanceAs (Decidable (_ ∧ _ ∧ _ ∧ _))

lemma exists_delivered : ∃ w, sampleSystem.Reachable w ∧ Delivered w := by
  have hrun : (deliveredReceipt.foldlM sampleStep freshFleet).map (fun w => decide (Delivered w)) =
      some true := by
    decide +kernel
  obtain ⟨w, hw, hdelivered⟩ := map_eq_some_iff.mp hrun
  refine ⟨w, ⟨freshFleet, ⟨rfl, fun _ => ⟨rfl, rfl, rfl, rfl, rfl⟩, rfl⟩, ?_⟩,
    of_decide_eq_true hdelivered⟩
  exact System.Steps.of_actions (fun _ action _ h => ⟨action, h⟩) hw

/-- The policy has the key of the receiver. -/
theorem key_of_verifiedFirst {verified : VerifiedServiceTrustSnapshot}
    (hverified : verifiedFirst = some verified) {credentials : List TrustedCredential}
    (hcredentials : verified.compiled.keys.credentialsOf "n" = some credentials)
    {credential : TrustedCredential} (hmem : credential ∈ credentials) :
    credential.verifyingKey = nodeSeed := by
  have hkeys : verifiedFirst.map (fun verified =>
      (verified.compiled.keys.credentialsOf "n").map fun credentials =>
        credentials.map TrustedCredential.verifyingKey) = some (some [nodeSeed]) := by
    decide +kernel
  simp only [hverified, hcredentials, map_some, some.injEq] at hkeys
  exact mem_singleton.mp (hkeys ▸ mem_map_of_mem hmem)

lemma Delivered.eq_heldState {w : Fleet Unit} (h : Delivered w)
    {state : Distributor.DurableState}
    (hheld : @Fleet.Holds Unit Distributor.durableCodec.json w state) : state = heldState := by
  rcases hheld with ⟨process, hprocess, rfl⟩ | hfile
  · have hmemory := h.1
    rw [show w.distributor.process = some process from hprocess] at hmemory
    exact some.inj hmemory
  · exact some.inj (hfile.symm.trans h.2.1)

/-- The one signature of the root and the one of the receiver are those that were made. -/
theorem Delivered.unforgeable {w : Fleet Unit} (h : Delivered w) :
    @Fleet.Unforgeable Unit checksumEd25519 standardBase64 Distributor.durableCodec.json
      ServiceAuth.roots w := by
  let _ := checksumEd25519
  let _ := standardBase64
  let _ := Distributor.durableCodec.json
  have hsigned : ∀ message signature, w.HasPolicy message signature →
      ServiceTrust.canonicalPayload firstSnapshot.policy firstSnapshot.authentication =
        .ok message := by
    rintro message signature ⟨ring, signed, verified, hverified, hmessage, -, hwhere⟩
    suffices signed = firstSnapshot by rwa [← this]
    rcases hwhere with ⟨state, hheld, hsnapshot⟩ | ⟨i, m, hm, hactive⟩
    · rw [h.eq_heldState hheld] at hsnapshot
      exact (some.inj hsnapshot).symm
    · rcases h.2.2.2 m hm with hnone | hfirst
      · exact absurd (hactive.symm.trans hnone) (by simp)
      · have hroots := SignedMessages.of_toOption_eq_some (hfirst.symm.trans hactive)
        exact (RootVerified.of_verify hverified).snapshot_eq (RootVerified.of_verify hroots)
  constructor
  · rintro key message signature ⟨state, snapshot, verified, receipt, credentials, credential,
      hheld, hsnapshot, hverified, hreceipt, hcredentials, hmem, -, rfl, hmessage, -⟩ -
    rw [h.eq_heldState hheld] at hsnapshot hreceipt
    obtain rfl : firstSnapshot = snapshot := some.inj hsnapshot
    obtain rfl : receipt = firstReceipt := List.mem_singleton.mp hreceipt
    have hfirst : verifiedFirst = some verified := by
      rw [verifiedFirst, hverified]
      rfl
    obtain ⟨attestation, hattested, hpair⟩ : ∃ attestation ∈ (w.receivers ()).attestations,
        (attestation.identity, attestation.receipt) = (Receiver.nodeIdentity, firstReceipt) := by
      apply List.mem_map.mp
      rw [h.2.2.1]
      exact List.mem_singleton_self _
    obtain ⟨hidentity, hreceipt⟩ := Prod.mk.inj hpair
    refine .inl ⟨(), attestation, hattested, ?_, hreceipt ▸ hmessage⟩
    rw [key_of_verifiedFirst hfirst hcredentials hmem, hidentity]
    rfl
  · intro message message' signature hm hm'
    exact Except.ok.inj ((hsigned message signature hm).symm.trans (hsigned message' signature hm'))

theorem convergence_soundness_delivered : ∃ w, sampleSystem.Reachable w ∧
    @Fleet.Holds Unit Distributor.durableCodec.json w heldState ∧
    ∃ attestation ∈ (w.receivers ()).attestations,
      ∃ active, attestation.moment.active = some active ∧
        active.policy = firstSnapshot.policy := by
  obtain ⟨w, hreachable, hdelivered⟩ := exists_delivered
  have hheld : @Fleet.Holds Unit Distributor.durableCodec.json w heldState :=
    .inr hdelivered.2.1
  obtain ⟨snapshot, verified, hsnapshot, _, _, _, attestation, hmem, _, happlied⟩ :=
    @convergence_soundness Unit checksumEd25519 standardBase64 _ Receiver.originParser
      Distributor.durableCodec.json snapshotCodec.json receiptCodec.json
      Receiver.floorCodec.prettyJson Receiver.cacheCodec.prettyJson Distributor.nodeConfig
      ServiceAuth.roots Distributor.durableCodec.lawful_json
      Receiver.floorCodec.lawful_prettyJson w hreachable hdelivered.unforgeable heldState hheld
      firstReceipt (mem_singleton_self _)
  obtain rfl : firstSnapshot = snapshot := some.inj hsnapshot
  exact ⟨w, hreachable, hheld, attestation, hmem,
    @Applied.policy checksumEd25519 _ _ _ _ _ happlied⟩

end Example

end InferLab.Convergence
