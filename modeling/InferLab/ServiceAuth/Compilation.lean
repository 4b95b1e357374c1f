import InferLab.ServiceAuth.Separators
import InferLab.ServiceAuth.TrustSnapshot
import Mathlib.Data.List.Forall2

/-!
# Service authentication: what a policy compiles to

A policy is compiled by way of the text that static configurations use. Its names cannot have a
separator in them, but the text of a key can: whatever stands after a comma in it is another entry
of the key ring, which the policy does not list.
-/

namespace InferLab.ServiceAuth

open Wire Except List

/-! ## Entries of a key ring -/

/-- A credential of a service, with its key. -/
structure KeyEntry where
  serviceId : String
  credentialId : String
  verifyingKey : Bytes
deriving Repr, DecidableEq

namespace KeyEntry

/-- The form that the ring lists. -/
def qualifiedId (entry : KeyEntry) : String := s!"{entry.serviceId}/{entry.credentialId}"

/-- The credential of an entry. -/
def credential (entry : KeyEntry) : TrustedCredential := ⟨entry.credentialId, entry.verifyingKey⟩

/-- The credentials of one service among some entries. -/
def ofService (serviceId : String) (entries : List KeyEntry) : List TrustedCredential :=
  (entries.filter fun entry => entry.serviceId = serviceId).map credential

lemma ofService_append (serviceId : String) (entries : List KeyEntry) (entry : KeyEntry) :
    ofService serviceId (entries ++ [entry]) = ofService serviceId entries ++
      if entry.serviceId = serviceId then [entry.credential] else [] := by
  unfold ofService
  rw [filter_append, map_append]
  by_cases h : entry.serviceId = serviceId
  · simp [h]
  · simp [h]

end KeyEntry

/-- The ring has these entries, in this order, and no others. -/
structure TrustedServiceKeyRing.Holds (ring : TrustedServiceKeyRing) (entries : List KeyEntry) :
    Prop where
  credentials : ring.orderedCredentials = entries.map KeyEntry.qualifiedId
  keys : ∀ serviceId, (ring.credentialsOf serviceId).getD [] = KeyEntry.ofService serviceId entries
  services : ∀ serviceId, serviceId ∈ ring.orderedServiceIds ↔
    ∃ entry ∈ entries, entry.serviceId = serviceId

namespace TrustedServiceKeyRing

variable {ring ring' : TrustedServiceKeyRing} {entries : List KeyEntry}

lemma holds_empty : empty.Holds [] where
  credentials := rfl
  keys _ := rfl
  services serviceId := by
    constructor
    · intro h
      cases h
    · rintro ⟨entry, h, -⟩
      cases h

lemma lookup_setCredentials (serviceId other : String) (credentials : List TrustedCredential)
    (keys : List (String × List TrustedCredential)) :
    (setCredentials serviceId credentials keys).lookup other =
      if other = serviceId then some credentials else keys.lookup other := by
  induction keys with
  | nil =>
    rw [setCredentials, lookup_cons]
    by_cases h : other = serviceId
    · rw [if_pos h, h, beq_self_eq_true]
    · rw [if_neg h, beq_false_of_ne h]
  | cons first keys ih =>
    obtain ⟨name, old⟩ := first
    rw [setCredentials]
    by_cases hname : name = serviceId
    · rw [if_pos hname, lookup_cons, lookup_cons, hname]
      by_cases h : other = serviceId
      · rw [if_pos h, h, beq_self_eq_true]
      · rw [if_neg h, beq_false_of_ne h]
    · rw [if_neg hname, lookup_cons, lookup_cons, ih]
      by_cases h : other = serviceId
      · have hother : other ≠ name := fun heq => hname (heq.symm.trans h)
        rw [if_pos h, if_pos h, beq_false_of_ne hother]
      · rw [if_neg h, if_neg h]

/-- What one entry of the text says. -/
def Parses [Ed25519] [Base64] (text : String) (entry : KeyEntry) : Prop :=
  ∃ qualifiedId encodedKey, splitOnce '=' text.toList = some (qualifiedId, encodedKey) ∧
    parseQualifiedCredential (String.ofList (trim (String.ofList qualifiedId))) =
      .ok (entry.serviceId, entry.credentialId) ∧
    decodeExact 32 (String.ofList (trim (String.ofList encodedKey))) "Ed25519 public key" =
      .ok entry.verifyingKey

/-- Each text adds the entry that it says, at the end. -/
theorem Holds.addTrusted [Ed25519] [Base64] (hholds : ring.Holds entries) {text : String}
    (h : ring.addTrusted text = .ok ring') :
    ∃ entry, Parses text entry ∧ ring'.Holds (entries ++ [entry]) ∧
      ring'.revokedServiceIds = ring.revokedServiceIds ∧
      ring'.revokedCredentials = ring.revokedCredentials := by
  unfold TrustedServiceKeyRing.addTrusted at h
  cases hsplit : splitOnce '=' text.toList with
  | none =>
    rw [hsplit] at h
    cases h
  | some parts =>
    obtain ⟨qualifiedId, encodedKey⟩ := parts
    rw [hsplit] at h
    obtain ⟨⟨serviceId, credentialId⟩, hname, h⟩ := of_bind h
    obtain ⟨bytes, hbytes, h⟩ := of_bind h
    obtain ⟨_, -, h⟩ := of_bind h
    obtain ⟨_, -, h⟩ := of_bind h
    obtain ⟨_, -, h⟩ := of_bind h
    obtain ⟨_, -, h⟩ := of_bind h
    obtain ⟨_, -, h⟩ := of_bind h
    obtain rfl := ok.inj h
    refine ⟨⟨serviceId, credentialId, bytes⟩, ⟨qualifiedId, encodedKey, hsplit, hname, hbytes⟩,
      ⟨?_, ?_, ?_⟩, rfl, rfl⟩
    · rw [map_append, ← hholds.credentials]
      rfl
    · intro other
      have hkeys := hholds.keys other
      have hlookup := lookup_setCredentials serviceId other
        ((ring.credentialsOf serviceId).getD [] ++ [⟨credentialId, bytes⟩]) ring.keys
      change ((setCredentials serviceId _ ring.keys).lookup other).getD [] = _
      rw [hlookup, KeyEntry.ofService_append]
      by_cases hother : other = serviceId
      · rw [if_pos hother, if_pos hother.symm, ← hkeys, hother]
        rfl
      · rw [if_neg hother, if_neg (Ne.symm hother), append_nil, ← hkeys]
        rfl
    · intro other
      have hservices := hholds.services other
      simp only [mem_append, mem_singleton, or_and_right, exists_or,
        exists_eq_left, ← hservices]
      by_cases hmem : serviceId ∈ ring.orderedServiceIds
      · rw [if_pos hmem, or_iff_left_of_imp]
        rintro rfl
        exact hmem
      · rw [if_neg hmem, mem_append, mem_singleton, eq_comm]

/-- All texts are entries of the ring. -/
theorem Holds.foldlM [Ed25519] [Base64] {texts : List String} (hholds : ring.Holds entries)
    (h : texts.foldlM TrustedServiceKeyRing.addTrusted ring = .ok ring') :
    ∃ added, List.Forall₂ Parses texts added ∧ ring'.Holds (entries ++ added) ∧
      ring'.revokedServiceIds = ring.revokedServiceIds ∧
      ring'.revokedCredentials = ring.revokedCredentials := by
  induction texts generalizing ring entries with
  | nil =>
    obtain rfl := ok.inj h
    exact ⟨[], .nil, (append_nil entries).symm ▸ hholds, rfl, rfl⟩
  | cons text texts ih =>
    obtain ⟨middle, hmiddle, h⟩ := of_bind h
    obtain ⟨entry, hparses, hentry, hservices, hcredentials⟩ := hholds.addTrusted hmiddle
    obtain ⟨added, hadded, hall, hservices', hcredentials'⟩ := ih hentry h
    refine ⟨entry :: added, .cons hparses hadded, ?_, hservices'.trans hservices,
      hcredentials'.trans hcredentials⟩
    rwa [append_assoc] at hall

lemma foldlM_addRevokedService {services : List String}
    (h : services.foldlM addRevokedService ring = .ok ring') :
    ring' = { ring with revokedServiceIds := ring.revokedServiceIds ++ services } := by
  induction services generalizing ring with
  | nil =>
    obtain rfl := ok.inj h
    rw [append_nil]
  | cons serviceId services ih =>
    obtain ⟨middle, hmiddle, h⟩ := of_bind h
    obtain ⟨_, -, hmiddle⟩ := of_bind hmiddle
    obtain ⟨_, -, hmiddle⟩ := of_bind hmiddle
    obtain rfl := ok.inj hmiddle
    rw [ih h, append_assoc]
    rfl

lemma foldlM_addRevokedCredential {texts : List String} {credentials : List (String × String)}
    (hparse : List.Forall₂ (fun text credential => parseQualifiedCredential text = .ok credential)
      texts credentials)
    (h : texts.foldlM addRevokedCredential ring = .ok ring') :
    ring' = { ring with revokedCredentials := ring.revokedCredentials ++ credentials } := by
  induction hparse generalizing ring with
  | nil =>
    obtain rfl := ok.inj h
    rw [append_nil]
  | cons hfirst _ ih =>
    obtain ⟨middle, hmiddle, h⟩ := of_bind h
    obtain ⟨_, -, hmiddle⟩ := of_bind hmiddle
    obtain ⟨credential, hcredential, hmiddle⟩ := of_bind hmiddle
    obtain rfl := ok.inj (hfirst.symm.trans hcredential)
    obtain ⟨_, -, hmiddle⟩ := of_bind hmiddle
    obtain ⟨_, -, hmiddle⟩ := of_bind hmiddle
    obtain rfl := ok.inj hmiddle
    rw [ih h, append_assoc]
    rfl

end TrustedServiceKeyRing

/-! ## The text of a policy -/

namespace ServiceTrustCredential

variable (credential : ServiceTrustCredential)

/-- The form that the ring lists. -/
def qualifiedId : String := s!"{credential.serviceId}/{credential.credentialId}"

/-- The entry of the text that is compiled. -/
def text : String :=
  s!"{credential.serviceId}/{credential.credentialId}={credential.publicKeyBase64}"

/-- The pieces of the key's text between commas, of which there is at least one. -/
def keyPieces : List (List Char) := split ',' credential.publicKeyBase64.toList

/-- The text of the key: what is before the first comma, trimmed. -/
def keyText : String := entry (credential.keyPieces.headD [])

/-- No entry follows the key in its text. -/
def Single : Prop := ∀ piece ∈ credential.keyPieces.tail, entry piece = ""

instance : Decidable credential.Single := inferInstanceAs (Decidable (∀ _ ∈ _, _))

/-- The names are identifiers. -/
structure Named : Prop where
  service : isId credential.serviceId = true
  name : isId credential.credentialId = true

end ServiceTrustCredential

namespace ServiceTrustCredential.Named

variable {credential : ServiceTrustCredential} (h : credential.Named)

include h

lemma word : ∀ c ∈ credential.serviceId.toList ++ '/' :: credential.credentialId.toList,
    isWhiteSpace c = false ∧ c ≠ ',' ∧ c ≠ '=' := by
  intro c hc
  rcases mem_append.mp hc with hservice | hrest
  · obtain ⟨hblank, hcomma, -, heq⟩ := (of_isId h.service).2 c hservice
    exact ⟨hblank, hcomma, heq⟩
  · rcases mem_cons.mp hrest with rfl | hname
    · decide
    · obtain ⟨hblank, hcomma, -, heq⟩ := (of_isId h.name).2 c hname
      exact ⟨hblank, hcomma, heq⟩

/-- The text of a credential has its own entry, and one for every piece after a comma. -/
theorem commaSeparated_text :
    ∃ piece pieces, credential.keyPieces = piece :: pieces ∧
      commaSeparated credential.text =
        String.ofList (credential.serviceId.toList ++ '/' :: credential.credentialId.toList ++
          '=' :: piece.rdropWhile isWhiteSpace) ::
        (pieces.map entry).filter (· ≠ "") := by
  have hname : ∀ c ∈ credential.serviceId.toList ++ '/' :: credential.credentialId.toList ++ ['='],
      isWhiteSpace c = false ∧ c ≠ ',' := by
    intro c hc
    rcases mem_append.mp hc with hc | hc
    · exact ⟨(h.word c hc).1, (h.word c hc).2.1⟩
    · rw [mem_singleton.mp hc]
      decide
  have htext : credential.text.toList =
      (credential.serviceId.toList ++ '/' :: credential.credentialId.toList ++ ['=']) ++
        credential.publicKeyBase64.toList := by
    simp only [ServiceTrustCredential.text, String.toList_append, append_assoc,
      cons_append, nil_append]
    rfl
  obtain ⟨piece, pieces, hkey, hsplit⟩ := split_append (fun hmem => (hname _ hmem).2 rfl)
    credential.publicKeyBase64.toList
  refine ⟨piece, pieces, hkey, ?_⟩
  have htrim := trim_append (fun c hc => (hname c hc).1) (by simp) piece
  rw [commaSeparated_eq, htext, hsplit, map_cons, entry, htrim, filter_cons_of_pos]
  · rw [append_assoc, singleton_append]
  · simp

/-- That entry is the credential, with the key of its text. -/
theorem of_parses [Ed25519] [Base64] {piece : List Char} {found : KeyEntry}
    (hparses : TrustedServiceKeyRing.Parses (String.ofList (credential.serviceId.toList ++
      '/' :: credential.credentialId.toList ++ '=' :: piece.rdropWhile isWhiteSpace)) found) :
    found.serviceId = credential.serviceId ∧ found.credentialId = credential.credentialId ∧
      decodeExact 32 (entry piece) "Ed25519 public key" = .ok found.verifyingKey := by
  obtain ⟨qualifiedId, encodedKey, hsplit, hname, hkey⟩ := hparses
  rw [String.toList_ofList, splitOnce_append fun hmem => (h.word _ hmem).2.2 rfl] at hsplit
  obtain ⟨rfl, rfl⟩ := Prod.mk.inj (Option.some.inj hsplit)
  have hslash : '/' ∉ credential.serviceId.toList :=
    fun hmem => ((of_isId h.service).2 _ hmem).2.2.1 rfl
  rw [trim_word fun c hc => (h.word c hc).1] at hname
  unfold parseQualifiedCredential at hname
  rw [String.toList_ofList, splitOnce_append hslash] at hname
  simp only [String.ofList_toList] at hname
  obtain ⟨_, -, hname⟩ := of_bind hname
  obtain ⟨_, -, hname⟩ := of_bind hname
  obtain ⟨hservice, hcredential⟩ := Prod.mk.inj (ok.inj hname)
  rw [trim_rdropWhile] at hkey
  exact ⟨hservice.symm, hcredential.symm, hkey⟩

end ServiceTrustCredential.Named

/-- How many entries the texts of some credentials have. -/
theorem length_texts {credentials : List ServiceTrustCredential}
    (hnamed : ∀ credential ∈ credentials, credential.Named) :
    credentials.length ≤ (credentials.flatMap (commaSeparated ·.text)).length ∧
    (credentials.length = (credentials.flatMap (commaSeparated ·.text)).length ↔
      ∀ credential ∈ credentials, credential.Single) := by
  induction credentials with
  | nil => simp
  | cons credential credentials ih =>
    obtain ⟨hfirst, hrest⟩ := forall_mem_cons.mp hnamed
    obtain ⟨hle, hiff⟩ := ih hrest
    obtain ⟨piece, pieces, hpieces, htexts⟩ := hfirst.commaSeparated_text
    have hsingle : ((pieces.map entry).filter (· ≠ "")).length = 0 ↔ credential.Single := by
      rw [length_eq_zero_iff, filter_eq_nil_iff, forall_mem_map,
        ServiceTrustCredential.Single, hpieces]
      simp
    rw [flatMap_cons, length_append, htexts, length_cons, length_cons,
      forall_mem_cons, ← hsingle, ← hiff]
    omega

/-- The entry of a listed credential. -/
structure KeyEntry.IsOf [Base64] (found : KeyEntry) (listed : ServiceTrustCredential) : Prop where
  service : found.serviceId = listed.serviceId
  name : found.credentialId = listed.credentialId
  key : decodeExact 32 listed.keyText "Ed25519 public key" = .ok found.verifyingKey

/-- Without entries after keys, the entries are those of the credentials. -/
theorem forall₂_of_single [Ed25519] [Base64] {credentials : List ServiceTrustCredential}
    (hnamed : ∀ credential ∈ credentials, credential.Named)
    (hsingle : ∀ credential ∈ credentials, credential.Single) {entries : List KeyEntry}
    (hparses : List.Forall₂ TrustedServiceKeyRing.Parses
      (credentials.flatMap (commaSeparated ·.text)) entries) :
    List.Forall₂ KeyEntry.IsOf entries credentials := by
  induction credentials generalizing entries with
  | nil =>
    cases hparses
    exact .nil
  | cons credential credentials ih =>
    obtain ⟨hfirst, hrest⟩ := forall_mem_cons.mp hnamed
    obtain ⟨hone, hothers⟩ := forall_mem_cons.mp hsingle
    obtain ⟨piece, pieces, hpieces, htexts⟩ := hfirst.commaSeparated_text
    have hnone : (pieces.map entry).filter (· ≠ "") = [] := by
      rw [filter_eq_nil_iff, forall_mem_map]
      rw [ServiceTrustCredential.Single, hpieces] at hone
      simpa using hone
    rw [flatMap_cons, htexts, hnone] at hparses
    cases hparses with
    | cons hparse hparses =>
      refine .cons ?_ (ih hrest hothers hparses)
      obtain ⟨hservice, hname, hkey⟩ := hfirst.of_parses hparse
      refine ⟨hservice, hname, ?_⟩
      rw [ServiceTrustCredential.keyText, hpieces]
      exact hkey

section IsOf

variable [Base64] {entries : List KeyEntry} {credentials : List ServiceTrustCredential}

section

variable (h : List.Forall₂ KeyEntry.IsOf entries credentials)
include h

lemma qualifiedIds_eq :
    entries.map KeyEntry.qualifiedId =
      credentials.map ServiceTrustCredential.qualifiedId := by
  induction h with
  | nil => rfl
  | cons hfirst _ ih =>
    rw [map_cons, map_cons, ih, KeyEntry.qualifiedId, hfirst.service, hfirst.name]
    rfl

lemma forall₂_ofService (serviceId : String) :
    List.Forall₂ (fun (listed : ServiceTrustCredential) (held : TrustedCredential) =>
        held.credentialId = listed.credentialId ∧
        decodeExact 32 listed.keyText "Ed25519 public key" = .ok held.verifyingKey)
      (credentials.filter fun listed => listed.serviceId = serviceId)
      (KeyEntry.ofService serviceId entries) := by
  induction h with
  | nil => exact .nil
  | cons hfirst _ ih =>
    unfold KeyEntry.ofService at ih ⊢
    rw [filter_cons, filter_cons, hfirst.service]
    split_ifs
    · exact .cons ⟨hfirst.name, hfirst.key⟩ ih
    · exact ih

lemma exists_listed {entry : KeyEntry} (hmem : entry ∈ entries) :
    ∃ listed ∈ credentials, listed.serviceId = entry.serviceId := by
  induction h with
  | nil => cases hmem
  | cons hfirst _ ih =>
    rcases mem_cons.mp hmem with rfl | hmem
    · exact ⟨_, mem_cons_self, hfirst.service.symm⟩
    · obtain ⟨listed, hlisted, heq⟩ := ih hmem
      exact ⟨listed, mem_cons_of_mem _ hlisted, heq⟩

end

end IsOf

/-! ## Compilation -/

/-- The compiled policy has what the policy lists, and nothing else. A key is the decoding of
`keyText`: the listed text up to its first comma, without the blanks around. -/
structure Faithful [Base64] (policy : ServiceTrustPolicyPayload)
    (compiled : CompiledServiceTrustPolicy) : Prop where
  credentials : compiled.keys.orderedCredentials =
    policy.trustedCredentials.map ServiceTrustCredential.qualifiedId
  keys : ∀ serviceId, List.Forall₂
    (fun (listed : ServiceTrustCredential) (held : TrustedCredential) =>
      held.credentialId = listed.credentialId ∧
      decodeExact 32 listed.keyText "Ed25519 public key" = .ok held.verifyingKey)
    (policy.trustedCredentials.filter fun listed => listed.serviceId = serviceId)
    ((compiled.keys.credentialsOf serviceId).getD [])
  revokedServices : compiled.keys.revokedServiceIds = policy.revokedServiceIds
  revokedCredentials : compiled.keys.revokedCredentials =
    policy.revokedCredentials.map fun reference => (reference.serviceId, reference.credentialId)
  gateways : compiled.gatewayServiceIds = policy.gatewayServiceIds
  gateways_listed : ∀ gatewayId ∈ compiled.gatewayServiceIds,
    ∃ listed ∈ policy.trustedCredentials, listed.serviceId = gatewayId

lemma of_validatePolicyShape {policy : ServiceTrustPolicyPayload}
    (h : ServiceTrust.validatePolicyShape policy = .ok ()) :
    (∀ credential ∈ policy.trustedCredentials, credential.Named) ∧
    (∀ serviceId ∈ policy.revokedServiceIds, isId serviceId = true) ∧
    ∀ reference ∈ policy.revokedCredentials,
      isId reference.serviceId = true ∧ isId reference.credentialId = true := by
  unfold ServiceTrust.validatePolicyShape at h
  simp only [bind_eq_ok_iff] at h
  obtain ⟨_, -, _, -, _, -, _, -, _, -, _, -, _, -, _, hcredentials, _, hservices, _, hreferences,
    -⟩ := h
  refine ⟨?_, ?_, ?_⟩
  · intro credential hmem
    have hvalid := of_forM hcredentials credential hmem
    unfold ServiceTrust.validateCredential ServiceTrust.validateId at hvalid
    simp only [bind_eq_ok_iff, require_eq_ok_iff, exists_const] at hvalid
    exact ⟨hvalid.1, hvalid.2.1⟩
  · intro serviceId hmem
    exact of_require (of_forM hservices serviceId hmem)
  · intro reference hmem
    have hvalid := of_forM hreferences reference hmem
    unfold ServiceTrust.validateReference ServiceTrust.validateId at hvalid
    simp only [bind_eq_ok_iff, require_eq_ok_iff, exists_const] at hvalid
    exact hvalid

/-- The revoked services are read back. -/
theorem commaSeparated_services {services : List String}
    (h : ∀ serviceId ∈ services, isId serviceId = true) :
    commaSeparated (",".intercalate services) = services := by
  rw [commaSeparated_intercalate]
  induction services with
  | nil => rfl
  | cons serviceId services ih =>
    obtain ⟨hfirst, hrest⟩ := forall_mem_cons.mp h
    obtain ⟨hnonempty, hchars⟩ := of_isId hfirst
    rw [flatMap_cons, ih hrest, commaSeparated_word hnonempty
      fun c hc => ⟨(hchars c hc).1, (hchars c hc).2.1⟩]
    rfl

lemma toList_qualifiedId (reference : ServiceCredentialReference) :
    reference.qualifiedId.toList =
      reference.serviceId.toList ++ '/' :: reference.credentialId.toList := by
  simp only [ServiceCredentialReference.qualifiedId, String.toList_append, append_assoc]
  rfl

lemma parseQualifiedCredential_qualifiedId {reference : ServiceCredentialReference}
    (hservice : isId reference.serviceId = true) (hname : isId reference.credentialId = true) :
    parseQualifiedCredential reference.qualifiedId =
      .ok (reference.serviceId, reference.credentialId) := by
  have hslash : '/' ∉ reference.serviceId.toList :=
    fun hmem => ((of_isId hservice).2 _ hmem).2.2.1 rfl
  unfold parseQualifiedCredential validateId
  rw [toList_qualifiedId, splitOnce_append hslash]
  simp only [String.ofList_toList, bind_eq_ok_iff, require_eq_ok_iff]
  exact ⟨(), hservice, (), hname, rfl⟩

/-- The revoked credentials are read back. -/
theorem commaSeparated_references {references : List ServiceCredentialReference}
    (h : ∀ reference ∈ references,
      isId reference.serviceId = true ∧ isId reference.credentialId = true) :
    List.Forall₂ (fun text credential => parseQualifiedCredential text = .ok credential)
      (commaSeparated (",".intercalate (references.map ServiceCredentialReference.qualifiedId)))
      (references.map fun reference => (reference.serviceId, reference.credentialId)) := by
  rw [commaSeparated_intercalate]
  induction references with
  | nil => exact .nil
  | cons reference references ih =>
    obtain ⟨⟨hservice, hname⟩, hrest⟩ := forall_mem_cons.mp h
    have hword : ∀ c ∈ reference.qualifiedId.toList, isWhiteSpace c = false ∧ c ≠ ',' := by
      intro c hc
      have hnamed : ServiceTrustCredential.Named
          ⟨reference.serviceId, reference.credentialId, ""⟩ := ⟨hservice, hname⟩
      rw [toList_qualifiedId] at hc
      exact ⟨(hnamed.word c hc).1, (hnamed.word c hc).2.1⟩
    have hnonempty : reference.qualifiedId.toList ≠ [] := by
      rw [toList_qualifiedId]
      exact append_ne_nil_of_right_ne_nil _ (cons_ne_nil _ _)
    rw [map_cons, flatMap_cons, commaSeparated_word hnonempty hword]
    exact .cons (parseQualifiedCredential_qualifiedId hservice hname) (ih hrest)

lemma of_checkGateways {trusted seen gatewayIds : List String}
    (h : checkGateways trusted seen gatewayIds = .ok ()) :
    ∀ gatewayId ∈ gatewayIds, gatewayId ∈ trusted := by
  induction gatewayIds generalizing seen with
  | nil => exact fun _ hmem => absurd hmem not_mem_nil
  | cons gatewayId gatewayIds ih =>
    obtain ⟨_, -, h⟩ := of_bind h
    obtain ⟨_, htrusted, h⟩ := of_bind h
    obtain ⟨_, -, h⟩ := of_bind h
    exact forall_mem_cons.mpr ⟨by simpa using of_require htrusted, ih h⟩

/-- The entries of the ring are those of the text, and the rest is as listed. -/
theorem of_compilePolicy [Ed25519] [Base64] {policy : ServiceTrustPolicyPayload}
    {compiled : CompiledServiceTrustPolicy} (h : compilePolicy policy = .ok compiled) :
    (∀ credential ∈ policy.trustedCredentials, credential.Named) ∧
    ∃ entries, List.Forall₂ TrustedServiceKeyRing.Parses
        (policy.trustedCredentials.flatMap (commaSeparated ·.text)) entries ∧
      compiled.keys.Holds entries ∧
      compiled.keys.revokedServiceIds = policy.revokedServiceIds ∧
      compiled.keys.revokedCredentials = policy.revokedCredentials.map
        (fun reference => (reference.serviceId, reference.credentialId)) ∧
      compiled.gatewayServiceIds = policy.gatewayServiceIds ∧
      ∀ gatewayId ∈ policy.gatewayServiceIds, gatewayId ∈ compiled.keys.orderedServiceIds := by
  obtain ⟨_, hshape, h⟩ := of_bind h
  obtain ⟨keys, hkeys, h⟩ := of_bind h
  obtain ⟨_, hgateways, h⟩ := of_bind h
  obtain ⟨_, -, h⟩ := of_bind h
  obtain rfl := ok.inj h
  obtain ⟨hnamed, hservices, hreferences⟩ := of_validatePolicyShape hshape
  obtain ⟨trusted, htrusted, hkeys⟩ := of_bind (of_mapError hkeys)
  obtain ⟨_, -, hkeys⟩ := of_bind hkeys
  obtain ⟨revoking, hrevoking, hkeys⟩ := of_bind hkeys
  refine ⟨hnamed, ?_⟩
  rw [commaSeparated_intercalate, flatMap_map] at htrusted
  obtain ⟨entries, hparses, hholds, hnoService, hnoCredential⟩ :=
    TrustedServiceKeyRing.holds_empty.foldlM htrusted
  rw [commaSeparated_services hservices] at hrevoking
  have hrevoking := TrustedServiceKeyRing.foldlM_addRevokedService hrevoking
  have hkeys := TrustedServiceKeyRing.foldlM_addRevokedCredential
    (commaSeparated_references hreferences) hkeys
  rw [nil_append] at hholds
  subst hrevoking hkeys
  refine ⟨entries, hparses, ⟨hholds.credentials, hholds.keys, hholds.services⟩, ?_, ?_, rfl,
    of_checkGateways hgateways⟩
  · simp only [hnoService]
    rfl
  · simp only [hnoCredential]
    rfl

/-- A policy compiles to what it lists exactly if no key has another entry after it. -/
theorem compilePolicy_faithful_iff [Ed25519] [Base64] (policy : ServiceTrustPolicyPayload)
    (compiled : CompiledServiceTrustPolicy) (h : compilePolicy policy = .ok compiled) :
    Faithful policy compiled ↔ ∀ credential ∈ policy.trustedCredentials, credential.Single := by
  obtain ⟨hnamed, entries, hparses, hholds, hservices, hcredentials, hgateways, htrusted⟩ :=
    of_compilePolicy h
  constructor
  · intro hfaithful
    -- one entry for each credential leaves none for what follows their keys
    apply (length_texts hnamed).2.mp
    rw [hparses.length_eq, ← length_map KeyEntry.qualifiedId, ← hholds.credentials,
      hfaithful.credentials, length_map]
  · intro hsingle
    have hlisted := forall₂_of_single hnamed hsingle hparses
    refine ⟨?_, ?_, hservices, hcredentials, hgateways, ?_⟩
    · exact hholds.credentials.trans (qualifiedIds_eq hlisted)
    · intro serviceId
      rw [hholds.keys]
      exact forall₂_ofService hlisted serviceId
    · rw [hgateways]
      intro gatewayId hmem
      obtain ⟨entry, hentry, hservice⟩ := (hholds.services gatewayId).mp (htrusted gatewayId hmem)
      rw [← hservice]
      exact exists_listed hlisted hentry

section Sample

/-- A policy with one credential. -/
def onePolicy (publicKeyBase64 gatewayId : String) : ServiceTrustPolicyPayload where
  schema := ServiceTrustPolicyVersion.v2.policySchema
  clusterId := "c"
  generation := 1
  issuedAtMs := 1000
  expiresAtMs := some 100000
  trustedCredentials := [⟨"n", "k", publicKeyBase64⟩]
  revokedServiceIds := []
  revokedCredentials := []
  gatewayServiceIds := [gatewayId]

/-- The encoding of 32 bytes of value two. -/
def plainKey : String := "AgICAgICAgICAgICAgICAgICAgICAgICAgICAgICAgI="

/-- A key, and the entry of another service. -/
def smuggledKey : String := plainKey ++ ",evil/e=AQEBAQEBAQEBAQEBAQEBAQEBAQEBAQEBAQEBAQEBAQE="

theorem compilePolicy_faithful_iff_plainKey :
    ∃ compiled,
      @compilePolicy checksumEd25519 standardBase64 (onePolicy plainKey "n") = .ok compiled ∧
      @Faithful standardBase64 (onePolicy plainKey "n") compiled := by
  have h : @compilePolicy checksumEd25519 standardBase64 (onePolicy plainKey "n") =
      .ok ⟨⟨[("n", [⟨"k", List.replicate 32 2⟩])], ["n"], ["n/k"], [], []⟩, ["n"]⟩ := by
    decide +kernel
  exact ⟨_, h, (@compilePolicy_faithful_iff checksumEd25519 standardBase64 _ _ h).mpr
    (by decide +kernel)⟩

/-- A service that is not listed is trusted, and is a gateway. -/
theorem smuggled_credential :
    ∃ compiled,
      @compilePolicy checksumEd25519 standardBase64 (onePolicy smuggledKey "evil") =
        .ok compiled ∧
      compiled.keys.orderedCredentials = ["n/k", "evil/e"] ∧
      compiled.keys.credentialsOf "evil" = some [⟨"e", List.replicate 32 1⟩] ∧
      compiled.gatewayServiceIds = ["evil"] ∧
      ¬@Faithful standardBase64 (onePolicy smuggledKey "evil") compiled := by
  have h : @compilePolicy checksumEd25519 standardBase64 (onePolicy smuggledKey "evil") =
      .ok ⟨⟨[("n", [⟨"k", List.replicate 32 2⟩]), ("evil", [⟨"e", List.replicate 32 1⟩])],
        ["n", "evil"], ["n/k", "evil/e"], [], []⟩, ["evil"]⟩ := by
    decide +kernel
  refine ⟨_, h, rfl, rfl, rfl, fun hfaithful => ?_⟩
  exact absurd (@Faithful.credentials standardBase64 _ _ hfaithful) (by decide)

end Sample

end InferLab.ServiceAuth
