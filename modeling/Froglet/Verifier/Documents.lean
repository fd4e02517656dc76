import Froglet.Protocol.Binding
import Mathlib.Data.List.Induction
import Mathlib.Data.List.Sort

/-!
# The offline verifier

The verifier gives two verdicts on the documents of a deal. Each document has a report
of its own, in which the envelope is checked over the payload as it stands, field by
field unknown to the verifier included.
-/

namespace Froglet

open List Option
open ArtifactKind (ofName?)

variable (P : Primitives)

variable {now : Option ℤ}
variable {S T : Type} {document : Json} {k : ArtifactKind} {code artifactType message : String}
variable {q : SignedQuote} {chain : FullChain} {documents : List Json}

/-! ## One document -/

def Json.get? (document : Json) (key : String) : Option Json :=
  match document with
  | .obj fields => fields.lookup key
  | _ => none

def classifyDocument (document : Json) : Option String :=
  (document.get? "artifact_type").bind asString

def stringField (document : Json) (field : String) : String :=
  ((document.get? field).bind asString).getD ""

inductive DocumentStatus where
  | verified
  | envelopeOnly
  | invalid
deriving DecidableEq

inductive SemanticsOutcome where
  | valid
  | invalid (error : String)
  | notEvaluated (reason : String)

structure DocumentReport where
  (artifactType signer hash : String)
  status : DocumentStatus
  envelopeValid : Bool
  semantics : SemanticsOutcome
  detail : List String
  expired : Option Bool

abbrev DecodeMessages := String → Json → String

variable (messages : DecodeMessages)

def documentSemantics (document : Json) (artifactType : String) (envelopeValid : Bool) :
    SemanticsOutcome :=
  let error := messages artifactType document
  match verifyTypedDocument P document artifactType with
  | .ok _ => .valid
  | .error (.unknownKind kind) =>
    .notEvaluated s!"no semantic validator for artifact kind {kind} in this verifier"
  | .error .decode => .invalid s!"payload does not conform to the {artifactType} schema: {error}"
  | .error (.semantic error) => .invalid error
  | .error .signatureFailed =>
    if envelopeValid then
      .notEvaluated ("payload carries fields unknown to this verifier version; "
        ++ "semantic rules were not evaluated")
    else .invalid "signature verification failed"

def SemanticsOutcome.detail : SemanticsOutcome → List String
  | valid => []
  | invalid error => [error]
  | notEvaluated reason => [reason]

def verifyDocument (now : Option ℤ) (document : Json) : DocumentReport :=
  let artifactType := (classifyDocument document).getD "unknown"
  let signer := stringField document "signer"
  let hash := stringField document "hash"
  -- the payload stays the document it is
  match decodeSignedArtifact some document with
  | none =>
    let error := messages "envelope" document
    { artifactType, signer, hash, status := .invalid, envelopeValid := false
      semantics := .notEvaluated "document is not a signed artifact envelope"
      detail := [s!"envelope decode failed: {error}"], expired := none }
  | some envelope =>
    let envelopeValid := verifyArtifact P envelope
    let semantics := documentSemantics P messages document envelope.artifactType envelopeValid
    { artifactType, signer, hash
      status :=
        if !envelopeValid then .invalid
        else match semantics with
          | .valid => .verified
          | .notEvaluated _ => .envelopeOnly
          | .invalid _ => .invalid
      envelopeValid, semantics
      detail :=
        (if envelopeValid then []
          else ["envelope hash, payload hash, schema version, or signature is invalid"])
          ++ semantics.detail
      expired := now.bind fun now =>
        ((envelope.payload.get? "expires_at").bind asI64).map (· < now) }

/-! ## The documents of a chain -/

structure ChainDocumentsReport where
  (valid chainEvaluated : Bool)
  structureErrors : List String
  artifacts : List DocumentReport
  chain : Option FullChainReport

abbrev ChainSlots := (k : ArtifactKind) → Option (SignedArtifact k.Payload)
variable {slots : ChainSlots}

def ChainSlots.coreKindsPresent (slots : ChainSlots) : Bool :=
  (slots .descriptor).isSome && (slots .offer).isSome && (slots .quote).isSome
    && (slots .deal).isSome

/-- What the loop over the documents carries. -/
structure ChainState where
  slots : ChainSlots
  structureErrors : List String
  artifacts : List DocumentReport

def fillSlot (k : ArtifactKind) (document : Json) (state : ChainState) : ChainState :=
  let kind := k.artifactType
  if (state.slots k).isSome then
    { state with
      structureErrors := state.structureErrors ++ [s!"more than one {kind} artifact supplied"] }
  else match k.decode document with
    | some artifact => { state with slots := Function.update state.slots k (some artifact) }
    | none =>
      let error := messages kind document
      { state with
        structureErrors :=
          state.structureErrors ++ [s!"{kind} artifact could not be decoded: {error}"] }

def addDocument (now : Option ℤ) (state : ChainState) (document : Json) : ChainState :=
  let state :=
    { state with artifacts := state.artifacts ++ [verifyDocument P messages now document] }
  match (classifyDocument document).bind ofName? with
  | some k => fillSlot messages k document state
  | none => state

def ChainSlots.fullChain (slots : ChainSlots) : Option FullChain := do
  let descriptor ← slots .descriptor
  let offer ← slots .offer
  let quote ← slots .quote
  let deal ← slots .deal
  return { descriptor, offer, quote, invoiceBundle := slots .invoiceBundle, deal
           receipt := slots .receipt }

def validateChainDocuments (documents : List Json) (now : Option ℤ) : ChainDocumentsReport :=
  let state := documents.foldl (addDocument P messages now)
    { slots := fun _ => none, structureErrors := [], artifacts := [] }
  let structureErrors := state.structureErrors
    ++ (if state.slots.coreKindsPresent then []
      else ["chain validation requires exactly one descriptor, offer, quote, and deal"])
  let chain :=
    if structureErrors.isEmpty then state.slots.fullChain.map (validateFullChain P · now)
    else none
  { valid := structureErrors.isEmpty && state.artifacts.all (·.status != .invalid)
      && (chain.map (·.valid)).getD false
    chainEvaluated := chain.isSome, structureErrors, artifacts := state.artifacts, chain }

/-! ## Payloads that are given back -/

mutual

def Json.normalize : Json → Json
  | .arr items => .arr (normalizeItems items)
  | .obj fields => .obj ((normalizeFields fields).insertionSort (·.1 ≤ ·.1))
  | document => document

def Json.normalizeItems : List Json → List Json
  | [] => []
  | item :: items => item.normalize :: normalizeItems items

def Json.normalizeFields : List (String × Json) → List (String × Json)
  | [] => []
  | (key, value) :: fields => (key, value.normalize) :: normalizeFields fields

end

def reencodes (document : Json) : Bool :=
  match (classifyDocument document).bind ofName? with
  | none => true
  | some k =>
    match k.decode document, document.get? "payload" with
    | some artifact, some payload => payload.normalize == (toJson artifact.payload).normalize
    | _, _ => true

def Primitives.SortsFields : Prop :=
  ∀ x y : Json, x.normalize = y.normalize → P.canonicalJson x = P.canonicalJson y

variable {P} {messages}

theorem verifyArtifact_congr [Serialize S] [Serialize T] (hsorts : P.SortsFields)
    (a : SignedArtifact T) {payload : S}
    (h : (toJson payload).normalize = (toJson a.payload).normalize) :
    verifyArtifact P { a with payload := payload } = verifyArtifact P a := by
  have hhash : payloadHash P payload = payloadHash P a.payload := by
    unfold payloadHash
    rw [hsorts _ _ h]
  have hsigning : ({ a with payload := payload } : SignedArtifact S).signingBytes P
      = a.signingBytes P := by
    refine hsorts _ _ ?_
    simp only [Json.normalize, Json.normalizeItems, h]
  unfold verifyArtifact
  rw [hhash, hsigning]

theorem decodeSignedArtifact_obj {decode : Json → Option T} {fields : List (String × Json)}
    {a : SignedArtifact T} (h : decodeSignedArtifact decode (.obj fields) = some a) :
    ∃ payload, fields.lookup "payload" = some payload ∧ decode payload = some a.payload
      ∧ ∀ (decode' : Json → Option S) (b : S), decode' payload = some b →
        decodeSignedArtifact decode' (.obj fields) = some { a with payload := b } := by
  simp only [decodeSignedArtifact, required, defaulted, decodeStruct_obj_bind,
    bind_eq_some_iff] at h ⊢
  obtain ⟨artifactType, h₁, schemaVersion, h₂, signer, h₃, createdAt, h₄, hash', h₅, hash, h₆,
    payload, h₇, signature, h₈, ha⟩ := h
  obtain rfl := some.inj ha
  obtain ⟨value, hvalue, hpayload⟩ : ∃ value, fields.lookup "payload" = some value
      ∧ decode value = some payload := by
    cases hvalue : fields.lookup "payload" with
    | none => rw [hvalue] at h₇; cases h₇
    | some value => exact ⟨value, rfl, by rw [hvalue] at h₇; exact h₇⟩
  refine ⟨value, hvalue, hpayload, fun decode' b hb => ?_⟩
  exact ⟨artifactType, h₁, schemaVersion, h₂, signer, h₃, createdAt, h₄, hash', h₅, hash, h₆,
    b, by rw [hvalue]; exact hb, signature, h₈, rfl⟩

variable (P) in
/-- Where the payload of a document is not given back, the hash tells the two apart. -/
def HashTells (document : Json) : Prop :=
  reencodes document = false → ∀ k a payload hash, ArtifactKind.decode k document = some a →
    document.get? "payload" = some payload → payloadHash P payload = .ok hash →
    payloadHash P a.payload ≠ .ok hash

/-- The two verdicts on one document. -/
theorem envelopeValid_verifyDocument {a : SignedArtifact k.Payload}
    (hkind : (classifyDocument document).bind ofName? = some k)
    (hdecode : k.decode document = some a) : (P.SortsFields → reencodes document = true →
      (verifyDocument P messages now document).envelopeValid = verifyArtifact P a)
    ∧ (HashTells P document → (verifyDocument P messages now document).envelopeValid = true →
      verifyArtifact P a = true → reencodes document = true) := by
  cases document with
  | null | bool | int | float | str | arr => cases hkind
  | obj fields =>
    obtain ⟨payload, hlookup, -, hread⟩ := decodeSignedArtifact_obj hdecode
    have hget : Json.get? (.obj fields) "payload" = some payload := hlookup
    have hback : reencodes (.obj fields) = true
        ↔ payload.normalize = (toJson a.payload).normalize := by
      simp only [reencodes, hkind, hdecode, hget, beq_iff_eq]
    have hraw : (verifyDocument P messages now (.obj fields)).envelopeValid
        = verifyArtifact P { a with payload } := by
      unfold verifyDocument
      rw [hread some payload rfl]
    rw [hraw]
    refine ⟨fun hsorts hsame => verifyArtifact_congr hsorts a (hback.mp hsame),
      fun htells hvalid htyped => Bool.of_not_eq_false fun hlost => ?_⟩
    exact htells hlost k a payload a.payloadHash hdecode hget
      ((verifyArtifact_iff P _).mp hvalid).payloadHash
      ((verifyArtifact_iff P a).mp htyped).payloadHash

theorem artifactType_verifyDocument :
    (verifyDocument P messages now document).artifactType = k.artifactType
      ↔ (classifyDocument document).bind ofName? = some k := by
  have htype : (verifyDocument P messages now document).artifactType
      = (classifyDocument document).getD "unknown" := by
    unfold verifyDocument
    dsimp only
    split <;> rfl
  rw [htype]
  cases classifyDocument document with
  | none => exact iff_of_false (by cases k <;> decide) nofun
  | some name =>
    constructor
    · intro h
      obtain rfl : name = k.artifactType := h
      exact k.ofName?_artifactType
    · intro h
      have hfound : (ofName? name) = some k := h
      unfold ofName? at hfound
      exact (beq_iff_eq.mp (find?_eq_some_iff_append.mp hfound).1).symm

/-! ## Which envelopes a chain report accuses -/

def ChainValidationReport.EnvelopeIssuesIn (S : String → Prop) (report : ChainValidationReport) :
    Prop :=
  ∀ issue ∈ report.issues, issue.code = issueArtifactEnvelopeInvalid → S issue.artifactType

section EnvelopeIssues

variable {S : String → Prop} {report : ChainValidationReport}

open ChainValidationReport

@[simp] theorem envelopeIssuesIn_new (path : ChainPath) : (new path).EnvelopeIssuesIn S := nofun

theorem envelopeIssuesIn_pushIssue : (report.pushIssue code artifactType message).EnvelopeIssuesIn S
      ↔ report.EnvelopeIssuesIn S ∧ (code = issueArtifactEnvelopeInvalid → S artifactType) := by
  simp only [EnvelopeIssuesIn, pushIssue, forall_mem_append, forall_mem_singleton]

@[simp] theorem envelopeIssuesIn_pushIf {bad : Bool} (hcode : code ≠ issueArtifactEnvelopeInvalid) :
    (report.pushIf bad code artifactType message).EnvelopeIssuesIn S
      ↔ report.EnvelopeIssuesIn S := by
  unfold pushIf
  split
  · rw [envelopeIssuesIn_pushIssue]
    exact and_iff_left fun h => absurd h hcode
  · exact Iff.rfl

@[simp] theorem envelopeIssuesIn_pushError {check : Except String Unit}
    (hcode : code ≠ issueArtifactEnvelopeInvalid) :
    (report.pushError check code artifactType).EnvelopeIssuesIn S ↔ report.EnvelopeIssuesIn S := by
  unfold pushError
  split
  · exact Iff.rfl
  · rw [envelopeIssuesIn_pushIssue]
    exact and_iff_left fun h => absurd h hcode

@[simp] theorem envelopeIssuesIn_verifyCommonArtifact [Serialize T] {a : SignedArtifact T}
    {expected : String} : (verifyCommonArtifact P a expected report).EnvelopeIssuesIn S
      ↔ report.EnvelopeIssuesIn S ∧ (verifyArtifact P a = false → S expected) := by
  have htype : issueArtifactTypeMismatch ≠ issueArtifactEnvelopeInvalid := by decide
  unfold verifyCommonArtifact
  cases hverify : verifyArtifact P a with
  | true => exact (envelopeIssuesIn_pushIf htype).trans (and_iff_left nofun).symm
  | false =>
    show (pushIssue _ _ _ _).EnvelopeIssuesIn S ↔ _
    rw [envelopeIssuesIn_pushIssue, envelopeIssuesIn_pushIf htype]
    simp only [forall_const]

@[simp] theorem envelopeIssuesIn_validateDescriptorSemantics {d : SignedDescriptor} :
    (validateDescriptorSemantics P d now report).EnvelopeIssuesIn S
      ↔ report.EnvelopeIssuesIn S := by
  simp (disch := decide) [validateDescriptorSemantics]

@[simp] theorem envelopeIssuesIn_validateOfferSemantics {o : SignedOffer} :
    (validateOfferSemantics o now report).EnvelopeIssuesIn S ↔ report.EnvelopeIssuesIn S := by
  have hcode : issueArtifactSemanticInvalid ≠ issueArtifactEnvelopeInvalid := by decide
  have hsettlement {r : ChainValidationReport} :
      (validateOfferSettlement o r).EnvelopeIssuesIn S ↔ r.EnvelopeIssuesIn S := by
    unfold validateOfferSettlement
    dsimp only
    split
    · rw [envelopeIssuesIn_pushIssue]
      exact and_iff_left fun h => absurd h hcode
    · exact envelopeIssuesIn_pushIf hcode
  simp (disch := decide) [validateOfferSemantics, hsettlement]

@[simp] theorem envelopeIssuesIn_validateQuoteSemantics :
    (validateQuoteSemantics q now report).EnvelopeIssuesIn S ↔ report.EnvelopeIssuesIn S := by
  simp (disch := decide) [validateQuoteSemantics]

@[simp] theorem envelopeIssuesIn_validateQuoteDealLinks {d : SignedDeal} :
    (validateQuoteDealLinks q d report).EnvelopeIssuesIn S ↔ report.EnvelopeIssuesIn S := by
  simp (disch := decide) [validateQuoteDealLinks]

/-- A chain report accuses what it did not verify, and nothing else. -/
theorem envelopeIssuesIn_validateFullChain :
    (∀ report ∈ (validateFullChain P chain now).reports, report.EnvelopeIssuesIn S)
      ↔ (verifyArtifact P chain.descriptor = false → S artifactTypeDescriptor)
        ∧ (verifyArtifact P chain.offer = false → S artifactTypeOffer)
        ∧ (verifyArtifact P chain.quote = false → S artifactTypeQuote)
        ∧ (verifyArtifact P chain.deal = false → S artifactTypeDeal)
        ∧ (∀ b ∈ chain.invoiceBundle, verifyArtifact P b = false → S transportTypeInvoiceBundle)
        ∧ ∀ r ∈ chain.receipt, verifyArtifact P r = false → S artifactTypeReceipt := by
  have hdescriptorOffer : (validateDescriptorOffer P chain.descriptor chain.offer
        now).EnvelopeIssuesIn S
      ↔ (verifyArtifact P chain.descriptor = false → S artifactTypeDescriptor)
        ∧ (verifyArtifact P chain.offer = false → S artifactTypeOffer) := by
    simp (disch := decide) [validateDescriptorOffer]
  have hofferQuote : (validateOfferQuote P chain.offer chain.quote now).EnvelopeIssuesIn S
      ↔ (verifyArtifact P chain.offer = false → S artifactTypeOffer)
        ∧ (verifyArtifact P chain.quote = false → S artifactTypeQuote) := by
    simp (disch := decide) [validateOfferQuote, validateOfferQuoteLinks]
  have hchainDeal : (validateChainDeal P chain now).EnvelopeIssuesIn S
      ↔ ((verifyArtifact P chain.quote = false → S artifactTypeQuote)
        ∧ (verifyArtifact P chain.deal = false → S artifactTypeDeal))
        ∧ ∀ b ∈ chain.invoiceBundle, verifyArtifact P b = false →
          S transportTypeInvoiceBundle := by
    unfold validateChainDeal
    cases chain.invoiceBundle with
    | some b =>
      simp (disch := decide) [validateQuoteInvoiceBundleDeal, validateInvoiceBundleLinks,
        validateInvoiceLegHashLink, validateDealSemantics, validateInvoiceBundleSemantics]
      exact and_right_comm
    | none =>
      simp (disch := decide) [validateQuoteDeal, validateDealSemantics]
  have hreceipt : ∀ r, (validateChainReceipt P chain r now).EnvelopeIssuesIn S
      ↔ ((verifyArtifact P chain.quote = false → S artifactTypeQuote)
        ∧ (verifyArtifact P chain.deal = false → S artifactTypeDeal))
        ∧ (verifyArtifact P r = false → S artifactTypeReceipt) := by
    intro r
    have hrec : (validateChainReceipt P chain r now).EnvelopeIssuesIn S
        ↔ (validateQuoteDealReceipt P chain.quote chain.deal r now).EnvelopeIssuesIn S := by
      unfold validateChainReceipt
      dsimp only
      split
      · split
        · simp (disch := decide) [validateReceiptInvoiceBundleLinks]
        · exact Iff.rfl
      · exact Iff.rfl
    rw [hrec]
    simp (disch := decide) [validateQuoteDealReceipt, validateReceiptLinks,
      validateDealSemantics, validateReceiptSemantics]
  simp only [validateFullChain, forall_mem_append, forall_mem_cons, mem_toList,
    mem_def, map_eq_some_iff, forall_exists_index, and_imp, forall_apply_eq_imp_iff₂,
    hdescriptorOffer, hofferQuote, hchainDeal, hreceipt]
  constructor
  · rintro ⟨⟨⟨hd, ho⟩, ⟨-, hq⟩, ⟨⟨-, hdeal⟩, hb⟩, -⟩, hr⟩
    exact ⟨hd, ho, hq, hdeal, hb, fun r hmem => (hr r hmem).2⟩
  · rintro ⟨hd, ho, hq, hdeal, hb, hr⟩
    exact ⟨⟨⟨hd, ho⟩, ⟨ho, hq⟩, ⟨⟨hq, hdeal⟩, hb⟩, forall_mem_nil _⟩,
      fun r hmem => ⟨⟨hq, hdeal⟩, hr r hmem⟩⟩

end EnvelopeIssues

/-! ## The documents behind the slots -/

variable (P messages) in
structure ChainState.Holds (now : Option ℤ) (documents : List Json) (state : ChainState) :
    Prop where
  artifacts : state.artifacts = documents.map (verifyDocument P messages now)
  slots : state.structureErrors = [] → ∀ document ∈ documents, ∀ k,
    (classifyDocument document).bind ofName? = some k →
      ∃ a, k.decode document = some a ∧ state.slots k = some a

theorem holds_addDocument {state : ChainState}
    (h : state.Holds P messages now documents) (document : Json) :
    (addDocument P messages now state document).Holds P messages now (documents ++ [document]) := by
  have hartifacts : state.artifacts ++ [verifyDocument P messages now document]
      = (documents ++ [document]).map (verifyDocument P messages now) := by
    rw [map_append, h.artifacts, map_singleton]
  unfold addDocument
  dsimp only
  cases hkind : (classifyDocument document).bind ofName? with
  | none =>
    refine ⟨hartifacts, fun herrors d hd k hk => ?_⟩
    obtain hd | rfl := mem_append.mp hd |>.imp_right mem_singleton.mp
    · exact h.slots herrors d hd k hk
    · exact absurd (hkind.symm.trans hk) nofun
  | some k =>
    unfold fillSlot
    dsimp only
    split
    · -- a second artifact of the kind is a structure error
      exact ⟨hartifacts, fun herrors => absurd herrors (append_ne_nil_of_right_ne_nil _ nofun)⟩
    · rename_i hempty
      split
      case h_1 a ha =>
        refine ⟨hartifacts, fun herrors d hd k' hk' => ?_⟩
        obtain hd | rfl := mem_append.mp hd |>.imp_right mem_singleton.mp
        · obtain ⟨b, hb, hslot⟩ := h.slots herrors d hd k' hk'
          -- the slot that is filled now was empty
          have hne : k' ≠ k := by
            rintro rfl
            exact hempty (isSome_iff_exists.mpr ⟨b, hslot⟩)
          exact ⟨b, hb, (Function.update_of_ne hne _ _).trans hslot⟩
        · cases some.inj (hkind.symm.trans hk')
          exact ⟨a, ha, Function.update_self ..⟩
      case h_2 =>
        exact ⟨hartifacts,
          fun herrors => absurd herrors (append_ne_nil_of_right_ne_nil _ nofun)⟩

variable (P messages) in
theorem holds_foldl (now : Option ℤ) (documents : List Json) :
    (documents.foldl (addDocument P messages now)
      { slots := fun _ => none, structureErrors := [], artifacts := [] }).Holds P messages now
        documents := by
  induction documents using reverseRecOn with
  | nil => exact ⟨rfl, fun _ => nofun⟩
  | append_singleton documents document ih =>
    rw [foldl_append]
    exact holds_addDocument ih document

theorem ChainSlots.of_fullChain (h : slots.fullChain = some chain) :
    slots .descriptor = some chain.descriptor ∧ slots .offer = some chain.offer
    ∧ slots .quote = some chain.quote ∧ slots .deal = some chain.deal
    ∧ slots .invoiceBundle = chain.invoiceBundle ∧ slots .receipt = chain.receipt := by
  simp only [ChainSlots.fullChain, bind_eq_bind, bind_eq_some_iff] at h
  obtain ⟨descriptor, hdescriptor, offer, hoffer, quote, hquote, deal, hdeal, hchain⟩ := h
  obtain rfl := some.inj hchain
  exact ⟨hdescriptor, hoffer, hquote, hdeal, rfl, rfl⟩

theorem artifacts_validateChainDocuments (documents : List Json) (now : Option ℤ) :
    (validateChainDocuments P messages documents now).artifacts
      = documents.map (verifyDocument P messages now) :=
  (holds_foldl P messages now documents).artifacts

/-- Where a chain is evaluated, every document of a kind is in its slot. -/
theorem chain_validateChainDocuments {report : FullChainReport}
    (h : (validateChainDocuments P messages documents now).chain = some report) :
    ∃ (slots : ChainSlots) (chain : FullChain), slots.fullChain = some chain
      ∧ report = validateFullChain P chain now ∧ ∀ document ∈ documents, ∀ k,
        (classifyDocument document).bind ofName? = some k →
          ∃ a, k.decode document = some a ∧ slots k = some a := by
  have hholds := holds_foldl P messages now documents
  obtain ⟨herrors, hreport⟩ := ite_none_right_eq_some.mp h
  obtain ⟨chain, hslots, rfl⟩ := map_eq_some_iff.mp hreport
  exact ⟨_, chain, hslots, rfl, hholds.slots (append_eq_nil_iff.mp (isEmpty_iff.mp herrors)).1⟩

theorem accuses_fullChain {S : String → Prop} (h : slots.fullChain = some chain) :
    (∀ report ∈ (validateFullChain P chain now).reports, report.EnvelopeIssuesIn S)
      ↔ ∀ k a, slots k = some a → verifyArtifact P a = false → S k.artifactType := by
  obtain ⟨hd, ho, hq, hdeal, hb, hr⟩ := ChainSlots.of_fullChain h
  rw [envelopeIssuesIn_validateFullChain]
  constructor
  · rintro ⟨hdescriptor, hoffer, hquote, hdeal', hbundle, hreceipt⟩ k a ha
    cases k with
    | descriptor => exact some.inj (hd.symm.trans ha) ▸ hdescriptor
    | offer => exact some.inj (ho.symm.trans ha) ▸ hoffer
    | quote => exact some.inj (hq.symm.trans ha) ▸ hquote
    | deal => exact some.inj (hdeal.symm.trans ha) ▸ hdeal'
    | invoiceBundle => exact hbundle a (hb.symm.trans ha)
    | receipt => exact hreceipt a (hr.symm.trans ha)
  · intro hslots
    exact ⟨hslots .descriptor _ hd, hslots .offer _ ho, hslots .quote _ hq, hslots .deal _ hdeal,
      fun b hmem => hslots .invoiceBundle b (hb.trans hmem),
      fun r hmem => hslots .receipt r (hr.trans hmem)⟩

/-- **When the two reports agree.** The chain report accuses no envelope that the document's
own report found valid exactly if, where a chain is evaluated at all, the payload of every
document with a valid envelope is given back. -/
theorem validateChainDocuments_envelopes_iff (hsorts : P.SortsFields) (messages : DecodeMessages)
    (documents : List Json) (now : Option ℤ)
    (htells : ∀ document ∈ documents, HashTells P document) :
    (∀ chain ∈ (validateChainDocuments P messages documents now).chain,
      ∀ report ∈ chain.reports, ∀ issue ∈ report.issues,
        issue.code = issueArtifactEnvelopeInvalid →
        ∀ artifact ∈ (validateChainDocuments P messages documents now).artifacts,
          artifact.artifactType = issue.artifactType → artifact.envelopeValid = false)
    ↔ ((validateChainDocuments P messages documents now).chainEvaluated = true →
      ∀ document ∈ documents, (verifyDocument P messages now document).envelopeValid = true →
        reencodes document = true) := by
  have hevaluated : (validateChainDocuments P messages documents now).chainEvaluated
      = (validateChainDocuments P messages documents now).chain.isSome := rfl
  rw [hevaluated, artifacts_validateChainDocuments]
  cases hchain : (validateChainDocuments P messages documents now).chain with
  | none => exact iff_of_true nofun nofun
  | some report =>
    obtain ⟨slots, chain, hslots, rfl, hfilled⟩ := chain_validateChainDocuments hchain
    simp only [mem_some_iff, forall_eq', isSome_some, forall_const]
    refine (accuses_fullChain (S := fun t => ∀ artifact ∈ documents.map
      (verifyDocument P messages now), artifact.artifactType = t → artifact.envelopeValid = false)
      hslots).trans ⟨fun h document hdocument hvalid => ?_, fun h k a ha hverify => ?_⟩
    · cases hkind : (classifyDocument document).bind ofName? with
      | none => simp only [reencodes, hkind]
      | some k =>
        obtain ⟨a, hdecode, ha⟩ := hfilled document hdocument k hkind
        refine (envelopeValid_verifyDocument hkind hdecode).2 (htells document hdocument) hvalid ?_
        refine Bool.of_not_eq_false fun hverify => Bool.false_ne_true ?_
        exact (h k a ha hverify _ (mem_map_of_mem hdocument)
          (artifactType_verifyDocument.mpr hkind)).symm.trans hvalid
    · intro artifact hartifact htype
      obtain ⟨document, hdocument, rfl⟩ := mem_map.mp hartifact
      have hkind := artifactType_verifyDocument.mp htype
      obtain ⟨b, hdecode, hb⟩ := hfilled document hdocument k hkind
      cases some.inj (ha.symm.trans hb)
      refine Bool.eq_false_iff.mpr fun hvalid => ?_
      have hsame : (verifyDocument P messages now document).envelopeValid = verifyArtifact P a :=
        (envelopeValid_verifyDocument hkind hdecode).1 hsorts (h document hdocument hvalid)
      exact Bool.false_ne_true (hverify.symm.trans (hsame.symm.trans hvalid))

def sampleDocuments (descriptor : Json) : List Json :=
  let chain := sampleNamedChain "s"
  [descriptor, toJson chain.offer, toJson chain.quote, toJson chain.deal]

def sortedTablePrimitives (documents : List (Json × String)) : Primitives :=
  let table := tablePrimitives (documents.map (fun (document, hash) => (document.normalize, hash)))
  { table with canonicalJson := fun document => table.canonicalJson document.normalize }

theorem sortsFields_sortedTablePrimitives (documents : List (Json × String)) :
    (sortedTablePrimitives documents).SortsFields :=
  fun _ _ h => congrArg (tablePrimitives _).canonicalJson h

def sampleOldDescriptor : SignedDescriptor :=
  { (sampleNamedChain "s").descriptor with schemaVersion := "froglet/v0" }

theorem validateChainDocuments_envelopes_old_descriptor :
    ∃ chain ∈ (validateChainDocuments samplePrimitives (fun _ _ => "")
        (sampleDocuments (toJson sampleOldDescriptor)) none).chain,
    ∃ report ∈ chain.reports, ∃ issue ∈ report.issues,
      issue.code = issueArtifactEnvelopeInvalid ∧ issue.artifactType = artifactTypeDescriptor
      ∧ ∀ artifact ∈ (validateChainDocuments samplePrimitives (fun _ _ => "")
          (sampleDocuments (toJson sampleOldDescriptor)) none).artifacts,
        artifact.artifactType = issue.artifactType → artifact.envelopeValid = false := by
  have haccused : ∃ chain ∈ (validateChainDocuments samplePrimitives (fun _ _ => "")
        (sampleDocuments (toJson sampleOldDescriptor)) none).chain,
      ∃ report ∈ chain.reports, ∃ issue ∈ report.issues,
        issue.code = issueArtifactEnvelopeInvalid
        ∧ issue.artifactType = artifactTypeDescriptor := by
    decide +kernel
  have hback : ∀ document ∈ sampleDocuments (toJson sampleOldDescriptor),
      reencodes document = true := by decide +kernel
  obtain ⟨chain, hchain, report, hreport, issue, hissue, hcode, htype⟩ := haccused
  refine ⟨chain, hchain, report, hreport, issue, hissue, hcode, htype,
    (validateChainDocuments_envelopes_iff (fun _ _ _ => rfl) _ _ none
      fun document hdocument hlost => ?_).mpr (fun _ document hdocument _ =>
        hback document hdocument) chain hchain report hreport issue hissue hcode⟩
  exact absurd (hback document hdocument) (Bool.eq_false_iff.mp hlost)

def sampleExtendedDescriptor : SignedArtifact Json :=
  let descriptor := (sampleNamedChain "s").descriptor
  { descriptor with
    payload := match toJson descriptor.payload with
      | .obj fields => .obj (fields ++ field "region" "eu")
      | document => document }

def sampleExtendedPrimitives : Primitives :=
  let chain := sampleNamedChain "s"
  sortedTablePrimitives (sampleExtendedDescriptor.documents
    ++ { chain.descriptor with payloadHash := "other payload", hash := "other" }.documents
    ++ chain.offer.documents ++ chain.quote.documents ++ chain.deal.documents)

/-- **An unknown field parts the two reports.** The extended descriptor is found
to have a valid envelope, and the chain report over the same documents calls its
envelope invalid. -/
theorem chain_accuses_extended_descriptor :
    sampleExtendedPrimitives.SortsFields
    ∧ ∃ chain ∈ (validateChainDocuments sampleExtendedPrimitives (fun _ _ => "")
        (sampleDocuments (toJson sampleExtendedDescriptor)) none).chain,
      ∃ report ∈ chain.reports, ∃ issue ∈ report.issues,
        issue.code = issueArtifactEnvelopeInvalid
        ∧ ∃ artifact ∈ (validateChainDocuments sampleExtendedPrimitives (fun _ _ => "")
            (sampleDocuments (toJson sampleExtendedDescriptor)) none).artifacts,
          artifact.artifactType = issue.artifactType ∧ artifact.envelopeValid = true := by
  exact ⟨sortsFields_sortedTablePrimitives _, by decide +kernel⟩

end Froglet
