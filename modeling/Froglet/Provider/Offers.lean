import Froglet.Provider.DealRequest
import Mathlib.Data.List.DropRight
import Mathlib.Data.List.Sort

/-!
# What a provider offers

An operator describes each service by an offer definition. The node signs an offer from
it, under the configuration it has at that time: the settlement method is the one the
definition names or, where it names none, the one of the enabled backends, and the
prices are put into the legs of that method.
-/

namespace Froglet

open List Table
variable {offerId : String}

/-! ## Definitions -/

structure ExecutionMount where
  (kind handle : String)
  readOnly : Bool
deriving DecidableEq

structure ProviderManagedOfferDefinition where
  offerId : String
  serviceId : Option String
  (offerKind runtime packageKind contractVersion : String)
  mounts : List ExecutionMount
  capabilities : List String
  (maxInputBytes maxRuntimeMs maxMemoryBytes maxOutputBytes fuelLimit priceSats : ℕ)
  (baseFeeMsat successFeeMsat : Option ℕ)
  settlementMethod : Option PublicationSettlement
  publicationState : String
  (termsHash confidentialProfileHash : Option String)

instance neZero_3601 : NeZero 3601 := ⟨by decide⟩

structure OfferConfig extends NodeConfig where
  executionTimeoutSecs : ℕ
  (baseInvoiceExpirySecs successHoldExpirySecs : Fin 3601)
  minFinalCltvExpiry : ℕ

def ExecutionRuntime.parse (value : String) : Except String ExecutionRuntime :=
  let name := trim value
  if name == "any" then .ok .any
  else if name == "wasm" then .ok .wasm
  else if name == "python" then .ok .python
  else if name == "container" then .ok .container
  else if name == "builtin" then .ok .builtin
  else if name == "tee.service" || name == "tee_service" then .ok .teeService
  else if name == "tee.wasm" || name == "tee_wasm" then .ok .teeWasm
  else if name == "tee.python" || name == "tee_python" then .ok .teePython
  else .error s!"unsupported runtime: {name}"

def ExecutionRuntime.asStr : ExecutionRuntime → String
  | any => "any"
  | wasm => "wasm"
  | python => "python"
  | container => "container"
  | builtin => "builtin"
  | teeService => "tee.service"
  | teeWasm => "tee.wasm"
  | teePython => "tee.python"

def workloadKindExecutionV1 : String := "compute.execution.v1"

namespace ProviderManagedOfferDefinition

variable (definition : ProviderManagedOfferDefinition)

def effectiveOfferKind : String :=
  match definition.serviceId, ExecutionRuntime.parse definition.runtime with
  | some _, .ok .wasm | some _, .ok .python | some _, .ok .container | some _, .ok .any =>
    workloadKindExecutionV1
  | _, _ => definition.offerKind

def mergedAccessCapabilities : List String :=
  let mounts := definition.mounts.map fun mount =>
    let access := if mount.readOnly then "read" else "write"
    "mount." ++ mount.kind ++ "." ++ access ++ "." ++ mount.handle
  ((definition.capabilities ++ mounts).insertionSort (· ≤ ·)).eraseReps

def priceSchedule : ℕ × ℕ :=
  (definition.baseFeeMsat.getD 0,
    definition.successFeeMsat.getD (saturatingMul definition.priceSats 1000))

end ProviderManagedOfferDefinition

/-! ## Terms -/

variable (config : NodeConfig)

def NodeConfig.lightningMethod : String :=
  if config.lightningMode == .phoenixd then settlementMethodLightningPrepaid
  else settlementMethodLightningEscrow

def resolvedOfferSettlementMethod
    (settlementMethod : Option PublicationSettlement) (baseFeeMsat successFeeMsat : ℕ) : String :=
  if baseFeeMsat == 0 && successFeeMsat == 0 then settlementMethodNone
  else match settlementMethod with
  | some .none => settlementMethodNone
  | some .stripe => settlementMethodStripeMpp
  | some .lightning => config.lightningMethod
  | none =>
    if config.paymentBackends.contains .stripe && !config.paymentBackends.contains .lightning then
      settlementMethodStripeMpp
    else if config.paymentBackends.contains .lightning && config.lightningMode == .phoenixd then
      settlementMethodLightningPrepaid
    else settlementMethodLightningEscrow

structure OfferTerms where
  settlementMethod : String
  priceSchedule : OfferPriceSchedule

def resolvedProviderOfferTerms (definition : ProviderManagedOfferDefinition) : OfferTerms :=
  let (base, success) := definition.priceSchedule
  let settlementMethod :=
    resolvedOfferSettlementMethod config definition.settlementMethod base success
  { settlementMethod
    priceSchedule :=
      if settlementMethod == settlementMethodNone
          || settlementMethod == settlementMethodLightningEscrow then
        { baseFeeMsat := base, successFeeMsat := success }
      else { baseFeeMsat := saturatingAdd base success, successFeeMsat := 0 } }

def OfferPayload.terms (payload : OfferPayload) : OfferTerms :=
  { settlementMethod := payload.settlementMethod, priceSchedule := payload.priceSchedule }

def payloadFromProviderOfferDefinition (config : OfferConfig) (nodeId descriptorHash : String)
    (definition : ProviderManagedOfferDefinition) : OfferPayload :=
  let terms := resolvedProviderOfferTerms config.toNodeConfig definition
  { providerId := nodeId
    offerId := definition.offerId
    descriptorHash
    expiresAt := none
    offerKind := definition.effectiveOfferKind
    settlementMethod := terms.settlementMethod
    quoteTtlSecs := config.executionTimeoutSecs
    executionProfile :=
      { runtime := match ExecutionRuntime.parse definition.runtime with
          | .ok runtime => runtime
          | .error _ => .wasm
        packageKind := definition.packageKind
        contractVersion := definition.contractVersion
        accessHandles := definition.mergedAccessCapabilities
        abiVersion := definition.contractVersion
        capabilities := definition.mergedAccessCapabilities
        maxInputBytes := definition.maxInputBytes
        maxRuntimeMs := definition.maxRuntimeMs
        maxMemoryBytes := definition.maxMemoryBytes
        maxOutputBytes := definition.maxOutputBytes
        fuelLimit := definition.fuelLimit }
    priceSchedule := terms.priceSchedule
    termsHash := definition.termsHash
    confidentialProfileHash := definition.confidentialProfileHash }

/-! ## Signed offers -/

variable {P : Primitives} {node : NodeIdentity P}

def IssuedOffer (node : NodeIdentity P) (offer : SignedOffer) : Prop :=
  ∃ config descriptorHash definition createdAt,
    signNodeArtifact node artifactTypeOffer createdAt
      (payloadFromProviderOfferDefinition config node.nodeId descriptorHash definition) = .ok offer

structure OfferStore (node : NodeIdentity P) where
  offers : List SignedOffer
  issued : ∀ offer ∈ offers, IssuedOffer node offer
  unique : Table.Unique (some ·.hash) offers

namespace OfferStore

def empty (node : NodeIdentity P) : OfferStore node := ⟨[], forall_mem_nil _, unique_nil _⟩

def insert (store : OfferStore node) (offer : SignedOffer) (hissued : IssuedOffer node offer) :
    OfferStore node :=
  if h : store.offers.any (fun o => o.hash == offer.hash || o.payloadHash == offer.payloadHash)
  then store
  else
    { offers := store.offers ++ [offer]
      issued := fun o ho => (mem_append.mp ho).elim (store.issued o)
        (fun hnew => mem_singleton.mp hnew ▸ hissued)
      unique := store.unique.concat (fun o ho _ hkey hnew => h (any_eq_true.mpr ⟨o, ho, by
        simp [Option.some.inj (hkey.trans hnew.symm)]⟩)) }

def persist (store : OfferStore node) (config : OfferConfig) (descriptorHash : String)
    (definition : ProviderManagedOfferDefinition) (createdAt : ℤ) :
    Except String (SignedOffer × OfferStore node) :=
  match hsigned : signNodeArtifact node artifactTypeOffer createdAt
      (payloadFromProviderOfferDefinition config node.nodeId descriptorHash definition) with
  | .error e => .error e
  | .ok offer =>
    let store := store.insert offer ⟨config, descriptorHash, definition, createdAt, hsigned⟩
    match selectWhere (·.payloadHash == offer.payloadHash) store.offers with
    | none => .error "artifact missing after insert"
    | some stored => .ok (stored, store)

end OfferStore

structure PublicationRevisionRecord where
  (offerId offerHash providerId : String)
  verified : Bool

structure CurrentOfferBinding where
  definition : ProviderManagedOfferDefinition
  revision : Option PublicationRevisionRecord
variable {bindings : List CurrentOfferBinding}

def loadStoredPublicationOffer (store : OfferStore node) (revision : PublicationRevisionRecord) :
    Except String SignedOffer := do
  rejectIf (!revision.verified) "publication revision failed signature verification"
  match selectWhere (·.hash == revision.offerHash) store.offers with
  | none => .error "exact Offer for active publication revision is missing"
  | some offer =>
    validateOfferArtifact offer
    rejectIf (offer.payload.offerId != revision.offerId
        || offer.payload.providerId != revision.providerId)
      "exact Offer does not match active publication revision"
    return offer

def CurrentOfferBinding.offer (binding : CurrentOfferBinding) (config : OfferConfig)
    (descriptorHash : String) (now : ℤ) (store : OfferStore node) :
    Except String (SignedOffer × OfferStore node) :=
  match binding.revision with
  | some revision => (loadStoredPublicationOffer store revision).map (·, store)
  | none => store.persist config descriptorHash binding.definition now

def enforceOfferPaymentPolicy (terms : OfferTerms) : Except String Unit :=
  enforceProviderPaymentPolicy config
    { method := terms.settlementMethod, destinationIdentity := ""
      baseFeeMsat := terms.priceSchedule.baseFeeMsat
      successFeeMsat := terms.priceSchedule.successFeeMsat, maxBaseInvoiceExpirySecs := 0
      maxSuccessHoldExpirySecs := 0, minFinalCltvExpiry := 0 }

def currentOfferRecords (config : OfferConfig) (descriptorHash : String) (now : ℤ) :
    List CurrentOfferBinding → List (String × SignedOffer) → OfferStore node →
      Except String (List (String × SignedOffer) × OfferStore node)
  | [], records, store => .ok (records, store)
  | binding :: rest, records, store =>
    if binding.definition.publicationState == "hidden" then
      currentOfferRecords config descriptorHash now rest records store
    else
      match binding.offer config descriptorHash now store with
      | .error e => .error e
      | .ok (offer, store) =>
        if (enforceOfferPaymentPolicy config.toNodeConfig offer.payload.terms).passes then
          match records.lookup binding.definition.offerId with
          | none =>
            currentOfferRecords config descriptorHash now rest
              (records.orderedInsert (·.1 ≤ ·.1) (binding.definition.offerId, offer)) store
          | some existing =>
            if existing.hash == offer.hash then
              currentOfferRecords config descriptorHash now rest records store
            else .error "shared offer_id resolves to conflicting Kernel Offer artifacts"
        else currentOfferRecords config descriptorHash now rest records store

def normalizeShortId (offerId : String) : Except String String := do
  rejectIf (trim offerId).isEmpty "offer_id must be a non-empty string"
  rejectIf ((trim offerId).utf8ByteSize > 128) "offer_id must be 128 bytes or fewer"
  return trim offerId

def NodeConfig.paidSettlementAvailable : Bool :=
  config.paymentBackends.any fun backend => backend == .lightning || backend == .stripe

def ProviderManagedOfferDefinition.isPaid (definition : ProviderManagedOfferDefinition) : Bool :=
  definition.priceSchedule.1 != 0 || definition.priceSchedule.2 != 0

def lookupOffer (config : OfferConfig) (bindings : List CurrentOfferBinding)
    (descriptorHash : String) (now : ℤ) (store : OfferStore node) (offerId : String) :
    Except String (Option SignedOffer × OfferStore node) := do
  let offerId ← normalizeShortId offerId
  let inForce := bindings.filter fun binding =>
    config.paidSettlementAvailable || !binding.definition.isPaid
  let (records, store) ← currentOfferRecords config descriptorHash now inForce [] store
  return ((records.map (·.2)).find? (·.payload.offerId == offerId), store)

/-! ## The offer of a binding -/

variable {offer : SignedOffer}

theorem IssuedOffer.signed (h : IssuedOffer node offer) :
    Authentic P offer ∧ offer.artifactType = artifactTypeOffer ∧ offer.signer = node.nodeId
      ∧ offer.payload.providerId = node.nodeId ∧ offer.payload.expiresAt = none := by
  obtain ⟨config, descriptorHash, definition, createdAt, hsigned⟩ := h
  obtain ⟨hauth, htype, hsigner, hpayload⟩ := authentic_of_signArtifact P node.verifies hsigned
  rw [hpayload]
  exact ⟨hauth, htype, hsigner, rfl, rfl⟩

theorem OfferStore.mem_insert {store : OfferStore node} {o : SignedOffer}
    {hissued : IssuedOffer node offer} (h : o ∈ (store.insert offer hissued).offers) :
    o ∈ store.offers ∨ o = offer := by
  unfold OfferStore.insert at h
  split at h
  case isTrue => exact .inl h
  case isFalse => exact (mem_append.mp h).imp_right mem_singleton.mp

theorem OfferStore.subset_insert (store : OfferStore node) (offer : SignedOffer)
    (hissued : IssuedOffer node offer) : store.offers ⊆ (store.insert offer hissued).offers := by
  unfold OfferStore.insert
  split
  case isTrue => exact Subset.refl _
  case isFalse => exact subset_append_left _ _

section Lookup

variable {config : OfferConfig} {descriptorHash : String} {now : ℤ}
  {store store' : OfferStore node} {payloads : List OfferPayload}

def SeparatedByHash (P : Primitives) (payloads : List OfferPayload) : Prop :=
  ∀ a ∈ payloads, ∀ b ∈ payloads, ∀ hash,
    payloadHash P a = .ok hash → payloadHash P b = .ok hash → a = b

/-- A persisted offer has the payload it was asked for. -/
theorem OfferStore.persist_ok {definition : ProviderManagedOfferDefinition}
    (hsep : SeparatedByHash P payloads) (hstore : ∀ o ∈ store.offers, o.payload ∈ payloads)
    (hpayload :
      payloadFromProviderOfferDefinition config node.nodeId descriptorHash definition ∈ payloads)
    (h : store.persist config descriptorHash definition now = .ok (offer, store')) :
    store.offers ⊆ store'.offers ∧ (∀ o ∈ store'.offers, o.payload ∈ payloads)
      ∧ offer ∈ store'.offers ∧ offer.payload
        = payloadFromProviderOfferDefinition config node.nodeId descriptorHash definition := by
  unfold OfferStore.persist at h
  split at h
  case h_1 => cases h
  case h_2 signed hsigned =>
    obtain ⟨hauth, -, -, hsame⟩ := authentic_of_signArtifact P node.verifies hsigned
    dsimp only at h
    split at h
    case h_1 => cases h
    case h_2 stored hselected =>
      cases h
      obtain ⟨hmem, hhash⟩ := selectWhere_some hselected
      have hpayloads : ∀ o ∈ (store.insert signed
          ⟨config, descriptorHash, definition, now, hsigned⟩).offers, o.payload ∈ payloads := by
        intro o ho
        obtain hold | rfl := OfferStore.mem_insert ho
        · exact hstore o hold
        · exact hsame ▸ hpayload
      refine ⟨store.subset_insert _ _, hpayloads, hmem, ?_⟩
      -- both payloads hash to the hash the offer is stored under
      refine hsep _ (hpayloads _ hmem) _ hpayload _
        ((OfferStore.issued _ _ hmem).signed.1.payloadHash) ?_
      rw [← hsame, beq_iff_eq.mp hhash]
      exact hauth.payloadHash

def CurrentOfferBinding.Binds (binding : CurrentOfferBinding) (config : OfferConfig)
    (nodeId descriptorHash : String) (offer : SignedOffer) : Prop :=
  match binding.revision with
  | some revision => offer.hash = revision.offerHash ∧ offer.payload.offerId = revision.offerId
  | none =>
    offer.payload
      = payloadFromProviderOfferDefinition config nodeId descriptorHash binding.definition

theorem loadStoredPublicationOffer_ok {revision : PublicationRevisionRecord}
    (h : loadStoredPublicationOffer store revision = .ok offer) :
    offer ∈ store.offers ∧ offer.hash = revision.offerHash
      ∧ offer.payload.offerId = revision.offerId := by
  unfold loadStoredPublicationOffer at h
  obtain ⟨-, h⟩ := check_eq_ok.mp h
  split at h
  case h_1 => cases h
  case h_2 stored hselected =>
    obtain ⟨hmem, hhash⟩ := selectWhere_some hselected
    simp only [check_eq_ok, rejectIf_eq_ok, pure_eq_ok, Bool.or_eq_false_iff,
      bne_eq_false_iff_eq] at h
    obtain ⟨-, ⟨hid, -⟩, rfl⟩ := h
    exact ⟨hmem, beq_iff_eq.mp hhash, hid⟩

theorem CurrentOfferBinding.offer_ok {binding : CurrentOfferBinding}
    (hsep : SeparatedByHash P payloads) (hstore : ∀ o ∈ store.offers, o.payload ∈ payloads)
    (hpayload : payloadFromProviderOfferDefinition config node.nodeId descriptorHash
      binding.definition ∈ payloads)
    (h : binding.offer config descriptorHash now store = .ok (offer, store')) :
    store.offers ⊆ store'.offers ∧ (∀ o ∈ store'.offers, o.payload ∈ payloads)
      ∧ offer ∈ store'.offers ∧ binding.Binds config node.nodeId descriptorHash offer := by
  unfold CurrentOfferBinding.offer at h
  unfold CurrentOfferBinding.Binds
  cases hrevision : binding.revision with
  | some revision =>
    rw [hrevision] at h
    obtain ⟨loaded, hloaded, heq⟩ := map_eq_ok.mp h
    cases heq
    obtain ⟨hmem, hbinds⟩ := loadStoredPublicationOffer_ok hloaded
    exact ⟨Subset.refl _, hstore, hmem, hbinds⟩
  | none =>
    rw [hrevision] at h
    exact OfferStore.persist_ok hsep hstore hpayload h

/-- The records are the offers of the bindings. -/
theorem currentOfferRecords_ok (hsep : SeparatedByHash P payloads)
    {records records' : List (String × SignedOffer)}
    (hbindings : ∀ b ∈ bindings, payloadFromProviderOfferDefinition config node.nodeId
      descriptorHash b.definition ∈ payloads) (hstore : ∀ o ∈ store.offers, o.payload ∈ payloads)
    (h : currentOfferRecords config descriptorHash now bindings records store
      = .ok (records', store')) :
    store.offers ⊆ store'.offers ∧ ∀ r ∈ records', r ∈ records ∨ r.2 ∈ store'.offers
        ∧ ∃ b ∈ bindings, b.Binds config node.nodeId descriptorHash r.2 := by
  induction bindings generalizing records store with
  | nil =>
    cases h
    exact ⟨Subset.refl _, fun r hr => .inl hr⟩
  | cons binding rest ih =>
    obtain ⟨hfirst, hrest⟩ := forall_mem_cons.mp hbindings
    -- what the bindings after this one add to given records
    have hlater : ∀ {records store}, (∀ o ∈ (store : OfferStore node).offers,
        o.payload ∈ payloads) →
        currentOfferRecords config descriptorHash now rest records store = .ok (records', store') →
        store.offers ⊆ store'.offers ∧ ∀ r ∈ records', r ∈ records ∨ r.2 ∈ store'.offers
          ∧ ∃ b ∈ binding :: rest, b.Binds config node.nodeId descriptorHash r.2 := by
      intro records store hstore h
      obtain ⟨hsub, hrecords⟩ := ih hrest hstore h
      exact ⟨hsub, fun r hr => (hrecords r hr).imp_right fun ⟨hmem, b, hb, hbinds⟩ =>
        ⟨hmem, b, mem_cons_of_mem _ hb, hbinds⟩⟩
    unfold currentOfferRecords at h
    split at h
    case isTrue => exact hlater hstore h
    case isFalse =>
      split at h
      case h_1 => cases h
      case h_2 offer store₁ hoffer =>
        obtain ⟨hsub, hstore₁, hmem, hbinds⟩ :=
          CurrentOfferBinding.offer_ok hsep hstore hfirst hoffer
        split at h
        case isFalse =>
          obtain ⟨hsub', hrecords⟩ := hlater hstore₁ h
          exact ⟨Subset.trans hsub hsub', hrecords⟩
        case isTrue =>
          split at h
          case h_1 =>
            obtain ⟨hsub', hrecords⟩ := hlater hstore₁ h
            refine ⟨Subset.trans hsub hsub', fun r hr => ?_⟩
            obtain hr | hr := hrecords r hr
            · obtain rfl | hr := (mem_orderedInsert _).mp hr
              · exact .inr ⟨hsub' hmem, binding, mem_cons_self, hbinds⟩
              · exact .inl hr
            · exact .inr hr
          case h_2 =>
            split at h
            case isFalse => cases h
            case isTrue =>
              obtain ⟨hsub', hrecords⟩ := hlater hstore₁ h
              exact ⟨Subset.trans hsub hsub', hrecords⟩

theorem normalizeShortId_ok {normalized : String} (h : normalizeShortId offerId = .ok normalized) :
    normalized = trim offerId ∧ trim offerId ≠ "" := by
  unfold normalizeShortId at h
  simp only [check_eq_ok, rejectIf_eq_ok, pure_eq_ok] at h
  obtain ⟨hne, -, rfl⟩ := h
  exact ⟨rfl, by simpa using hne⟩

/-- The offer that is looked up is the offer of a binding, under the id it was
looked up by. -/
theorem lookupOffer_ok (hsep : SeparatedByHash P payloads)
    (hbindings : ∀ b ∈ bindings, payloadFromProviderOfferDefinition config node.nodeId
      descriptorHash b.definition ∈ payloads) (hstore : ∀ o ∈ store.offers, o.payload ∈ payloads)
    (h : lookupOffer config bindings descriptorHash now store offerId = .ok (some offer, store')) :
    offer ∈ store'.offers ∧ offer.payload.offerId = trim offerId ∧ trim offerId ≠ ""
      ∧ ∃ b ∈ bindings, b.Binds config node.nodeId descriptorHash offer := by
  unfold lookupOffer at h
  obtain ⟨normalized, hnormalized, h⟩ := bind_eq_ok.mp h
  obtain ⟨rfl, hne⟩ := normalizeShortId_ok hnormalized
  obtain ⟨⟨records, store₁⟩, hrecords, h⟩ := bind_eq_ok.mp h
  obtain ⟨hfound, rfl⟩ := Prod.mk.inj (pure_eq_ok.mp h)
  obtain ⟨r, hr, rfl⟩ := mem_map.mp (mem_of_find?_eq_some hfound)
  obtain ⟨-, hbound⟩ := currentOfferRecords_ok hsep
    (fun b hb => hbindings b (mem_of_mem_filter hb)) hstore hrecords
  obtain hnil | ⟨hmem, b, hb, hbinds⟩ := hbound r hr
  · exact absurd hnil not_mem_nil
  · exact ⟨hmem, by simpa using find?_some hfound, hne, b, mem_of_mem_filter hb, hbinds⟩

end Lookup

theorem trim_eq_empty_of_isBlank {s : String} (h : isBlank (trim s) = true) : trim s = "" := by
  unfold isBlank trim at h
  rw [String.toList_ofList, all_eq_true] at h
  unfold trim
  rw [← dropWhile_idempotent, dropWhile_eq_nil_iff.mpr (fun c hc => h c (mem_reverse.mpr hc))]
  rfl

end Froglet
