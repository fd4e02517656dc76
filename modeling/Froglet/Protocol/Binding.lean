import Froglet.Protocol.ChainSoundness
import Froglet.Protocol.Typed

/-!
# What a hash binds

An authentic envelope carries the hash of its own fields, and an artifact names the
artifacts before it by their hashes.
-/

namespace Froglet

open List Option

variable {T : Type} [Serialize T] (P : Primitives)
variable {bytes : Bytes} {chain : FullChain} {r : SignedReceipt} {now : Option ℤ}

/-! ## The assumptions -/

def SignedArtifact.signingDocument (a : SignedArtifact T) : Json :=
  .arr [toJson a.schemaVersion, toJson a.artifactType, toJson a.signer, toJson a.createdAt,
    toJson a.payloadHash, toJson a.payload]

def SignedArtifact.hashedBytes (a : SignedArtifact T) : List Bytes :=
  (P.canonicalJson (toJson a.payload)).toOption.toList ++ (a.signingBytes P).toOption.toList

def Primitives.NoCollisionAmong (inputs : List Bytes) : Prop :=
  ∀ x ∈ inputs, ∀ y ∈ inputs, P.sha256Hex x = P.sha256Hex y → x = y

structure CanonicalInjective (T : Type) [Serialize T] : Prop where
  payload : ∀ (p q : T) (bytes : Bytes), P.canonicalJson (toJson p) = .ok bytes →
    P.canonicalJson (toJson q) = .ok bytes → toJson p = toJson q
  signed : ∀ (a b : SignedArtifact T) (bytes : Bytes), a.signingBytes P = .ok bytes →
    b.signingBytes P = .ok bytes → a.signingDocument = b.signingDocument

def SignedArtifact.SameExceptSignature {T : Type} (a b : SignedArtifact T) : Prop :=
  { a with signature := b.signature } = b

theorem SignedArtifact.SameExceptSignature.payload {T : Type} {a b : SignedArtifact T}
    (h : a.SameExceptSignature b) : a.payload = b.payload := by
  show ({ a with signature := b.signature } : SignedArtifact T).payload = b.payload
  exact congrArg SignedArtifact.payload h

variable {P}

theorem Primitives.NoCollisionAmong.mono {inputs inputs' : List Bytes}
    (h : P.NoCollisionAmong inputs) (hsub : inputs' ⊆ inputs) : P.NoCollisionAmong inputs' :=
  fun x hx y hy => h x (hsub hx) y (hsub hy)

theorem mem_hashedBytes_signing {a : SignedArtifact T} (h : a.signingBytes P = .ok bytes) :
    bytes ∈ a.hashedBytes P := by
  simp [SignedArtifact.hashedBytes, h, Except.toOption]

/-! ## One artifact -/

theorem signingDocument_inj [LawfulSerialize T] {a b : SignedArtifact T} :
    a.signingDocument = b.signingDocument
      ↔ a.schemaVersion = b.schemaVersion ∧ a.artifactType = b.artifactType
        ∧ a.signer = b.signer ∧ a.createdAt = b.createdAt ∧ a.payloadHash = b.payloadHash
        ∧ a.payload = b.payload := by
  simp [SignedArtifact.signingDocument]

theorem signingDocument_eq_of_hash_eq {a b : SignedArtifact T} (ha : Authentic P a)
    (hb : Authentic P b) (hjson : CanonicalInjective P T)
    (hsha : P.NoCollisionAmong (a.hashedBytes P ++ b.hashedBytes P)) (h : a.hash = b.hash) :
    a.signingDocument = b.signingDocument := by
  obtain ⟨bytes, hbytes, hhash, -⟩ := ha.signed
  obtain ⟨bytes', hbytes', hhash', -⟩ := hb.signed
  have heq : bytes = bytes' :=
    hsha bytes (mem_append_left _ (mem_hashedBytes_signing hbytes)) bytes'
      (mem_append_right _ (mem_hashedBytes_signing hbytes'))
      (hhash.symm.trans (h.trans hhash'))
  exact hjson.signed a b bytes hbytes (heq ▸ hbytes')

/-- A hash stands for the whole envelope, the signature apart. -/
theorem sameExceptSignature_of_hash_eq [LawfulSerialize T] {a b : SignedArtifact T}
    (ha : Authentic P a) (hb : Authentic P b) (hjson : CanonicalInjective P T)
    (hsha : P.NoCollisionAmong (a.hashedBytes P ++ b.hashedBytes P)) (h : a.hash = b.hash) :
    a.SameExceptSignature b := by
  obtain ⟨hschema, htype, hsigner, hcreated, hph, hpayload⟩ :=
    signingDocument_inj.mp (signingDocument_eq_of_hash_eq ha hb hjson hsha h)
  cases a
  cases b
  simp_all [SignedArtifact.SameExceptSignature]

inductive FieldChange (fits : T → Prop) (a : SignedArtifact T) : SignedArtifact T → Prop
  | schemaVersion {v : String} (h : v ≠ a.schemaVersion) :
    FieldChange fits a { a with schemaVersion := v }
  | artifactType {v : String} (h : v ≠ a.artifactType) :
    FieldChange fits a { a with artifactType := v }
  | signer {v : String} (h : v ≠ a.signer) : FieldChange fits a { a with signer := v }
  | createdAt {v : ℤ} (h : v ≠ a.createdAt) (hfits : FitsI64 v) :
    FieldChange fits a { a with createdAt := v }
  | payloadHash {v : String} (h : v ≠ a.payloadHash) :
    FieldChange fits a { a with payloadHash := v }
  | hash {v : String} (h : v ≠ a.hash) : FieldChange fits a { a with hash := v }
  | payload {v : T} (h : v ≠ a.payload) (hfits : fits v) :
    FieldChange fits a { a with payload := v }

/-- No field of an authentic envelope can be changed alone. -/
theorem not_authentic_of_fieldChange [LawfulSerialize T] {fits : T → Prop} {a b : SignedArtifact T}
    (ha : Authentic P a) (hchange : FieldChange fits a b) (hjson : CanonicalInjective P T)
    (hsha : P.NoCollisionAmong (a.hashedBytes P ++ b.hashedBytes P)) : ¬ Authentic P b := by
  intro hb
  -- while the hash stands, the signed document determines the field
  have hdoc := fun hhash => signingDocument_inj.mp
    (signingDocument_eq_of_hash_eq ha hb hjson hsha hhash)
  cases hchange with
  | schemaVersion h => exact h (hdoc rfl).1.symm
  | artifactType h => exact h (hdoc rfl).2.1.symm
  | signer h => exact h (hdoc rfl).2.2.1.symm
  | createdAt h => exact h (hdoc rfl).2.2.2.1.symm
  | payloadHash h => exact h (hdoc rfl).2.2.2.2.1.symm
  | payload h => exact h (hdoc rfl).2.2.2.2.2.symm
  | hash h =>
    -- the hash is recomputed from fields that did not change
    obtain ⟨bytes, hbytes, hhash, -⟩ := ha.signed
    obtain ⟨bytes', hbytes', hhash', -⟩ := hb.signed
    cases Except.ok.inj (hbytes.symm.trans hbytes')
    exact h (hhash'.trans hhash.symm)

theorem FieldChange.decode {k : ArtifactKind} {a b : SignedArtifact k.Payload}
    (hchange : FieldChange k.Fits a b) (hcreated : FitsI64 a.createdAt)
    (hpayload : k.Fits a.payload) : k.decode (toJson b) = some b := by
  cases hchange with
  | createdAt h hfits => exact k.decode_toJson hfits hpayload
  | payload h hfits => exact k.decode_toJson hcreated hfits
  | schemaVersion h | artifactType h | signer h | payloadHash h | hash h =>
    exact k.decode_toJson hcreated hpayload

/-- **Round trip and tamper evidence.** What `sign_artifact` produces, written
as JSON, is verified as the same artifact; and the JSON of an artifact in which
one field other than the signature was changed is refused. -/
theorem sign_artifact_binds (k : ArtifactKind) {signer : String} {signMessageHex : Bytes → String}
    {createdAt : ℤ} {payload : k.Payload} {a : SignedArtifact k.Payload}
    (hsigning : ∀ bytes, P.verifyMessage signer (signMessageHex bytes) bytes = true)
    (hjson : CanonicalInjective P k.Payload) (hcreated : FitsI64 createdAt) (hfits : k.Fits payload)
    (hsign : signArtifact P signer signMessageHex k.artifactType createdAt payload = .ok a)
    (hvalid : k.validate P a = .ok ()) :
    verifyTypedDocument P (toJson a) k.artifactType = .ok { kind := k, artifact := a }
    ∧ ∀ b, FieldChange k.Fits a b →
        P.NoCollisionAmong (a.hashedBytes P ++ b.hashedBytes P) →
        ∀ v, verifyTypedDocument P (toJson b) k.artifactType ≠ .ok v := by
  obtain ⟨hauth, htype, -, rfl⟩ := authentic_of_signArtifact P hsigning hsign
  obtain rfl := createdAt_of_signArtifact hsign
  simp only [verifyTypedDocument_artifactType]
  refine ⟨?_, fun b hchange hsha v hv => ?_⟩
  · rw [verifyTypedKind_eq_ok]
    exact ⟨a, k.decode_toJson hcreated hfits, hauth, htype, hvalid, rfl⟩
  · obtain ⟨c, hdecode, hc, -⟩ := (verifyTypedKind_eq_ok P).mp hv
    cases some.inj ((hchange.decode hcreated hfits).symm.trans hdecode)
    exact not_authentic_of_fieldChange hauth hchange hjson hsha hc

/-! ## Chains -/

variable (P) in
def FullChain.hashedBytes (chain : FullChain) : List Bytes :=
  chain.descriptor.hashedBytes P ++ chain.offer.hashedBytes P ++ chain.quote.hashedBytes P
    ++ chain.deal.hashedBytes P ++ chain.invoiceBundle.toList.flatMap (·.hashedBytes P)
    ++ chain.receipt.toList.flatMap (·.hashedBytes P)

theorem FullChain.mem_hashedBytes {x : Bytes} :
    x ∈ chain.hashedBytes P ↔ x ∈ chain.descriptor.hashedBytes P ∨ x ∈ chain.offer.hashedBytes P
      ∨ x ∈ chain.quote.hashedBytes P ∨ x ∈ chain.deal.hashedBytes P
      ∨ (∃ b, chain.invoiceBundle = some b ∧ x ∈ b.hashedBytes P)
      ∨ ∃ r, chain.receipt = some r ∧ x ∈ r.hashedBytes P := by
  simp [FullChain.hashedBytes]

structure HashLinked (P : Primitives) (chain : FullChain) (r : SignedReceipt) : Prop where
  receipt : Authentic P r
  deal : Authentic P chain.deal
  quote : Authentic P chain.quote
  offer : Authentic P chain.offer
  descriptor : Authentic P chain.descriptor
  dealHash : r.payload.dealHash = chain.deal.hash
  quoteHash : chain.deal.payload.quoteHash = chain.quote.hash
  offerHash : chain.quote.payload.offerHash = chain.offer.hash
  descriptorHash : chain.offer.payload.descriptorHash = chain.descriptor.hash
  bundle : chain.quote.payload.settlementTerms.method = settlementMethodLightningEscrow →
    ∃ b, chain.invoiceBundle = some b ∧ Authentic P b
      ∧ r.payload.settlementRefs.bundleHash = some b.hash

theorem bundleHash_of_valid {b : SignedInvoiceBundle} (hb : chain.invoiceBundle = some b)
    (hmethod : chain.quote.payload.settlementTerms.method = settlementMethodLightningEscrow)
    (h : (validateChainReceipt P chain r now).valid = true) :
    r.payload.settlementRefs.bundleHash = some b.hash := by
  unfold validateChainReceipt at h
  simp only [hb, hmethod, beq_self_eq_true, if_true, validateReceiptInvoiceBundleLinks,
    ChainValidationReport.valid_pushIf, bne_eq_false_iff_eq] at h
  exact h.1.1.1.1.1.2

theorem hashLinked_of_valid (hr : chain.receipt = some r)
    (hvalid : (validateFullChain P chain now).valid = true) : HashLinked P chain r := by
  simp only [validateFullChain, hr, map_some, toList_some, cons_append,
    nil_append, all_cons, all_nil, Bool.and_true, Bool.and_eq_true] at hvalid
  obtain ⟨hdo, hoq, hdeal, hrec⟩ := hvalid
  obtain ⟨hdescriptor, -, -, hdescriptorHash⟩ := descriptorOffer_of_valid hdo
  obtain ⟨hoffer, -, -, hofferQuote⟩ := offerQuote_of_valid hoq
  obtain ⟨hescrow, hbundle⟩ := chainDeal_of_valid hdeal
  obtain ⟨hquoteDeal, -, hreceipt, -, hlinked⟩ :=
    (valid_validateQuoteDealReceipt P).mp (quoteDealReceipt_of_chain hrec)
  refine ⟨hreceipt, hquoteDeal.dealAuthentic, hquoteDeal.quoteAuthentic, hoffer, hdescriptor,
    hlinked.dealHash, hquoteDeal.linked.quoteHash, hofferQuote.offerHash, hdescriptorHash,
    fun hmethod => ?_⟩
  obtain ⟨b, hb⟩ := isSome_iff_exists.mp (hescrow.mpr hmethod)
  exact ⟨b, hb, (hbundle b hb).1, bundleHash_of_valid hb hmethod hrec⟩

/-- **Receipt binding.** Two valid chains, validated at any clocks, whose
receipts have one hash agree in every artifact, the signatures apart. -/
theorem receipt_binds_chain {chain₁ chain₂ : FullChain} {now₁ now₂ : Option ℤ}
    {r₁ r₂ : SignedReceipt}
    (hsha : P.NoCollisionAmong (chain₁.hashedBytes P ++ chain₂.hashedBytes P))
    (hjson : ∀ k : ArtifactKind, CanonicalInjective P k.Payload) (hr₁ : chain₁.receipt = some r₁)
    (hr₂ : chain₂.receipt = some r₂) (hvalid₁ : (validateFullChain P chain₁ now₁).valid = true)
    (hvalid₂ : (validateFullChain P chain₂ now₂).valid = true) (hhash : r₁.hash = r₂.hash) :
    r₁.SameExceptSignature r₂ ∧ chain₁.deal.SameExceptSignature chain₂.deal
    ∧ chain₁.quote.SameExceptSignature chain₂.quote ∧ chain₁.offer.SameExceptSignature chain₂.offer
    ∧ chain₁.descriptor.SameExceptSignature chain₂.descriptor
    ∧ (chain₁.quote.payload.settlementTerms.method = settlementMethodLightningEscrow →
        ∃ b₁ b₂, chain₁.invoiceBundle = some b₁ ∧ chain₂.invoiceBundle = some b₂
          ∧ b₁.SameExceptSignature b₂) := by
  have h₁ := hashLinked_of_valid hr₁ hvalid₁
  have h₂ := hashLinked_of_valid hr₂ hvalid₂
  -- the texts of two artifacts are among those of their chains
  have among {inputs₁ inputs₂ : List Bytes} (hsub₁ : ∀ x ∈ inputs₁, x ∈ chain₁.hashedBytes P)
      (hsub₂ : ∀ x ∈ inputs₂, x ∈ chain₂.hashedBytes P) :
      P.NoCollisionAmong (inputs₁ ++ inputs₂) :=
    hsha.mono (append_subset.mpr ⟨fun x hx => mem_append_left _ (hsub₁ x hx),
      fun x hx => mem_append_right _ (hsub₂ x hx)⟩)
  simp only [FullChain.mem_hashedBytes] at among
  have hreceipt : r₁.SameExceptSignature r₂ :=
    sameExceptSignature_of_hash_eq h₁.receipt h₂.receipt (hjson .receipt)
      (among (by simp +contextual [hr₁]) (by simp +contextual [hr₂])) hhash
  have hdeal : chain₁.deal.SameExceptSignature chain₂.deal :=
    sameExceptSignature_of_hash_eq h₁.deal h₂.deal (hjson .deal)
      (among (by simp +contextual) (by simp +contextual))
      (h₁.dealHash.symm.trans (hreceipt.payload ▸ h₂.dealHash))
  have hquote : chain₁.quote.SameExceptSignature chain₂.quote :=
    sameExceptSignature_of_hash_eq h₁.quote h₂.quote (hjson .quote)
      (among (by simp +contextual) (by simp +contextual))
      (h₁.quoteHash.symm.trans (hdeal.payload ▸ h₂.quoteHash))
  have hoffer : chain₁.offer.SameExceptSignature chain₂.offer :=
    sameExceptSignature_of_hash_eq h₁.offer h₂.offer (hjson .offer)
      (among (by simp +contextual) (by simp +contextual))
      (h₁.offerHash.symm.trans (hquote.payload ▸ h₂.offerHash))
  have hdescriptor : chain₁.descriptor.SameExceptSignature chain₂.descriptor :=
    sameExceptSignature_of_hash_eq h₁.descriptor h₂.descriptor (hjson .descriptor)
      (among (by simp +contextual) (by simp +contextual))
      (h₁.descriptorHash.symm.trans (hoffer.payload ▸ h₂.descriptorHash))
  refine ⟨hreceipt, hdeal, hquote, hoffer, hdescriptor, fun hmethod => ?_⟩
  obtain ⟨b₁, hb₁, hauth₁, hhash₁⟩ := h₁.bundle hmethod
  obtain ⟨b₂, hb₂, hauth₂, hhash₂⟩ := h₂.bundle (hquote.payload ▸ hmethod)
  refine ⟨b₁, b₂, hb₁, hb₂, sameExceptSignature_of_hash_eq hauth₁ hauth₂ (hjson .invoiceBundle)
    (among (by simp +contextual [hb₁]) (by simp +contextual [hb₂])) ?_⟩
  exact some.inj (hhash₁.symm.trans (hreceipt.payload ▸ hhash₂))

/-! ## Primitives that know a list of documents -/

def tablePrimitives (documents : List (Json × String)) : Primitives where
  sha256Hex bytes := (documents.map Prod.snd).getD bytes.length ""
  canonicalJson document :=
    match documents.findIdx? (·.1 == document) with
    | some i => .ok (replicate i 0)
    | none => .error "unknown document"
  verifyMessage _ _ _ := true

theorem canonicalJson_tablePrimitives_inj {documents : List (Json × String)} {x y : Json}
    (hx : (tablePrimitives documents).canonicalJson x = .ok bytes)
    (hy : (tablePrimitives documents).canonicalJson y = .ok bytes) : x = y := by
  have place {z : Json} (hz : (tablePrimitives documents).canonicalJson z = .ok bytes) :
      (documents.map Prod.fst)[bytes.length]? = some z := by
    simp only [tablePrimitives] at hz
    split at hz
    case h_1 i hi =>
      obtain ⟨hlt, hget, -⟩ := findIdx?_eq_some_iff_getElem.mp hi
      cases hz
      simpa [hlt] using hget
    case h_2 => cases hz
  exact some.inj ((place hx).symm.trans (place hy))

theorem canonicalInjective_tablePrimitives (documents : List (Json × String)) (T : Type)
    [Serialize T] : CanonicalInjective (tablePrimitives documents) T where
  payload _ _ _ hp hq := canonicalJson_tablePrimitives_inj hp hq
  signed _ _ _ ha hb := canonicalJson_tablePrimitives_inj ha hb

def sampleNamedReceipt (signature : String) : SignedReceipt :=
  { sampleFreeReceipt with
    payloadHash := "receipt payload", hash := "receipt", signature
    payload := { sampleFreeReceipt.payload with quoteHash := "quote", dealHash := "deal" } }

def sampleNamedChain (signature : String) : FullChain where
  descriptor := { sampleFreeChain.descriptor with
    payloadHash := "descriptor payload", hash := "descriptor", signature }
  offer := { sampleFreeChain.offer with
    payloadHash := "offer payload", hash := "offer", signature
    payload := { sampleFreeChain.offer.payload with descriptorHash := "descriptor" } }
  quote := { sampleFreeChain.quote with
    payloadHash := "quote payload", hash := "quote", signature
    payload := { sampleFreeChain.quote.payload with
      descriptorHash := "descriptor", offerHash := "offer" } }
  invoiceBundle := none
  deal := { sampleFreeChain.deal with
    payloadHash := "deal payload", hash := "deal", signature
    payload := { sampleFreeChain.deal.payload with quoteHash := "quote" } }
  receipt := some (sampleNamedReceipt signature)

def SignedArtifact.documents {T : Type} [Serialize T] (a : SignedArtifact T) :
    List (Json × String) :=
  [(toJson a.payload, a.payloadHash), (a.signingDocument, a.hash)]

def sampleNamedPrimitives : Primitives :=
  let chain := sampleNamedChain ""
  tablePrimitives (chain.descriptor.documents ++ chain.offer.documents ++ chain.quote.documents
    ++ chain.deal.documents ++ chain.receipt.toList.flatMap (·.documents))

theorem receipt_binds_named_chain : (sampleNamedChain "s").deal ≠ (sampleNamedChain "t").deal
    ∧ (sampleNamedChain "s").deal.SameExceptSignature (sampleNamedChain "t").deal := by
  have hvalid : (validateFullChain sampleNamedPrimitives (sampleNamedChain "s") none).valid = true
      ∧ (validateFullChain sampleNamedPrimitives (sampleNamedChain "t") (some 5)).valid = true := by
    decide +kernel
  have hsha : sampleNamedPrimitives.NoCollisionAmong
      ((sampleNamedChain "s").hashedBytes sampleNamedPrimitives
        ++ (sampleNamedChain "t").hashedBytes sampleNamedPrimitives) := by
    unfold Primitives.NoCollisionAmong
    decide +kernel
  have hreceipt (signature : String) :
      (sampleNamedChain signature).receipt = some (sampleNamedReceipt signature) := rfl
  exact ⟨by decide, (receipt_binds_chain hsha
    (fun k => canonicalInjective_tablePrimitives _ k.Payload) (hreceipt "s") (hreceipt "t")
    hvalid.1 hvalid.2 rfl).2.1⟩

theorem sign_artifact_binds_descriptor :
    verifyTypedDocument sampleNamedPrimitives (toJson (sampleNamedChain "s").descriptor)
        artifactTypeDescriptor
      = .ok { kind := .descriptor, artifact := (sampleNamedChain "s").descriptor }
    ∧ ∀ v, verifyTypedDocument sampleNamedPrimitives
        (toJson { (sampleNamedChain "s").descriptor with artifactType := "offer" })
        artifactTypeDescriptor ≠ .ok v := by
  have hfits : (sampleNamedChain "s").descriptor.payload.Fits :=
    { descriptorSeq := by unfold FitsU64; decide
      expiresAt := nofun
      linkedIdentities := nofun
      transportEndpoints := nofun
      capabilities := ⟨nofun⟩ }
  have hsign : signArtifact sampleNamedPrimitives "p" (fun _ => "s") artifactTypeDescriptor 0
      (sampleNamedChain "s").descriptor.payload = .ok (sampleNamedChain "s").descriptor := by
    decide +kernel
  obtain ⟨hverified, htamper⟩ := sign_artifact_binds .descriptor (fun _ => rfl)
    (canonicalInjective_tablePrimitives _ _) (by unfold FitsI64; decide) hfits hsign
    (by decide +kernel)
  refine ⟨hverified, htamper _ (.artifactType (by decide)) ?_⟩
  unfold Primitives.NoCollisionAmong
  decide +kernel

end Froglet
