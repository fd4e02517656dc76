import Froglet.Protocol.Decode
import Froglet.Protocol.Kernel

/-!
# Verifying a typed document

`verifyTypedDocument` is the entry point for documents that come from outside: it reads
the document as an artifact of the kind it is asked for, verifies the envelope, and runs
the validator of the kind.
-/

namespace Froglet

/-! ## The kinds -/

inductive ArtifactKind where
  | descriptor | offer | quote | deal | invoiceBundle | receipt
deriving DecidableEq

namespace ArtifactKind

def artifactType : ArtifactKind → String
  | descriptor => artifactTypeDescriptor
  | offer => artifactTypeOffer
  | quote => artifactTypeQuote
  | deal => artifactTypeDeal
  | invoiceBundle => transportTypeInvoiceBundle
  | receipt => artifactTypeReceipt

def ofName? (name : String) : Option ArtifactKind :=
  [descriptor, offer, quote, deal, invoiceBundle, receipt].find? (·.artifactType == name)

theorem ofName?_artifactType (k : ArtifactKind) : ofName? k.artifactType = some k := by
  cases k <;> decide

abbrev Payload : ArtifactKind → Type
  | descriptor => DescriptorPayload
  | offer => OfferPayload
  | quote => QuotePayload
  | deal => DealPayload
  | invoiceBundle => InvoiceBundlePayload
  | receipt => ReceiptPayload

instance : ∀ k : ArtifactKind, Serialize k.Payload
  | descriptor => inferInstanceAs (Serialize DescriptorPayload)
  | offer => inferInstanceAs (Serialize OfferPayload)
  | quote => inferInstanceAs (Serialize QuotePayload)
  | deal => inferInstanceAs (Serialize DealPayload)
  | invoiceBundle => inferInstanceAs (Serialize InvoiceBundlePayload)
  | receipt => inferInstanceAs (Serialize ReceiptPayload)

instance : ∀ k : ArtifactKind, LawfulSerialize k.Payload
  | descriptor => inferInstanceAs (LawfulSerialize DescriptorPayload)
  | offer => inferInstanceAs (LawfulSerialize OfferPayload)
  | quote => inferInstanceAs (LawfulSerialize QuotePayload)
  | deal => inferInstanceAs (LawfulSerialize DealPayload)
  | invoiceBundle => inferInstanceAs (LawfulSerialize InvoiceBundlePayload)
  | receipt => inferInstanceAs (LawfulSerialize ReceiptPayload)

def decodePayload : (k : ArtifactKind) → Json → Option k.Payload
  | descriptor => decodeDescriptorPayload
  | offer => decodeOfferPayload
  | quote => decodeQuotePayload
  | deal => decodeDealPayload
  | invoiceBundle => decodeInvoiceBundlePayload
  | receipt => decodeReceiptPayload

def Fits : (k : ArtifactKind) → k.Payload → Prop
  | descriptor => DescriptorPayload.Fits
  | offer => OfferPayload.Fits
  | quote => QuotePayload.Fits
  | deal => DealPayload.Fits
  | invoiceBundle => InvoiceBundlePayload.Fits
  | receipt => ReceiptPayload.Fits

/-- A payload is read back, whatever its kind. -/
theorem decodePayload_toJson : ∀ (k : ArtifactKind) {p : k.Payload}, k.Fits p →
    k.decodePayload (toJson p) = some p
  | descriptor, _, h => decodeDescriptorPayload_toJson h
  | offer, _, h => decodeOfferPayload_toJson h
  | quote, _, h => decodeQuotePayload_toJson h
  | deal, _, h => decodeDealPayload_toJson h
  | invoiceBundle, _, h => decodeInvoiceBundlePayload_toJson h
  | receipt, _, h => decodeReceiptPayload_toJson h

def validate (P : Primitives) : (k : ArtifactKind) → SignedArtifact k.Payload → Except String Unit
  | descriptor => validateDescriptorArtifact P
  | offer => validateOfferArtifact
  | quote => validateQuoteArtifact
  | deal => validateDealArtifact
  | invoiceBundle => validateInvoiceBundleArtifact P
  | receipt => validateReceiptArtifact P

def decode (k : ArtifactKind) : Json → Option (SignedArtifact k.Payload) :=
  decodeSignedArtifact k.decodePayload

theorem decode_toJson (k : ArtifactKind) {a : SignedArtifact k.Payload}
    (hcreated : FitsI64 a.createdAt) (hpayload : k.Fits a.payload) : k.decode (toJson a) = some a :=
  decodeSignedArtifact_toJson hcreated (k.decodePayload_toJson hpayload)

end ArtifactKind

/-! ## Verification -/

structure VerifiedArtifact where
  kind : ArtifactKind
  artifact : SignedArtifact kind.Payload

inductive VerifyError where
  | unknownKind (kind : String)
  | signatureFailed
  | decode
  | semantic (message : String)

variable (P : Primitives)

def requireTypedArtifactKind {T : Type} (artifact : SignedArtifact T) (expected : String) :
    Except VerifyError Unit :=
  rejectIf (artifact.artifactType != expected)
    (.semantic s!"{expected} artifact_type must be {expected}")

def verifyTypedKind (k : ArtifactKind) (document : Json) : Except VerifyError VerifiedArtifact :=
  match k.decode document with
  | none => .error .decode
  | some artifact => do
    rejectIf (!verifyArtifact P artifact) .signatureFailed
    requireTypedArtifactKind artifact k.artifactType
    (k.validate P artifact).mapError .semantic
    return { kind := k, artifact }

def verifyTypedDocument (document : Json) (artifactKind : String) :
    Except VerifyError VerifiedArtifact :=
  match ArtifactKind.ofName? artifactKind with
  | none => .error (.unknownKind artifactKind)
  | some k => verifyTypedKind P k document

/-- What `verify_typed_document` accepts: a document that reads as an
artifact of the kind, authentic, of the type of the kind and acceptable to its
validator. -/
theorem verifyTypedKind_eq_ok {k : ArtifactKind} {document : Json} {v : VerifiedArtifact} :
    verifyTypedKind P k document = .ok v
      ↔ ∃ a, k.decode document = some a ∧ Authentic P a ∧ a.artifactType = k.artifactType
        ∧ k.validate P a = .ok () ∧ { kind := k, artifact := a } = v := by
  unfold verifyTypedKind requireTypedArtifactKind
  cases k.decode document with
  | none => simp
  | some a => simp [mapError_eq_ok, verifyArtifact_iff, -bind_pure_comp]

theorem verifyTypedDocument_artifactType (k : ArtifactKind) (document : Json) :
    verifyTypedDocument P document k.artifactType = verifyTypedKind P k document := by
  unfold verifyTypedDocument
  rw [ArtifactKind.ofName?_artifactType]

end Froglet
