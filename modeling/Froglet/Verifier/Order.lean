import Froglet.Verifier.Documents
import Mathlib.Data.List.Perm.Basic

/-!
# The order of the documents

The documents of a chain are put into slots one after the other. Slots and verdict are
those of the documents as a collection: no document that was put first is preferred.
-/

namespace Froglet

open List Option

variable {chain : FullChain}
variable {documents documents' : List Json} {k : ArtifactKind} {d : Json}

def kindOf (document : Json) : Option ArtifactKind :=
  (classifyDocument document).bind ArtifactKind.ofName?

def countKind (k : ArtifactKind) (documents : List Json) : ℕ := documents.countP (kindOf · = some k)

def documentsFormChain (documents : List Json) : Bool :=
  countKind .descriptor documents == 1 && countKind .offer documents == 1
    && countKind .quote documents == 1 && countKind .deal documents == 1
    && countKind .invoiceBundle documents ≤ 1 && countKind .receipt documents ≤ 1

/-- No kind comes twice, and every document of a kind is one. -/
structure Orderly (documents : List Json) : Prop where
  decodes : ∀ d ∈ documents, ∀ k, kindOf d = some k → ∃ a, k.decode d = some a
  once : ∀ k, countKind k documents ≤ 1

theorem Orderly.perm (h : Orderly documents) (hperm : documents.Perm documents') :
    Orderly documents' where
  decodes d hd := h.decodes d (hperm.mem_iff.mpr hd)
  once k := (hperm.countP_eq _).symm.trans_le (h.once k)

theorem countKind_append_singleton (k : ArtifactKind) (documents : List Json) (d : Json) :
    countKind k (documents ++ [d])
      = countKind k documents + if kindOf d = some k then 1 else 0 := by
  simp [countKind, countP_append, countP_cons]

theorem countKind_pos : 0 < countKind k documents ↔ ∃ d ∈ documents, kindOf d = some k := by
  simp [countKind, countP_pos_iff]

theorem orderly_append_singleton :
    Orderly (documents ++ [d]) ↔ Orderly documents
      ∧ ∀ k, kindOf d = some k → (∃ a, k.decode d = some a) ∧ countKind k documents = 0 := by
  refine ⟨fun h => ⟨⟨fun e he => h.decodes e (mem_append_left _ he), fun k => ?_⟩,
    fun k hk => ⟨h.decodes d (by simp) k hk, ?_⟩⟩, fun h => ⟨fun e he k hk => ?_, fun k => ?_⟩⟩
  · have := h.once k
    rw [countKind_append_singleton] at this
    omega
  · have := h.once k
    rw [countKind_append_singleton, if_pos hk] at this
    omega
  · obtain he | rfl := mem_append.mp he |>.imp_right mem_singleton.mp
    · exact h.1.decodes e he k hk
    · exact (h.2 k hk).1
  · rw [countKind_append_singleton]
    split_ifs with hk
    · rw [(h.2 k hk).2]
    · exact h.1.once k

/-- What the slots and the errors say of the documents that were added. -/
structure ChainState.Sorts (state : ChainState) (documents : List Json) : Prop where
  errors : state.structureErrors = [] ↔ Orderly documents
  slots : Orderly documents → ∀ k a,
    state.slots k = some a ↔ ∃ d ∈ documents, kindOf d = some k ∧ k.decode d = some a

variable {P : Primitives} {messages : DecodeMessages} {now : Option ℤ} {documents : List Json}
variable {state : ChainState}

theorem ChainState.Sorts.isSome_iff (h : state.Sorts documents) (hdocuments : Orderly documents)
    (k : ArtifactKind) : (state.slots k).isSome = true ↔ 0 < countKind k documents := by
  rw [isSome_iff_exists, countKind_pos]
  refine ⟨fun ⟨a, ha⟩ => ?_, fun ⟨d, hd, hk⟩ => ?_⟩
  · obtain ⟨d, hd, hk, -⟩ := (h.slots hdocuments k a).mp ha
    exact ⟨d, hd, hk⟩
  · obtain ⟨a, ha⟩ := hdocuments.decodes d hd k hk
    exact ⟨a, (h.slots hdocuments k a).mpr ⟨d, hd, hk, ha⟩⟩

theorem sorts_addDocument (h : state.Sorts documents) (d : Json) :
    (addDocument P messages now state d).Sorts (documents ++ [d]) := by
  unfold addDocument
  cases hkind : (classifyDocument d).bind ArtifactKind.ofName? with
  | none =>
    have hsame : Orderly (documents ++ [d]) ↔ Orderly documents := by
      rw [orderly_append_singleton]
      refine and_iff_left fun k hk => ?_
      cases hkind.symm.trans hk
    refine ⟨h.errors.trans hsame.symm, fun ho k a => (h.slots (hsame.mp ho) k a).trans ?_⟩
    simp [show kindOf d = none from hkind, or_and_right, exists_or]
  | some k =>
    have hd : kindOf d = some k := hkind
    unfold fillSlot
    dsimp only
    split
    case isTrue hfull =>
      have hnot : ¬Orderly (documents ++ [d]) := by
        rw [orderly_append_singleton]
        rintro ⟨ho, hrest⟩
        exact absurd (hrest k hd).2 ((h.isSome_iff ho k).mp hfull).ne'
      exact ⟨by simp [hnot], fun ho => absurd ho hnot⟩
    case isFalse hempty =>
      have hfree (ho : Orderly documents) : countKind k documents = 0 :=
        Nat.eq_zero_of_not_pos fun hpos => hempty ((h.isSome_iff ho k).mpr hpos)
      split
      case h_1 a ha =>
        have hsame : Orderly (documents ++ [d]) ↔ Orderly documents := by
          rw [orderly_append_singleton, and_iff_left_iff_imp]
          intro ho k' hk'
          obtain rfl := some.inj (hd.symm.trans hk')
          exact ⟨⟨a, ha⟩, hfree ho⟩
        refine ⟨h.errors.trans hsame.symm, fun ho k' b => ?_⟩
        have ho := hsame.mp ho
        dsimp only
        by_cases hk : k' = k
        · obtain rfl := hk
          rw [Function.update_self]
          refine ⟨fun heq => ⟨d, by simp, hd, ha.trans heq⟩, fun ⟨e, he, hk, hb⟩ => ?_⟩
          obtain he | rfl := mem_append.mp he |>.imp_right mem_singleton.mp
          · exact absurd (hfree ho) (countKind_pos.mpr ⟨e, he, hk⟩).ne'
          · exact ha.symm.trans hb
        · rw [Function.update_of_ne hk, h.slots ho]
          simp [hd, Ne.symm hk, or_and_right, exists_or]
      case h_2 hnone =>
        have hnot : ¬Orderly (documents ++ [d]) := by
          rw [orderly_append_singleton]
          rintro ⟨-, hrest⟩
          obtain ⟨⟨a, ha⟩, -⟩ := hrest k hd
          cases hnone.symm.trans ha
        exact ⟨by simp [hnot], fun ho => absurd ho hnot⟩

variable (P messages now) in
theorem sorts_foldl (documents : List Json) : (documents.foldl (addDocument P messages now)
      { slots := fun _ => none, structureErrors := [], artifacts := [] }).Sorts documents := by
  induction documents using reverseRecOn with
  | nil => exact ⟨iff_of_true rfl ⟨by simp, fun _ => Nat.zero_le 1⟩, by simp⟩
  | append_singleton documents d ih =>
    rw [foldl_append]
    exact sorts_addDocument ih d

theorem ChainState.Sorts.formChain (h : state.Sorts documents) (ho : Orderly documents)
    (hcore : state.slots.coreKindsPresent = true) : documentsFormChain documents = true := by
  have hone (k : ArtifactKind) (hk : (state.slots k).isSome = true) : countKind k documents = 1 :=
    le_antisymm (ho.once k) ((h.isSome_iff ho k).mp hk)
  simp only [ChainSlots.coreKindsPresent, Bool.and_eq_true] at hcore
  obtain ⟨⟨⟨hdescriptor, hoffer⟩, hquote⟩, hdeal⟩ := hcore
  simp [documentsFormChain, hone _ hdescriptor, hone _ hoffer, hone _ hquote, hone _ hdeal, ho.once]

/-- **The order of the documents does not matter.** -/
theorem validateChainDocuments_perm (messages : DecodeMessages) (hperm : documents.Perm documents')
    (now : Option ℤ) : let report := validateChainDocuments P messages documents now
    let report' := validateChainDocuments P messages documents' now
    report.valid = report'.valid ∧ report.chainEvaluated = report'.chainEvaluated
      ∧ report.chain = report'.chain
      ∧ (report.valid = true → documentsFormChain documents = true) := by
  have hsorts := sorts_foldl P messages now documents
  have hsorts' := sorts_foldl P messages now documents'
  have hholds := holds_foldl P messages now documents
  have hholds' := holds_foldl P messages now documents'
  unfold validateChainDocuments
  dsimp only
  generalize documents.foldl (addDocument P messages now) _ = state at *
  generalize documents'.foldl (addDocument P messages now) _ = state' at *
  by_cases ho : Orderly documents
  · have ho' := ho.perm hperm
    have hslots : state.slots = state'.slots := by
      funext k
      refine ext fun a => ?_
      rw [hsorts.slots ho, hsorts'.slots ho']
      simp only [hperm.mem_iff]
    have hall : state.artifacts.all (·.status != .invalid)
        = state'.artifacts.all (·.status != .invalid) := by
      rw [hholds.artifacts, hholds'.artifacts]
      exact (hperm.map _).all_eq
    rw [hsorts.errors.mpr ho, hsorts'.errors.mpr ho', hslots, hall]
    refine ⟨rfl, rfl, rfl, fun hvalid => hsorts.formChain ho ?_⟩
    by_contra hcore
    rw [hslots] at hcore
    simp [hcore] at hvalid
  · have ho' : ¬Orderly documents' := fun ho' => ho (ho'.perm hperm.symm)
    have herrors : state.structureErrors ≠ [] := fun hnil => ho (hsorts.errors.mp hnil)
    have herrors' : state'.structureErrors ≠ [] := fun hnil => ho' (hsorts'.errors.mp hnil)
    have hfalse (errors more : List String) (h : errors ≠ []) : (errors ++ more).isEmpty = false :=
      isEmpty_eq_false_iff.mpr (append_ne_nil_of_left_ne_nil h more)
    rw [hfalse _ _ herrors, hfalse _ _ herrors']
    exact ⟨rfl, rfl, rfl, fun hvalid => by cases hvalid⟩

theorem validateChainDocuments_perm_swapped :
    (validateChainDocuments samplePrimitives (fun _ _ => "")
        (sampleDocuments (toJson (sampleNamedChain "s").descriptor)).reverse none).chainEvaluated
      = true := by
  have hrun : (validateChainDocuments samplePrimitives (fun _ _ => "")
      (sampleDocuments (toJson (sampleNamedChain "s").descriptor)) none).chainEvaluated = true := by
    decide +kernel
  exact (validateChainDocuments_perm (fun _ _ => "") (reverse_perm _) none).2.1.trans hrun

/-! ## The documents of a chain -/

namespace FullChain

def slots (chain : FullChain) : ChainSlots
  | .descriptor => some chain.descriptor
  | .offer => some chain.offer
  | .quote => some chain.quote
  | .deal => some chain.deal
  | .invoiceBundle => chain.invoiceBundle
  | .receipt => chain.receipt

def toDocuments (chain : FullChain) : List Json :=
  [.descriptor, .offer, .quote, .deal, .invoiceBundle, .receipt].filterMap fun k =>
    (chain.slots k).map toJson

/-- The artifacts are of their kinds, and their numbers fit the types of the code. -/
def Fits (chain : FullChain) : Prop :=
  ∀ k, ∀ a ∈ chain.slots k, a.artifactType = k.artifactType ∧ FitsI64 a.createdAt ∧ k.Fits a.payload

theorem mem_toDocuments : d ∈ chain.toDocuments ↔ ∃ k, ∃ a ∈ chain.slots k, toJson a = d := by
  unfold toDocuments
  rw [mem_filterMap]
  refine exists_congr fun k => ?_
  rw [map_eq_some_iff]
  exact and_iff_right (by cases k <;> decide)

theorem Fits.reads (h : chain.Fits) {a : SignedArtifact k.Payload} (ha : a ∈ chain.slots k) :
    kindOf (toJson a) = some k ∧ k.decode (toJson a) = some a := by
  obtain ⟨hkind, hcreated, hpayload⟩ := h k a ha
  refine ⟨?_, k.decode_toJson hcreated hpayload⟩
  show ArtifactKind.ofName? a.artifactType = some k
  rw [hkind, ArtifactKind.ofName?_artifactType]

theorem Fits.orderly (h : chain.Fits) : Orderly chain.toDocuments where
  decodes d hd k hk := by
    obtain ⟨k', a, ha, rfl⟩ := mem_toDocuments.mp hd
    cases (h.reads ha).1.symm.trans hk
    exact ⟨a, (h.reads ha).2⟩
  once k := by
    unfold countKind toDocuments
    rw [countP_filterMap]
    -- a document of the kind comes from the slot of the kind, which is listed once
    refine (countP_mono_left (q := (· == k)) fun k' _ hk' => ?_).trans (by cases k <;> decide)
    cases ha : chain.slots k' with
    | none => simp [ha] at hk'
    | some a => exact beq_iff_eq.mpr (some.inj ((h.reads ha).1.symm.trans
        (by simpa [ha] using hk')))

end FullChain

/-- **A chain is read back from its documents**, in whatever order they come. -/
theorem validateChainDocuments_toDocuments (messages : DecodeMessages)
    (h : chain.Fits) (hperm : documents.Perm chain.toDocuments) (now : Option ℤ) :
    (validateChainDocuments P messages documents now).structureErrors = []
      ∧ (validateChainDocuments P messages documents now).chain
        = some (validateFullChain P chain now) := by
  have hsorts := sorts_foldl P messages now documents
  have ho : Orderly documents := h.orderly.perm hperm.symm
  unfold validateChainDocuments
  dsimp only
  generalize documents.foldl (addDocument P messages now) _ = state at hsorts ⊢
  have hslots : state.slots = chain.slots := by
    funext k
    refine ext fun a => ?_
    rw [hsorts.slots ho]
    constructor
    · rintro ⟨d, hd, hkind, hdecode⟩
      obtain ⟨k', b, hb, rfl⟩ := FullChain.mem_toDocuments.mp (hperm.mem_iff.mp hd)
      cases (h.reads hb).1.symm.trans hkind
      cases (h.reads hb).2.symm.trans hdecode
      exact hb
    · exact fun ha => ⟨toJson a, hperm.mem_iff.mpr (FullChain.mem_toDocuments.mpr ⟨k, a, ha, rfl⟩),
        h.reads ha⟩
  rw [hsorts.errors.mpr ho, hslots]
  exact ⟨rfl, rfl⟩

theorem validateChainDocuments_toDocuments_reversed :
    (validateChainDocuments sampleNamedPrimitives (fun _ _ => "")
        (sampleNamedChain "s").toDocuments.reverse none).chain
      = some (validateFullChain sampleNamedPrimitives (sampleNamedChain "s") none) := by
  have hfits : (sampleNamedChain "s").Fits := by
    intro k a ha
    cases k <;> cases ha
    all_goals repeat' first
      | rfl
      | (unfold FitsU64; decide)
      | (unfold FitsI64; decide)
      | (unfold FitsU32; decide)
      | (intro _ hmem; cases hmem)
      | constructor
  exact (validateChainDocuments_toDocuments _ hfits (reverse_perm _) none).2

end Froglet
