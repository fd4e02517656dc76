import Froglet.A2a.Tasks
import Mathlib.Data.List.Sort

/-!
# Clients do not see each other's tasks

What a client is shown depends on the deals it may see and on nothing else in the
database.
-/

namespace Froglet.A2a

open List Option Table
open World (perform)

variable {client : Client} {deal : StoredDeal} {session : LightningInvoiceBundleSession} {α : Type}
variable {P : Primitives} {n : Node P}
variable {row : DealRow} {fields : List (String × Json)} {filter : ListFilter}
variable {T : Type} {text document hash id : String}
variable {value : Json} {t : Tables} {p : DealRow → Bool} {f : DealRow → DealRow}

/-! ## Databases -/

def Node.reads (n : Node P) (row : DealRow) : Bool := (n.decodeDealRow row).toOption.isSome

structure ProviderDatabase (n : Node P) extends Tables where
  uniqueIds : Table.Unique (some ·.dealId) deals
  uniqueHashes : Table.Unique (·.dealArtifactHash) deals
  uniqueSessions : Table.Unique (some ·.sessionId) bundles
  readable : ∀ row ∈ deals, n.reads row = true

def quarantineInvalidDeals (n : Node P) (t : Tables) : Tables :=
  { t with deals := deleteWhere (fun row => !n.reads row) t.deals }

def ProviderDatabase.start (n : Node P) (t : Tables)
    (uniqueIds : Table.Unique (some ·.dealId) t.deals)
    (uniqueHashes : Table.Unique (·.dealArtifactHash) t.deals)
    (uniqueSessions : Table.Unique (some ·.sessionId) t.bundles) :
    ProviderDatabase n where
  toTables := quarantineInvalidDeals n t
  uniqueIds := uniqueIds.deleteWhere _
  uniqueHashes := uniqueHashes.deleteWhere _
  uniqueSessions := uniqueSessions
  readable row hrow := by simpa using (mem_deleteWhere.mp hrow).2

def Node.owns (n : Node P) (client : Client) (row : DealRow) : Bool :=
  (n.decodeDealRow row).toOption.any (permitted client)

/-- Two databases agree on what a client may see: the rows of its deals, with
their documents, and the bundles of these deals. -/
structure AgreeOn (n : Node P) (client : Client) (t₁ t₂ : Tables) : Prop where
  deals : ∀ row, n.owns client row = true → (row ∈ t₁.deals ↔ row ∈ t₂.deals)
  bundles : ∀ row ∈ t₁.deals, n.owns client row = true →
    ∀ artifact, n.artifactOf row = .ok artifact →
      t₁.bundlesOf artifact.hash = t₂.bundlesOf artifact.hash

theorem owns_iff :
    n.owns client row = true
      ↔ ∃ deal, n.decodeDealRow row = .ok deal ∧ permitted client deal = true := by
  unfold Node.owns
  cases n.decodeDealRow row <;> simp [Except.toOption]

theorem reads_iff : n.reads row = true ↔ ∃ deal, n.decodeDealRow row = .ok deal := by
  unfold Node.reads
  cases n.decodeDealRow row <;> simp [Except.toOption]

/-! ## Reading rows -/

theorem column_eq_ok {decode : Json → Option α} {a : α} :
    n.column decode text = .ok a
      ↔ ∃ value, n.parseJson text = some value ∧ decode value = some a := by
  rw [Node.column, okOr_eq_ok, bind_eq_some_iff]

structure ReadAs (n : Node P) (row : DealRow) (deal : StoredDeal) : Prop where
  dealId : deal.dealId = row.dealId
  quote : n.quoteOf row = .ok deal.quote
  artifact : n.artifactOf row = .ok deal.artifact
  receipt : ∀ document ∈ row.receiptDocument, ∃ value, n.parseJson document = some value

theorem readAs_of_decodeDealRow (h : n.decodeDealRow row = .ok deal) : ReadAs n row deal := by
  unfold Node.decodeDealRow at h
  simp only [bind_eq_ok, pure_eq_ok] at h
  obtain ⟨quote, hquote, spec, -, artifact, hartifact, result, -, receipt, hreceipt, rfl⟩ := h
  refine ⟨rfl, hquote, hartifact, fun document hdocument => ?_⟩
  rw [mem_def.mp hdocument, some_or, Node.optionalColumn] at hreceipt
  obtain ⟨_, hcolumn, -⟩ := map_eq_ok.mp hreceipt
  obtain ⟨value, hvalue, -⟩ := column_eq_ok.mp hcolumn
  exact ⟨value, hvalue⟩

theorem payload_of_decodeSignedArtifact {decodePayload : Json → Option T}
    {artifact : SignedArtifact T}
    (h : decodeSignedArtifact decodePayload (.obj fields) = some artifact) :
    (fields.lookup "payload").bind decodePayload = some artifact.payload := by
  unfold decodeSignedArtifact at h
  simp only [decodeStruct_required_eq_some, defaulted, decodeStruct_readField_eq_some,
    decodeStruct_pure_eq_some] at h
  obtain ⟨_, -, _, -, _, -, _, -, _, -, _, -, payload, hpayload, _, -, rfl⟩ := h
  exact hpayload

theorem requesterId_of_decodeDealPayload {payload : DealPayload}
    (h : decodeDealPayload (.obj fields) = some payload) :
    (fields.lookup "requester_id").bind asString = some payload.requesterId := by
  unfold decodeDealPayload at h
  simp only [decodeStruct_required_eq_some, optional, defaulted, optionalDefaulted,
    decodeStruct_readField_eq_some, decodeStruct_pure_eq_some] at h
  obtain ⟨requesterId, hrequester, _, -, _, -, _, -, _, -, _, -, _, -, _, -, _, -, _, -, _, -,
    _, -, _, -, rfl⟩ := h
  exact hrequester

theorem offerHash_of_decodeQuotePayload {payload : QuotePayload}
    (h : decodeQuotePayload (.obj fields) = some payload) :
    (fields.lookup "offer_hash").bind asString = some payload.offerHash := by
  unfold decodeQuotePayload at h
  simp only [decodeStruct_required_eq_some, optional, defaulted, optionalDefaulted,
    decodeStruct_readField_eq_some, decodeStruct_pure_eq_some] at h
  obtain ⟨_, -, _, -, _, -, offerHash, hoffer, _, -, _, -, _, -, _, -, _, -, _, -, _, -, _, -,
    _, -, rfl⟩ := h
  exact hoffer

/-! ## The query selects what the check permits -/

theorem extract_payload {decodePayload : Json → Option T} {key : String} (read : T → String)
    (hfield : ∀ {fields payload}, decodePayload (.obj fields) = some payload →
      (fields.lookup key).bind asString = some (read payload)) {artifact : SignedArtifact T}
    (hdecode : decodeSignedArtifact decodePayload value = some artifact)
    (hextract : (extract ["payload", key] value).bind asString = some text) :
    read artifact.payload = text := by
  -- a path of keys is found in objects only
  match value, hextract with
  | .obj fields, hextract =>
    have hpayload := payload_of_decodeSignedArtifact hdecode
    rw [extract] at hextract
    match hlookup : fields.lookup "payload" with
    | none => simp [hlookup] at hextract
    | some (.obj inner) =>
      rw [hlookup] at hpayload hextract
      have hinner : (inner.lookup key).bind asString = some text := by
        cases hkey : inner.lookup key with
        | none => simp [extract, hkey] at hextract
        | some found => simpa [extract, hkey] using hextract
      exact some.inj ((hfield hpayload).symm.trans hinner)
    | some .null | some (.bool _) | some (.int _) | some (.float _) | some (.str _)
    | some (.arr _) => simp [hlookup, extract] at hextract

theorem extractText_eq_ok {path : List String} {found : Option String} :
    n.extractText path document = .ok found
      ↔ ∃ value, n.parseJson document = some value
        ∧ (extract path value).bind asString = found := by
  unfold Node.extractText
  simp only [bind_eq_ok, okOr_eq_ok, pure_eq_ok]

/-- The query selects deals the client may see. -/
theorem permitted_of_selects (hrequester : filter.requesterId = client.requesterId)
    (hoffers : filter.offerHashes = client.offerHashes) (hread : ReadAs n row deal)
    (h : n.selects filter row = .ok true) : permitted client deal = true := by
  unfold Node.selects at h
  split at h
  case h_2 => cases h
  case h_1 hash document quoteDocument _ hdocument hquote =>
    simp only [bind_eq_ok, pure_eq_ok, Bool.and_eq_true, beq_iff_eq, Option.any_eq_true] at h
    obtain ⟨requester, hrequesterText, offer, hofferText, _, -,
      ⟨⟨⟨rfl, offerHash, rfl, hcontains⟩, -⟩, -⟩, -⟩ := h
    have hartifact := hread.artifact
    have hquoteRead := hread.quote
    rw [Node.artifactOf, hdocument, getD_some] at hartifact
    rw [Node.quoteOf, hquote, getD_some] at hquoteRead
    obtain ⟨value, hvalue, hdecode⟩ := column_eq_ok.mp hartifact
    obtain ⟨quoteValue, hquoteValue, hquoteDecode⟩ := column_eq_ok.mp hquoteRead
    obtain ⟨value', hvalue', hextract⟩ := extractText_eq_ok.mp hrequesterText
    obtain ⟨quoteValue', hquoteValue', hquoteExtract⟩ := extractText_eq_ok.mp hofferText
    obtain rfl := some.inj (hvalue.symm.trans hvalue')
    obtain rfl := some.inj (hquoteValue.symm.trans hquoteValue')
    have hsame := extract_payload DealPayload.requesterId
      requesterId_of_decodeDealPayload hdecode hextract
    have hsameOffer := extract_payload QuotePayload.offerHash
      offerHash_of_decodeQuotePayload hquoteDecode hquoteExtract
    simp only [permitted, Bool.and_eq_true, beq_iff_eq]
    exact ⟨hsame.trans hrequester, by rw [hsameOffer, ← hoffers]; exact hcontains⟩

theorem extractText_of_parse (path : List String) (h : n.parseJson document = some value) :
    n.extractText path document = .ok ((extract path value).bind asString) :=
  extractText_eq_ok.mpr ⟨value, h, rfl⟩

theorem exists_selects (hread : ReadAs n row deal) (filter : ListFilter) :
    ∃ selected, n.selects filter row = .ok selected := by
  unfold Node.selects
  split
  case h_2 => exact ⟨false, rfl⟩
  case h_1 hash document quoteDocument _ hdocument hquote =>
    have hartifact := hread.artifact
    have hquoteRead := hread.quote
    rw [Node.artifactOf, hdocument, getD_some] at hartifact
    rw [Node.quoteOf, hquote, getD_some] at hquoteRead
    obtain ⟨value, hvalue, -⟩ := column_eq_ok.mp hartifact
    obtain ⟨quoteValue, hquoteValue, -⟩ := column_eq_ok.mp hquoteRead
    have hunsigned : ∃ state, n.unsignedStateOf row.status quoteDocument = .ok state := by
      unfold Node.unsignedStateOf
      rw [extractText_of_parse _ hquoteValue]
      split <;> exact ⟨_, rfl⟩
    have hstate : ∃ state, n.stateOf row quoteDocument = .ok state := by
      obtain ⟨state, hstate⟩ := hunsigned
      unfold Node.stateOf
      rw [hstate]
      cases hreceipt : row.receiptDocument with
      | none => exact ⟨state, rfl⟩
      | some document =>
        obtain ⟨receiptValue, hreceiptValue⟩ := hread.receipt document hreceipt
        rw [elim_some, extractText_of_parse _ hreceiptValue]
        dsimp only [bind, Except.bind]
        split <;> exact ⟨_, rfl⟩
    have hhas : ∃ has, n.hasState filter.status row quoteDocument = .ok has := by
      obtain ⟨state, hstate⟩ := hstate
      unfold Node.hasState
      rw [hstate]
      cases filter.status <;> exact ⟨_, rfl⟩
    obtain ⟨has, hhas⟩ := hhas
    rw [extractText_of_parse _ hvalue, extractText_of_parse _ hquoteValue, hhas]
    exact ⟨_, rfl⟩

def Node.selected (n : Node P) (filter : ListFilter) (row : DealRow) : Bool :=
  (n.selects filter row).toOption.getD false

theorem selects_eq_ok (hread : n.reads row = true) (filter : ListFilter) :
    n.selects filter row = .ok (n.selected filter row) := by
  obtain ⟨deal, hdeal⟩ := reads_iff.mp hread
  obtain ⟨selected, hselected⟩ := exists_selects (readAs_of_decodeDealRow hdeal) filter
  rw [Node.selected, hselected]
  rfl

structure ListFilter.IsOf (filter : ListFilter) (client : Client) : Prop where
  requesterId : filter.requesterId = client.requesterId
  offerHashes : filter.offerHashes = client.offerHashes

theorem owns_of_selected (hof : filter.IsOf client) (hread : n.reads row = true)
    (h : n.selected filter row = true) : n.owns client row = true := by
  obtain ⟨deal, hdeal⟩ := reads_iff.mp hread
  refine owns_iff.mpr ⟨deal, hdeal, ?_⟩
  exact permitted_of_selects hof.requesterId hof.offerHashes (readAs_of_decodeDealRow hdeal)
    (h ▸ selects_eq_ok hread filter)

/-! ## Lists -/

theorem listedBefore_trans (a b c : DealRow) (hab : listedBefore a b = true)
    (hbc : listedBefore b c = true) : listedBefore a c = true := by
  simp only [listedBefore, Bool.or_eq_true, Bool.and_eq_true, decide_eq_true_eq, beq_iff_eq]
    at hab hbc ⊢
  rcases hab with hab | ⟨hab, hids⟩ <;> rcases hbc with hbc | ⟨hbc, hids'⟩
  · exact .inl (hbc.trans hab)
  · exact .inl (hbc ▸ hab)
  · exact .inl (hab ▸ hbc)
  · exact .inr ⟨hab.trans hbc, String.le_trans hids hids'⟩

theorem listedBefore_total (a b : DealRow) : (listedBefore a b || listedBefore b a) = true := by
  simp only [listedBefore, Bool.or_eq_true, Bool.and_eq_true, decide_eq_true_eq, beq_iff_eq]
  rcases lt_trichotomy a.updatedAt b.updatedAt with h | h | h
  · exact .inr (.inl h)
  · rcases String.le_total a.dealId b.dealId with hid | hid
    · exact .inl (.inr ⟨h, hid⟩)
    · exact .inr (.inr ⟨h.symm, hid⟩)
  · exact .inl (.inl h)

theorem dealId_eq_of_listedBefore {a b : DealRow} (hab : listedBefore a b = true)
    (hba : listedBefore b a = true) : a.dealId = b.dealId := by
  simp only [listedBefore, Bool.or_eq_true, Bool.and_eq_true, decide_eq_true_eq, beq_iff_eq]
    at hab hba
  rcases hab with hab | ⟨hab, hids⟩ <;> rcases hba with hba | ⟨hba, hids'⟩
  · exact absurd (hab.trans hba) (lt_irrefl _)
  · exact absurd (hba ▸ hab) (lt_irrefl _)
  · exact absurd (hab ▸ hba) (lt_irrefl _)
  · exact String.le_antisymm hids hids'

/-- A page does not depend on the order of the rows, since no id occurs twice. -/
theorem mergeSort_eq_of_perm {deals l₁ l₂ : List DealRow}
    (hids : Table.Unique (some ·.dealId) deals) (hsub : l₁ ⊆ deals)
    (hperm : l₁.Perm l₂) : l₁.mergeSort listedBefore = l₂.mergeSort listedBefore := by
  have hsorted := pairwise_mergeSort listedBefore_trans listedBefore_total
  refine Perm.eq_of_pairwise (fun a b ha hb hab hba => ?_) (hsorted l₁) (hsorted l₂)
    ((mergeSort_perm l₁ _).trans (hperm.trans (mergeSort_perm l₂ _).symm))
  have hmem : a ∈ deals := hsub ((mergeSort_perm l₁ _).subset ha)
  have hmem' : b ∈ deals := hsub (hperm.symm.subset ((mergeSort_perm l₂ _).subset hb))
  exact hids.eq_of_mem hmem hmem' rfl (congrArg some (dealId_eq_of_listedBefore hab hba).symm)

variable {db₁ db₂ : ProviderDatabase n}
variable (db : ProviderDatabase n)

theorem rowByHash_of_mem (hrow : row ∈ db.deals)
    (hhash : row.dealArtifactHash = some hash) : db.rowByHash hash = some row :=
  db.uniqueHashes.selectWhere_of_mem hrow (fun row => by simp) hhash

/-- A list is the same from both databases. -/
theorem listDeals_eq (hagree : AgreeOn n client db₁.toTables db₂.toTables)
    (hof : filter.IsOf client) :
    db₁.toTables.listDeals n filter = db₂.toTables.listDeals n filter := by
  have hselect : ∀ db : ProviderDatabase n, db.deals.filterM (n.selects filter)
      = .ok (db.deals.filter (n.selected filter)) := fun db =>
    filterM_eq_ok fun row hrow => selects_eq_ok (db.readable row hrow) filter
  have hmem : ∀ row, row ∈ db₁.deals.filter (n.selected filter)
      ↔ row ∈ db₂.deals.filter (n.selected filter) := by
    intro row
    rw [mem_filter, mem_filter]
    refine and_congr_left fun hselected => ⟨fun hrow => ?_, fun hrow => ?_⟩
    · exact (hagree.deals row (owns_of_selected hof (db₁.readable row hrow) hselected)).mp hrow
    · exact (hagree.deals row (owns_of_selected hof (db₂.readable row hrow) hselected)).mpr hrow
  have hperm : (db₁.deals.filter (n.selected filter)).Perm
      (db₂.deals.filter (n.selected filter)) :=
    (perm_ext_iff_of_nodup (db₁.uniqueIds.nodup.filter _) (db₂.uniqueIds.nodup.filter _)).mpr hmem
  have hpage := mergeSort_eq_of_perm db₁.uniqueIds
    (fun row hrow => (mem_filter.mp (mem_filter.mp hrow).1).1)
    (hperm.filter (isBehind filter.cursor))
  unfold Tables.listDeals
  rw [hselect db₁, hselect db₂]
  dsimp only [bind, Except.bind]
  rw [hpage, hperm.length_eq, mapM_congr_left fun hash hhash => ?_]
  -- the hash of a row on the page finds this row
  obtain ⟨row, hpageRow, hrowHash⟩ := mem_filterMap.mp hhash
  have hrow : row ∈ db₂.deals.filter (n.selected filter) :=
    (mem_filter.mp ((mergeSort_perm _ _).subset (mem_of_mem_take hpageRow))).1
  rw [rowByHash_of_mem db₂ (mem_filter.mp hrow).1 hrowHash,
    rowByHash_of_mem db₁ (mem_filter.mp ((hmem row).mpr hrow)).1 hrowHash]

/-! ## The deal a request names -/

def ownedRow (n : Node P) (client : Client) (t : Tables) (hash : String) : Option DealRow :=
  (t.rowByHash hash).filter (n.owns client)

theorem ownedRow_eq_some {db : ProviderDatabase n} :
    ownedRow n client db.toTables hash = some row
      ↔ row ∈ db.deals ∧ row.dealArtifactHash = some hash ∧ n.owns client row = true := by
  rw [ownedRow, filter_eq_some_iff]
  constructor
  · rintro ⟨hfound, howns⟩
    obtain ⟨hmem, hhash⟩ := selectWhere_some hfound
    exact ⟨hmem, beq_iff_eq.mp hhash, howns⟩
  · rintro ⟨hmem, hhash, howns⟩
    exact ⟨rowByHash_of_mem db hmem hhash, howns⟩

theorem ownedRow_eq (hagree : AgreeOn n client db₁.toTables db₂.toTables) (hash : String) :
    ownedRow n client db₁.toTables hash = ownedRow n client db₂.toTables hash := by
  ext row
  rw [ownedRow_eq_some, ownedRow_eq_some]
  constructor
  · rintro ⟨hmem, hhash, howns⟩
    exact ⟨(hagree.deals row howns).mp hmem, hhash, howns⟩
  · rintro ⟨hmem, hhash, howns⟩
    exact ⟨(hagree.deals row howns).mpr hmem, hhash, howns⟩

theorem ownedDeal_found (hash : String) :
    (n.readRow (db.rowByHash hash)).map (·.filter (permitted client))
      = n.readRow (ownedRow n client db.toTables hash) := by
  unfold ownedRow
  cases hfound : db.rowByHash hash with
  | none => rfl
  | some row =>
    obtain ⟨deal, hdeal⟩ := reads_iff.mp (db.readable row (selectWhere_some hfound).1)
    have howns : n.owns client row = permitted client deal := by
      rw [Node.owns, hdeal]
      rfl
    simp only [Node.readRow, filter_some, howns]
    cases hpermitted : permitted client deal <;>
      simp [hdeal, Except.map, hpermitted]

/-! ## Staying with one deal -/

section OneDeal

variable (n : Node P) (dealId hash : String) (sessions : Set String)

def Within : TaskCall → Prop
  | .deal id | .prepaidInvoice id | .promote id _ | .reject id _ _ _ _ | .spawn id => id = dealId
  | .lightning (.bundleByDealHash dealHash) => dealHash = hash
  | .lightning (.updateStates sessionId _ _) => sessionId ∈ sessions
  | .lightning (.persistBundle _) => False
  | .lightning _ | .executionPermit => True
  | .dealByArtifactHash _ | .list _ => False

def Answered : (c : TaskCall) → c.Answer → Prop
  | .deal _, answer => ∀ deal, answer = .ok (some deal) →
    deal.dealId = dealId ∧ deal.artifact.hash = hash
  | .lightning (.bundleByDealHash _), answer => ∀ session, answer = .ok (some session) →
    session.sessionId ∈ sessions
  | .lightning (.updateStates _ _ _), answer => ∀ session, answer = .ok (some session) →
    session.sessionId ∈ sessions
  | _, _ => True

structure Keyed (t : Tables) : Prop where
  ids : Table.Unique (some ·.dealId) t.deals
  sessions : Table.Unique (some ·.sessionId) t.bundles

/-- Two databases hold the same of one deal: its row, and the bundles of its hash,
whose sessions are these. -/
structure SameDeal (t₁ t₂ : Tables) : Prop where
  row : t₁.rowById dealId = t₂.rowById dealId
  artifact : ∀ row ∈ t₁.rowById dealId, ∀ artifact, n.artifactOf row = .ok artifact →
    artifact.hash = hash
  bundles : t₁.bundlesOf hash = t₂.bundlesOf hash
  sessions : ∀ id, id ∈ sessions ↔ ∃ session ∈ t₁.bundlesOf hash, session.sessionId = id
  keyed₁ : Keyed t₁
  keyed₂ : Keyed t₂

end OneDeal

variable {dealId hash : String} {sessions : Set String} {t₁ t₂ : Tables}

theorem SameDeal.answered_deal (h : SameDeal n dealId hash sessions t₁ t₂) (deal : StoredDeal)
    (hread : n.readRow (t₁.rowById dealId) = .ok (some deal)) :
    deal.dealId = dealId ∧ deal.artifact.hash = hash := by
  cases hrow : t₁.rowById dealId with
  | none => rw [hrow] at hread; cases hread
  | some row =>
    rw [hrow, Node.readRow, elim_some] at hread
    obtain ⟨_, hdecode, heq⟩ := map_eq_ok.mp hread
    obtain rfl := some.inj heq
    have hreads := readAs_of_decodeDealRow hdecode
    refine ⟨hreads.dealId.trans ?_, h.artifact row hrow _ hreads.artifact⟩
    exact beq_iff_eq.mp (selectWhere_some hrow).2

theorem Keyed.updateDeals (h : Keyed t) (hid : ∀ row, (f row).dealId = row.dealId) :
    Keyed { t with deals := updateWhere p f t.deals } :=
  ⟨h.ids.updateWhere fun row _ _ => congrArg some (hid row), h.sessions⟩

theorem SameDeal.updateDeals (h : SameDeal n dealId hash sessions t₁ t₂)
    (hid : ∀ row, (f row).dealId = row.dealId)
    (hartifact : ∀ row, n.artifactOf (f row) = n.artifactOf row) :
    SameDeal n dealId hash sessions { t₁ with deals := updateWhere p f t₁.deals }
      { t₂ with deals := updateWhere p f t₂.deals } := by
  have hfind : ∀ t : Tables,
      Tables.rowById { t with deals := updateWhere p f t.deals } dealId
        = (t.rowById dealId).map (fun row => if p row then f row else row) := fun t =>
    selectWhere_updateWhere fun row => by rw [hid]
  refine ⟨by rw [hfind, hfind, h.row], fun row hrow artifact hread => ?_, h.bundles, h.sessions,
    h.keyed₁.updateDeals hid, h.keyed₂.updateDeals hid⟩
  rw [hfind] at hrow
  obtain ⟨row₀, hrow₀, rfl⟩ := map_eq_some_iff.mp hrow
  refine h.artifact row₀ hrow₀ artifact ?_
  split at hread
  · rwa [hartifact] at hread
  · exact hread

theorem Keyed.any_row (h : Keyed t) (p : DealRow → Bool) :
    t.deals.any (fun row => row.dealId == dealId && p row) = (t.rowById dealId).any p := by
  rw [Bool.eq_iff_iff, List.any_eq_true, Option.any_eq_true]
  constructor
  · rintro ⟨row, hrow, hmatch⟩
    rw [Bool.and_eq_true, beq_iff_eq] at hmatch
    exact ⟨row, h.ids.selectWhere_of_mem hrow (fun row => by simp) (congrArg some hmatch.1),
      hmatch.2⟩
  · rintro ⟨row, hfound, hmatch⟩
    obtain ⟨hrow, hid⟩ := selectWhere_some hfound
    exact ⟨row, hrow, by rw [hid, hmatch]; rfl⟩

theorem SameDeal.promote (h : SameDeal n dealId hash sessions t₁ t₂) (now : ℤ) :
    (t₁.promote dealId now).1 = (t₂.promote dealId now).1
    ∧ SameDeal n dealId hash sessions (t₁.promote dealId now).2 (t₂.promote dealId now).2 := by
  have hpromoted : ∀ {t : Tables}, Keyed t →
      (t.promote dealId now).1 = (t.rowById dealId).any (·.status == .paymentPending) :=
    fun hkeyed => hkeyed.any_row _
  exact ⟨by rw [hpromoted h.keyed₁, hpromoted h.keyed₂, h.row],
    h.updateDeals (fun _ => rfl) (fun _ => rfl)⟩

theorem SameDeal.reject (h : SameDeal n dealId hash sessions t₁ t₂) (expected : DealStatus)
    (message : String) (receipt : SignedReceipt) (now : ℤ) :
    (∃ e, t₁.reject n dealId expected message receipt now = .error e
      ∧ t₂.reject n dealId expected message receipt now = .error e)
    ∨ ∃ t₁' t₂', t₁.reject n dealId expected message receipt now = .ok t₁'
      ∧ t₂.reject n dealId expected message receipt now = .ok t₂'
      ∧ SameDeal n dealId hash sessions t₁' t₂' := by
  unfold Tables.reject
  rw [← h.row]
  match n.readRow (t₁.rowById dealId) with
  | .error e => exact .inl ⟨e, rfl, rfl⟩
  | .ok none => exact .inr ⟨t₁, t₂, rfl, rfl, h⟩
  | .ok (some current) =>
    dsimp only [bind, Except.bind]
    by_cases hstatus : (current.status != expected) = true
    · rw [if_pos hstatus, if_pos hstatus]
      exact .inr ⟨t₁, t₂, rfl, rfl, h⟩
    · rw [if_neg hstatus, if_neg hstatus]
      cases Tables.evidenceHash P
          (.obj [("code", .str "capacity_exhausted"), ("message", .str message)]) with
      | error e => exact .inl ⟨e, rfl, rfl⟩
      | ok failureHash =>
        cases Tables.evidenceHash P (.obj [("artifact_hash", .str receipt.hash)]) with
        | error e => exact .inl ⟨e, rfl, rfl⟩
        | ok _ => exact .inr ⟨_, _, rfl, rfl, h.updateDeals (fun _ => rfl) (fun _ => rfl)⟩

def Tables.updateStates (t : Tables) (sessionId : String)
    (baseState successState : InvoiceBundleLegState) : Tables :=
  { t with
    bundles := updateLightningInvoiceBundleStates sessionId baseState successState t.bundles }

section UpdateStates

variable {sessionId : String} {baseState successState : InvoiceBundleLegState}

theorem bundlesOf_updateStates (t : Tables) :
    (t.updateStates sessionId baseState successState).bundlesOf hash
      = updateLightningInvoiceBundleStates sessionId baseState successState (t.bundlesOf hash) :=
  filter_updateWhere fun _ => rfl

theorem Keyed.updateStates (h : Keyed t) :
    Keyed (t.updateStates sessionId baseState successState) :=
  ⟨h.ids, h.sessions.updateWhere fun _ _ _ => rfl⟩

theorem Keyed.sessionById (h : Keyed t) (hmem : session ∈ t.bundlesOf hash) :
    t.sessionById session.sessionId = some session :=
  h.sessions.selectWhere_of_mem (mem_filter.mp hmem).1 (fun _ => by simp) rfl

theorem sessionIds_updateStates {bundles : List LightningInvoiceBundleSession} :
    (∃ session ∈ updateLightningInvoiceBundleStates sessionId baseState successState bundles,
        session.sessionId = id) ↔ ∃ session ∈ bundles, session.sessionId = id := by
  unfold updateLightningInvoiceBundleStates updateWhere
  simp only [List.mem_map, exists_exists_and_eq_and]
  refine exists_congr fun session => and_congr_right fun _ => ?_
  split <;> rfl

theorem SameDeal.updateStates (h : SameDeal n dealId hash sessions t₁ t₂)
    (hsession : sessionId ∈ sessions) :
    (t₁.updateStates sessionId baseState successState).sessionById sessionId
      = (t₂.updateStates sessionId baseState successState).sessionById sessionId
    ∧ (∀ session, (t₁.updateStates sessionId baseState successState).sessionById sessionId
        = some session → session.sessionId ∈ sessions)
    ∧ SameDeal n dealId hash sessions (t₁.updateStates sessionId baseState successState)
        (t₂.updateStates sessionId baseState successState) := by
  have hbundles : (t₁.updateStates sessionId baseState successState).bundlesOf hash
      = (t₂.updateStates sessionId baseState successState).bundlesOf hash := by
    rw [bundlesOf_updateStates, bundlesOf_updateStates, h.bundles]
  have hsame : SameDeal n dealId hash sessions (t₁.updateStates sessionId baseState successState)
      (t₂.updateStates sessionId baseState successState) :=
    ⟨h.row, h.artifact, hbundles, fun id => by
      rw [bundlesOf_updateStates, sessionIds_updateStates, h.sessions], h.keyed₁.updateStates,
      h.keyed₂.updateStates⟩
  -- the session is one of the deal, so both lookups find the same row
  obtain ⟨session, hmem, rfl⟩ := (hsame.sessions sessionId).mp hsession
  refine ⟨?_, fun found hfound => ?_, hsame⟩
  · rw [hsame.keyed₁.sessionById hmem, hsame.keyed₂.sessionById (hbundles ▸ hmem)]
  · rw [beq_iff_eq.mp (selectWhere_some hfound).2]
    exact hsession

end UpdateStates

structure SameStep (n : Node P) (dealId hash : String) (sessions : Set String) (c : TaskCall)
    (r₁ r₂ : c.Answer × Tables) : Prop where
  answer : r₁.1 = r₂.1
  answered : Answered dealId hash sessions c r₁.1
  tables : SameDeal n dealId hash sessions r₁.2 r₂.2

/-- One call about the deal is answered alike from both databases. -/
theorem SameDeal.perform (h : SameDeal n dealId hash sessions t₁ t₂) (outside : Outside)
    (history : List TaskCall) {c : TaskCall} (hc : Within dealId hash sessions c) :
    SameStep n dealId hash sessions c (t₁.perform n outside history c)
      (t₂.perform n outside history c) := by
  cases c with
  | dealByArtifactHash | list => exact hc.elim
  | deal id =>
    obtain rfl : id = dealId := hc
    show SameStep n _ _ _ (.deal id) (n.readRow (t₁.rowById id), t₁) (n.readRow (t₂.rowById id), t₂)
    exact ⟨congrArg n.readRow h.row, h.answered_deal, h⟩
  | prepaidInvoice id =>
    obtain rfl : id = dealId := hc
    show SameStep n _ _ _ (.prepaidInvoice id) (.ok ((t₁.rowById id).bind (·.prepaidInvoice)), t₁)
      (.ok ((t₂.rowById id).bind (·.prepaidInvoice)), t₂)
    rw [h.row]
    exact ⟨rfl, trivial, h⟩
  | promote id now =>
    obtain rfl : id = dealId := hc
    show SameStep n _ _ _ (.promote id now) (t₁.promote id now) (t₂.promote id now)
    exact ⟨(h.promote now).1, trivial, (h.promote now).2⟩
  | reject id expected message receipt now =>
    obtain rfl : id = dealId := hc
    unfold Tables.perform
    dsimp only
    obtain ⟨e, h₁, h₂⟩ | ⟨t₁', t₂', h₁, h₂, hsame⟩ := h.reject expected message receipt now
    · rw [h₁, h₂]
      exact ⟨rfl, trivial, h⟩
    · rw [h₁, h₂]
      exact ⟨rfl, trivial, hsame⟩
  | executionPermit | spawn => exact ⟨rfl, trivial, h⟩
  | lightning c =>
    cases c with
    | bundleByDealHash dealHash =>
      obtain rfl : dealHash = hash := hc
      show SameStep n _ _ _ (.lightning (.bundleByDealHash dealHash))
        (.ok (t₁.bundlesOf dealHash).head?, t₁) (.ok (t₂.bundlesOf dealHash).head?, t₂)
      rw [← h.bundles]
      refine ⟨rfl, fun session hsession => ?_, h⟩
      exact (h.sessions _).mpr ⟨session, mem_of_head? (Except.ok.inj hsession), rfl⟩
    | updateStates sessionId baseState successState =>
      obtain ⟨hanswer, hof, hsame⟩ := h.updateStates hc
      exact ⟨congrArg Except.ok hanswer, fun session heq => hof session (Except.ok.inj heq), hsame⟩
    | persistBundle => exact hc.elim
    | destinationIdentity | addHoldInvoice | lookupInvoice | settleInvoice | cancelInvoice
    | renewClaim | clock => exact ⟨rfl, trivial, h⟩

def Stays (dealId hash : String) (sessions : Set String) (p : TaskProg α) (Q : α → Prop) : Prop :=
  p.Confined (Within dealId hash sessions) (Answered dealId hash sessions) Q

/-- A program that stays with the deal runs alike from both databases. -/
theorem SameDeal.run (outside : Outside) {p : TaskProg α} {Q : α → Prop}
    (hp : Stays dealId hash sessions p Q)
    {history : List TaskCall} (h : SameDeal n dealId hash sessions t₁ t₂) :
    (p.run (World.perform n outside) ⟨t₁, history⟩).1
      = (p.run (World.perform n outside) ⟨t₂, history⟩).1 := by
  induction p generalizing t₁ t₂ history with
  | ret a => rfl
  | fail e => rfl
  | call c next ih =>
    have hstep := h.perform outside history hp.1
    calc ((Prog.call c next).run (World.perform n outside) ⟨t₁, history⟩).1
        = ((next (t₁.perform n outside history c).1).run (World.perform n outside)
            ⟨(t₁.perform n outside history c).2, history ++ [c]⟩).1 := rfl
      _ = ((next (t₁.perform n outside history c).1).run (World.perform n outside)
            ⟨(t₂.perform n outside history c).2, history ++ [c]⟩).1 :=
          ih _ (hp.2 _ hstep.answered) hstep.tables
      _ = ((Prog.call c next).run (World.perform n outside) ⟨t₂, history⟩).1 := by
          rw [hstep.answer]
          rfl

/-! ### The Lightning side -/

def LightningStays (dealId hash : String) (sessions : Set String)
    (p : LightningProg α) (Q : α → Prop) : Prop :=
  p.Confined (fun c => Within dealId hash sessions (.lightning c))
    (fun c => Answered dealId hash sessions (.lightning c)) Q

section Lightning

open LightningCall

variable {β : Type}

theorem LightningStays.bind {p : LightningProg α} {f : α → LightningProg β} {Q : α → Prop}
    {R : β → Prop} (h : LightningStays dealId hash sessions p Q)
    (hf : ∀ a, Q a → LightningStays dealId hash sessions (f a) R) :
    LightningStays dealId hash sessions (p >>= f) R :=
  Prog.Confined.bind h hf

theorem lightningStays_pure {a : α} {Q : α → Prop} (h : Q a) :
    LightningStays dealId hash sessions (pure a) Q := h

theorem lightningStays_ask (c : LightningCall) (hc : Within dealId hash sessions (.lightning c)) :
    LightningStays dealId hash sessions (ask c) (Answered dealId hash sessions (.lightning c)) :=
  ⟨hc, fun _ hanswer => hanswer⟩

theorem lightningStays_ofExcept (result : Except String α) :
    LightningStays dealId hash sessions (Prog.ofExcept result) (result = .ok ·) :=
  Prog.confined_ofExcept.mpr fun _ heq => heq

theorem lightningStays_cancelLndInvoices (tolerated : WalletError → Bool) (hashes : List String) :
    LightningStays dealId hash sessions (cancelLndInvoices (cancelAllowing tolerated) hashes)
      fun _ => True := by
  induction hashes with
  | nil => trivial
  | cons paymentHash rest ih =>
    have hcancel : LightningStays dealId hash sessions (cancelAllowing tolerated paymentHash)
        fun _ => True := by
      refine (lightningStays_ask (.cancelInvoice paymentHash) trivial).bind fun answer _ => ?_
      split <;> trivial
    refine hcancel.bind fun answer _ => ih.bind fun failures _ => ?_
    split <;> trivial

theorem lightningStays_cancelLightningInvoiceBundle (session : LightningInvoiceBundleSession) :
    LightningStays dealId hash sessions (cancelLightningInvoiceBundle session) fun _ => True := by
  refine (lightningStays_cancelLndInvoices _ _).bind fun failures _ => ?_
  split <;> trivial

theorem lightningStays_lookupLeg (paymentHash : String) :
    LightningStays dealId hash sessions (lookupLeg paymentHash) fun _ => True :=
  (lightningStays_ask (.lookupInvoice paymentHash) trivial).bind fun _ _ =>
    (lightningStays_ofExcept _).bind fun _ _ => trivial

theorem lightningStays_storeStates (h : session.sessionId ∈ sessions)
    (baseState successState : InvoiceBundleLegState) (missing : String) :
    LightningStays dealId hash sessions (storeStates session baseState successState missing)
      (·.sessionId ∈ sessions) := by
  unfold storeStates
  split
  · exact h
  · refine (lightningStays_ask (.updateStates _ _ _) h).bind fun answer hanswer => ?_
    refine (lightningStays_ofExcept answer).bind fun row hrow => ?_
    refine Prog.confined_ofExcept.mpr fun found hfound => ?_
    exact hanswer found (hrow.trans (congrArg Except.ok (okOr_eq_ok.mp hfound)))

theorem lightningStays_syncBaseLeg (lnd : LndNode P) :
    LightningStays dealId hash sessions (lnd.syncBaseLeg session) fun _ => True := by
  unfold LndNode.syncBaseLeg
  split
  · trivial
  · refine (lightningStays_lookupLeg _).bind fun state _ => ?_
    split
    · refine (lightningStays_ask (.settleInvoice _) trivial).bind fun answer _ => ?_
      match answer with
      | .ok _ | .error .alreadySettled => exact lightningStays_lookupLeg _
      | .error .notFound | .error (.backend _) => trivial
    · trivial

theorem lightningStays_expire (lnd : LndNode P) (h : session.sessionId ∈ sessions) :
    LightningStays dealId hash sessions (do
      let now ← ask .clock
      let (baseState, successState) ←
        Prog.ofExcept (expireOpenInvoiceLegsIfDue lnd.parser session now)
      storeStates session baseState successState
        "lightning invoice bundle disappeared during expiry normalization")
      (·.sessionId ∈ sessions) :=
  (lightningStays_ask .clock trivial).bind fun _ _ =>
    (lightningStays_ofExcept _).bind fun _ _ => lightningStays_storeStates h _ _ _

theorem lightningStays_syncLightningInvoiceBundleSession (lnd : LndNode P)
    (h : session.sessionId ∈ sessions) :
    LightningStays dealId hash sessions (lnd.syncLightningInvoiceBundleSession session)
      (·.sessionId ∈ sessions) := by
  refine (lightningStays_syncBaseLeg lnd).bind fun _ _ => ?_
  refine (lightningStays_lookupLeg _).bind fun _ _ => ?_
  refine (lightningStays_storeStates h _ _ _).bind fun stored hstored => ?_
  exact lightningStays_expire lnd hstored

theorem lightningStays_syncSession (h : session.sessionId ∈ sessions) :
    LightningStays dealId hash sessions (n.syncSession session) (·.sessionId ∈ sessions) := by
  unfold Node.syncSession
  split
  · exact lightningStays_expire n.lnd h
  · trivial
  · exact lightningStays_syncLightningInvoiceBundleSession n.lnd h

theorem lightningStays_bundleByDealHash :
    LightningStays dealId hash sessions (n.bundleByDealHash hash)
      fun found => ∀ session ∈ found, session.sessionId ∈ sessions := by
  unfold Node.bundleByDealHash
  refine (lightningStays_ask (.bundleByDealHash hash) rfl).bind fun answer hanswer => ?_
  refine (lightningStays_ofExcept answer).bind fun row hrow => ?_
  cases row with
  | none => exact lightningStays_pure (by simp)
  | some session =>
    refine (lightningStays_syncSession (hanswer session hrow)).bind fun synced hsynced => ?_
    exact lightningStays_pure (by simpa using hsynced)

theorem lightningStays_dealLightningInvoiceBundle (hdeal : deal.artifact.hash = hash) :
    LightningStays dealId hash sessions (n.dealLightningInvoiceBundle deal)
      fun found => ∀ session ∈ found, session.sessionId ∈ sessions := by
  unfold Node.dealLightningInvoiceBundle
  split
  · exact lightningStays_pure (by simp)
  · rw [hdeal]
    exact lightningStays_bundleByDealHash

theorem lightningStays_cancelAndSyncSession (h : session.sessionId ∈ sessions) :
    LightningStays dealId hash sessions (n.cancelAndSyncSession session) fun _ => True := by
  unfold Node.cancelAndSyncSession
  split
  · exact (lightningStays_storeStates h _ _ _).mono fun _ _ => trivial
  · trivial
  · refine (lightningStays_cancelLightningInvoiceBundle session).bind fun _ _ => ?_
    exact (lightningStays_syncLightningInvoiceBundleSession n.lnd h).mono fun _ _ => trivial

theorem lightningStays_cancelDealBundle (hdeal : deal.artifact.hash = hash) :
    LightningStays dealId hash sessions (n.cancelDealBundle deal) fun _ => True := by
  refine (lightningStays_dealLightningInvoiceBundle hdeal).bind fun found hfound => ?_
  cases found with
  | none => trivial
  | some bundle =>
    exact (lightningStays_cancelAndSyncSession (hfound bundle rfl)).bind fun _ _ => trivial

end Lightning

/-! ### The handlers -/

section Handlers

variable {β : Type}

theorem Stays.bind {p : TaskProg α} {f : α → TaskProg β} {Q : α → Prop} {R : β → Prop}
    (h : Stays dealId hash sessions p Q) (hf : ∀ a, Q a → Stays dealId hash sessions (f a) R) :
    Stays dealId hash sessions (p >>= f) R :=
  Prog.Confined.bind h hf

theorem stays_pure {a : α} {Q : α → Prop} (h : Q a) : Stays dealId hash sessions (pure a) Q := h

theorem stays_ofExcept (result : Except Failure α) :
    Stays dealId hash sessions (Prog.ofExcept result) (result = .ok ·) :=
  Prog.confined_ofExcept.mpr fun _ heq => heq

theorem stays_query (c : TaskCall) (hc : Within dealId hash sessions c) :
    Stays dealId hash sessions (query c) (Answered dealId hash sessions c) :=
  ⟨hc, fun _ hanswer => hanswer⟩

theorem stays_lightning {p : LightningProg α} {Q : α → Prop}
    (h : LightningStays dealId hash sessions p Q) :
    Stays dealId hash sessions (lightning p) fun result => ∀ a, result = .ok a → Q a := by
  induction p with
  | ret a => exact fun _ heq => Except.ok.inj heq ▸ h
  | fail e => exact fun _ heq => nomatch heq
  | call c next ih => exact ⟨h.1, fun answer hanswer => ih answer (h.2 answer hanswer)⟩

structure IsDeal (dealId hash : String) (deal : StoredDeal) : Prop where
  dealId : deal.dealId = dealId
  hash : deal.artifact.hash = hash

theorem stays_clock : Stays dealId hash sessions Node.clock fun _ => True :=
  (stays_query (.lightning .clock) trivial).mono fun _ _ => trivial

section

variable (hdeal : IsDeal dealId hash deal)
include hdeal

theorem stays_rejectDealBeforeExecution (expected : DealStatus) (message : String) :
    Stays dealId hash sessions (n.rejectDealBeforeExecution deal expected message)
      fun _ => True := by
  unfold Node.rejectDealBeforeExecution
  refine stays_clock.bind fun completedAt _ => ?_
  refine (stays_lightning (lightningStays_cancelDealBundle hdeal.hash)).bind fun canceled _ => ?_
  split
  · trivial
  · exact (stays_query (.reject _ _ _ _ _) hdeal.dealId).bind fun _ _ => trivial

theorem stays_promoteDeal : Stays dealId hash sessions (Node.promoteDeal deal) fun _ => True := by
  unfold Node.promoteDeal
  refine stays_clock.bind fun now _ => ?_
  refine (stays_query (.promote _ now) hdeal.dealId).bind fun promoted _ => ?_
  cases promoted with
  | false => trivial
  | true => exact (stays_query (.spawn _) hdeal.dealId).mono fun _ _ => trivial

theorem stays_promoteLightningDealIfFunded (bundle : LightningInvoiceBundleSession) :
    Stays dealId hash sessions (n.promoteLightningDealIfFunded deal bundle) fun _ => True := by
  unfold Node.promoteLightningDealIfFunded
  split
  · trivial
  split
  · refine (stays_query .executionPermit trivial).bind fun permit _ => ?_
    match permit with
    | .ok _ => exact stays_promoteDeal hdeal
    | .error message => exact stays_rejectDealBeforeExecution hdeal _ message
  · exact stays_promoteDeal hdeal

theorem stays_syncAndMaybePromoteLightningDeal :
    Stays dealId hash sessions (n.syncAndMaybePromoteLightningDeal deal) fun _ => True := by
  unfold Node.syncAndMaybePromoteLightningDeal
  refine (stays_lightning (lightningStays_dealLightningInvoiceBundle hdeal.hash)).bind
    fun result _ => ?_
  match result with
  | .ok (some bundle) =>
    exact (stays_promoteLightningDealIfFunded hdeal bundle).bind fun _ _ => trivial
  | .ok none | .error _ => trivial

end

theorem stays_loadDeal :
    Stays dealId hash sessions (Node.loadDeal dealId) (IsDeal dealId hash) := by
  unfold Node.loadDeal
  refine (stays_query (.deal dealId) rfl).bind fun answer hanswer => ?_
  match answer with
  | .ok (some deal) => exact stays_pure ⟨(hanswer deal rfl).1, (hanswer deal rfl).2⟩
  | .ok none | .error _ => trivial

theorem stays_getDealStatus :
    Stays dealId hash sessions (n.getDealStatus dealId) (·.dealId = dealId) := by
  unfold Node.getDealStatus
  refine stays_loadDeal.bind fun deal hdeal => ?_
  split
  · refine (stays_syncAndMaybePromoteLightningDeal hdeal).bind fun result _ => ?_
    match result with
    | .ok _ => exact stays_loadDeal.bind fun reloaded hreloaded => stays_pure hreloaded.dealId
    | .error _ => trivial
  · exact stays_pure hdeal.dealId

theorem stays_getDealInvoiceBundle :
    Stays dealId hash sessions (n.getDealInvoiceBundle dealId) fun _ => True := by
  unfold Node.getDealInvoiceBundle
  refine stays_loadDeal.bind fun deal hdeal => ?_
  refine (stays_syncAndMaybePromoteLightningDeal hdeal).bind fun result _ => ?_
  match result with
  | .ok (some bundle) => dsimp only; split <;> trivial
  | .ok none | .error _ => trivial

theorem dealId_of_responseValue {shown record : DealRecord}
    (hvalue : n.responseValue (toJson shown) = .ok value)
    (hrecord : decodeDealRecord value = some record) : record.dealId = shown.dealId := by
  unfold Node.responseValue at hvalue
  simp only [bind_eq_ok, okOr_eq_ok] at hvalue
  obtain ⟨-, -, hparse⟩ := hvalue
  obtain ⟨fields, rfl, hfield⟩ :=
    n.parse_text (show lookup "deal_id" _ = some (Json.str shown.dealId) from rfl) hparse
  unfold decodeDealRecord at hrecord
  simp only [decodeStruct_required_eq_some, optional, defaulted, optionalDefaulted,
    decodeStruct_readField_eq_some, decodeStruct_pure_eq_some] at hrecord
  obtain ⟨dealId, hdealId, _, -, _, -, _, -, _, -, _, -, _, -, _, -, _, -, _, -, _, -, _, -, _, -,
    rfl⟩ := hrecord
  rw [hfield, bind_some] at hdealId
  exact (some.inj hdealId).symm

theorem stays_refreshedRecord (hdeal : IsDeal dealId hash deal) :
    Stays dealId hash sessions (n.refreshedRecord deal) fun _ => True := by
  unfold Node.refreshedRecord
  rw [hdeal.dealId]
  refine stays_getDealStatus.bind fun shown hshown => ?_
  refine (stays_ofExcept _).bind fun value hvalue => ?_
  refine (stays_ofExcept _).bind fun record hrecord => ?_
  have hrecordId := dealId_of_responseValue hvalue (okOr_eq_ok.mp hrecord)
  split
  · refine (stays_query (.prepaidInvoice _) (hrecordId.trans hshown)).bind fun answer _ => ?_
    match answer with
    | .ok _ | .error _ => trivial
  · trivial

theorem stays_taskBundle (hdeal : IsDeal dealId hash deal) :
    Stays dealId hash sessions (n.taskBundle deal) fun _ => True := by
  unfold Node.taskBundle
  rw [hdeal.dealId]
  refine Stays.bind stays_getDealInvoiceBundle.attempt fun result _ => ?_
  match result with
  | .ok session => exact (stays_ofExcept _).bind fun _ _ => trivial
  | .error failure => dsimp only; split <;> trivial

/-- The task of a deal is found without leaving the deal. -/
theorem stays_project (hdeal : IsDeal dealId hash deal) :
    Stays dealId hash sessions (n.project deal) fun _ => True := by
  unfold Node.project
  refine (stays_refreshedRecord hdeal).bind fun record _ => ?_
  refine (stays_ofExcept _).bind fun task _ => ?_
  split
  · exact (stays_taskBundle hdeal).bind fun _ _ => trivial
  · trivial

end Handlers

/-! ## Isolation -/

def Node.owned (n : Node P) (client : Client) (t : Tables) (id : String) :
    Except Response StoredDeal :=
  if !isHash id then .error taskNotFound
  else match n.readRow (t.rowByHash id) with
    | .error _ => .error (fromFailure databaseError)
    | .ok found => okOr (found.filter (permitted client)) taskNotFound

theorem run_query (outside : Outside) (c : TaskCall) (t : Tables) :
    (query c).run (perform n outside) ⟨t, []⟩
      = (.ok (t.perform n outside [] c).1, ⟨(t.perform n outside [] c).2, [c]⟩) := rfl

theorem run_ownedDeal (outside : Outside) (client : Client) (id : String) (t : Tables) :
    (Node.ownedDeal client id).run (perform n outside) ⟨t, []⟩
      = (.ok (n.owned client t id), ⟨t, if isHash id then [.dealByArtifactHash id] else []⟩) := by
  unfold Node.ownedDeal Node.owned
  cases isHash id with
  | false => rfl
  | true =>
    simp only [Bool.not_true, Bool.false_eq_true, if_false, if_true, Prog.run_bind]
    rw [run_query, show t.perform n outside [] (.dealByArtifactHash id)
      = (n.readRow (t.rowByHash id), t) from rfl]
    cases n.readRow (t.rowByHash id) <;> rfl

variable {db₁ db₂ : ProviderDatabase n}

theorem owned_eq_ownedRow (id : String) :
    n.owned client db.toTables id = if !isHash id then .error taskNotFound
      else match n.readRow (ownedRow n client db.toTables id) with
        | .error _ => .error (fromFailure databaseError)
        | .ok found => okOr found taskNotFound := by
  unfold Node.owned
  rw [← ownedDeal_found db]
  cases n.readRow (db.rowByHash id) <;> rfl

theorem owned_eq (hagree : AgreeOn n client db₁.toTables db₂.toTables) (id : String) :
    n.owned client db₁.toTables id = n.owned client db₂.toTables id := by
  rw [owned_eq_ownedRow, owned_eq_ownedRow, ownedRow_eq hagree]

theorem row_of_owned {db : ProviderDatabase n} (h : n.owned client db.toTables id = .ok deal) :
    ∃ row ∈ db.deals, n.owns client row = true ∧ n.decodeDealRow row = .ok deal := by
  rw [owned_eq_ownedRow] at h
  cases hhash : isHash id with
  | false => simp [hhash] at h
  | true =>
    cases hrow : ownedRow n client db.toTables id with
    | none => simp [hhash, hrow, Node.readRow, okOr] at h
    | some row =>
      obtain ⟨hmem, -, howns⟩ := ownedRow_eq_some.mp hrow
      obtain ⟨found, hdecode, -⟩ := owns_iff.mp howns
      refine ⟨row, hmem, howns, hdecode.trans ?_⟩
      simpa [hhash, hrow, Node.readRow, hdecode, Except.map, okOr] using h

theorem rowById_of_mem (hrow : row ∈ db.deals) : db.rowById row.dealId = some row :=
  db.uniqueIds.selectWhere_of_mem hrow (fun _ => by simp) rfl

theorem sameDeal_of_owned (hagree : AgreeOn n client db₁.toTables db₂.toTables)
    (h : n.owned client db₁.toTables id = .ok deal) :
    ∃ sessions, SameDeal n deal.dealId deal.artifact.hash sessions db₁.toTables db₂.toTables := by
  obtain ⟨row, hrow, howns, hdecode⟩ := row_of_owned h
  have hread := readAs_of_decodeDealRow hdecode
  have hfound₁ := rowById_of_mem db₁ hrow
  have hfound₂ := rowById_of_mem db₂ ((hagree.deals row howns).mp hrow)
  rw [← hread.dealId] at hfound₁ hfound₂
  refine ⟨{id | ∃ session ∈ db₁.bundlesOf deal.artifact.hash, session.sessionId = id},
    hfound₁.trans hfound₂.symm, fun other hother artifact hartifact => ?_,
    hagree.bundles row hrow howns _ hread.artifact, fun _ => Iff.rfl,
    ⟨db₁.uniqueIds, db₁.uniqueSessions⟩, ⟨db₂.uniqueIds, db₂.uniqueSessions⟩⟩
  obtain rfl : row = other := some.inj (hfound₁.symm.trans hother)
  rw [Except.ok.inj (hread.artifact.symm.trans hartifact)]

theorem getTaskOf_eq (outside : Outside) (hagree : AgreeOn n client db₁.toTables db₂.toTables)
    (id : String) : ((n.getTaskOf client id).run (perform n outside) ⟨db₁.toTables, []⟩).1
      = ((n.getTaskOf client id).run (perform n outside) ⟨db₂.toTables, []⟩).1 := by
  unfold Node.getTaskOf
  split
  · rfl
  rw [Prog.run_bind_fst (run_ownedDeal outside client id _),
    Prog.run_bind_fst (run_ownedDeal outside client id _), owned_eq hagree]
  cases howned : n.owned client db₂.toTables id with
  | error response => rfl
  | ok deal =>
    obtain ⟨sessions, hsame⟩ := sameDeal_of_owned hagree ((owned_eq hagree id).trans howned)
    refine hsame.run outside (Q := fun _ => True) ?_
    exact Stays.bind (stays_project ⟨rfl, rfl⟩).attempt fun _ _ => trivial

theorem isOf_of_listFilter {query : ListQuery} (h : n.listFilter client query = .ok filter) :
    filter.IsOf client := by
  unfold Node.listFilter at h
  simp only [bind_eq_ok, pure_eq_ok] at h
  obtain ⟨_, -, _, -, _, -, _, -, rfl⟩ := h
  exact ⟨rfl, rfl⟩

theorem listTasksOf_eq (outside : Outside) (hagree : AgreeOn n client db₁.toTables db₂.toTables)
    (query : ListQuery) :
    ((n.listTasksOf client query).run (perform n outside) ⟨db₁.toTables, []⟩).1
      = ((n.listTasksOf client query).run (perform n outside) ⟨db₂.toTables, []⟩).1 := by
  unfold Node.listTasksOf
  cases hfilter : n.listFilter client query with
  | error response => rfl
  | ok filter =>
    have hanswer : ∀ t : Tables, t.perform n outside [] (.list filter)
      = (t.listDeals n filter, t) := fun _ => rfl
    dsimp only
    rw [Prog.run_bind_fst (run_query outside _ _), Prog.run_bind_fst (run_query outside _ _),
      hanswer, hanswer, listDeals_eq hagree (isOf_of_listFilter hfilter)]
    cases db₂.toTables.listDeals n filter <;> rfl

theorem taskActionOf_eq (outside : Outside) (hagree : AgreeOn n client db₁.toTables db₂.toTables)
    (id : String) :
    ((Node.taskActionOf client id).run (perform n outside) ⟨db₁.toTables, []⟩).1
      = ((Node.taskActionOf client id).run (perform n outside) ⟨db₂.toTables, []⟩).1 := by
  unfold Node.taskActionOf
  split
  · rfl
  rw [Prog.run_bind_fst (run_ownedDeal outside client _ _),
    Prog.run_bind_fst (run_ownedDeal outside client _ _), owned_eq hagree]
  cases n.owned client db₂.toTables _ <;> rfl

/-- **The tasks of a client are isolated.** Two databases that agree on the deals the
client may see give every request of the client the same response, whatever other
deals they hold. -/
theorem tasks_isolated (n : Node P) (outside : Outside) (headers : Headers) (request : TaskRequest)
    (client : Client) (hclient : ∀ other, n.authenticate headers = .ok other → other = client)
    (db₁ db₂ : ProviderDatabase n) (hagree : AgreeOn n client db₁.toTables db₂.toTables) :
    n.respond outside headers request db₁.toTables
      = n.respond outside headers request db₂.toTables := by
  suffices hrun : ((n.handle headers request).run (perform n outside) ⟨db₁.toTables, []⟩).1
      = ((n.handle headers request).run (perform n outside) ⟨db₂.toTables, []⟩).1 by
    rw [Node.respond, Node.respond, hrun]
  unfold Node.handle
  cases hauth : n.authenticate headers with
  | error response => rfl
  | ok other =>
    obtain rfl := hclient other hauth
    cases request with
    | getTask id => exact getTaskOf_eq outside hagree id
    | listTasks query => exact listTasksOf_eq outside hagree query
    | taskAction id => exact taskActionOf_eq outside hagree id

def sampleTaskDeal (requesterId : String) : SignedDeal :=
  { sampleDeal with signer := requesterId, payload := { sampleDeal.payload with requesterId } }

def sampleStoredTexts : String → Option Json
  | "quote" => some (toJson sampleFreeQuote)
  | "deal of r" => some (toJson (sampleTaskDeal "r"))
  | "deal of q" => some (toJson (sampleTaskDeal "q"))
  | "spec" => some .null
  | _ => none

def sampleClient : Client := ⟨"r", "token of r", ["aa"]⟩

def sampleTaskNode : Node samplePrimitives where
  lnd := { identity := { nodeId := "p", signMessageHex := fun _ => "sig"
                         verifies := verifyMessage_samplePrimitives "p" "sig" }
           keyedHmacHex := fun _ => "aa", config := sampleLndConfig 60
           parser := sampleBolt11Parser 61 }
  signer := { nodeId := "p", signMessageHex := fun _ => "sig"
              verifies := verifyMessage_samplePrimitives "p" "sig"
              executor := fun _ => sampleFreeReceipt.payload.executor }
  clients := [sampleClient]
  controlTokens := []
  parseJson := sampleStoredTexts
  jsonText _ := ""
  parse_text _ h := nomatch h
  decodeSpec _ := some { sampleSpec with requiresWasmPermit := false }
  sessionJson _ := .null
  laterThan _ := none
  encodeCursor _ := []
  decodeCursor _ := none

def sampleTaskRow (requesterId : String) : DealRow where
  dealId := requesterId
  idempotencyKey := none
  quoteJson := "quote"
  quoteDocument := some "quote"
  specJson := "spec"
  workloadEvidence := none
  dealArtifactJson := "deal of " ++ requesterId
  dealArtifactHash := some requesterId
  dealDocument := some ("deal of " ++ requesterId)
  status := .accepted
  resultJson := none
  resultEvidenceHash := none
  resultEvidence := none
  resultHash := none
  error := none
  failureEvidenceHash := none
  paymentMethod := none
  paymentTokenHash := none
  paymentAmountSats := none
  receiptArtifactJson := none
  receiptArtifactHash := none
  receiptDocument := none
  prepaidInvoice := none
  createdAt := 0
  updatedAt := 0

def sampleOwnTasks : ProviderDatabase sampleTaskNode :=
  .start sampleTaskNode ⟨[sampleTaskRow "r"], []⟩ (by decide) (by decide) (by decide)

def sampleSharedTasks : ProviderDatabase sampleTaskNode :=
  .start sampleTaskNode ⟨[sampleTaskRow "q", sampleTaskRow "r"], []⟩ (by decide) (by decide)
    (by decide)

def sampleTaskHeaders : Headers := ⟨some "Bearer token of r", some "1.0", some extensionUri⟩

def sampleSilence : Outside := fun _ c => match c with
  | .dealByArtifactHash _ | .deal _ | .prepaidInvoice _ | .list _ | .executionPermit
  | .reject _ _ _ _ _ => .error ""
  | .promote _ _ => false
  | .spawn _ => ()
  | .lightning .destinationIdentity | .lightning (.bundleByDealHash _)
  | .lightning (.updateStates _ _ _) | .lightning (.persistBundle _) | .lightning .renewClaim =>
    .error ""
  | .lightning (.addHoldInvoice _) | .lightning (.lookupInvoice _) | .lightning (.settleInvoice _)
  | .lightning (.cancelInvoice _) => .error .notFound
  | .lightning .clock => (0 : ℤ)

def sampleListQuery : ListQuery := ⟨none, none, none, none, none, none, none⟩

theorem tasks_isolated_sample :
    (extract ["totalSize"] (sampleTaskNode.respond sampleSilence sampleTaskHeaders
        (.listTasks sampleListQuery) sampleSharedTasks.toTables).body = some (.int 1))
    ∧ sampleTaskNode.respond sampleSilence sampleTaskHeaders (.listTasks sampleListQuery)
        sampleSharedTasks.toTables
      = sampleTaskNode.respond sampleSilence sampleTaskHeaders (.listTasks sampleListQuery)
        sampleOwnTasks.toTables := by
  have hclient : sampleTaskNode.authenticate sampleTaskHeaders = .ok sampleClient := by
    decide +kernel
  have hforeign : sampleTaskNode.owns sampleClient (sampleTaskRow "q") = false := by decide +kernel
  refine ⟨by decide +kernel, tasks_isolated _ _ _ _ sampleClient (fun other hother => ?_) _ _
    ⟨fun row howns => ?_, fun _ _ _ _ _ => rfl⟩⟩
  · exact Except.ok.inj (hother.symm.trans hclient)
  · have hne : row ≠ sampleTaskRow "q" := by
      rintro rfl
      exact absurd howns (by simp [hforeign])
    simp [sampleSharedTasks, sampleOwnTasks, ProviderDatabase.start, quarantineInvalidDeals,
      mem_deleteWhere, hne]

end Froglet.A2a
