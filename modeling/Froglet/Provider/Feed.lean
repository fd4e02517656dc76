import Mathlib.Data.List.Basic

/-!
# The public feed

The feed of artifacts is append-only and holds private entries between the public ones.
A page is filled from batches that are filtered after they were read.
-/

namespace Froglet.Feed
variable {fuel : ℕ}

structure LedgerArtifact where
  cursor : ℕ
  (hash kind : String)
deriving DecidableEq

structure CurrentPublicFeedArtifacts where
  (descriptorHashes offerHashes : List String)
  receiptHashes : Option (List String)

def CurrentPublicFeedArtifacts.contains (current : CurrentPublicFeedArtifacts)
    (artifact : LedgerArtifact) : Bool :=
  if artifact.kind == "descriptor" then current.descriptorHashes.contains artifact.hash
  else if artifact.kind == "offer" then current.offerHashes.contains artifact.hash
  else if artifact.kind == "receipt" then
    current.receiptHashes.all (·.contains artifact.hash)
  else false

def after (cursor : ℕ) (feed : List LedgerArtifact) : List LedgerArtifact :=
  feed.filter (cursor < ·.cursor)

/-- `db::list_artifacts`, over a feed in the order of its sequence numbers. -/
def listArtifacts (feed : List LedgerArtifact) (cursor limit : ℕ) : List LedgerArtifact × Bool :=
  let limit := max 1 (min limit 100)
  let rows := (after cursor feed).take (limit + 1)
  (rows.take limit, limit < rows.length)

structure Scan where
  artifacts : List LedgerArtifact
  (scanCursor nextCursor : ℕ)
  (advanced pageFull hasMore : Bool)
variable {s : Scan}

variable (isPublic : LedgerArtifact → Bool) (limit : ℕ)

/-- An entry is passed, and taken if it is public and the page has room. -/
def Scan.read (s : Scan) (artifact : LedgerArtifact) : Scan :=
  if !s.pageFull && isPublic artifact then
    { s with
      scanCursor := artifact.cursor, nextCursor := artifact.cursor, advanced := true
      artifacts := s.artifacts ++ [artifact]
      pageFull := (s.artifacts ++ [artifact]).length == limit }
  else { s with scanCursor := artifact.cursor, nextCursor := artifact.cursor, advanced := true }

/-- The loop over a batch, which ends at a public entry after a full page. -/
def Scan.batch (s : Scan) : List LedgerArtifact → Scan
  | [] => s
  | artifact :: rest =>
    if s.pageFull && isPublic artifact then
      { s with scanCursor := artifact.cursor, advanced := true, hasMore := true }
    else (s.read isPublic limit artifact).batch rest

def Scan.run (feed : List LedgerArtifact) (s : Scan) : ℕ → Option Scan
  | 0 => none
  | fuel + 1 =>
    let (batch, rawHasMore) := listArtifacts feed s.scanCursor 100
    if batch.isEmpty then some s
    else
      let s := s.batch isPublic limit batch
      if s.hasMore || !rawHasMore then some s else Scan.run feed s fuel

structure Page where
  artifacts : List LedgerArtifact
  hasMore : Bool
  nextCursor : Option ℕ

def listPublicFeedArtifacts (feed : List LedgerArtifact) (appliedCursor limit : ℕ) (fuel : ℕ) :
    Option Page :=
  let limit := max 1 (min limit 100)
  (Scan.run isPublic limit feed ⟨[], appliedCursor, appliedCursor, false, false, false⟩ fuel).map
    fun s => ⟨s.artifacts, s.hasMore, if s.advanced then some s.nextCursor else none⟩

/-- Pages from a cursor on until there is no more, each with the feed and the limit of its
call; with the feed of the last one. -/
def followPages (fuel : ℕ) : List (List LedgerArtifact × ℕ) → ℕ →
    List LedgerArtifact × Option (List LedgerArtifact)
  | [], _ => ([], none)
  | (feed, limit) :: calls, cursor =>
    match listPublicFeedArtifacts isPublic feed cursor limit fuel with
    | none => ([], none)
    | some page =>
      if page.hasMore then
        let (rest, last) := followPages fuel calls (page.nextCursor.getD cursor)
        (page.artifacts ++ rest, last)
      else (page.artifacts, some feed)

/-! ## Feeds in order -/

def Ordered (feed : List LedgerArtifact) : Prop := feed.Pairwise (·.cursor < ·.cursor)

def lastCursor (cursor : ℕ) (entries : List LedgerArtifact) : ℕ :=
  (entries.getLast?.map (·.cursor)).getD cursor

variable {isPublic limit} {feed before rest : List LedgerArtifact} {cursor : ℕ}

/-- The entries after the last of some read ones are those that were not read. -/
theorem after_lastCursor (hordered : Ordered feed) (h : after cursor feed = before ++ rest) :
    after (lastCursor cursor before) feed = rest := by
  rcases List.eq_nil_or_concat' before with rfl | ⟨init, last, rfl⟩
  · exact h
  have hlast : lastCursor cursor (init ++ [last]) = last.cursor := by simp [lastCursor]
  have hmem : last ∈ after cursor feed := by simp [h]
  have hless : cursor < last.cursor := by simpa [after] using (List.mem_filter.mp hmem).2
  have hsorted : (init ++ [last] ++ rest).Pairwise (·.cursor < ·.cursor) := h ▸ hordered.filter _
  rw [List.append_assoc, List.pairwise_append, List.singleton_append, List.pairwise_cons]
    at hsorted
  obtain ⟨-, ⟨hrest, -⟩, hinit⟩ := hsorted
  calc after (lastCursor cursor (init ++ [last])) feed
      = (after cursor feed).filter (last.cursor < ·.cursor) := by
        rw [hlast, after, after, List.filter_filter]
        refine List.filter_congr fun a _ => ?_
        simp only [← Bool.decide_and, decide_eq_decide]
        omega
    _ = rest := by
        rw [h, List.filter_append, List.filter_eq_nil_iff.mpr, List.nil_append,
          List.filter_eq_self.mpr]
        · exact fun a ha => decide_eq_true (hrest a ha)
        · intro a ha
          rcases List.mem_append.mp ha with ha | ha
          · have := hinit a ha last List.mem_cons_self
            simp only [decide_eq_true_eq]
            omega
          · simp [List.mem_singleton.mp ha]

structure Scanned (isPublic : LedgerArtifact → Bool) (limit cursor : ℕ)
    (before : List LedgerArtifact) (s : Scan) : Prop where
  artifacts : s.artifacts = before.filter isPublic
  nextCursor : s.nextCursor = lastCursor cursor before
  advanced : before ≠ [] → s.advanced = true
  pageFull : s.pageFull = decide (limit ≤ s.artifacts.length)
  le : s.artifacts.length ≤ limit

structure Stopped (isPublic : LedgerArtifact → Bool) (limit : ℕ) (unread : List LedgerArtifact)
    (s : Scan) : Prop where
  all : s.hasMore = false → unread = []
  more : s.hasMore = true →
    (∃ artifact ∈ unread, isPublic artifact = true) ∧ s.artifacts.length = limit

variable {artifact : LedgerArtifact}

theorem lastCursor_append_singleton :
    lastCursor cursor (before ++ [artifact]) = artifact.cursor := by simp [lastCursor]

theorem Scanned.read (h : Scanned isPublic limit cursor before s)
    (hgo : (s.pageFull && isPublic artifact) = false) :
    Scanned isPublic limit cursor (before ++ [artifact]) (s.read isPublic limit artifact) := by
  unfold Scan.read
  split
  case isTrue htake =>
    obtain ⟨hroom, hpublic⟩ : s.pageFull = false ∧ isPublic artifact = true := by simpa using htake
    have hless : s.artifacts.length < limit := by simpa [h.pageFull] using hroom
    refine ⟨?_, lastCursor_append_singleton.symm, fun _ => rfl, ?_, ?_⟩
    · rw [List.filter_append, List.filter_singleton, hpublic, ← h.artifacts]
      rfl
    · simp only [List.length_append, List.length_singleton, beq_eq_decide, decide_eq_decide]
      omega
    · rw [List.length_append, List.length_singleton]
      exact hless
  case isFalse hskip =>
    have hprivate : isPublic artifact = false := by
      cases hp : isPublic artifact <;> simp_all
    refine ⟨?_, lastCursor_append_singleton.symm, fun _ => rfl, h.pageFull, h.le⟩
    rw [List.filter_append, List.filter_singleton, hprivate, ← h.artifacts]
    exact (List.append_nil _).symm

theorem Scan.hasMore_read : (s.read isPublic limit artifact).hasMore = s.hasMore := by
  unfold Scan.read
  split <;> rfl

theorem Scan.scanCursor_read : (s.read isPublic limit artifact).scanCursor = artifact.cursor := by
  unfold Scan.read
  split <;> rfl

theorem scanned_batch {batch : List LedgerArtifact} (h : Scanned isPublic limit cursor before s)
    (hmore : s.hasMore = false) (hscan : s.scanCursor = lastCursor cursor before) :
    ∃ read unread, batch = read ++ unread
      ∧ Scanned isPublic limit cursor (before ++ read) (s.batch isPublic limit batch)
      ∧ Stopped isPublic limit unread (s.batch isPublic limit batch)
      ∧ ((s.batch isPublic limit batch).hasMore = false →
        (s.batch isPublic limit batch).scanCursor = lastCursor cursor (before ++ read)) := by
  induction batch generalizing s before with
  | nil =>
    refine ⟨[], [], rfl, by simpa [Scan.batch] using h, ⟨fun _ => rfl, ?_⟩, fun _ => ?_⟩
    · simp [Scan.batch, hmore]
    · simpa [Scan.batch] using hscan
  | cons artifact tail ih =>
    rw [Scan.batch]
    split
    case isTrue hstop =>
      obtain ⟨hfull, hpublic⟩ := Bool.and_eq_true_iff.mp hstop
      refine ⟨[], artifact :: tail, rfl, ?_, ⟨nofun, fun _ => ⟨⟨artifact, by simp, hpublic⟩, ?_⟩⟩,
        nofun⟩
      · rw [List.append_nil]
        exact ⟨h.artifacts, h.nextCursor, fun _ => rfl, h.pageFull, h.le⟩
      · exact Nat.le_antisymm h.le (of_decide_eq_true (h.pageFull ▸ hfull))
    case isFalse hgo =>
      obtain ⟨read, unread, rfl, hscanned, hstopped, hlast⟩ :=
        ih (h.read (Bool.eq_false_iff.mpr hgo)) (Scan.hasMore_read.trans hmore)
          (Scan.scanCursor_read.trans lastCursor_append_singleton.symm)
      rw [List.append_assoc, List.singleton_append] at hscanned hlast
      exact ⟨artifact :: read, unread, rfl, hscanned, hstopped, hlast⟩

/-- The outer loop ends, and has read the feed up to where the scan stopped. -/
theorem scanned_run (hordered : Ordered feed) (h : Scanned isPublic limit cursor before s)
    (hmore : s.hasMore = false) (hscan : s.scanCursor = lastCursor cursor before)
    (hfeed : after cursor feed = before ++ rest) (hfuel : rest.length < fuel) :
    ∃ s' read unread, s.run isPublic limit feed fuel = some s'
      ∧ after cursor feed = read ++ unread ∧ Scanned isPublic limit cursor read s'
      ∧ Stopped isPublic limit unread s' := by
  induction fuel generalizing s before rest with
  | zero => cases hfuel
  | succ fuel ih =>
    have hrest : after s.scanCursor feed = rest := hscan ▸ after_lastCursor hordered hfeed
    have hbatch : listArtifacts feed s.scanCursor 100
        = (rest.take 100, decide (100 < rest.length)) := by
      simp only [listArtifacts, hrest, List.take_take, List.length_take, Prod.mk.injEq,
        decide_eq_decide]
      exact ⟨rfl, by omega⟩
    rw [Scan.run, hbatch]
    by_cases hempty : (rest.take 100).isEmpty = true
    · obtain rfl : rest = [] := by simpa using hempty
      exact ⟨s, before, [], if_pos hempty, hfeed, h, ⟨fun _ => rfl, by simp [hmore]⟩⟩
    obtain ⟨read, unread, hsplit, hscanned, hstopped, hlast⟩ := scanned_batch h hmore hscan
    have hall : rest = read ++ (unread ++ rest.drop 100) := by
      rw [← List.append_assoc, ← hsplit, List.take_append_drop]
    have hread : after cursor feed = before ++ read ++ (unread ++ rest.drop 100) := by
      rw [hfeed, List.append_assoc, ← hall]
    simp only [hempty, if_false, Bool.false_eq_true]
    split
    case isTrue hend =>
      refine ⟨_, before ++ read, unread ++ rest.drop 100, rfl, hread, hscanned, ?_, ?_⟩
      · intro hno
        rw [hno, Bool.false_or, Bool.not_eq_true', decide_eq_false_iff_not, Nat.not_lt] at hend
        rw [hstopped.all hno, List.drop_of_length_le hend, List.append_nil]
      · intro hyes
        obtain ⟨⟨artifact, hmem, hpublic⟩, hlength⟩ := hstopped.more hyes
        exact ⟨⟨artifact, List.mem_append_left _ hmem, hpublic⟩, hlength⟩
    case isFalse hgo =>
      simp only [Bool.or_eq_true, not_or, Bool.not_eq_true, Bool.not_eq_false',
        decide_eq_true_eq] at hgo
      rw [hstopped.all hgo.1, List.nil_append] at hread
      refine ih hscanned hgo.1 (hlast hgo.1) hread ?_
      rw [List.length_drop]
      omega

/-- One page. The call ends. The page holds the public entries of a part of the feed
from the cursor on, the next cursor is the end of that part, and there is more if a public
entry comes after it. -/
theorem listPublicFeedArtifacts_page (hordered : Ordered feed)
    (hfuel : feed.length < fuel) (cursor limit : ℕ) :
    ∃ page read unread, listPublicFeedArtifacts isPublic feed cursor limit fuel = some page
      ∧ after cursor feed = read ++ unread ∧ page.artifacts = read.filter isPublic
      ∧ page.nextCursor.getD cursor = lastCursor cursor read
      ∧ page.artifacts.length ≤ max 1 (min limit 100) ∧ (page.hasMore = false → unread = [])
      ∧ (page.hasMore = true → (∃ artifact ∈ unread, isPublic artifact = true)
        ∧ 1 ≤ page.artifacts.length) := by
  have hstart : Scanned isPublic (max 1 (min limit 100)) cursor []
      ⟨[], cursor, cursor, false, false, false⟩ :=
    ⟨rfl, rfl, fun h => absurd rfl h, by simp, Nat.zero_le _⟩
  obtain ⟨s, read, unread, hrun, hread, hscanned, hstopped⟩ := scanned_run hordered hstart rfl rfl
    (List.nil_append _).symm (Nat.lt_of_le_of_lt (List.length_filter_le ..) hfuel)
  refine ⟨_, read, unread, by rw [listPublicFeedArtifacts, hrun]; rfl, hread, hscanned.artifacts,
    ?_, hscanned.le, hstopped.all, fun hyes => ⟨(hstopped.more hyes).1, ?_⟩⟩
  · by_cases hnone : read = []
    · subst hnone
      change (if s.advanced then some s.nextCursor else none).getD cursor = cursor
      split
      · exact hscanned.nextCursor
      · rfl
    · simp only [hscanned.advanced hnone, if_true, Option.getD_some]
      exact hscanned.nextCursor
  · exact (hstopped.more hyes).2.symm ▸ Nat.le_max_left ..

theorem after_append {newer : List LedgerArtifact} :
    after cursor (feed ++ newer) = after cursor feed ++ after cursor newer := List.filter_append ..

theorem followPages_eq {final : List LedgerArtifact} (hfinal : Ordered final)
    (hfuel : final.length < fuel) {calls : List (List LedgerArtifact × ℕ)}
    (hgrow : (calls.map (·.1) ++ [final]).Pairwise (· <+: ·))
    (hcalls : ((after cursor final).filter isPublic).length < calls.length) :
    ∃ last ∈ calls.map (·.1), followPages isPublic fuel calls cursor
      = ((after cursor last).filter isPublic, some last) := by
  induction calls generalizing cursor with
  | nil => cases hcalls
  | cons call calls ih =>
    obtain ⟨feed, limit⟩ := call
    rw [List.map_cons, List.cons_append, List.pairwise_cons] at hgrow
    obtain ⟨hlater, hgrow⟩ := hgrow
    obtain ⟨newer, hnewer⟩ := hlater final (by simp)
    have hordered : Ordered feed := hfinal.sublist (hlater final (by simp)).sublist
    have hless : feed.length < fuel := Nat.lt_of_le_of_lt (hlater final (by simp)).length_le hfuel
    obtain ⟨page, read, unread, hpage, hread, hartifacts, hnext, -, hend, hmore⟩ :=
      listPublicFeedArtifacts_page hordered hless cursor limit
    -- the entries after the page, in a feed that has grown
    have hafter : ∀ later, Ordered (feed ++ later) →
        (after cursor (feed ++ later)).filter isPublic
          = page.artifacts ++ (after (lastCursor cursor read) (feed ++ later)).filter isPublic := by
      intro later hlong
      have hall : after cursor (feed ++ later) = read ++ (unread ++ after cursor later) := by
        rw [after_append, hread, List.append_assoc]
      rw [after_lastCursor hlong hall, hall, List.filter_append, hartifacts]
    simp only [followPages, hpage]
    split
    case isTrue hyes =>
      have hcount := congrArg List.length (hafter newer (hnewer ▸ hfinal))
      rw [hnewer, List.length_append] at hcount
      have hone := (hmore hyes).2
      rw [List.length_cons] at hcalls
      have hfewer : ((after (lastCursor cursor read) final).filter isPublic).length
          < calls.length := by omega
      obtain ⟨last, hlast, heq⟩ := ih hgrow hfewer
      obtain ⟨later, hlonger⟩ := hlater last (List.mem_append_left _ hlast)
      have hlong : Ordered last := by
        obtain ⟨-, -, hcross⟩ := List.pairwise_append.mp hgrow
        exact hfinal.sublist (hcross last hlast final (by simp)).sublist
      refine ⟨last, List.mem_cons_of_mem _ hlast, ?_⟩
      rw [hnext, heq, ← hlonger, hafter later (hlonger ▸ hlong)]
    case isFalse hno =>
      refine ⟨feed, List.mem_cons_self, ?_⟩
      rw [hread, hend (by simpa using hno), List.append_nil, hartifacts]

/-- **The pages of the public feed.** Every call ends with a page within its limit that says
whether public entries come after it. Following the pages from the start, with any limits,
while the feed grows up to `final`, ends within one call more than there are public entries
and gives all public entries of the last feed read, in order. -/
theorem public_feed_pages (isPublic : LedgerArtifact → Bool) (final : List LedgerArtifact)
    (hfinal : Ordered final) (hpositive : ∀ artifact ∈ final, 0 < artifact.cursor) (fuel : ℕ)
    (hfuel : final.length < fuel) : (∀ feed, feed <+: final → ∀ cursor limit, 1 ≤ limit →
      ∃ page, listPublicFeedArtifacts isPublic feed cursor limit fuel = some page
        ∧ page.artifacts.length ≤ limit ∧ (page.hasMore = true ↔
          ∃ artifact ∈ after (page.nextCursor.getD cursor) feed, isPublic artifact = true))
    ∧ ∀ calls : List (List LedgerArtifact × ℕ),
      (calls.map (·.1) ++ [final]).Pairwise (· <+: ·) →
      (final.filter isPublic).length < calls.length →
      ∃ last ∈ calls.map (·.1),
        followPages isPublic fuel calls 0 = (last.filter isPublic, some last) := by
  have hstart : ∀ feed, feed <+: final → after 0 feed = feed := fun feed hinit =>
    List.filter_eq_self.mpr fun artifact hmem => by
      simpa using hpositive artifact (hinit.subset hmem)
  refine ⟨fun feed hinit cursor limit hlimit => ?_, fun calls hgrow hcalls => ?_⟩
  · have hordered : Ordered feed := hfinal.sublist hinit.sublist
    obtain ⟨page, read, unread, hpage, hread, -, hnext, hle, hend, hmore⟩ :=
      listPublicFeedArtifacts_page hordered (Nat.lt_of_le_of_lt hinit.length_le hfuel) cursor limit
    refine ⟨page, hpage, Nat.le_trans hle (by omega), ?_⟩
    rw [hnext, after_lastCursor hordered hread]
    cases hhas : page.hasMore with
    | true => simpa using (hmore hhas).1
    | false => simp [hend hhas]
  · obtain ⟨last, hlast, heq⟩ := followPages_eq hfinal hfuel hgrow
      (show ((after 0 final).filter isPublic).length < _ by
        rwa [hstart final (List.prefix_refl _)])
    have hinit := (List.pairwise_append.mp hgrow).2.2 last hlast final (by simp)
    exact ⟨last, hlast, by rw [heq, hstart last hinit]⟩

def sampleCurrent : CurrentPublicFeedArtifacts := ⟨["d"], ["o"], none⟩

def sampleFeed : List LedgerArtifact :=
  [⟨1, "d", "descriptor"⟩, ⟨2, "x", "offer"⟩, ⟨4, "r", "receipt"⟩, ⟨5, "o", "offer"⟩]

def sampleCalls : List (List LedgerArtifact × ℕ) :=
  [(sampleFeed.take 3, 1), (sampleFeed, 1), (sampleFeed, 7), (sampleFeed, 1)]

/-- The feed grows after the first call, and the third one ends it. -/
theorem public_feed_pages_sample :
    (∃ last ∈ sampleCalls.map (·.1), followPages sampleCurrent.contains 5 sampleCalls 0
      = (last.filter sampleCurrent.contains, some last))
    ∧ (followPages sampleCurrent.contains 5 sampleCalls 0).1.map (·.hash) = ["d", "r", "o"] :=
  ⟨(public_feed_pages sampleCurrent.contains sampleFeed (by unfold Ordered; decide) (by decide) 5
    (by decide)).2 sampleCalls (by decide) (by decide), by decide⟩

end Froglet.Feed
