import Froglet.Lib.Runs
import Froglet.Lib.Table
import Froglet.Protocol.Json
import Mathlib.Data.List.Count

/-!
# Quotas of identities

Every identity has a bucket that counts its requests in a window. The window starts with
the first request after the last one ended, and a full table drops the buckets whose
window has ended.
-/

namespace Froglet.Quota

open List Option Table

inductive QuotaDecision where
  | allowed (remaining : ℕ)
  | rejected (retryAfterSecs : ℕ)

structure QuotaBucket where
  (windowStarted count : ℕ)

/-- The configuration, after the corrections of `IdentityQuota::new`. Times are in
nanoseconds. -/
structure IdentityQuota where
  (maxPerWindow window : ℕ)
  maxPositive : 1 ≤ maxPerWindow
  windowPositive : 1000000000 ≤ window

def maxIdentityBuckets : ℕ := 10000

abbrev Buckets : Type := List (String × QuotaBucket)

def normalizeIdentityKey (identity : String) : String :=
  let normalized := String.ofList ((trim identity).toList.map Char.toLower)
  if normalized.isEmpty then "anonymous" else normalized

def bucketOf (key : String) (buckets : Buckets) : Option QuotaBucket :=
  (selectWhere (·.1 == key) buckets).map (·.2)

def wholeSecs (duration : ℕ) : ℕ := max (duration / 1000000000) 1

variable (q : IdentityQuota)

def IdentityQuota.isOpen (now : ℕ) (bucket : QuotaBucket) : Bool :=
  now - bucket.windowStarted < q.window

/-- A table that is full for a new key drops the buckets whose window has ended. -/
def IdentityQuota.makeRoom (key : String) (now : ℕ) (buckets : Buckets) : Buckets :=
  if (bucketOf key buckets).isNone && maxIdentityBuckets ≤ buckets.length then
    deleteWhere (fun entry => !q.isOpen now entry.2) buckets
  else buckets

def IdentityQuota.currentBucket (key : String) (now : ℕ) (buckets : Buckets) : QuotaBucket :=
  ((bucketOf key buckets).filter (q.isOpen now)).getD { windowStarted := now, count := 0 }

def setBucket (key : String) (bucket : QuotaBucket) (buckets : Buckets) : Buckets :=
  deleteWhere (·.1 == key) buckets ++ [(key, bucket)]

def IdentityQuota.checkAndIncrementAt (identity : String) (now : ℕ) (buckets : Buckets) :
    QuotaDecision × Buckets :=
  let key := normalizeIdentityKey identity
  let room := q.makeRoom key now buckets
  if (bucketOf key room).isNone && maxIdentityBuckets ≤ room.length then
    (.rejected (wholeSecs q.window), room)
  else
    let bucket := q.currentBucket key now room
    if q.maxPerWindow ≤ bucket.count then
      (.rejected (wholeSecs (q.window - (now - bucket.windowStarted))), setBucket key bucket room)
    else
      (.allowed (q.maxPerWindow - (bucket.count + 1)),
        setBucket key { bucket with count := bucket.count + 1 } room)

/-! ## Histories -/

/-- A request that was allowed: counted from the decision, in the window of the bucket
that is left for its key, or in one of its own where none is. -/
structure Grant where
  key : String
  (time windowStarted : ℕ)

structure QuotaState where
  buckets : Buckets
  grants : List Grant
  clock : ℕ

def grantOf (identity : String) (now : ℕ) : QuotaDecision × Buckets → List Grant
  | (.rejected _, _) => []
  | (.allowed _, buckets) =>
    let key := normalizeIdentityKey identity
    [⟨key, now, (bucketOf key buckets).elim now (·.windowStarted)⟩]

def IdentityQuota.machine : Machine QuotaState (String × ℕ) where
  init := ⟨[], [], 0⟩
  step s check :=
    let result := q.checkAndIncrementAt check.1 check.2 s.buckets
    ⟨result.2, grantOf check.1 check.2 result ++ s.grants, check.2⟩

def IdentityQuota.Ordered (checks : List (String × ℕ)) : Prop :=
  q.machine.Admissible (fun s check => s.clock ≤ check.2) q.machine.init checks

instance (checks : List (String × ℕ)) : Decidable (q.Ordered checks) :=
  inferInstanceAs (Decidable (q.machine.Admissible _ _ _))

def QuotaState.granted (s : QuotaState) (key : String) (windowStarted : ℕ) : ℕ :=
  s.grants.countP fun g => g.key == key && g.windowStarted == windowStarted

def Grant.Between (key : String) (start stop : ℕ) (g : Grant) : Prop :=
  g.key = key ∧ start ≤ g.time ∧ g.time ≤ stop

instance (key : String) (start stop : ℕ) : DecidablePred (Grant.Between key start stop) :=
  fun _ => inferInstanceAs (Decidable (_ ∧ _))

def QuotaState.grantedBetween (s : QuotaState) (key : String) (start stop : ℕ) : ℕ :=
  s.grants.countP (Grant.Between key start stop)

/-- A window comes a whole window after another, or is the same. -/
def IdentityQuota.Follows (earlier later : ℕ) : Prop := earlier = later ∨ earlier + q.window ≤ later

def UniqueKeys (buckets : Buckets) : Prop := Table.Unique (some ·.1) buckets

/-- The buckets say what was granted. They are read through the bucket that a check at
a later time would use, which is the same whether an ended bucket is still held or not. -/
structure QuotaInv (s : QuotaState) : Prop where
  unique : UniqueKeys s.buckets
  size : s.buckets.length ≤ maxIdentityBuckets
  started : ∀ key now, s.clock ≤ now → (q.currentBucket key now s.buckets).windowStarted ≤ now
  counted : ∀ key now, s.clock ≤ now →
    s.granted key (q.currentBucket key now s.buckets).windowStarted
      = (q.currentBucket key now s.buckets).count
  behind : ∀ g ∈ s.grants, ∀ now, s.clock ≤ now →
    q.Follows g.windowStarted (q.currentBucket g.key now s.buckets).windowStarted
  bounded : ∀ key start, s.granted key start ≤ q.maxPerWindow
  within : ∀ g ∈ s.grants, g.windowStarted ≤ g.time ∧ g.time < g.windowStarted + q.window
  apart : ∀ g ∈ s.grants, ∀ g' ∈ s.grants, g.key = g'.key →
    q.Follows g.windowStarted g'.windowStarted ∨ q.Follows g'.windowStarted g.windowStarted

variable {q} {s : QuotaState} {key other : String} {now later : ℕ} {buckets : Buckets}
  {bucket : QuotaBucket}

/-! ## The table -/

theorem bucketOf_eq_some (hunique : UniqueKeys buckets) :
    bucketOf key buckets = some bucket ↔ (key, bucket) ∈ buckets := by
  unfold bucketOf
  rw [map_eq_some_iff]
  constructor
  · rintro ⟨entry, hfound, rfl⟩
    obtain ⟨hmem, hkey⟩ := selectWhere_some hfound
    rwa [← beq_iff_eq.mp hkey]
  · exact fun hmem => ⟨_, hunique.selectWhere_of_mem hmem (fun _ => by simp) rfl, rfl⟩

theorem bucketOf_setBucket_self : bucketOf key (setBucket key bucket buckets) = some bucket := by
  have hnone : (deleteWhere (·.1 == key) buckets).find? (·.1 == key) = none := by simp [deleteWhere]
  simp [bucketOf, setBucket, selectWhere, find?_append, hnone]

theorem bucketOf_setBucket_of_ne (hne : other ≠ key) :
    bucketOf other (setBucket key bucket buckets) = bucketOf other buckets := by
  have hsame : (buckets.filter fun e => !(e.1 == key)).find? (·.1 == other)
      = buckets.find? (·.1 == other) := by
    rw [find?_filter]
    congr 1
    funext e
    by_cases he : e.1 = other <;> simp [he, hne]
  have hlast : [(key, bucket)].find? (·.1 == other) = none := by simp [hne.symm]
  unfold bucketOf setBucket selectWhere deleteWhere
  rw [find?_append, hsame, hlast, or_none]

theorem UniqueKeys.setBucket (hunique : UniqueKeys buckets) :
    UniqueKeys (setBucket key bucket buckets) := by
  refine (hunique.deleteWhere _).concat fun e he k hk hkey => ?_
  have hne := (mem_deleteWhere.mp he).2
  simp_all

theorem UniqueKeys.makeRoom (hunique : UniqueKeys buckets) :
    UniqueKeys (q.makeRoom key now buckets) := by
  unfold IdentityQuota.makeRoom
  split
  · exact hunique.deleteWhere _
  · exact hunique

theorem length_makeRoom_le : (q.makeRoom key now buckets).length ≤ buckets.length := by
  unfold IdentityQuota.makeRoom
  split
  · exact length_filter_le ..
  · exact le_rfl

theorem length_setBucket_le (h : bucketOf key buckets ≠ none ∨ buckets.length < maxIdentityBuckets)
    (hsize : buckets.length ≤ maxIdentityBuckets) :
    (setBucket key bucket buckets).length ≤ maxIdentityBuckets := by
  rw [setBucket, length_append, length_singleton]
  rcases h with hfound | hless
  · have hlt : (deleteWhere (·.1 == key) buckets).length < buckets.length := by
      refine lt_of_le_of_ne (length_filter_le ..) fun heq => hfound ?_
      rw [deleteWhere, length_filter_eq_length_iff] at heq
      simpa [bucketOf, selectWhere] using heq
    omega
  · exact Nat.succ_le_of_lt (lt_of_le_of_lt (length_filter_le ..) hless)

/-- Dropping buckets whose window has ended changes no later check. -/
theorem currentBucket_makeRoom (hunique : UniqueKeys buckets) (hle : now ≤ later) :
    q.currentBucket other later (q.makeRoom key now buckets)
      = q.currentBucket other later buckets := by
  unfold IdentityQuota.currentBucket
  congr 1
  ext b
  rw [filter_eq_some_iff, filter_eq_some_iff, bucketOf_eq_some hunique,
    bucketOf_eq_some hunique.makeRoom]
  refine and_congr_left fun hopen => ?_
  unfold IdentityQuota.makeRoom
  split
  case isFalse => rfl
  case isTrue =>
    have hnow : q.isOpen now b = true := by
      simp only [IdentityQuota.isOpen, decide_eq_true_eq] at hopen ⊢
      omega
    simp [mem_deleteWhere, hnow]

theorem currentBucket_setBucket_of_ne (hne : other ≠ key) :
    q.currentBucket other later (setBucket key bucket buckets)
      = q.currentBucket other later buckets := by
  rw [IdentityQuota.currentBucket, bucketOf_setBucket_of_ne hne, IdentityQuota.currentBucket]

theorem currentBucket_setBucket_self :
    q.currentBucket key later (setBucket key bucket buckets)
      = if q.isOpen later bucket then bucket else { windowStarted := later, count := 0 } := by
  rw [IdentityQuota.currentBucket, bucketOf_setBucket_self, filter_some]
  split <;> rfl

theorem isOpen_currentBucket : q.isOpen now (q.currentBucket key now buckets) = true := by
  unfold IdentityQuota.currentBucket
  cases h : (bucketOf key buckets).filter (q.isOpen now) with
  | none => simpa [IdentityQuota.isOpen] using lt_of_lt_of_le (by decide) q.windowPositive
  | some b => exact (filter_eq_some_iff.mp h).2

/-! ## One check -/

/-- What a check does: it is refused for want of room, or it writes the current bucket
of its key, with the request counted if it is allowed. -/
theorem checkAndIncrementAt_cases (identity : String) (now : ℕ) (hunique : UniqueKeys buckets)
    (hsize : buckets.length ≤ maxIdentityBuckets) {key : String}
    (hkey : normalizeIdentityKey identity = key) : let room := q.makeRoom key now buckets
    let bucket := q.currentBucket key now buckets
    let result := q.checkAndIncrementAt identity now buckets
    result.2 = room ∧ grantOf identity now result = []
    ∨ ∃ new : List Grant,
      (∀ g ∈ new, g = ⟨key, now, bucket.windowStarted⟩)
      ∧ (new = [] ∨ bucket.count + new.length ≤ q.maxPerWindow)
      ∧ result.2 = setBucket key { bucket with count := bucket.count + new.length } room
      ∧ result.2.length ≤ maxIdentityBuckets
      ∧ grantOf identity now result = new := by
  intro room bucket result
  have hroom : room.length ≤ maxIdentityBuckets := length_makeRoom_le.trans hsize
  have hcurrent : q.currentBucket key now room = bucket := currentBucket_makeRoom hunique le_rfl
  by_cases hfull : (bucketOf key room).isNone && maxIdentityBuckets ≤ room.length
  · have hresult : result = (.rejected (wholeSecs q.window), room) := by
      simp only [result, IdentityQuota.checkAndIncrementAt, hkey]
      exact if_pos hfull
    exact .inl ⟨by rw [hresult], by rw [hresult]; rfl⟩
  have hfits : ∀ b, (setBucket key b room).length ≤ maxIdentityBuckets := fun b =>
    length_setBucket_le (by simpa [Bool.and_eq_true, imp_iff_not_or] using hfull) hroom
  by_cases hmax : q.maxPerWindow ≤ bucket.count
  · have hresult : result = (.rejected (wholeSecs (q.window - (now - bucket.windowStarted))),
        setBucket key bucket room) := by
      simp only [result, IdentityQuota.checkAndIncrementAt, hkey]
      exact (if_neg hfull).trans (by rw [hcurrent, if_pos hmax])
    exact .inr ⟨[], by simp, .inl rfl, by rw [hresult]; rfl, by rw [hresult]; exact hfits _,
      by rw [hresult]; rfl⟩
  · have hresult : result = (.allowed (q.maxPerWindow - (bucket.count + 1)),
        setBucket key { bucket with count := bucket.count + 1 } room) := by
      simp only [result, IdentityQuota.checkAndIncrementAt, hkey]
      exact (if_neg hfull).trans (by rw [hcurrent, if_neg hmax])
    refine .inr ⟨[⟨key, now, bucket.windowStarted⟩], by simp, .inr ?_, by rw [hresult]; rfl,
      by rw [hresult]; exact hfits _, ?_⟩
    · simp only [length_singleton]
      omega
    · simp [hresult, grantOf, hkey, bucketOf_setBucket_self]

theorem granted_append {new : List Grant} {start : ℕ} :
    (QuotaState.mk buckets (new ++ s.grants) now).granted key start
      = new.countP (fun g => g.key == key && g.windowStarted == start) + s.granted key start :=
  countP_append

theorem QuotaInv.granted_eq_zero (h : QuotaInv q s) (hclock : s.clock ≤ now)
    (hlater : (q.currentBucket key now s.buckets).windowStarted + q.window ≤ later) :
    s.granted key later = 0 := by
  refine countP_eq_zero.mpr fun g hg hmatch => ?_
  obtain ⟨rfl, rfl⟩ : g.key = key ∧ g.windowStarted = later := by simpa using hmatch
  have hpositive := q.windowPositive
  have hbehind := h.behind g hg now hclock
  unfold IdentityQuota.Follows at hbehind
  omega

theorem isOpen_eq_false : q.isOpen now bucket = false ↔ q.window ≤ now - bucket.windowStarted := by
  simp [IdentityQuota.isOpen]

theorem QuotaInv.makeRoom (h : QuotaInv q s) (hclock : s.clock ≤ now) :
    QuotaInv q ⟨q.makeRoom key now s.buckets, s.grants, now⟩ where
  unique := h.unique.makeRoom
  size := length_makeRoom_le.trans h.size
  started k t ht := by
    rw [currentBucket_makeRoom h.unique ht]
    exact h.started k t (hclock.trans ht)
  counted k t ht := by
    rw [currentBucket_makeRoom h.unique ht]
    exact h.counted k t (hclock.trans ht)
  behind g hg t ht := by
    rw [currentBucket_makeRoom h.unique ht]
    exact h.behind g hg t (hclock.trans ht)
  bounded := h.bounded
  within := h.within
  apart := h.apart

/-- Writing the current bucket of a key, with the new grants counted, keeps the invariant. -/
theorem QuotaInv.setBucket (h : QuotaInv q s) (hclock : s.clock = now) {new : List Grant}
    (hbucket : q.currentBucket key now s.buckets = bucket)
    (hnew : ∀ g ∈ new, g = ⟨key, now, bucket.windowStarted⟩)
    (hmax : bucket.count + new.length ≤ q.maxPerWindow)
    (hsize : (Quota.setBucket key { bucket with count := bucket.count + new.length }
      s.buckets).length ≤ maxIdentityBuckets) :
    QuotaInv q ⟨Quota.setBucket key { bucket with count := bucket.count + new.length } s.buckets,
      new ++ s.grants, now⟩ := by
  subst hclock
  have hpositive := q.windowPositive
  have hopen : q.isOpen s.clock (q.currentBucket key s.clock s.buckets) = true :=
    isOpen_currentBucket
  have hstarted := h.started key s.clock le_rfl
  have hcounted := h.counted key s.clock le_rfl
  rw [hbucket] at hopen hstarted hcounted
  simp only [IdentityQuota.isOpen, decide_eq_true_eq] at hopen
  -- the grants of other windows are not changed
  have hsame : ∀ k start, k ≠ key ∨ start ≠ bucket.windowStarted →
      new.countP (fun g => g.key == k && g.windowStarted == start) = 0 := by
    intro k start hne
    refine countP_eq_zero.mpr fun g hg hmatch => ?_
    rw [hnew g hg] at hmatch
    simp only [Bool.and_eq_true, beq_iff_eq] at hmatch
    grind
  have hall : new.countP (fun g => g.key == key && g.windowStarted == bucket.windowStarted)
      = new.length :=
    countP_eq_length.mpr fun g hg => by simp [hnew g hg]
  have hbehind : ∀ g ∈ new ++ s.grants, g.key = key →
      q.Follows g.windowStarted bucket.windowStarted := by
    intro g hg hkey
    rcases mem_append.mp hg with hg | hg
    · exact .inl (by rw [hnew g hg])
    · exact hbucket ▸ hkey ▸ h.behind g hg s.clock le_rfl
  refine ⟨h.unique.setBucket, hsize, fun k t ht => ?_, fun k t ht => ?_, fun g hg t ht => ?_,
    fun k start => ?_, fun g hg => ?_, fun g hg g' hg' hkey => ?_⟩
  · by_cases hk : k = key
    · subst hk
      rw [currentBucket_setBucket_self]
      split
      · exact hstarted.trans ht
      · exact le_rfl
    · rw [currentBucket_setBucket_of_ne hk]
      exact h.started k t ht
  · rw [granted_append]
    by_cases hk : k = key
    · subst hk
      rw [currentBucket_setBucket_self]
      split
      case isTrue => rw [hall, hcounted, Nat.add_comm]
      case isFalse hclosed =>
        have hlater := isOpen_eq_false.mp (Bool.eq_false_iff.mpr hclosed)
        simp only at hlater ⊢
        rw [hsame _ _ (.inr (by omega)),
          h.granted_eq_zero le_rfl (by rw [hbucket]; omega)]
    · rw [currentBucket_setBucket_of_ne hk, hsame _ _ (.inl hk), Nat.zero_add]
      exact h.counted k t ht
  · by_cases hk : g.key = key
    · have hfollows := hbehind g hg hk
      rw [hk, currentBucket_setBucket_self]
      split
      case isTrue => exact hfollows
      case isFalse hclosed =>
        have hlater := isOpen_eq_false.mp (Bool.eq_false_iff.mpr hclosed)
        unfold IdentityQuota.Follows at hfollows ⊢
        simp only at hlater ⊢
        omega
    · rw [currentBucket_setBucket_of_ne hk]
      refine h.behind g ((mem_append.mp hg).resolve_left fun hg => hk ?_) t ht
      rw [hnew g hg]
  · rw [granted_append]
    by_cases hmatch : k = key ∧ start = bucket.windowStarted
    · rw [hmatch.1, hmatch.2, hall, hcounted]
      omega
    · rw [hsame _ _ (not_and_or.mp hmatch), Nat.zero_add]
      exact h.bounded k start
  · rcases mem_append.mp hg with hg | hg
    · have hless : s.clock < bucket.windowStarted + q.window := by omega
      rw [hnew g hg]
      exact ⟨hstarted, hless⟩
    · exact h.within g hg
  · rcases mem_append.mp hg with hold | hold
    · exact .inr (by rw [hnew g hold] at hkey ⊢; exact hbehind g' hg' hkey.symm)
    · rcases mem_append.mp hg' with hold' | hold'
      · exact .inl (by rw [hnew g' hold'] at hkey ⊢; exact hbehind g hg hkey)
      · exact h.apart g hold g' hold' hkey

/-! ## Whole histories -/

theorem quotaInv_init : QuotaInv q q.machine.init where
  unique := unique_nil _
  size := Nat.zero_le _
  started _ _ _ := le_rfl
  counted _ _ _ := rfl
  behind _ hg := nomatch hg
  bounded _ _ := Nat.zero_le _
  within _ hg := nomatch hg
  apart _ hg := nomatch hg

theorem QuotaInv.step (h : QuotaInv q s) (check : String × ℕ) (hclock : s.clock ≤ check.2) :
    QuotaInv q (q.machine.step s check) := by
  have hroom : QuotaInv q ⟨q.makeRoom (normalizeIdentityKey check.1) check.2 s.buckets,
      s.grants, check.2⟩ := h.makeRoom hclock
  unfold IdentityQuota.machine
  obtain ⟨hbuckets, hgrants⟩ | ⟨new, hnew, hmax, hbuckets, hsize, hgrants⟩ :=
    checkAndIncrementAt_cases (q := q) check.1 check.2 h.unique h.size rfl
  · simp only [hbuckets, hgrants, nil_append]
    exact hroom
  · rw [hbuckets] at hsize
    simp only [hbuckets, hgrants]
    refine hroom.setBucket rfl (currentBucket_makeRoom h.unique le_rfl) hnew ?_ hsize
    rcases hmax with rfl | hmax
    · exact (h.counted _ _ hclock).symm.trans_le (h.bounded _ _)
    · exact hmax

theorem quotaInv_run {checks : List (String × ℕ)} (h : q.Ordered checks) :
    QuotaInv q (q.machine.run checks) :=
  q.machine.invariant_of_admissible (fun _ check hs hok => hs.step check hok) checks _
    quotaInv_init h

theorem countP_le_add {α : Type*} {p p₁ p₂ : α → Bool} {l : List α}
    (h : ∀ a ∈ l, p a = true → p₁ a = true ∨ p₂ a = true) :
    l.countP p ≤ l.countP p₁ + l.countP p₂ := by
  induction l with
  | nil => exact le_rfl
  | cons a l ih =>
    have hrest := ih fun b hb => h b (mem_cons_of_mem a hb)
    have hhead := h a mem_cons_self
    simp only [countP_cons]
    split <;> split <;> split <;> simp_all <;> omega

/-- An interval of the length of a window meets at most two windows. -/
theorem QuotaInv.grantedBetween_le (h : QuotaInv q s) (key : String) (start : ℕ) :
    s.grantedBetween key start (start + q.window) ≤ 2 * q.maxPerWindow := by
  -- the windows of the first grant and of one in another window, if there is one
  obtain ⟨first, second, hcover⟩ : ∃ first second, ∀ g ∈ s.grants,
      g.Between key start (start + q.window) →
        g.windowStarted = first ∨ g.windowStarted = second := by
    by_cases hnone : ∀ g ∈ s.grants, ¬g.Between key start (start + q.window)
    · exact ⟨0, 0, fun g hg hin => absurd hin (hnone g hg)⟩
    obtain ⟨g₁, hg₁, hin₁⟩ : ∃ g ∈ s.grants, g.Between key start (start + q.window) := by
      simpa using hnone
    by_cases hsame : ∀ g ∈ s.grants, g.Between key start (start + q.window) →
        g.windowStarted = g₁.windowStarted
    · exact ⟨_, 0, fun g hg hin => .inl (hsame g hg hin)⟩
    obtain ⟨g₂, hg₂, hin₂, hne⟩ : ∃ g ∈ s.grants, g.Between key start (start + q.window)
        ∧ g.windowStarted ≠ g₁.windowStarted := by simpa using hsame
    refine ⟨g₁.windowStarted, g₂.windowStarted, fun g hg hin => ?_⟩
    have := h.within g hg
    have := h.within g₁ hg₁
    have := h.within g₂ hg₂
    have := h.apart g hg g₁ hg₁ (hin.1.trans hin₁.1.symm)
    have := h.apart g hg g₂ hg₂ (hin.1.trans hin₂.1.symm)
    have := h.apart g₁ hg₁ g₂ hg₂ (hin₁.1.trans hin₂.1.symm)
    unfold Grant.Between at *
    unfold IdentityQuota.Follows at *
    omega
  have hcount : s.grantedBetween key start (start + q.window)
      ≤ s.granted key first + s.granted key second := by
    refine countP_le_add fun g hg hin => ?_
    have hkey : g.key = key := (of_decide_eq_true hin).1
    simpa [hkey] using hcover g hg (of_decide_eq_true hin)
  have := h.bounded key first
  have := h.bounded key second
  omega

theorem QuotaInv.open_kept (h : QuotaInv q s) (identity : String)
    (hmem : (key, bucket) ∈ s.buckets) (hopen : q.isOpen now bucket = true) :
    ∃ kept, (key, kept) ∈ (q.checkAndIncrementAt identity now s.buckets).2
      ∧ kept.windowStarted = bucket.windowStarted := by
  have hroom : (key, bucket) ∈ q.makeRoom (normalizeIdentityKey identity) now s.buckets := by
    unfold IdentityQuota.makeRoom
    split
    · exact mem_deleteWhere.mpr ⟨hmem, by simp [hopen]⟩
    · exact hmem
  obtain ⟨hbuckets, -⟩ | ⟨new, -, -, hbuckets, -, -⟩ :=
    checkAndIncrementAt_cases (q := q) identity now h.unique h.size rfl
  · exact ⟨bucket, hbuckets ▸ hroom, rfl⟩
  rw [hbuckets]
  by_cases hkey : key = normalizeIdentityKey identity
  · have hcurrent : q.currentBucket key now s.buckets = bucket := by
      rw [IdentityQuota.currentBucket, (bucketOf_eq_some h.unique).mpr hmem,
        filter_some_pos hopen, getD_some]
    refine ⟨_, mem_append_right _ (mem_singleton.mpr (by rw [hkey])), ?_⟩
    rw [← hkey, hcurrent]
  · exact ⟨bucket, mem_append_left _ (mem_deleteWhere.mpr ⟨hroom, by simp [hkey]⟩),
      rfl⟩

/-- **The bounds of the quota.** After every sequence of checks with times that do not
decrease, a key was allowed at most `maxPerWindow` times in a window and twice that in an
interval of its length, the table is within its size, and the next check keeps every
bucket whose window has not ended. -/
theorem quota_bounds (q : IdentityQuota) (checks : List (String × ℕ)) (h : q.Ordered checks) :
    (∀ key windowStarted, (q.machine.run checks).granted key windowStarted ≤ q.maxPerWindow)
    ∧ (∀ key start, (q.machine.run checks).grantedBetween key start (start + q.window)
        ≤ 2 * q.maxPerWindow) ∧ (q.machine.run checks).buckets.length ≤ maxIdentityBuckets
    ∧ ∀ identity now key bucket, (key, bucket) ∈ (q.machine.run checks).buckets →
        q.isOpen now bucket = true →
        ∃ kept, (key, kept) ∈ (q.checkAndIncrementAt identity now (q.machine.run checks).buckets).2
          ∧ kept.windowStarted = bucket.windowStarted :=
  have hinv := quotaInv_run h
  ⟨hinv.bounded, hinv.grantedBetween_le, hinv.size,
    fun identity _ _ _ hmem hopen => hinv.open_kept identity hmem hopen⟩

def sampleQuota : IdentityQuota := ⟨1, 1000000000, le_rfl, le_rfl⟩

theorem quota_bounds_sample :
    let s := sampleQuota.machine.run
      [("Ada", 0), (" ada", 999999999), ("ADA", 1000000000), ("", 1000000000)]
    s.grants.length = 3 ∧ s.granted "ada" 0 ≤ 1 ∧ s.grantedBetween "ada" 0 1000000000 = 2
      ∧ s.grantedBetween "ada" 0 (0 + sampleQuota.window) ≤ 2 :=
  have h := quota_bounds sampleQuota
    [("Ada", 0), (" ada", 999999999), ("ADA", 1000000000), ("", 1000000000)] (by decide)
  ⟨by decide, h.1 "ada" 0, by decide, h.2.1 "ada" 0⟩

end Froglet.Quota
