import Froglet.Lib.Checks
import Froglet.Lib.Integers
import Froglet.Lib.Runs
import Froglet.Lib.Table
import Froglet.Protocol.Json

/-!
# Invites

An invite is a row that counts its requests. A revoked hash keeps a row as well, which
also stands before the hashes that are listed in the policy.
-/

namespace Froglet.Invites

open List Table
variable {id : String}

structure InviteRow where
  (tokenHash name : String)
  expiresAt : ℤ
  maxRequests : ℕ
  usedRequests : ℕ := 0
  revoked : Bool := false

inductive InviteCall where
  | create (name : String) (expiresAt : ℤ) (maxRequests : ℕ) (now : ℤ) (token : String)
  | revoke (id : String)
  | authorize (hash : String) (now : ℤ)

inductive InviteEvent where
  | created (hash : String) (expiresAt : ℤ) (maxRequests : ℕ)
  | revoked (hash : String)
  | authorized (hash : String) (now : ℤ)
variable {event : InviteEvent}

def isControl (c : Char) : Bool := c.toNat < 32 || (127 ≤ c.toNat && c.toNat < 160)

structure InviteEnv where
  sha256Hex : String → String
  inviteTokenHashes : List String

variable (env : InviteEnv)
variable (rows : List InviteRow)

def createInvite (name : String) (expiresAt : ℤ) (maxRequests : ℕ)
    (now : ℤ) (token : String) : Except String (String × List InviteRow) := do
  rejectIf ((trim name).isEmpty || 80 < name.utf8ByteSize || name.toList.any isControl
      || expiresAt ≤ now || saturatingAddI64 now (30 * 86400) < expiresAt
      || !(2 ≤ maxRequests && maxRequests ≤ 10000))
    "invite requires a name (1–80 characters), expiry within 30 days and 2–10000 new-work requests"
  rejectIf (1000 ≤ rows.length) "provider invitation capacity reached (1000 retained records)"
  let hash := env.sha256Hex token
  rejectIf (rows.any (·.tokenHash == hash))
    "UNIQUE constraint failed: provider_invites.token_hash"
  pure (hash, rows ++ [{ tokenHash := hash, name, expiresAt, maxRequests }])

def revokeInvite (id : String) : Except String (List InviteRow) := do
  rejectIf (id.utf8ByteSize != 64 || !id.toList.all fun c => c.isDigit || ('a' ≤ c && c ≤ 'f'))
    "invite id must be a lowercase SHA-256 hash"
  pure (if rows.any (·.tokenHash == id) then
      updateWhere (·.tokenHash == id) (fun row => { row with revoked := true }) rows
    else rows ++ [⟨id, "revoked legacy invite", 0, 1, 0, true⟩])

/-- The condition of the update of `authorize_invite`. -/
def usable (hash : String) (now : ℤ) (row : InviteRow) : Bool :=
  row.tokenHash == hash && !row.revoked && now < row.expiresAt && row.usedRequests < row.maxRequests

def InviteRow.use (row : InviteRow) : InviteRow := { row with usedRequests := row.usedRequests + 1 }

def authorizeInvite (hash : String) (now : ℤ) : Bool × List InviteRow :=
  let updated := updateWhere (usable hash now) InviteRow.use rows
  if (rows.filter (usable hash now)).length == 1 then (true, updated)
  else if updated.any (·.tokenHash == hash) then (false, updated)
  else (env.inviteTokenHashes.contains hash, updated)

structure InviteState where
  rows : List InviteRow
  log : List InviteEvent

def InviteState.apply (s : InviteState) : InviteCall → InviteState
  | .create name expiresAt maxRequests now token =>
    match createInvite env s.rows name expiresAt maxRequests now token with
    | .ok (hash, rows) => ⟨rows, .created hash expiresAt maxRequests :: s.log⟩
    | .error _ => s
  | .revoke id =>
    match revokeInvite s.rows id with
    | .ok rows => ⟨rows, .revoked id :: s.log⟩
    | .error _ => s
  | .authorize hash now =>
    let (accepted, rows) := authorizeInvite env s.rows hash now
    ⟨rows, if accepted then .authorized hash now :: s.log else s.log⟩

def invites : Machine InviteState InviteCall where
  init := ⟨[], []⟩
  step s call := s.apply env call

def InviteEvent.authorizes (hash : String) : InviteEvent → Bool
  | .authorized other _ => other == hash
  | _ => false

/-- The requests of an invite since it was created are counted in its row, and none came
after it expired. -/
def Counts (hash : String) (expiresAt : ℤ) (maxRequests : ℕ) (newer : List InviteEvent) : Prop :=
  (∃ row ∈ rows, row.tokenHash = hash ∧ row.expiresAt = expiresAt
      ∧ row.maxRequests = maxRequests ∧ row.usedRequests = newer.countP (·.authorizes hash)
      ∧ row.usedRequests ≤ maxRequests)
    ∧ ∀ now, .authorized hash now ∈ newer → now < expiresAt

/-- A revoked hash has a revoked row, and was not authorised since. -/
def Barred (hash : String) (newer : List InviteEvent) : Prop :=
  (∃ row ∈ rows, row.tokenHash = hash ∧ row.revoked = true) ∧ ∀ now, .authorized hash now ∉ newer

structure InviteInv (s : InviteState) : Prop where
  unique : Table.Unique (some ·.tokenHash) s.rows
  created : ∀ newer hash expiresAt maxRequests older,
    s.log = newer ++ .created hash expiresAt maxRequests :: older →
      Counts s.rows hash expiresAt maxRequests newer
  revoked : ∀ newer hash older, s.log = newer ++ .revoked hash :: older →
    Barred s.rows hash newer

variable {env} {rows rows' : List InviteRow} {hash other : String} {now : ℤ} {expiresAt : ℤ}
  {maxRequests : ℕ} {newer older log : List InviteEvent} {s : InviteState}

/-- The rows of a hash are kept, up to their revocation. -/
def Keeps (hash : String) (rows rows' : List InviteRow) : Prop :=
  ∀ row ∈ rows, row.tokenHash = hash → ∃ row' ∈ rows', row'.tokenHash = hash
    ∧ row'.expiresAt = row.expiresAt ∧ row'.maxRequests = row.maxRequests
    ∧ row'.usedRequests = row.usedRequests ∧ (row.revoked = true → row'.revoked = true)

theorem keeps_append {added : List InviteRow} : Keeps hash rows (rows ++ added) :=
  fun row hrow hhash => ⟨row, mem_append_left _ hrow, hhash, rfl, rfl, rfl, id⟩

theorem Counts.cons (h : Counts rows hash expiresAt maxRequests newer)
    (hevent : event.authorizes hash = false) (hkeeps : Keeps hash rows rows') :
    Counts rows' hash expiresAt maxRequests (event :: newer) := by
  obtain ⟨⟨row, hrow, hhash, rfl, rfl, hused, hle⟩, hnow⟩ := h
  obtain ⟨row', hrow', hhash', hexpires, hmax, hsame, -⟩ := hkeeps row hrow hhash
  refine ⟨⟨row', hrow', hhash', hexpires, hmax, ?_, hsame ▸ hle⟩, fun now hmem => ?_⟩
  · rw [countP_cons_of_neg (by simp [hevent]), hsame, hused]
  · rcases mem_cons.mp hmem with rfl | hmem
    · simp [InviteEvent.authorizes] at hevent
    · exact hnow now hmem

theorem Barred.cons (h : Barred rows hash newer) (hevent : event.authorizes hash = false)
    (hkeeps : Keeps hash rows rows') : Barred rows' hash (event :: newer) := by
  obtain ⟨⟨row, hrow, hhash, hrevoked⟩, hnone⟩ := h
  obtain ⟨row', hrow', hhash', -, -, -, hstill⟩ := hkeeps row hrow hhash
  refine ⟨⟨row', hrow', hhash', hstill hrevoked⟩, fun now hmem => ?_⟩
  rcases mem_cons.mp hmem with rfl | hmem
  · simp [InviteEvent.authorizes] at hevent
  · exact hnone now hmem

theorem InviteInv.cons (h : InviteInv s)
    (hunique : Table.Unique (some ·.tokenHash) rows')
    (hnew : match event with
      | .created hash expiresAt maxRequests => Counts rows' hash expiresAt maxRequests []
      | .revoked hash => Barred rows' hash []
      | .authorized _ _ => True)
    (hcounts : ∀ newer hash expiresAt maxRequests, Counts s.rows hash expiresAt maxRequests newer →
      Counts rows' hash expiresAt maxRequests (event :: newer))
    (hbarred : ∀ newer hash, Barred s.rows hash newer → Barred rows' hash (event :: newer)) :
    InviteInv ⟨rows', event :: s.log⟩ where
  unique := hunique
  created newer hash expiresAt maxRequests older hlog := by
    rcases append_eq_cons_iff.mp hlog.symm with ⟨rfl, heq⟩ | ⟨rest, rfl, heq⟩
    · obtain ⟨rfl, -⟩ := cons.inj heq
      exact hnew
    · exact hcounts _ _ _ _ (h.created rest hash expiresAt maxRequests older heq)
  revoked newer hash older hlog := by
    rcases append_eq_cons_iff.mp hlog.symm with ⟨rfl, heq⟩ | ⟨rest, rfl, heq⟩
    · obtain ⟨rfl, -⟩ := cons.inj heq
      exact hnew
    · exact hbarred _ _ (h.revoked rest hash older heq)

theorem InviteInv.create (h : InviteInv s) {name token : String}
    (hcreate : createInvite env s.rows name expiresAt maxRequests now token = .ok (hash, rows')) :
    InviteInv ⟨rows', .created hash expiresAt maxRequests :: s.log⟩ := by
  unfold createInvite at hcreate
  simp only [↓check_eq_ok, rejectIf_eq_ok, pure_eq_ok, Prod.mk.injEq]
    at hcreate
  obtain ⟨-, -, hfresh, rfl, rfl⟩ := hcreate
  refine h.cons (h.unique.concat fun row hrow k hk hnew => ?_) ?_
    (fun _ _ _ _ hcounts => hcounts.cons rfl keeps_append)
    fun _ _ hbarred => hbarred.cons rfl keeps_append
  · have hne := any_eq_false.mp hfresh row hrow
    simp_all
  · exact ⟨⟨_, mem_concat_self, rfl, rfl, rfl, rfl,
      Nat.zero_le _⟩, fun _ hmem => absurd hmem not_mem_nil⟩

theorem keeps_revoke :
    Keeps hash rows (updateWhere (·.tokenHash == id)
      (fun row => { row with revoked := true }) rows) := by
  intro row hrow hhash
  refine ⟨_, mem_updateWhere.mpr ⟨row, hrow, rfl⟩, ?_⟩
  split
  · exact ⟨hhash, rfl, rfl, rfl, fun _ => rfl⟩
  · exact ⟨hhash, rfl, rfl, rfl, fun hrevoked => hrevoked⟩

theorem InviteInv.revoke (h : InviteInv s) (hrevoke : revokeInvite s.rows id = .ok rows') :
    InviteInv ⟨rows', .revoked id :: s.log⟩ := by
  unfold revokeInvite at hrevoke
  simp only [↓check_eq_ok, pure_eq_ok] at hrevoke
  obtain ⟨-, rfl⟩ := hrevoke
  split
  case isTrue hfound =>
    refine h.cons (h.unique.updateWhere fun _ _ _ => rfl) ⟨?_, fun _ => not_mem_nil⟩
      (fun _ _ _ _ hcounts => hcounts.cons rfl keeps_revoke)
      fun _ _ hbarred => hbarred.cons rfl keeps_revoke
    obtain ⟨row, hrow, hhash⟩ := any_eq_true.mp hfound
    refine ⟨_, mem_updateWhere.mpr ⟨row, hrow, rfl⟩, ?_⟩
    rw [if_pos hhash]
    exact ⟨by simpa using hhash, rfl⟩
  case isFalse hnone =>
    refine h.cons (h.unique.concat fun row hrow k hk hnew => hnone ?_)
      ⟨⟨_, mem_concat_self, rfl, rfl⟩,
        fun _ => not_mem_nil⟩
      (fun _ _ _ _ hcounts => hcounts.cons rfl keeps_append)
      fun _ _ hbarred => hbarred.cons rfl keeps_append
    exact any_eq_true.mpr ⟨row, hrow, by simp_all⟩

theorem keeps_use (hne : other ≠ hash) :
    Keeps other rows (updateWhere (usable hash now) InviteRow.use rows) := by
  intro row hrow hhash
  refine ⟨_, mem_updateWhere.mpr ⟨row, hrow, rfl⟩, ?_⟩
  rw [if_neg (by simp [usable, hhash, hne])]
  exact ⟨hhash, rfl, rfl, rfl, id⟩

variable (env) in
/-- What a request does: it uses a row, it is listed in the policy and has no row, or it
is refused and changes nothing. -/
theorem authorizeInvite_cases
    (hunique : Table.Unique (some ·.tokenHash) rows)
    (hash : String) (now : ℤ) :
    (∃ row ∈ rows, usable hash now row = true ∧ authorizeInvite env rows hash now
      = (true, updateWhere (usable hash now) InviteRow.use rows))
    ∨ ((∀ row ∈ rows, row.tokenHash ≠ hash) ∧ authorizeInvite env rows hash now = (true, rows))
    ∨ authorizeInvite env rows hash now = (false, rows) := by
  have hle : (rows.filter (usable hash now)).length ≤ 1 := by
    refine hunique.length_filter_le_one (k := hash) fun row hrow => ?_
    simp only [usable, Bool.and_eq_true, beq_iff_eq] at hrow
    exact congrArg some hrow.1.1.1
  unfold authorizeInvite
  by_cases hone : (rows.filter (usable hash now)).length = 1
  · obtain ⟨row, hrow⟩ := length_eq_one_iff.mp hone
    have hmem := mem_filter.mp (hrow ▸ mem_singleton_self row : row ∈ rows.filter (usable hash now))
    exact .inl ⟨row, hmem.1, hmem.2, if_pos (by simp [hone])⟩
  · have hsame : updateWhere (usable hash now) InviteRow.use rows = rows := by
      refine updateWhere_of_forall_not fun row hrow => ?_
      have hempty : rows.filter (usable hash now) = [] := length_eq_zero_iff.mp (by omega)
      simpa using filter_eq_nil_iff.mp hempty row hrow
    simp only [hsame, beq_iff_eq, hone, if_false]
    split
    · exact .inr (.inr rfl)
    next hnone =>
      cases env.inviteTokenHashes.contains hash with
      | false => exact .inr (.inr rfl)
      | true => exact .inr (.inl ⟨by simpa using hnone, rfl⟩)

theorem InviteInv.authorize (h : InviteInv s) (hash : String) (now : ℤ) :
    InviteInv (s.apply env (.authorize hash now)) := by
  simp only [InviteState.apply]
  have hother : ∀ other, other ≠ hash →
      (InviteEvent.authorized hash now).authorizes other = false := by
    intro other hne
    simpa [InviteEvent.authorizes] using hne.symm
  obtain ⟨row, hrow, husable, heq⟩ | ⟨hnone, heq⟩ | heq :=
    authorizeInvite_cases env h.unique hash now
  case inr.inr =>
    simp only [heq, Bool.false_eq_true, if_false]
    exact h
  case inr.inl =>
    simp only [heq, if_true]
    refine h.cons h.unique trivial (fun _ other _ _ hcounts => ?_) fun _ other hbarred => ?_
    · obtain ⟨⟨row, hrow, hhash, -⟩, -⟩ := id hcounts
      exact hcounts.cons (hother other (hhash ▸ hnone row hrow))
        fun row hrow hhash => ⟨row, hrow, hhash, rfl, rfl, rfl, id⟩
    · obtain ⟨⟨row, hrow, hhash, -⟩, -⟩ := id hbarred
      exact hbarred.cons (hother other (hhash ▸ hnone row hrow))
        fun row hrow hhash => ⟨row, hrow, hhash, rfl, rfl, rfl, id⟩
  case inl =>
    simp only [heq, if_true]
    simp only [usable, Bool.and_eq_true, beq_iff_eq, Bool.not_eq_true', decide_eq_true_eq]
      at husable
    obtain ⟨⟨⟨hhash, hactive⟩, hnow⟩, hless⟩ := husable
    -- the row of the hash is the one that was used
    have hthe : ∀ row' ∈ s.rows, row'.tokenHash = hash → row' = row := fun row' hrow' hhash' =>
      h.unique.eq_of_mem hrow' hrow (congrArg some hhash') (congrArg some hhash)
    refine h.cons (h.unique.updateWhere fun _ _ _ => rfl) trivial
      (fun newer other _ _ hcounts => ?_) fun _ other hbarred => ?_
    · by_cases hne : other = hash
      · subst hne
        obtain ⟨⟨row', hrow', hhash', rfl, rfl, hused, hle⟩, hbefore⟩ := hcounts
        obtain rfl := hthe row' hrow' hhash'
        refine ⟨⟨row'.use, mem_updateWhere.mpr ⟨row', hrow, if_pos ?_⟩, hhash, rfl, rfl, ?_,
          hless⟩, fun time hmem => ?_⟩
        · simp [usable, hhash, hactive, hnow, hless]
        · rw [countP_cons_of_pos (by simp [InviteEvent.authorizes]), ← hused]
          rfl
        · rcases mem_cons.mp hmem with heq | hmem
          · cases heq
            exact hnow
          · exact hbefore time hmem
      · exact hcounts.cons (hother other hne) (keeps_use hne)
    · by_cases hne : other = hash
      · obtain ⟨⟨row', hrow', hhash', hrevoked⟩, -⟩ := hbarred
        rw [hthe row' hrow' (hhash'.trans hne), hactive] at hrevoked
        cases hrevoked
      · exact hbarred.cons (hother other hne) (keeps_use hne)

variable (env) in
theorem inviteInv_run (calls : List InviteCall) : InviteInv ((invites env).run calls) := by
  refine (invites env).invariant (I := InviteInv) ?_ (fun s call h => ?_) calls
  · exact ⟨unique_nil _, fun newer _ _ _ _ hlog => absurd hlog (by simp [invites]),
      fun newer _ _ hlog => absurd hlog (by simp [invites])⟩
  · change InviteInv (s.apply env call)
    cases call with
    | create name expiresAt maxRequests now token =>
      unfold InviteState.apply
      dsimp only
      split
      next hash rows hcreate => exact h.create hcreate
      next => exact h
    | revoke id =>
      unfold InviteState.apply
      dsimp only
      split
      next rows hrevoke => exact h.revoke hrevoke
      next => exact h
    | authorize hash now => exact h.authorize hash now

/-- **The bounds of invites.** In every history, an invite is accepted at most as often as
it allows, and never once it expired. A hash is not accepted after it was revoked, whether
it has a row or is listed in the policy. -/
theorem invites_bounded (env : InviteEnv) (calls : List InviteCall) :
    (∀ newer hash expiresAt maxRequests older,
      ((invites env).run calls).log = newer ++ .created hash expiresAt maxRequests :: older →
        newer.countP (·.authorizes hash) ≤ maxRequests
        ∧ ∀ now, .authorized hash now ∈ newer → now < expiresAt)
    ∧ ∀ newer hash older, ((invites env).run calls).log = newer ++ .revoked hash :: older →
        ∀ now, .authorized hash now ∉ newer := by
  have hinv := inviteInv_run env calls
  refine ⟨fun newer hash expiresAt maxRequests older hlog => ?_, fun newer hash older hlog => ?_⟩
  · obtain ⟨⟨row, -, -, -, -, hused, hle⟩, hnow⟩ := hinv.created _ _ _ _ _ hlog
    exact ⟨hused ▸ hle, hnow⟩
  · exact (hinv.revoked _ _ _ hlog).2

end Froglet.Invites
