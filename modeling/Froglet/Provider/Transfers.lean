import Froglet.Lib.Checks
import Froglet.Lib.Integers
import Froglet.Lib.Runs
import Froglet.Lib.Table

/-!
# The allowance of file transfers

Every download is counted twice, for the provider and for its file, and is refused
where either count would pass its limit.
-/

namespace Froglet.FileDownload

open Option Table

structure FileMetadata where
  (filename mediaType : String)
  sizeBytes : ℕ
  sha256 : String
  expiresAt : ℤ
  (maxDownloads maxTransferBytes : ℕ)

def maxFileBytes : ℕ := 8 * 1024 * 1024

def FileMetadata.validate (m : FileMetadata) : Except String Unit := do
  let name := m.filename.toList
  let media := m.mediaType.toList
  rejectIf (name.isEmpty || 128 < m.filename.utf8ByteSize || name.head? == some '.'
      || name.head? == some ' ' || !name.all fun c => c.isAlphanum || "._- ".toList.contains c
      || name.getLast? == some ' ' || (name.zip name.tail).contains ('.', '.'))
    "filename must be a safe 1–128 byte ASCII basename"
  rejectIf (128 < m.mediaType.utf8ByteSize || media.count '/' != 1 || media.head? == some '/'
      || media.getLast? == some '/'
      || !media.all (fun c => c.isLower || c.isDigit || "/!#$&^_.+-".toList.contains c))
    "media_type must be a lowercase MIME type without parameters"
  rejectIf (maxFileBytes < m.sizeBytes || m.expiresAt ≤ 0 || m.maxDownloads == 0
      || 1000000 < m.maxDownloads || m.maxTransferBytes < m.sizeBytes || m.maxTransferBytes == 0
      || i64Max < m.maxTransferBytes || m.sha256.utf8ByteSize != 64
      || !m.sha256.toList.all (fun c => c.isDigit || ('a' ≤ c && c ≤ 'f')))
    "file requires a valid digest, expiry and finite download/byte limits; maximum size is 8 MiB"

structure FileLimits where
  (maxDownloads maxTransferBytes : ℕ)

/-- A row of `file_transfer_usage`. A sum that leaves the integers of SQLite is a real
number, which is not read back. -/
structure UsageRow where
  scope : String
  (downloads bytes : Option ℤ)

structure TransferUsage where
  (downloads bytes : ℕ)

def UsageRow.read (row : UsageRow) : Except String TransferUsage := do
  let downloads ← okOr row.downloads "Invalid column type Real at index: 0, name: downloads"
  let bytes ← okOr row.bytes "Invalid column type Real at index: 1, name: bytes"
  rejectIf (downloads < 0) "invalid download accounting"
  rejectIf (bytes < 0) "invalid transfer accounting"
  pure ⟨downloads.toNat, bytes.toNat⟩

def usage (rows : List UsageRow) (scope : String) : Except String TransferUsage :=
  (selectWhere (·.scope == scope) rows).elim (.ok ⟨0, 0⟩) UsageRow.read

def UsageRow.add (row : UsageRow) (bytes : ℤ) : UsageRow :=
  { row with
    downloads := row.downloads.bind (checkedAddI64 · 1)
    bytes := row.bytes.bind (checkedAddI64 · bytes) }

def count (scope : String) (bytes : ℤ) (rows : List UsageRow) : List UsageRow :=
  if (selectWhere (·.scope == scope) rows).isSome then
    updateWhere (·.scope == scope) (·.add bytes) rows
  else rows ++ [⟨scope, some 1, some bytes⟩]

def requireNotPaused (pauseReason : Option String) : Except String Unit :=
  rejectIf pauseReason.isSome "provider is paused by its operator"

def checkAllowance (rows : List UsageRow) (size : ℕ) (scope : String) (maxDownloads maxBytes : ℕ) :
    Except String Unit := do
  let used ← usage rows scope
  rejectIf (maxDownloads ≤ used.downloads || (checkedAdd used.bytes size).all (maxBytes < ·))
    "file transfer allowance exhausted"

/-- A call of `reserve`, with the pause of the provider at that time. -/
structure Call where
  (serviceId digest : String)
  metadata : FileMetadata
  now : ℤ
  pauseReason : Option String

def Call.key (call : Call) : String := "file:" ++ call.serviceId ++ ":" ++ call.digest

variable (limits : FileLimits)

def checkReserve (rows : List UsageRow) (call : Call) : Except String Unit := do
  requireNotPaused call.pauseReason
  call.metadata.validate
  rejectIf (call.metadata.expiresAt ≤ call.now) "file publication has expired"
  checkAllowance rows call.metadata.sizeBytes "provider" limits.maxDownloads limits.maxTransferBytes
  checkAllowance rows call.metadata.sizeBytes call.key call.metadata.maxDownloads
    call.metadata.maxTransferBytes

def reserve (rows : List UsageRow) (call : Call) : Except String Unit × List UsageRow :=
  match checkReserve limits rows call with
  | .error e => (.error e, rows)
  | .ok () =>
    let bytes := wrapI64 call.metadata.sizeBytes
    (.ok (), count call.key bytes (count "provider" bytes rows))

def transfers : Machine (List UsageRow) Call where
  init := []
  step rows call := (reserve limits rows call).2

def Within (rows : List UsageRow) (scope : String) (maxDownloads maxBytes : ℕ) : Prop :=
  ∃ used, usage rows scope = .ok used ∧ used.downloads ≤ maxDownloads ∧ used.bytes ≤ maxBytes

/-- One download of `size` bytes was added to the usage of a scope, within its limits. -/
structure Charged (rows rows' : List UsageRow) (scope : String)
    (size maxDownloads maxBytes : ℕ) : Prop where
  within : Within rows' scope maxDownloads maxBytes
  added : ∃ used, usage rows scope = .ok used
    ∧ usage rows' scope = .ok ⟨used.downloads + 1, used.bytes + size⟩

variable {limits} {rows : List UsageRow} {scope other : String} {used : TransferUsage}
  {size : ℕ} {call : Call}

theorem usage_count_of_ne (hne : other ≠ scope) (bytes : ℤ) :
    usage (count scope bytes rows) other = usage rows other := by
  unfold usage count
  split
  case isTrue =>
    rw [selectWhere_updateWhere_of_disjoint]
    intro row hrow
    have hscope : row.scope = scope := by simpa using hrow
    exact ⟨by simpa [hscope] using hne.symm, by simpa [UsageRow.add, hscope] using hne.symm⟩
  case isFalse =>
    have hlast : [UsageRow.mk scope (some 1) (some bytes)].find? (·.scope == other) = none := by
      simpa using hne.symm
    rw [selectWhere, List.find?_append, hlast, or_none]
    rfl

theorem UsageRow.read_add {row : UsageRow} (h : row.read = .ok used)
    (hdownloads : used.downloads < i64Max) (hbytes : used.bytes + size ≤ i64Max) :
    (row.add size).read = .ok ⟨used.downloads + 1, used.bytes + size⟩ := by
  unfold UsageRow.read at h
  simp only [↓check_eq_ok, bind_eq_ok, rejectIf_eq_ok, okOr_eq_ok,
    pure_eq_ok, decide_eq_false_iff_not] at h
  obtain ⟨downloads, hd, bytes, hb, hd0, hb0, rfl⟩ := h
  simp only at hdownloads hbytes ⊢
  have hd1 : checkedAddI64 downloads 1 = some (downloads + 1) :=
    checkedAddI64_eq_some.mpr ⟨rfl, by omega, by omega⟩
  have hb1 : checkedAddI64 bytes size = some (bytes + size) :=
    checkedAddI64_eq_some.mpr ⟨rfl, by omega, by omega⟩
  unfold UsageRow.read
  simp only [↓check_eq_ok, bind_eq_ok, rejectIf_eq_ok, okOr_eq_ok,
    pure_eq_ok, decide_eq_false_iff_not]
  refine ⟨downloads + 1, by simp [UsageRow.add, hd, hd1], bytes + size,
    by simp [UsageRow.add, hb, hb1], by omega, by omega, ?_⟩
  rw [TransferUsage.mk.injEq]
  omega

theorem usage_count_self (h : usage rows scope = .ok used) (hdownloads : used.downloads < i64Max)
    (hbytes : used.bytes + size ≤ i64Max) :
    usage (count scope size rows) scope = .ok ⟨used.downloads + 1, used.bytes + size⟩ := by
  unfold usage at h ⊢
  cases hrow : selectWhere (·.scope == scope) rows with
  | none =>
    rw [hrow] at h
    obtain rfl : (⟨0, 0⟩ : TransferUsage) = used := Except.ok.inj h
    have hadded : selectWhere (·.scope == scope) (count scope size rows)
        = some ⟨scope, some 1, some size⟩ := by
      rw [count, hrow, isSome_none, if_neg Bool.false_ne_true, selectWhere,
        List.find?_append, ← selectWhere, hrow]
      simp
    rw [hadded]
    simp [UsageRow.read, okOr, rejectIf]
    rfl
  | some row =>
    rw [hrow] at h
    have hkeeps : ∀ row : UsageRow, ((row.add size).scope == scope) = (row.scope == scope) :=
      fun _ => rfl
    have hadded : selectWhere (·.scope == scope)
        (updateWhere (·.scope == scope) (·.add size) rows) = some (row.add size) := by
      rw [selectWhere_updateWhere hkeeps, hrow, map_some, if_pos (selectWhere_some hrow).2]
    rw [count, hrow, isSome_some, if_pos rfl, hadded]
    exact UsageRow.read_add h hdownloads hbytes

theorem checkAllowance_ok {maxDownloads maxBytes : ℕ}
    (h : checkAllowance rows size scope maxDownloads maxBytes = .ok ()) :
    ∃ used, usage rows scope = .ok used ∧ used.downloads < maxDownloads
      ∧ used.bytes + size ≤ maxBytes := by
  obtain ⟨used, hused, h⟩ := bind_eq_ok.mp h
  rw [rejectIf_eq_ok, Bool.or_eq_false_iff, decide_eq_false_iff_not, Nat.not_le] at h
  obtain ⟨hdownloads, hbytes⟩ := h
  cases hadd : checkedAdd used.bytes size with
  | none => simp [hadd] at hbytes
  | some total =>
    have htotal := checkedAdd_eq_some hadd
    refine ⟨used, hused, hdownloads, ?_⟩
    simp only [hadd, all_some, decide_eq_false_iff_not] at hbytes
    omega

theorem wrapI64_sizeBytes (h : size ≤ maxFileBytes) : wrapI64 size = size := by
  unfold wrapI64
  rw [Int.bmod_def]
  unfold maxFileBytes at h
  omega

theorem validate_ok {m : FileMetadata} (h : m.validate = .ok ()) :
    m.sizeBytes ≤ maxFileBytes ∧ m.maxDownloads ≤ 1000000 ∧ m.maxTransferBytes ≤ i64Max := by
  unfold FileMetadata.validate at h
  simp only [↓check_eq_ok, rejectIf_eq_ok, Bool.or_eq_false_iff, decide_eq_false_iff_not] at h
  omega

theorem key_ne_provider : call.key ≠ "provider" := by
  intro heq
  have hchars := congrArg (fun s : String => s.toList.head?) heq
  simp [Call.key, String.toList_append] at hchars

theorem charged_of_usage {rows' : List UsageRow} {maxDownloads maxBytes : ℕ}
    (h : usage rows scope = .ok used) (hdownloads : used.downloads < maxDownloads)
    (hbytes : used.bytes + size ≤ maxBytes)
    (h' : usage rows' scope = .ok ⟨used.downloads + 1, used.bytes + size⟩) :
    Charged rows rows' scope size maxDownloads maxBytes :=
  ⟨⟨_, h', hdownloads, hbytes⟩, used, h, h'⟩

/-- What a call does: it is refused, or both usages were within their limits and grow. -/
theorem reserve_cases (hlimits : limits.maxDownloads ≤ i64Max ∧ limits.maxTransferBytes ≤ i64Max)
    (rows : List UsageRow) (call : Call) : (∃ e, reserve limits rows call = (.error e, rows))
    ∨ ((reserve limits rows call).1 = .ok () ∧ call.pauseReason = none
      ∧ call.now < call.metadata.expiresAt
      ∧ Charged rows (reserve limits rows call).2 "provider" call.metadata.sizeBytes
        limits.maxDownloads limits.maxTransferBytes
      ∧ Charged rows (reserve limits rows call).2 call.key call.metadata.sizeBytes
        call.metadata.maxDownloads call.metadata.maxTransferBytes) := by
  unfold reserve
  cases hcheck : checkReserve limits rows call with
  | error e => exact .inl ⟨e, rfl⟩
  | ok =>
    unfold checkReserve at hcheck
    simp only [↓check_eq_ok] at hcheck
    obtain ⟨hpause, hvalid, hexpires, hprovider, hkey⟩ := hcheck
    obtain ⟨hsize, hmax, htransfer⟩ := validate_ok hvalid
    obtain ⟨used, hused, hdownloads, hbytes⟩ := checkAllowance_ok hprovider
    obtain ⟨usedKey, husedKey, hdownloadsKey, hbytesKey⟩ := checkAllowance_ok hkey
    have hwrap := wrapI64_sizeBytes hsize
    have hi64 : 1000000 ≤ i64Max := by decide
    refine .inr ⟨rfl, by simpa [requireNotPaused] using hpause, by simpa using hexpires,
      charged_of_usage hused hdownloads hbytes ?_,
      charged_of_usage husedKey hdownloadsKey hbytesKey ?_⟩
    · rw [hwrap, usage_count_of_ne key_ne_provider.symm]
      exact usage_count_self hused (Nat.lt_of_lt_of_le hdownloads hlimits.1)
        (Nat.le_trans hbytes hlimits.2)
    · rw [hwrap]
      refine usage_count_self ?_ (Nat.lt_of_lt_of_le hdownloadsKey (Nat.le_trans hmax hi64))
        (Nat.le_trans hbytesKey htransfer)
      rw [usage_count_of_ne key_ne_provider]
      exact husedKey

def sampleTransfer : Call where
  serviceId := "s"
  digest := "d"
  metadata :=
    { filename := "a.pdf", mediaType := "application/pdf", sizeBytes := 5
      sha256 := String.ofList (List.replicate 64 'a'), expiresAt := 10, maxDownloads := 1
      maxTransferBytes := 9 }
  now := 1
  pauseReason := none

end Froglet.FileDownload
