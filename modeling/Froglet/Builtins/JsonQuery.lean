import Froglet.Lib.Checks
import Froglet.Protocol.Json

/-!
# Queries over JSON sources

A query selects the rows of a collection by equality filters, skips the first of them
and returns a page of the next ones, projected to some columns.
-/

namespace Froglet.DataQuery

open List Option

abbrev Row : Type := List (String × Json)

def Row.get (row : Row) (column : String) : Option Json := (row.find? (·.1 == column)).map (·.2)

/-- Equality of values: zero and negative zero are equal. -/
def valueEq : Json → Json → Bool
  | .float a, .float b => a == b || (a <<< 1 == 0 && b <<< 1 == 0)
  | a, b => a == b

structure DataQueryLimits where
  (maxRowsPerQuery maxOffset maxQueryColumns maxEqualityFilters : ℕ)

structure JsonDataset where
  collections : List (String × List Row)
  schema : List (String × List String)
variable {dataset : JsonDataset}

structure Select where
  collection : String
  columns : List String
  equals : List (String × Json)
  (limit offset : ℕ)

structure SelectResponse where
  collection : String
  columns : List String
  rows : List (List (String × Json))
  (returned limit offset : ℕ)
  hasMore : Bool

def lookup {α : Type} (name : String) (entries : List (String × α)) : Option α :=
  (entries.find? (·.1 == name)).map (·.2)

/-- What a query meets besides the rows: how names are quoted in errors, the deadline at
every row, and the bound on the answer. -/
structure QueryEnv where
  debug : String → String
  expired : Select → ℕ → Bool
  ensureResultBound : SelectResponse → Except String Unit

variable (env : QueryEnv) (limits : DataQueryLimits)

def validateName (label value : String) : Except String Unit := do
  rejectIf (value.isEmpty || 128 < value.utf8ByteSize) s!"data {label} name must be 1-128 bytes"
  rejectIf (value.toList.any fun c => c.toNat < 32 || (127 ≤ c.toNat && c.toNat < 160))
    s!"data {label} name must not contain control characters"

def requireColumn (available : List String) (column : String) : Except String Unit := do
  validateName "column" column
  rejectIf (!available.contains column) s!"unknown data column {env.debug column}"

def isScalar : Json → Bool
  | .null | .bool _ | .int _ | .float _ | .str _ => true
  | .arr _ | .obj _ => false

def chooseColumns (available columns : List String) : Except String (List String) :=
  if columns.isEmpty then pure available else do
    rejectIf (!decide columns.Nodup) "select columns must not contain duplicates"
    columns.forM (requireColumn env available)
    pure columns

def validateSelect (schema : List (String × List String)) (query : Select) :
    Except String Select := do
  validateName "collection" query.collection
  let available ← okOr (lookup query.collection schema)
    s!"unknown data collection {env.debug query.collection}"
  rejectIf (query.limit == 0 || limits.maxRowsPerQuery < query.limit)
    s!"select limit must be between 1 and {limits.maxRowsPerQuery}"
  rejectIf (limits.maxOffset < query.offset) s!"select offset exceeds {limits.maxOffset}"
  rejectIf (limits.maxQueryColumns < query.columns.length)
    s!"select requests at most {limits.maxQueryColumns} columns"
  rejectIf (limits.maxEqualityFilters < query.equals.length)
    s!"select requests at most {limits.maxEqualityFilters} equality filters"
  let columns ← chooseColumns env available query.columns
  query.equals.forM fun (column, value) => do
    requireColumn env available column
    rejectIf (!isScalar value) s!"equality filter {env.debug column} must be a JSON scalar"
  pure { query with columns }

/-- The filter of the loop of `query_json`. -/
def Select.matchesRow (query : Select) (row : Row) : Bool :=
  query.equals.all fun (column, expected) =>
    (row.get column).any fun value => valueEq value expected

def projectedValue (row : Row) (column : String) : Json := (row.get column).getD .null

def project (columns : List String) (row : Row) : List (String × Json) :=
  columns.map fun column => (column, projectedValue row column)

/-- The loop of `query_json` over the rows from `index` on. -/
def Select.scan (query : Select) (expired : ℕ → Bool) (index matched : ℕ)
    (selected : List (List (String × Json))) :
    List Row → Except String (List (List (String × Json)))
  | [] => .ok selected
  | row :: rows =>
    if expired index then .error "JSON data query deadline exceeded"
    else if !query.matchesRow row then
      query.scan expired (index + 1) matched selected rows
    else if matched < query.offset then
      query.scan expired (index + 1) (matched + 1) selected rows
    else if query.limit < selected.length then .ok selected
    else query.scan expired (index + 1) matched (selected ++ [project query.columns row]) rows

def selectResponse (query : Select) (rows : List (List (String × Json))) :
    Except String SelectResponse := do
  let page := rows.take query.limit
  let response : SelectResponse :=
    { collection := query.collection, columns := query.columns, rows := page,
      returned := page.length, limit := query.limit, offset := query.offset,
      hasMore := query.limit < rows.length }
  env.ensureResultBound response
  pure response

def queryJson (dataset : JsonDataset) (query : Select) : Except String SelectResponse := do
  let rows ← okOr (lookup query.collection dataset.collections)
    s!"unknown data collection {env.debug query.collection}"
  let selected ← query.scan (env.expired query) 0 0 [] rows
  selectResponse env query selected

def select (dataset : JsonDataset) (query : Select) : Except String SelectResponse := do
  queryJson env dataset (← validateSelect env limits dataset.schema query)

def pages (dataset : JsonDataset) (query : Select) :
    ℕ → Except String (Option (List (List (String × Json))))
  | 0 => pure none
  | fuel + 1 => do
    let response ← select env limits dataset query
    if response.hasMore then
      let rest ← pages dataset { query with offset := query.offset + query.limit } fuel
      pure (rest.map (response.rows ++ ·))
    else pure (some response.rows)

def Select.selects (query : Select) (row : Row) : Bool :=
  query.equals.all fun (column, expected) => valueEq (projectedValue row column) expected

def JsonDataset.rowsOf (dataset : JsonDataset) (query : Select) : List Row :=
  (lookup query.collection dataset.collections).getD []

def JsonDataset.matching (dataset : JsonDataset) (query : Select) : List Row :=
  (dataset.rowsOf query).filter query.matchesRow

def JsonDataset.columnsOf (dataset : JsonDataset) (query : Select) : List String :=
  if query.columns.isEmpty then (lookup query.collection dataset.schema).getD []
  else query.columns

variable {env limits} {query : Select}

theorem Select.scan_ok {expired : ℕ → Bool} {index matched : ℕ}
    {selected out : List (List (String × Json))} {rows : List Row}
    (h : query.scan expired index matched selected rows = .ok out) :
    out = selected ++ (((rows.filter query.matchesRow).drop (query.offset - matched)).map
      (project query.columns)).take (query.limit + 1 - selected.length) := by
  induction rows generalizing index matched selected with
  | nil =>
    obtain rfl : selected = out := Except.ok.inj h
    simp
  | cons row rows ih =>
    rw [Select.scan] at h
    split at h
    · cases h
    split at h
    case isTrue hno =>
      rw [filter_cons_of_neg (by simpa using hno)]
      exact ih h
    case isFalse hmatch =>
      rw [filter_cons_of_pos (by simpa using hmatch)]
      split at h
      case isTrue hskip =>
        rw [ih h, show query.offset - matched = query.offset - (matched + 1) + 1 by omega,
          drop_succ_cons]
      case isFalse hskip =>
        rw [Nat.sub_eq_zero_of_le (Nat.le_of_not_lt hskip), drop_zero, map_cons]
        split at h
        case isTrue hfull =>
          obtain rfl : selected = out := Except.ok.inj h
          rw [Nat.sub_eq_zero_of_le hfull, take_zero, append_nil]
        case isFalse hroom =>
          rw [ih h, Nat.sub_eq_zero_of_le (Nat.le_of_not_lt hskip), drop_zero,
            length_append, length_singleton,
            show query.limit + 1 - selected.length
              = query.limit + 1 - (selected.length + 1) + 1 by omega,
            take_succ_cons, append_assoc, singleton_append]

theorem validateSelect_ok {valid : Select}
    (h : validateSelect env limits dataset.schema query = .ok valid) :
    query.limit ≠ 0 ∧ valid = { query with columns := dataset.columnsOf query } := by
  unfold validateSelect chooseColumns at h
  simp only [↓check_eq_ok, bind_eq_ok, rejectIf_eq_ok, okOr_eq_ok, pure_eq_ok] at h
  obtain ⟨-, available, hfound, hlimit, -, -, -, columns, hcolumns, -, rfl⟩ := h
  refine ⟨fun hzero => by simp [hzero] at hlimit, ?_⟩
  rw [JsonDataset.columnsOf, hfound, getD_some]
  split at hcolumns
  case isTrue hempty => rw [if_pos hempty, pure_eq_ok.mp hcolumns]
  case isFalse hsome =>
    simp only [bind_eq_ok, pure_eq_ok] at hcolumns
    obtain ⟨-, -, -, -, rfl⟩ := hcolumns
    rw [if_neg hsome]

/-- A page: the rows that match from the offset on, and whether there are more. -/
theorem select_ok {response : SelectResponse} (h : select env limits dataset query = .ok response) :
    query.limit ≠ 0 ∧ response.rows = (((dataset.matching query).drop query.offset).map
        (project (dataset.columnsOf query))).take query.limit
    ∧ response.hasMore = decide (query.offset + query.limit < (dataset.matching query).length) := by
  unfold select queryJson selectResponse at h
  simp only [bind_eq_ok, okOr_eq_ok, pure_eq_ok] at h
  obtain ⟨valid, hvalid, rows, hrows, selected, hscan, -, -, rfl⟩ := h
  obtain ⟨hlimit, rfl⟩ := validateSelect_ok hvalid
  have hselected := Select.scan_ok hscan
  rw [nil_append, Nat.sub_zero, length_nil, Nat.sub_zero] at hselected
  have hfound : dataset.rowsOf query = rows := by rw [JsonDataset.rowsOf, hrows, getD_some]
  subst hfound
  refine ⟨hlimit, ?_, ?_⟩
  · rw [hselected, take_take, Nat.min_eq_left (Nat.le_succ _)]
    rfl
  · have hlength := congrArg length hselected
    rw [length_take, length_map, length_drop] at hlength
    refine decide_eq_decide.mpr ?_
    rw [hlength]
    change query.limit < min (query.limit + 1) ((dataset.matching query).length - query.offset) ↔ _
    omega

theorem pages_ok {fuel : ℕ} {result : Option (List (List (String × Json)))}
    (h : pages env limits dataset query fuel = .ok result)
    (hfuel : (dataset.matching query).length - query.offset < fuel) :
    result = some (((dataset.matching query).drop query.offset).map
      (project (dataset.columnsOf query))) := by
  induction fuel generalizing query result with
  | zero => cases hfuel
  | succ fuel ih =>
    obtain ⟨response, hselect, h⟩ := bind_eq_ok.mp h
    obtain ⟨hlimit, hrows, hmore⟩ := select_ok hselect
    split at h
    case isTrue hyes =>
      obtain ⟨rest, hrest, h⟩ := bind_eq_ok.mp h
      obtain rfl := pure_eq_ok.mp h
      rw [hmore, decide_eq_true_eq] at hyes
      -- the next query asks for the same rows, a page further
      have hnext := ih hrest (by
        change (dataset.matching query).length
          - (query.offset + query.limit) < fuel
        omega)
      rw [hnext, hrows, map_some]
      change some (_ ++ (((dataset.matching query).drop
        (query.offset + query.limit)).map (project (dataset.columnsOf query)))) = _
      have hdrop : ((dataset.matching query).drop
          (query.offset + query.limit)).map (project (dataset.columnsOf query))
          = (((dataset.matching query).drop query.offset).map
            (project (dataset.columnsOf query))).drop query.limit := by
        rw [← map_drop, drop_drop]
      rw [hdrop, take_append_drop]
    case isFalse hno =>
      obtain rfl := pure_eq_ok.mp h
      rw [hmore, decide_eq_true_eq, Nat.not_lt] at hno
      rw [hrows, take_of_length_le]
      rw [length_map, length_drop]
      omega

/-- A filter on a column that a row lacks is not met, though the projection shows null. -/
theorem Select.matchesRow_eq (row : Row) :
    query.matchesRow row = true ↔
      query.selects row = true ∧ ∀ filter ∈ query.equals, row.get filter.1 ≠ none := by
  simp only [Select.matchesRow, Select.selects, List.all_eq_true, ← forall₂_and]
  refine forall₂_congr fun filter _ => ?_
  unfold projectedValue
  cases row.get filter.1 with
  | none => simp
  | some value => simp

theorem map_filter_eq_iff {α β : Type*} {f : α → β} {p q : α → Bool} {l : List α}
    (himp : ∀ a, p a = true → q a = true) :
    (l.filter p).map f = (l.filter q).map f ↔ ∀ a ∈ l, q a = true → p a = true := by
  constructor
  · intro heq
    have hlength := congrArg length heq
    rw [length_map, length_map] at hlength
    have htwice : (l.filter q).filter p = l.filter p := by
      rw [List.filter_filter]
      exact filter_congr fun a _ => by
        cases hp : p a with
        | true => rw [himp a hp, Bool.and_self]
        | false => rfl
    have hsame : (l.filter q).filter p = l.filter q :=
      filter_sublist.eq_of_length (by rw [htwice, hlength])
    rw [htwice] at hsame
    intro a ha hq
    exact (mem_filter.mp (hsame ▸ mem_filter.mpr ⟨ha, hq⟩)).2
  · intro hback
    rw [filter_congr fun a ha => Bool.eq_iff_iff.mpr ⟨himp a, hback a ha⟩]

/-- **Pages of a JSON query.** Where no page is refused, following the pages of a query
gives the rows whose projected values meet the filters exactly if all of these rows have
the columns of the filters. -/
theorem json_pages_iff (env : QueryEnv) (limits : DataQueryLimits) (dataset : JsonDataset)
    (query : Select) (fuel : ℕ) (result : Option (List (List (String × Json))))
    (hstart : query.offset = 0) (hfuel : (dataset.rowsOf query).length < fuel)
    (h : pages env limits dataset query fuel = .ok result) :
    result = some (((dataset.rowsOf query).filter query.selects).map
        (project (dataset.columnsOf query)))
    ↔ ∀ row ∈ dataset.rowsOf query, query.selects row = true →
        ∀ filter ∈ query.equals, row.get filter.1 ≠ none := by
  have hpages := pages_ok h (lt_of_le_of_lt ((Nat.sub_le ..).trans (length_filter_le ..)) hfuel)
  rw [hpages, hstart, drop_zero, some_inj, JsonDataset.matching,
    map_filter_eq_iff fun row hmatch => ((Select.matchesRow_eq row).mp hmatch).1]
  refine forall₂_congr fun row _ => ⟨fun hback hsel => ?_, fun hall hsel => ?_⟩
  · exact ((Select.matchesRow_eq row).mp (hback hsel)).2
  · exact (Select.matchesRow_eq row).mpr ⟨hsel, hall hsel⟩

def sampleEnv : QueryEnv := ⟨id, fun _ _ => false, fun _ => .ok ()⟩

def sampleLimits : DataQueryLimits := ⟨10, 10, 10, 10⟩

def sampleData : JsonDataset where
  collections := [("rows", [[("a", .int 1)], [("a", .int 2), ("b", .null)], [("a", .int 3)]])]
  schema := [("rows", ["a", "b"])]

def sampleSelect : Select := ⟨"rows", ["a"], [], 2, 0⟩

theorem json_pages_sample :
    some [[("a", Json.int 1)], [("a", .int 2)], [("a", .int 3)]]
      = some (((sampleData.rowsOf sampleSelect).filter sampleSelect.selects).map
          (project (sampleData.columnsOf sampleSelect))) :=
  (json_pages_iff sampleEnv sampleLimits sampleData sampleSelect 4 _ rfl (by decide) rfl).mpr
    fun _ _ _ _ hfilter => nomatch hfilter

def sampleNullSelect : Select := ⟨"rows", ["a", "b"], [("b", .null)], 2, 0⟩

/-- All three rows show null in the column `b`, and only the one that holds it is returned. -/
theorem null_filter_misses_rows :
    pages sampleEnv sampleLimits sampleData sampleNullSelect 4
      = .ok (some [[("a", .int 2), ("b", .null)]])
    ∧ ((sampleData.rowsOf sampleNullSelect).filter sampleNullSelect.selects).map
        (project ["a", "b"]) = [[("a", .int 1), ("b", .null)], [("a", .int 2), ("b", .null)],
        [("a", .int 3), ("b", .null)]] :=
  ⟨rfl, rfl⟩

end Froglet.DataQuery
