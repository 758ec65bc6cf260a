import DxCommonGo.DxErrors
import DxCommonGo.NetUrl
import DxCommonGo.QueryFilters

/-! Package `request`: the builder of paginated list requests. Of the HTTP request only the raw
query is read. Each loop over a map takes the order `RangeOrder` gives to its site. -/

namespace DxCommonGo.PaginatedRequest
open GoStrings GoMaps GoErrors DxErrors NetUrl QueryModel QueryFilters

def defaultPage : Int := 1
def defaultSize : Int := 10
def maxSize : Int := 100
def maxSortFields : Nat := 3

structure Request where
  page : Int
  size : Int
  filters : GoMap Value
  fuzzyFilters : GoMap GoString
  orderBy : List OrderBy
  temporal : List TemporalFilter

structure Builder where
  rawQuery : GoString
  allowedFiltersDBMap : GoMap GoString := ∅
  additionalFilters : GoMap Value := ∅
  allowedTimeFields : GoMap Unit := ∅
  defaultTimeField : GoString := []
  allowedSortFields : GoMap Unit := ∅
  defaultSortBy : GoString := []
  defaultOrder : GoString := str "desc"
  apiToDBMap : GoMap GoString := ∅
  fuzzyFiltersDBMap : GoMap GoString := ∅
  extraParams : GoMap Unit := ∅

def toSet (items : List GoString) : GoMap Unit := insertAll ∅ (items.map fun i => (i, ()))

def Builder.defaultSort (b : Builder) (field order : GoString) : Builder :=
  { b with defaultSortBy := field, defaultOrder := if order = [] then b.defaultOrder else order }

def Builder.allowParams (b : Builder) (names : List GoString) : Builder :=
  { b with extraParams := insertAll b.extraParams (names.map fun n => (n, ())) }

inductive Loop where
  | params | filters | additional | fuzzy | timeFields | fromFilters | fuzzyConditions
  deriving DecidableEq, Repr

def Loop.site : Loop → Nat
  | .params => 1
  | .filters => 2
  | .additional => 3
  | .fuzzy => 4
  | .timeFields => 5
  | .fromFilters => 6
  | .fuzzyConditions => 7

def parseIntOrDefault (s : GoString) (default : Int) : Int :=
  if s = [] then default else (atoi s).getD default

def rawQueryParam (rawQuery key : GoString) : GoString :=
  let found := (split rawQuery 38).findSome? fun pair =>
    (cut 61 pair).bind fun p => if p.1 = key then some p.2 else none
  match found with
  | some v => (queryUnescape v).getD v
  | none => []

namespace Builder

def allowedQueryParams (b : Builder) : List GoString :=
  [str "page", str "size", str "sort", str "search_term", str "time", str "endtime",
    str "timerel"] ++ b.allowedFiltersDBMap.keys ++ b.fuzzyFiltersDBMap.keys ++
  (b.allowedTimeFields.keys.flatMap fun f =>
    [f ++ str "_time", f ++ str "_endtime", f ++ str "_timerel"]) ++ b.extraParams.keys

def sortItem (lower : GoString → GoString) (b : Builder) (item : GoString) :
    Except GoError OrderBy :=
  match splitN2 item 58 with
  | [name, order] =>
    let field := trimSpace name
    let dir := toLower lower (trimSpace order)
    if field ∉ b.allowedSortFields then
      .error (newValidation (str "invalid sort field: " ++ field))
    else if dir ≠ str "asc" ∧ dir ≠ str "desc" then
      .error (newValidation (str "invalid sort order: " ++ dir))
    else .ok ⟨(b.apiToDBMap.lookup field).getD field, dir = str "desc"⟩
  | _ =>
    .error (newValidation (str "invalid sort format: " ++ item ++ str " (expected field:order)"))

def extractSort (lower : GoString → GoString) (b : Builder) (sortParam : GoString) :
    Except GoError (List OrderBy) :=
  if sortParam = [] then
    if b.defaultSortBy ≠ [] then
      .ok [⟨b.defaultSortBy, equalFold b.defaultOrder (str "desc")⟩]
    else .ok []
  else
    let items := split sortParam 59
    if maxSortFields < items.length then
      .error (newValidation (str "too many sort fields; max allowed is " ++
        itoaNat maxSortFields))
    else items.mapM (sortItem lower b)

def defaultTemporal (b : Builder) (q : Values) : Except GoError (List TemporalFilter) :=
  if b.defaultTimeField = [] then .ok []
  else
    let time := Values.get q (str "time")
    let endtime := Values.get q (str "endtime")
    let timerel := Values.get q (str "timerel")
    if endtime ≠ [] ∧ time = [] then
      .error (newValidation (str "parameter 'endtime' cannot be used without 'time'"))
    else if time ≠ [] ∧ timerel = [] then
      .error (newValidation (str "parameter 'timerel' is required for a temporal query"))
    else if timerel ≠ [] then .ok [⟨b.defaultTimeField, timerel, .str time, .str endtime⟩]
    else .ok []

def fieldTemporal (q : Values) (field : GoString) : Option TemporalFilter :=
  let trl := Values.get q (field ++ str "_timerel")
  if trl = [] then none
  else some ⟨field, trl, .str (Values.get q (field ++ str "_time")),
    .str (Values.get q (field ++ str "_endtime"))⟩

def extractTemporal (ord : RangeOrder) (b : Builder) (q : Values) :
    Except GoError (List TemporalFilter) :=
  (b.defaultTemporal q).map fun out =>
    out ++ (range ord Loop.timeFields.site b.allowedTimeFields).filterMap
      fun e => fieldTemporal q e.1

/-- The exact filters: what the client sent for an allowed parameter, and over
it the service-side constants. -/
def filters (ord : RangeOrder) (b : Builder) (q : Values) : GoMap Value :=
  let sent := (range ord Loop.filters.site b.allowedFiltersDBMap).filterMap fun e =>
    match q.lookup e.1 with
    | some (v :: vs) => some (e.2, Value.slice ((v :: vs).map Value.str))
    | _ => none
  insertAll (insertAll ∅ sent) (range ord Loop.additional.site b.additionalFilters)

def fuzzyFilters (ord : RangeOrder) (b : Builder) (q : Values) : GoMap GoString :=
  insertAll ∅ <| (range ord Loop.fuzzy.site b.fuzzyFiltersDBMap).filterMap fun e =>
    let v := trimSpace (Values.get q e.1)
    if v = [] then none else some (e.2, v)

def page (q : Values) : Int :=
  let page := parseIntOrDefault (Values.get q (str "page")) defaultPage
  if page < 1 then defaultPage else page

def size (q : Values) : Int :=
  let size := parseIntOrDefault (Values.get q (str "size")) defaultSize
  if size < 1 then defaultSize else if maxSize < size then maxSize else size

def build (lower : GoString → GoString) (ord : RangeOrder) (b : Builder) :
    Except GoError Request := do
  let q := parseQuery b.rawQuery
  match ((range ord Loop.params.site q).map Prod.fst).find? (· ∉ b.allowedQueryParams) with
  | some name => throw (newValidation (str "invalid query parameter: " ++ name))
  | none =>
    let orderBy ← b.extractSort lower (rawQueryParam b.rawQuery (str "sort"))
    let temporal ← b.extractTemporal ord q
    return { page := page q, size := size q, filters := b.filters ord q,
             fuzzyFilters := b.fuzzyFilters ord q, orderBy, temporal }

theorem build_eq_ok {lower : GoString → GoString} {ord : RangeOrder} {b : Builder} {p : Request}
    (h : b.build lower ord = .ok p) :
    b.extractSort lower (rawQueryParam b.rawQuery (str "sort")) = .ok p.orderBy ∧
      b.extractTemporal ord (parseQuery b.rawQuery) = .ok p.temporal ∧
      p.filters = b.filters ord (parseQuery b.rawQuery) ∧
      p.fuzzyFilters = b.fuzzyFilters ord (parseQuery b.rawQuery) := by
  dsimp only [build] at h
  split at h
  · cases h
  · obtain ⟨orderBy, hsort, h⟩ := bind_eq_ok.mp h
    obtain ⟨temporal, htemporal, h⟩ := bind_eq_ok.mp h
    cases h
    exact ⟨hsort, htemporal, rfl, rfl⟩

end Builder

namespace Request

def limit (p : Request) : Int := p.size

def offset (p : Request) : Int :=
  if p.page < 1 then 0 else ((p.page - 1) * p.size).bmod (2 ^ 64)

def conditions (ord : RangeOrder) (p : Request) : List Condition :=
  fromFilters ord Loop.fromFilters.site p.filters ++
    ((range ord Loop.fuzzyConditions.site p.fuzzyFilters).map fun e =>
      iLike e.1 (str "%" ++ e.2 ++ str "%")) ++
    fromTemporal p.temporal

theorem mem_conditions {ord : RangeOrder} {p : Request} {c : Condition} :
    c ∈ p.conditions ord ↔
      (∃ col v, p.filters.lookup col = some v ∧ filterCondition col v = some c) ∨
      (∃ col term, p.fuzzyFilters.lookup col = some term ∧
        iLike col (str "%" ++ term ++ str "%") = c) ∨
      ∃ t ∈ p.temporal, temporalCondition t = some c := by
  simp only [conditions, fromTemporal, List.mem_append, List.mem_map, List.mem_filterMap,
    mem_fromFilters, Prod.exists, mem_range, or_assoc]

end Request

end DxCommonGo.PaginatedRequest
