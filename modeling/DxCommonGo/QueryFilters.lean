import DxCommonGo.QueryModel

/-! Conditions from request-level filter maps and from temporal filters. -/

namespace DxCommonGo.QueryFilters
open GoStrings GoMaps QueryModel

/-- A slice or array value: none without elements, an equality with the only
element, membership otherwise. -/
def sliceCondition (col : GoString) (v : Value) : List Value → Option Condition
  | [] => none
  | [only] => some (eq col only)
  | _ => some (isIn col v)

def filterCondition (col : GoString) (v : Value) : Option Condition :=
  match v with
  | .nil => none
  | .anys vs => sliceCondition col v vs
  | .slice vs => sliceCondition col v vs
  | .str s => if s.isEmpty then none else some (eq col v)
  | .int _ | .other _ _ => some (eq col v)

def fromFilters (ord : RangeOrder) (site : Nat) (filters : GoMap Value) : List Condition :=
  (sortStrings ((range ord site filters).map Prod.fst)).filterMap fun col =>
    (filters.lookup col).bind (filterCondition col)

structure TemporalFilter where
  field : GoString
  rel : GoString
  time : Value
  endTime : Value
  deriving DecidableEq

def temporalCondition (t : TemporalFilter) : Option Condition :=
  if t.rel = str "between" then some (between t.field t.time t.endTime)
  else if t.rel = str "after" then some (gt t.field t.time)
  else if t.rel = str "before" then some (lt t.field t.time)
  else none

def fromTemporal (filters : List TemporalFilter) : List Condition :=
  filters.filterMap temporalCondition

theorem filterCondition_leaf {col : GoString} {v : Value} {c : Condition}
    (h : filterCondition col v = some c) : c.column = col ∧ c.sub = [] := by
  unfold filterCondition sliceCondition at h
  split at h <;> try split at h
  all_goals cases h
  all_goals exact ⟨rfl, rfl⟩

theorem temporalCondition_leaf {t : TemporalFilter} {c : Condition}
    (h : temporalCondition t = some c) : c.column = t.field ∧ c.sub = [] := by
  unfold temporalCondition at h
  split_ifs at h
  all_goals cases h
  all_goals exact ⟨rfl, rfl⟩

theorem mem_fromFilters {ord : RangeOrder} {site : Nat} {filters : GoMap Value} {c : Condition} :
    c ∈ fromFilters ord site filters ↔
      ∃ col v, filters.lookup col = some v ∧ filterCondition col v = some c := by
  simp only [fromFilters, List.mem_filterMap, mem_sortStrings, mem_range_keys,
    Option.bind_eq_some_iff]
  constructor
  · rintro ⟨col, -, v, hv, hc⟩
    exact ⟨col, v, hv, hc⟩
  · rintro ⟨col, v, hv, hc⟩
    exact ⟨col, AList.lookup_isSome.mp (by simp [hv]), v, hv, hc⟩

end DxCommonGo.QueryFilters
