import DxCommonGo.PaginatedRequest
import DxCommonGo.QueryMeaning

/-! Service-side constant filters. `AdditionalFilters` overwrites what the client sent for the
column; an empty string or slice is skipped by design. -/

namespace DxCommonGo.RequestScope
open GoStrings GoMaps QueryModel QueryFilters QueryMeaning SqlSemantics PaginatedRequest

variable {D : Type}

def PinnedTo (P : Database D) (x : Option D) : Value → Prop
  | .str s => x = some (P.encode (.str s))
  | .anys vs | .slice vs => ∃ v ∈ vs, x = P.scalar v
  | _ => True

def pinning : Value → Bool
  | .str s => !s.isEmpty
  | .anys vs | .slice vs => !vs.isEmpty
  | _ => false

theorem sliceCondition_pins {P : Database D} {row : Row D} {col : GoString} {v : Value}
    {vs : List Value} (hne : vs ≠ []) (hv : elements v = some vs) :
    ∃ c, sliceCondition col v vs = some c ∧
      (conditionTruth P row c = .true → ∃ e ∈ vs, row col = P.scalar e) := by
  match vs, hne with
  | [only], _ =>
    refine ⟨_, rfl, fun ht => ⟨only, List.mem_cons_self, ?_⟩⟩
    exact (P.compare_eq_true ht).1
  | first :: second :: rest, _ =>
    refine ⟨_, rfl, fun ht => ?_⟩
    have member : memberTruth P (row col) v = .true := ht
    simp only [memberTruth, Database.array, hv, Option.map_some, List.map_map,
      Truth.any_eq_true] at member
    obtain ⟨e, he, heq⟩ := List.mem_map.mp member
    exact ⟨e, he, (P.compare_eq_true heq).1⟩

theorem filterCondition_pins (P : Database D) (row : Row D) (col : GoString) {v : Value}
    (hv : pinning v = true) :
    ∃ c, filterCondition col v = some c ∧
      (conditionTruth P row c = .true → PinnedTo P (row col) v) := by
  cases v with
  | str s =>
    have written : s.isEmpty = false := by simpa [pinning] using hv
    refine ⟨eq col (.str s), by simp [filterCondition, written], fun ht => ?_⟩
    exact (P.compare_eq_true ht).1
  | anys vs => exact sliceCondition_pins (by simpa [pinning] using hv) rfl
  | slice vs => exact sliceCondition_pins (by simpa [pinning] using hv) rfl
  | nil | int | other => cases hv

theorem filters_additional (ord : RangeOrder) (b : Builder) (q : NetUrl.Values) {col : GoString}
    {v : Value} (hv : b.additionalFilters.lookup col = some v) :
    (b.filters ord q).lookup col = some v :=
  lookup_insertAll_of_nodup _ (range_keys_nodup ..) (mem_range.mpr hv)

/-- A row that satisfies the conditions of a request lies within every
service-side constant filter whose value is not empty. -/
theorem build_pins_additionalFilters {lower : GoString → GoString} {ord : RangeOrder}
    {b : Builder} {p : Request} (h : b.build lower ord = .ok p) {col : GoString} {v : Value}
    (hv : b.additionalFilters.lookup col = some v) (hpin : pinning v = true) (P : Database D)
    (row : Row D) (ord' : RangeOrder)
    (hrow : Truth.all (conditionsTruth P row (p.conditions ord')) = .true) :
    PinnedTo P (row col) v := by
  obtain ⟨-, -, hfilters, -⟩ := Builder.build_eq_ok h
  obtain ⟨c, hc, hpinned⟩ := filterCondition_pins P row col hpin
  have stored : p.filters.lookup col = some v := by
    rw [hfilters]
    exact filters_additional ord b _ hv
  have present : c ∈ p.conditions ord' := Request.mem_conditions.mpr (.inl ⟨col, v, stored, hc⟩)
  exact hpinned (all_conditionsTruth.mp hrow c present)

def tenantBuilder (v : Value) : Builder where
  rawQuery := str "tenant=t2&status=ACTIVE"
  allowedFiltersDBMap := ofPairs [(str "tenant", str "tenant"), (str "status", str "status")]
  additionalFilters := ofPairs [(str "tenant", v)]

def tenantRow (tenant : GoString) : Row Value := fun col =>
  if col = str "tenant" then some (.str tenant)
  else if col = str "status" then some (.str (str "ACTIVE")) else none

theorem build_pins_tenant : ∃ p, (tenantBuilder (.str (str "t1"))).build id .listed = .ok p ∧
    Truth.all (conditionsTruth valueDatabase (tenantRow (str "t1"))
      (p.conditions .backwards)) = .true ∧
    PinnedTo valueDatabase (tenantRow (str "t1") (str "tenant")) (.str (str "t1")) := by
  obtain ⟨p, hp⟩ : ∃ p, (tenantBuilder (.str (str "t1"))).build id .listed = .ok p := ⟨_, rfl⟩
  have satisfied : Truth.all (conditionsTruth valueDatabase (tenantRow (str "t1"))
      (p.conditions .backwards)) = .true := by
    cases hp
    decide +kernel
  exact ⟨p, hp, satisfied,
    build_pins_additionalFilters hp rfl rfl valueDatabase _ .backwards satisfied⟩

def TenantEscapes (v : Value) : Prop :=
  ∃ p, (tenantBuilder v).build id .listed = .ok p ∧
    (tenantBuilder v).additionalFilters.lookup (str "tenant") = some v ∧
    Truth.all (conditionsTruth valueDatabase (tenantRow (str "t3")) (p.conditions .listed)) =
      .true ∧
    ¬PinnedTo valueDatabase (tenantRow (str "t3") (str "tenant")) v

theorem tenantEscapes_empty : TenantEscapes (.str []) ∧ TenantEscapes (.slice []) := by
  constructor
  · exact ⟨_, rfl, rfl, by decide +kernel, by simp [PinnedTo, tenantRow, valueDatabase, str]⟩
  · exact ⟨_, rfl, rfl, by decide +kernel, by simp [PinnedTo]⟩

end DxCommonGo.RequestScope
