import DxCommonGo.QueryWhere
import DxCommonGo.RequestAllowlist
import DxCommonGo.RequestScope

/-! A list request means the same in all orders in which its loops visit their maps, unless two
parameters for one column have different values. -/

namespace DxCommonGo.RequestOrder
open GoStrings GoMaps GoErrors NetUrl QueryModel QueryBuilder QueryFilters QueryMeaning
open QueryWhere SqlSyntax PaginatedRequest RequestScope

def sentFilter (q : Values) (e : GoString × GoString) : Option (GoString × Value) :=
  match q.lookup e.1 with
  | some (v :: vs) => some (e.2, Value.slice ((v :: vs).map Value.str))
  | _ => none

def sentFuzzy (q : Values) (e : GoString × GoString) : Option (GoString × GoString) :=
  let v := trimSpace (Values.get q e.1)
  if v = [] then none else some (e.2, v)

def sentFilters (b : Builder) : List (GoString × Value) :=
  (pairs b.allowedFiltersDBMap).filterMap (sentFilter (parseQuery b.rawQuery))

def sentFuzzies (b : Builder) : List (GoString × GoString) :=
  (pairs b.fuzzyFiltersDBMap).filterMap (sentFuzzy (parseQuery b.rawQuery))

/-- Parameters that were sent for one column were sent with the same values, if no
constant filter replaces them. -/
structure NoClash (b : Builder) : Prop where
  filters : ∀ x ∈ sentFilters b, ∀ y ∈ sentFilters b, x.1 = y.1 → x.1 ∉ b.additionalFilters →
    x.2 = y.2
  fuzzy : ∀ x ∈ sentFuzzies b, ∀ y ∈ sentFuzzies b, x.1 = y.1 → x.2 = y.2

theorem filters_eq (ord : RangeOrder) (b : Builder) (q : Values) :
    b.filters ord q =
      insertAll (insertAll ∅ ((range ord Loop.filters.site b.allowedFiltersDBMap).filterMap
        (sentFilter q))) (range ord Loop.additional.site b.additionalFilters) :=
  rfl

theorem fuzzyFilters_eq (ord : RangeOrder) (b : Builder) (q : Values) :
    b.fuzzyFilters ord q =
      insertAll ∅ ((range ord Loop.fuzzy.site b.fuzzyFiltersDBMap).filterMap (sentFuzzy q)) := rfl

variable {b : Builder} {col : GoString} {ord : RangeOrder} {lower : GoString → GoString}
  {p : Request} {c : Condition} {x : GoString × Value}

theorem filters_lookup_sent {q : Values} (free : col ∉ b.additionalFilters) :
    (b.filters ord q).lookup col =
      (insertAll ∅ ((range ord Loop.filters.site b.allowedFiltersDBMap).filterMap
        (sentFilter q))).lookup col := by
  rw [filters_eq, lookup_insertAll_of_not_mem _ fun hk => free (mem_range_keys.mp hk)]

theorem lookup_insertAll_perm {β : Type} {ps qs : List (GoString × β)} (same : ps.Perm qs)
    {k : GoString} (agree : ∀ v w, (k, v) ∈ ps → (k, w) ∈ ps → w = v) (m : GoMap β) :
    (insertAll m ps).lookup k = (insertAll m qs).lookup k := by
  by_cases written : k ∈ ps.map Prod.fst
  · obtain ⟨⟨k', v⟩, hv, rfl⟩ := List.mem_map.mp written
    rw [lookup_insertAll_of_agree m hv fun w hw => agree v w hv hw,
      lookup_insertAll_of_agree m (same.mem_iff.mp hv)
        fun w hw => agree v w hv (same.mem_iff.mpr hw)]
  · have unwritten : k ∉ qs.map Prod.fst := fun hk => written ((same.map _).mem_iff.mpr hk)
    rw [lookup_insertAll_of_not_mem m written, lookup_insertAll_of_not_mem m unwritten]

theorem lookup_sent {β : Type} (ord ord' : RangeOrder) (site : Nat) {m : GoMap GoString}
    {f : GoString × GoString → Option (GoString × β)} {k : GoString}
    (agree : ∀ v w, (k, v) ∈ (pairs m).filterMap f → (k, w) ∈ (pairs m).filterMap f → w = v) :
    (insertAll ∅ ((range ord site m).filterMap f)).lookup k =
      (insertAll ∅ ((range ord' site m).filterMap f)).lookup k := by
  have listed (o : RangeOrder) := (range_perm o site m).filterMap f
  refine lookup_insertAll_perm ((listed ord).trans (listed ord').symm) (fun v w hv hw => ?_) ∅
  exact agree v w ((listed ord).mem_iff.mp hv) ((listed ord).mem_iff.mp hw)

theorem NoClash.filters_lookup (h : NoClash b) (ord ord' : RangeOrder) (col : GoString) :
    (b.filters ord (parseQuery b.rawQuery)).lookup col =
      (b.filters ord' (parseQuery b.rawQuery)).lookup col := by
  cases constant : b.additionalFilters.lookup col with
  | some v => rw [filters_additional ord b _ constant, filters_additional ord' b _ constant]
  | none =>
    have free : col ∉ b.additionalFilters := by
      rw [← AList.lookup_isSome, constant]
      simp
    rw [filters_lookup_sent free, filters_lookup_sent free]
    exact lookup_sent ord ord' _ fun v w hv hw => h.filters _ hw _ hv rfl free

theorem NoClash.fuzzy_lookup (h : NoClash b) (ord ord' : RangeOrder) (col : GoString) :
    (b.fuzzyFilters ord (parseQuery b.rawQuery)).lookup col =
      (b.fuzzyFilters ord' (parseQuery b.rawQuery)).lookup col := by
  rw [fuzzyFilters_eq, fuzzyFilters_eq]
  exact lookup_sent ord ord' _ fun v w hv hw => h.fuzzy _ hw _ hv rfl

theorem fromFilters_congr {m m' : GoMap Value} (h : ∀ k, m.lookup k = m'.lookup k)
    (ord ord' : RangeOrder) (site : Nat) : fromFilters ord site m = fromFilters ord' site m' := by
  have keys := (range_perm_of_lookup h ord ord' site).map Prod.fst
  simp only [fromFilters, sortStrings_eq_of_perm keys, h]

theorem extractTemporal_perm {ord' : RangeOrder} {q : Values} {ts ts' : List TemporalFilter}
    (h : b.extractTemporal ord q = .ok ts) (h' : b.extractTemporal ord' q = .ok ts') :
    ts.Perm ts' := by
  obtain ⟨out, hout, rfl⟩ := map_eq_ok.mp h
  obtain ⟨out', hout', rfl⟩ := map_eq_ok.mp h'
  cases hout.symm.trans hout'
  refine List.Perm.append_left out (List.Perm.filterMap _ ?_)
  exact (range_perm ord _ _).trans (range_perm ord' _ _).symm

theorem NoClash.conditions_perm (h : NoClash b) {o u : RangeOrder} {r : Request}
    (hp : b.build lower o = .ok p) (hr : b.build lower u = .ok r) (o' u' : RangeOrder) :
    (p.conditions o').Perm (r.conditions u') := by
  obtain ⟨-, temporal, filters, fuzzy⟩ := Builder.build_eq_ok hp
  obtain ⟨-, temporal', filters', fuzzy'⟩ := Builder.build_eq_ok hr
  have exactFilters : fromFilters o' Loop.fromFilters.site p.filters =
      fromFilters u' Loop.fromFilters.site r.filters := by
    rw [filters, filters']
    exact fromFilters_congr (h.filters_lookup o u) o' u' _
  have fuzzies : (range o' Loop.fuzzyConditions.site p.fuzzyFilters).Perm
      (range u' Loop.fuzzyConditions.site r.fuzzyFilters) := by
    rw [fuzzy, fuzzy']
    exact range_perm_of_lookup (h.fuzzy_lookup o u) o' u' _
  unfold Request.conditions
  rw [exactFilters]
  exact ((fuzzies.map _).append_left _).append
    ((extractTemporal_perm temporal temporal').filterMap _)

theorem build_ok_of_ok {o : RangeOrder} (h : b.build lower o = .ok p) (u : RangeOrder) :
    ∃ r, b.build lower u = .ok r := by
  obtain ⟨sorted, temporal, -, -⟩ := Builder.build_eq_ok h
  have checked : ((range u Loop.params.site (parseQuery b.rawQuery)).map Prod.fst).find?
      (· ∉ b.allowedQueryParams) = none := by
    dsimp only [Builder.build] at h
    split at h
    · cases h
    · next unknown =>
      rw [List.find?_eq_none] at unknown ⊢
      intro name hname
      exact unknown name (mem_range_keys.mpr (mem_range_keys.mp hname))
  obtain ⟨out, hout, -⟩ := map_eq_ok.mp temporal
  simp only [Builder.build, checked, sorted, Builder.extractTemporal, hout]
  exact ⟨_, rfl⟩

theorem exists_lastAt {β : Type} {m : GoMap GoString}
    {f : GoString × GoString → Option (GoString × β)} {x : GoString × β}
    (hx : x ∈ (pairs m).filterMap f) : ∃ ord : RangeOrder, ∀ site,
      (insertAll ∅ ((range ord site m).filterMap f)).lookup x.1 = some x.2 := by
  obtain ⟨e, he, sent⟩ := List.mem_filterMap.mp hx
  obtain ⟨ord, last⟩ := exists_last he
  refine ⟨ord, fun site => ?_⟩
  obtain ⟨rest, visited⟩ := last site
  rw [visited]
  exact lookup_insertAll_last sent ∅ rest

theorem sliceCondition_injective {vs ws : List Value}
    (h : sliceCondition col (.slice vs) vs = some c)
    (h' : sliceCondition col (.slice ws) ws = some c) : vs = ws := by
  unfold sliceCondition at h h'
  split at h <;> split at h' <;> cases h <;> cases h'
  · rfl
  · rfl

theorem filterCondition_op {v : Value} (h : filterCondition col v = some c) :
    c.op = .eq ∨ c.op = .in := by
  unfold filterCondition sliceCondition at h
  split at h <;> try split at h
  all_goals cases h
  all_goals simp [eq, isIn, QueryModel.leaf]

theorem temporalCondition_op {t : TemporalFilter} (h : temporalCondition t = some c) :
    c.op = .between ∨ c.op = .gt ∨ c.op = .lt := by
  unfold temporalCondition at h
  split_ifs at h
  all_goals cases h
  all_goals simp [between, gt, lt, QueryModel.leaf]

theorem filters_of_mem_conditions (h : c ∈ p.conditions ord) (hop : c.op = .eq ∨ c.op = .in) :
    ∃ v, p.filters.lookup c.column = some v ∧ filterCondition c.column v = some c := by
  rcases Request.mem_conditions.mp h with ⟨col, v, hv, hc⟩ | ⟨col, term, -, rfl⟩ | ⟨t, -, hc⟩
  · obtain ⟨rfl, -⟩ := filterCondition_leaf hc
    exact ⟨v, hv, hc⟩
  · simp [iLike, QueryModel.leaf] at hop
  · rcases temporalCondition_op hc with h | h | h
    all_goals simp [h] at hop

theorem fuzzy_of_mem_conditions {term : GoString}
    (h : iLike col (str "%" ++ term ++ str "%") ∈ p.conditions ord) :
    p.fuzzyFilters.lookup col = some term := by
  rcases Request.mem_conditions.mp h with ⟨col', v, -, hc⟩ | ⟨col', term', ht, same⟩ | ⟨t, -, hc⟩
  · simpa [iLike, QueryModel.leaf] using filterCondition_op hc
  · simp only [iLike, QueryModel.leaf, Condition.mk.injEq, Value.str.injEq,
      List.append_cancel_left_eq, List.append_cancel_right_eq] at same
    rw [← same.1, ← same.2.2.1]
    exact ht
  · simpa [iLike, QueryModel.leaf] using temporalCondition_op hc

theorem filters_lastAt (hx : x ∈ sentFilters b) (free : x.1 ∉ b.additionalFilters) : ∃ ord,
      (b.filters ord (parseQuery b.rawQuery)).lookup x.1 = some x.2 := by
  obtain ⟨ord, last⟩ := exists_lastAt hx
  refine ⟨ord, ?_⟩
  rw [filters_lookup_sent free]
  exact last _

theorem sentFilters_condition (hx : x ∈ sentFilters b) :
    ∃ vs c, x.2 = .slice vs ∧ sliceCondition x.1 (.slice vs) vs = some c := by
  obtain ⟨e, -, sent⟩ := List.mem_filterMap.mp hx
  unfold sentFilter at sent
  split at sent
  · next v vs _ =>
    cases sent
    cases vs with
    | nil => exact ⟨_, _, rfl, rfl⟩
    | cons w vs => exact ⟨_, _, rfl, rfl⟩
  · cases sent

section SameConditions

variable {lower : GoString → GoString} {b : Builder} {p₀ : Request}
  (built : b.build lower .listed = .ok p₀)
  (h : ∀ o u p r, b.build lower o = .ok p → b.build lower u = .ok r →
    (p.conditions .listed).Perm (r.conditions .listed))

include built h

theorem filters_agree {y : GoString × Value} (hx : x ∈ sentFilters b) (hy : y ∈ sentFilters b)
    (same : x.1 = y.1) (free : x.1 ∉ b.additionalFilters) : x.2 = y.2 := by
  obtain ⟨o, xlast⟩ := filters_lastAt hx free
  obtain ⟨u, ylast⟩ := filters_lastAt hy (same ▸ free)
  obtain ⟨p, hp⟩ := build_ok_of_ok built o
  obtain ⟨r, hr⟩ := build_ok_of_ok built u
  obtain ⟨-, -, hpf, -⟩ := Builder.build_eq_ok hp
  obtain ⟨-, -, hrf, -⟩ := Builder.build_eq_ok hr
  obtain ⟨vs, c, hvs, hc⟩ := sentFilters_condition hx
  obtain ⟨ws, d, hws, hd⟩ := sentFilters_condition hy
  have rendered : filterCondition x.1 x.2 = some c := by rw [hvs]; exact hc
  have present : c ∈ p.conditions .listed :=
    Request.mem_conditions.mpr (.inl ⟨x.1, x.2, hpf ▸ xlast, rendered⟩)
  obtain ⟨v, hv, again⟩ := filters_of_mem_conditions ((h _ _ p r hp hr).mem_iff.mp present)
    (filterCondition_op rendered)
  obtain ⟨column, -⟩ := filterCondition_leaf rendered
  rw [column, same, hrf, ylast] at hv
  cases hv
  rw [column, hws] at again
  rw [hvs, hws, sliceCondition_injective hc again]

theorem fuzzies_agree {x y : GoString × GoString} (hx : x ∈ sentFuzzies b)
    (hy : y ∈ sentFuzzies b) (same : x.1 = y.1) : x.2 = y.2 := by
  obtain ⟨o, xlast⟩ := exists_lastAt hx
  obtain ⟨u, ylast⟩ := exists_lastAt hy
  obtain ⟨p, hp⟩ := build_ok_of_ok built o
  obtain ⟨r, hr⟩ := build_ok_of_ok built u
  obtain ⟨-, -, -, hpf⟩ := Builder.build_eq_ok hp
  obtain ⟨-, -, -, hrf⟩ := Builder.build_eq_ok hr
  have written : p.fuzzyFilters.lookup x.1 = some x.2 := by
    rw [hpf, fuzzyFilters_eq]
    exact xlast _
  have present : iLike x.1 (str "%" ++ x.2 ++ str "%") ∈ p.conditions .listed :=
    Request.mem_conditions.mpr (.inr (.inl ⟨x.1, x.2, written, rfl⟩))
  have read := fuzzy_of_mem_conditions ((h _ _ p r hp hr).mem_iff.mp present)
  rw [hrf, fuzzyFilters_eq, same, ylast _] at read
  exact (Option.some.inj read).symm

theorem noClash_of_conditions_perm : NoClash b where
  filters _ hx _ hy same free := filters_agree built h hx hy same free
  fuzzy _ hx _ hy same := fuzzies_agree built h hx hy same

end SameConditions

section Rows

variable {D : Type}

theorem wellFormed_of_mem_conditions (h : c ∈ p.conditions ord)
    (plain : plainIdentifier c.column = true) : wellFormed c = true := by
  rcases Request.mem_conditions.mp h with ⟨col, v, -, hc⟩ | ⟨col, term, -, rfl⟩ | ⟨t, -, hc⟩
  · unfold filterCondition sliceCondition at hc
    split at hc <;> try split at hc
    all_goals cases hc
    all_goals simpa [wellFormed, eq, isIn, QueryModel.leaf] using plain
  · simpa [wellFormed, iLike, QueryModel.leaf] using plain
  · unfold temporalCondition at hc
    split_ifs at hc
    all_goals cases hc
    all_goals simpa [wellFormed, between, gt, lt, QueryModel.leaf, betweenBounds] using plain

/-- A row of the table is among those the built request selects, by the text that
`BuildWhere` renders. -/
def Selects (lower : GoString → GoString) (b : Builder) (P : Database D) (startIdx : Int)
    (o o' : RangeOrder) (row : Row D) : Prop :=
  ∃ p, b.build lower o = .ok p ∧
    whereTruth P row startIdx (render (buildWhere (p.conditions o') startIdx).1)
      (buildWhere (p.conditions o') startIdx).2 = some .true

def PlainColumns (lower : GoString → GoString) (b : Builder) : Prop :=
  ∀ o o' p, b.build lower o = .ok p → ∀ c ∈ p.conditions o', plainIdentifier c.column = true

theorem selects_iff (plain : PlainColumns lower b) (P : Database D) (startIdx : Int)
    (o o' : RangeOrder) (row : Row D) :
    Selects lower b P startIdx o o' row ↔ ∃ p, b.build lower o = .ok p ∧
      ∀ c ∈ p.conditions o', conditionTruth P row c = .true := by
  refine exists_congr fun p => and_congr_right fun hp => ?_
  have wf : allWellFormed (p.conditions o') = true :=
    allWellFormed_iff.mpr fun c hc => wellFormed_of_mem_conditions hc (plain o o' p hp c hc)
  rw [buildWhere_truth P _ wf, Option.some.injEq, all_conditionsTruth]

end Rows

/-- The conditions of a built request are the same in all orders exactly when no two
parameters clash, and then so are the rows it selects from any table. -/
theorem order_irrelevant_iff {lower : GoString → GoString} {b : Builder} {p₀ : Request}
    (built : b.build lower .listed = .ok p₀) :
    (NoClash b ↔ ∀ o o' u u' p r, b.build lower o = .ok p → b.build lower u = .ok r →
      (p.conditions o').Perm (r.conditions u')) ∧
    (NoClash b → PlainColumns lower b → ∀ (D : Type) (P : Database D) startIdx o o' u u' row,
      Selects lower b P startIdx o o' row ↔ Selects lower b P startIdx u u' row) := by
  refine ⟨⟨fun h o o' u u' p r hp hr => h.conditions_perm hp hr o' u', fun h => ?_⟩, ?_⟩
  · exact noClash_of_conditions_perm built fun o u p r hp hr => h o _ u _ p r hp hr
  · intro h plain D P startIdx o o' u u' row
    rw [selects_iff plain, selects_iff plain]
    obtain ⟨p, hp⟩ := build_ok_of_ok built o
    obtain ⟨r, hr⟩ := build_ok_of_ok built u
    have same := h.conditions_perm hp hr o' u'
    simp only [hp, hr, Except.ok.injEq, exists_eq_left', same.mem_iff]

def twoNames (raw : GoString) : Builder where
  rawQuery := raw
  allowedFiltersDBMap := ofPairs [(str "state", str "status"), (str "status", str "status")]
  fuzzyFiltersDBMap := ofPairs [(str "q", str "name")]

theorem order_irrelevant_twoNames :
    (∃ p, (twoNames (str "state=A&status=A&q=x")).build id .listed = .ok p) ∧
    ∀ o o' u u' p r, (twoNames (str "state=A&status=A&q=x")).build id o = .ok p →
      (twoNames (str "state=A&status=A&q=x")).build id u = .ok r →
      (p.conditions o').Perm (r.conditions u') := by
  have built : ∃ p, (twoNames (str "state=A&status=A&q=x")).build id .listed = .ok p := ⟨_, rfl⟩
  refine ⟨built, ?_⟩
  obtain ⟨p₀, hp₀⟩ := built
  have filters : ∀ x ∈ sentFilters (twoNames (str "state=A&status=A&q=x")),
      x.2 = .slice [.str (str "A")] := by decide +kernel
  have fuzzy : ∀ x ∈ sentFuzzies (twoNames (str "state=A&status=A&q=x")), x.2 = str "x" := by
    decide +kernel
  refine (order_irrelevant_iff hp₀).1.mp ⟨fun x hx y hy _ _ => ?_, fun x hx y hy _ => ?_⟩
  · rw [filters x hx, filters y hy]
  · rw [fuzzy x hx, fuzzy y hy]

def statusRow (status : GoString) : Row Value := fun _ => some (.str status)

/-- The same request selects a row in one order and not in another. -/
theorem order_decides :
    Selects id (twoNames (str "state=A&status=B")) valueDatabase 1 .listed .listed
      (statusRow (str "B")) ∧
    ¬Selects id (twoNames (str "state=A&status=B")) valueDatabase 1 .backwards .listed
      (statusRow (str "B")) := by
  obtain ⟨p, hp, conditions⟩ : ∃ p, (twoNames (str "state=A&status=B")).build id .listed = .ok p ∧
    p.conditions .listed = [eq (str "status") (.str (str "B"))] := ⟨_, rfl, rfl⟩
  obtain ⟨r, hr, conditions'⟩ : ∃ r,
    (twoNames (str "state=A&status=B")).build id .backwards = .ok r ∧
    r.conditions .listed = [eq (str "status") (.str (str "A"))] := ⟨_, rfl, rfl⟩
  refine ⟨⟨p, hp, ?_⟩, ?_⟩
  · rw [conditions, buildWhere_truth _ _ (by decide)]
    decide
  · intro h
    obtain ⟨r', hr', selected⟩ := h
    cases hr.symm.trans hr'
    rw [conditions', buildWhere_truth _ _ (by decide)] at selected
    revert selected
    decide

end DxCommonGo.RequestOrder
