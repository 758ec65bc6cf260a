import DxCommonGo.RequestOrder
import DxCommonGo.RequestParams

/-! Empty parameters. `FromFilters` skips a lone empty text but not one in a slice, and of a fuzzy
filter only the first value is read: an empty value is not always the same as none. -/

namespace DxCommonGo.RequestEmpties
open GoStrings GoMaps GoErrors NetUrl QueryModel QueryFilters QueryMeaning
open PaginatedRequest RequestScope RequestParams RequestOrder

def values (q : Values) (k : GoString) : List GoString := (q.lookup k).getD []

def filterNames (b : Builder) : List GoString :=
  b.allowedFiltersDBMap.keys ++ b.fuzzyFiltersDBMap.keys

def isEmptyFilter (b : Builder) (p : GoString × GoString) : Bool :=
  p.2.isEmpty && (filterNames b).contains p.1

def keptPairs (b : Builder) : List GoString :=
  (split b.rawQuery 38).filter fun pair => !(parsePair pair).any (isEmptyFilter b)

def dropEmpties (b : Builder) : Builder := { b with rawQuery := join [38] (keptPairs b) }

section Query

variable (b : Builder)

theorem split_dropEmpties :
    split (dropEmpties b).rawQuery 38 = if keptPairs b = [] then [[]] else keptPairs b := by
  rw [dropEmpties]
  split_ifs with none
  · rw [none]
    rfl
  · exact split_join none fun part hpart => not_mem_of_mem_split (List.mem_of_mem_filter hpart)

theorem read_dropEmpties {α : Type} {read : List GoString → α} (blank : read [[]] = read []) :
    read (split (dropEmpties b).rawQuery 38) = read (keptPairs b) := by
  rw [split_dropEmpties]
  split_ifs with none
  · rw [none, blank]
  · rfl

theorem parsed_dropEmpties :
    (split (dropEmpties b).rawQuery 38).filterMap parsePair =
      ((split b.rawQuery 38).filterMap parsePair).filter fun p => !isEmptyFilter b p := by
  have parsed : (split (dropEmpties b).rawQuery 38).filterMap parsePair =
      (keptPairs b).filterMap parsePair := @read_dropEmpties b _ (List.filterMap parsePair) rfl
  rw [parsed, keptPairs, List.filterMap_filter, List.filter_filterMap]
  congr 1
  funext pair
  cases parsePair pair with
  | none => simp
  | some p => cases h : isEmptyFilter b p <;> simp [h, Option.filter]

theorem values_foldl_add (ps : List (GoString × GoString)) (m : Values) (k : GoString) :
    values (ps.foldl (fun m p => Values.add m p.1 p.2) m) k =
      values m k ++ (ps.filter fun p => p.1 = k).map Prod.snd := by
  induction ps generalizing m with
  | nil => simp
  | cons p ps ih =>
    rw [List.foldl_cons, ih]
    by_cases same : p.1 = k
    · subst same
      simp [values, Values.add]
    · simp [values, Values.add, AList.lookup_insert_ne (Ne.symm same), same]

theorem values_dropEmpties (k : GoString) :
    values (parseQuery (dropEmpties b).rawQuery) k =
      if (filterNames b).contains k then
        (values (parseQuery b.rawQuery) k).filter fun v => !v.isEmpty
      else values (parseQuery b.rawQuery) k := by
  simp only [parseQuery, parsed_dropEmpties, values_foldl_add]
  have start : values ∅ k = [] := rfl
  rw [start, List.nil_append, List.nil_append, List.filter_filter]
  cases named : (filterNames b).contains k with
  | true =>
    rw [if_pos rfl, List.filter_map, List.filter_filter]
    congr 2
    funext p
    by_cases same : p.1 = k
    · simp only [isEmptyFilter, same, named]
      simp
    · simp [same]
  | false =>
    rw [if_neg Bool.false_ne_true]
    congr 2
    funext p
    by_cases same : p.1 = k
    · simp only [isEmptyFilter, same, named]
      simp
    · simp [same]

variable {b} {e : GoString × GoString}

theorem values_filter (he : e ∈ pairs b.allowedFiltersDBMap ∨ e ∈ pairs b.fuzzyFiltersDBMap) :
    values (parseQuery (dropEmpties b).rawQuery) e.1 =
      (values (parseQuery b.rawQuery) e.1).filter fun v => !v.isEmpty := by
  have named : (filterNames b).contains e.1 = true := by
    rw [List.contains_iff_mem, filterNames, ← pairs_keys, ← pairs_keys, List.mem_append]
    exact he.imp List.mem_map_of_mem List.mem_map_of_mem
  rw [values_dropEmpties, if_pos named]

theorem sentFilter_eq (q : Values) (e : GoString × GoString) :
    sentFilter q e =
      if values q e.1 = [] then none else some (e.2, .slice ((values q e.1).map .str)) := by
  unfold sentFilter values
  cases q.lookup e.1 with
  | none => rfl
  | some vs => cases vs <;> rfl

theorem sentFilter_fst {q : Values} {x : GoString × Value} (h : sentFilter q e = some x) :
    x.1 = e.2 := by
  rw [sentFilter_eq] at h
  split_ifs at h
  cases h
  rfl

theorem sentFuzzy_fst {q : Values} {x : GoString × GoString} (h : sentFuzzy q e = some x) :
    x.1 = e.2 := by
  unfold sentFuzzy at h
  dsimp only at h
  split_ifs at h
  cases h
  rfl

theorem sentFuzzy_dropEmpties (he : e ∈ pairs b.fuzzyFiltersDBMap) :
    sentFuzzy (parseQuery (dropEmpties b).rawQuery) e = sentFuzzy (parseQuery b.rawQuery) e ∨
      Values.get (parseQuery b.rawQuery) e.1 = [] ∧
        ∃ t, sentFuzzy (parseQuery (dropEmpties b).rawQuery) e = some (e.2, t) := by
  have get_eq : ∀ q : Values, Values.get q e.1 = (values q e.1).headD [] := fun _ => rfl
  have kept := values_filter (.inr he)
  cases sent : values (parseQuery b.rawQuery) e.1 with
  | nil =>
    rw [sent, List.filter_nil] at kept
    left
    simp only [sentFuzzy, get_eq, sent, kept]
  | cons v vs =>
    cases v with
    | nil =>
      have silent : sentFuzzy (parseQuery b.rawQuery) e = none := by
        rw [sentFuzzy, get_eq, sent]
        rfl
      cases now : sentFuzzy (parseQuery (dropEmpties b).rawQuery) e with
      | none => exact .inl silent.symm
      | some x =>
        refine .inr ⟨by rw [get_eq, sent]; rfl, x.2, ?_⟩
        rw [← sentFuzzy_fst now]
    | cons c v =>
      rw [sent, List.filter_cons_of_pos (by rfl)] at kept
      left
      simp only [sentFuzzy, get_eq, sent, kept, List.headD_cons]

end Query

/-- The rest of the request is read as before: the sort is accepted, and the temporal parameters
mean the same conditions. -/
structure RestKept (lower : GoString → GoString) (b : Builder) : Prop where
  sort : ∃ orderBy, b.extractSort lower (rawQueryParam (dropEmpties b).rawQuery (str "sort")) =
    .ok orderBy
  temporal : ∃ ts ts', b.extractTemporal .listed (parseQuery b.rawQuery) = .ok ts ∧
    b.extractTemporal .listed (parseQuery (dropEmpties b).rawQuery) = .ok ts' ∧
    ∀ c, c ∈ fromTemporal ts ↔ c ∈ fromTemporal ts'

/-- No exact filter has an empty value, unless a constant replaces the filter, and what stands
behind the empty first value of a fuzzy filter is what other parameters ask of the column. -/
structure EmptiesIgnored (lower : GoString → GoString) (b : Builder) : Prop where
  exact : ∀ e ∈ pairs b.allowedFiltersDBMap, e.2 ∉ b.additionalFilters →
    [] ∉ values (parseQuery b.rawQuery) e.1
  fuzzy : ∀ e ∈ pairs b.fuzzyFiltersDBMap, Values.get (parseQuery b.rawQuery) e.1 = [] →
    ∀ t, sentFuzzy (parseQuery (dropEmpties b).rawQuery) e = some (e.2, t) →
      (∃ x ∈ sentFuzzies b, x.1 = e.2) ∧ ∀ x ∈ sentFuzzies b, x.1 = e.2 → x.2 = t
  rest : RestKept lower b

section Kept

variable {lower : GoString → GoString} {b : Builder} (h : EmptiesIgnored lower b)

include h

theorem EmptiesIgnored.filters_lookup (ord : RangeOrder) (col : GoString) :
    (b.filters ord (parseQuery (dropEmpties b).rawQuery)).lookup col =
      (b.filters ord (parseQuery b.rawQuery)).lookup col := by
  cases constant : b.additionalFilters.lookup col with
  | some v => rw [filters_additional ord b _ constant, filters_additional ord b _ constant]
  | none =>
    have free : col ∉ b.additionalFilters := AList.lookup_eq_none.mp constant
    rw [filters_lookup_sent free, filters_lookup_sent free]
    refine lookup_insertAll_congr (fun e he => ?_) rfl
    have listed := (range_perm ord Loop.filters.site b.allowedFiltersDBMap).mem_iff.mp he
    by_cases here : e.2 = col
    · left
      have nonempty := h.exact e listed (here ▸ free)
      have same : values (parseQuery (dropEmpties b).rawQuery) e.1 =
          values (parseQuery b.rawQuery) e.1 := by
        rw [values_filter (.inl listed), List.filter_eq_self]
        intro v hv
        cases v with
        | nil => exact absurd hv nonempty
        | cons c v => rfl
      rw [sentFilter_eq, sentFilter_eq, same]
    · exact .inr fun v => ⟨fun written => here (sentFilter_fst written).symm,
        fun written => here (sentFilter_fst written).symm⟩

theorem EmptiesIgnored.fuzzy_lookup (ord : RangeOrder) (col : GoString) :
    (b.fuzzyFilters ord (parseQuery (dropEmpties b).rawQuery)).lookup col =
      (b.fuzzyFilters ord (parseQuery b.rawQuery)).lookup col := by
  have listed := range_perm ord Loop.fuzzy.site b.fuzzyFiltersDBMap
  rw [fuzzyFilters_eq, fuzzyFilters_eq]
  by_cases changed : ∃ e ∈ pairs b.fuzzyFiltersDBMap, e.2 = col ∧
      Values.get (parseQuery b.rawQuery) e.1 = [] ∧
      ∃ t, sentFuzzy (parseQuery (dropEmpties b).rawQuery) e = some (e.2, t)
  · -- a new term for the column: it is the one that stood there anyway
    obtain ⟨e, he, rfl, empty, t, new⟩ := changed
    obtain ⟨⟨⟨_, _⟩, hx, rfl⟩, all⟩ := h.fuzzy e he empty t new
    have old : ∀ w, (e.2, w) ∈ sentFuzzies b → w = t := fun w hw => all _ hw rfl
    obtain rfl := old _ hx
    rw [lookup_insertAll_of_agree ∅ ((listed.filterMap _).mem_iff.mpr hx)
      fun w hw => old w ((listed.filterMap _).mem_iff.mp hw)]
    refine lookup_insertAll_of_agree ∅ ?_ fun w hw => ?_
    · exact List.mem_filterMap.mpr ⟨e, listed.mem_iff.mpr he, new⟩
    · obtain ⟨e', he', sent⟩ := List.mem_filterMap.mp hw
      have column := sentFuzzy_fst sent
      rcases sentFuzzy_dropEmpties (listed.mem_iff.mp he') with same | ⟨empty', _⟩
      · rw [same] at sent
        exact old w (List.mem_filterMap.mpr ⟨e', listed.mem_iff.mp he', sent⟩)
      · have again := (h.fuzzy e' (listed.mem_iff.mp he') empty' w (column ▸ sent)).2 _ hx column
        exact again.symm
  · refine lookup_insertAll_congr (fun e he => ?_) rfl
    by_cases here : e.2 = col
    · left
      rcases sentFuzzy_dropEmpties (listed.mem_iff.mp he) with same | new
      · exact same
      · exact absurd ⟨e, listed.mem_iff.mp he, here, new⟩ changed
    · exact .inr fun v => ⟨fun written => here (sentFuzzy_fst written).symm,
        fun written => here (sentFuzzy_fst written).symm⟩

omit h in
theorem mem_parseQuery_dropEmpties {k : GoString}
    (hk : k ∈ parseQuery (dropEmpties b).rawQuery) : k ∈ parseQuery b.rawQuery := by
  rw [parseQuery, mem_foldl_add, parsed_dropEmpties] at hk
  rw [parseQuery, mem_foldl_add]
  refine hk.imp_right fun named => ?_
  obtain ⟨p, hp, rfl⟩ := List.mem_map.mp named
  exact List.mem_map_of_mem (List.mem_of_mem_filter hp)

theorem EmptiesIgnored.build {o : RangeOrder} {p : Request} (hp : b.build lower o = .ok p) :
    ∃ p', (dropEmpties b).build lower o = .ok p' := by
  have checked : ((range o Loop.params.site (parseQuery (dropEmpties b).rawQuery)).map
      Prod.fst).find? (· ∉ (dropEmpties b).allowedQueryParams) = none := by
    rw [List.find?_eq_none]
    intro name hname
    have sent := mem_parseQuery_dropEmpties (mem_range_keys.mp hname)
    have allowed : name ∈ (dropEmpties b).allowedQueryParams := build_names_allowed hp sent
    simpa using allowed
  obtain ⟨orderBy, sorted⟩ := h.rest.sort
  obtain ⟨-, ts', -, temporal, -⟩ := h.rest.temporal
  obtain ⟨out, hout, -⟩ := map_eq_ok.mp temporal
  have sorted' : (dropEmpties b).extractSort lower
      (rawQueryParam (dropEmpties b).rawQuery (str "sort")) = .ok orderBy := sorted
  have hout' : (dropEmpties b).defaultTemporal (parseQuery (dropEmpties b).rawQuery) = .ok out :=
    hout
  simp only [Builder.build, checked, sorted', Builder.extractTemporal, hout']
  exact ⟨_, rfl⟩

theorem EmptiesIgnored.conditions {o : RangeOrder} {p p' : Request}
    (hp : b.build lower o = .ok p) (hp' : (dropEmpties b).build lower o = .ok p')
    (o' u' : RangeOrder) (c : Condition) : c ∈ p.conditions o' ↔ c ∈ p'.conditions u' := by
  obtain ⟨-, temporal, filters, fuzzy⟩ := Builder.build_eq_ok hp
  obtain ⟨-, temporal', filters', fuzzy'⟩ := Builder.build_eq_ok hp'
  have filters'' : p'.filters = b.filters o (parseQuery (dropEmpties b).rawQuery) := filters'
  have fuzzy'' : p'.fuzzyFilters = b.fuzzyFilters o (parseQuery (dropEmpties b).rawQuery) := fuzzy'
  obtain ⟨ts, ts', hts, hts', same⟩ := h.rest.temporal
  have temporals : (∃ t ∈ p.temporal, temporalCondition t = some c) ↔
      ∃ t ∈ p'.temporal, temporalCondition t = some c := by
    have here := (extractTemporal_perm hts temporal).filterMap temporalCondition
    have there := (extractTemporal_perm hts' temporal').filterMap temporalCondition
    rw [← List.mem_filterMap, ← List.mem_filterMap, ← here.mem_iff, ← there.mem_iff]
    exact same c
  simp only [Request.mem_conditions, filters, fuzzy, filters'', fuzzy'', h.filters_lookup,
    h.fuzzy_lookup, temporals]

end Kept

theorem dropped_slice {b : Builder} {ord : RangeOrder} {col : GoString} {v : Value}
    (free : col ∉ b.additionalFilters)
    (found : (b.filters ord (parseQuery (dropEmpties b).rawQuery)).lookup col = some v) :
    ∃ ws : List GoString, v = .slice (ws.map .str) ∧ [] ∉ ws := by
  rw [filters_lookup_sent free] at found
  obtain unwritten | written := mem_of_lookup_insertAll found
  · cases unwritten
  · obtain ⟨e, he, sent⟩ := List.mem_filterMap.mp written
    rw [sentFilter_eq] at sent
    split_ifs at sent
    cases sent
    refine ⟨_, rfl, ?_⟩
    rw [values_filter (.inl ((range_perm _ _ _).mem_iff.mp he))]
    simp

theorem mem_fromTemporal_iff {p : Request} {c : Condition} :
    c ∈ fromTemporal p.temporal ↔
      c ∈ p.conditions .listed ∧ (c.op = .between ∨ c.op = .gt ∨ c.op = .lt) := by
  rw [fromTemporal, List.mem_filterMap]
  constructor
  · rintro ⟨t, ht, hc⟩
    exact ⟨Request.mem_conditions.mpr (.inr (.inr ⟨t, ht, hc⟩)), temporalCondition_op hc⟩
  · rintro ⟨h, op⟩
    rcases Request.mem_conditions.mp h with ⟨col, v, -, hc⟩ | ⟨col, term, -, rfl⟩ | temporal
    · rcases filterCondition_op hc with exact | exact
      all_goals simp [exact] at op
    · simp [iLike, QueryModel.leaf] at op
    · exact temporal

section Needed

variable {lower : GoString → GoString} {b : Builder} {p₀ : Request}
  (built : b.build lower .listed = .ok p₀)
  (h : ∀ o p, b.build lower o = .ok p → ∃ p', (dropEmpties b).build lower o = .ok p' ∧
    ∀ c, c ∈ p.conditions .listed ↔ c ∈ p'.conditions .listed)

include built h

variable {e : GoString × GoString}

theorem exact_of_conditions (he : e ∈ pairs b.allowedFiltersDBMap)
    (free : e.2 ∉ b.additionalFilters) : [] ∉ values (parseQuery b.rawQuery) e.1 := by
  intro empty
  have sent : (e.2, Value.slice ((values (parseQuery b.rawQuery) e.1).map .str)) ∈
      sentFilters b := by
    refine List.mem_filterMap.mpr ⟨e, he, ?_⟩
    rw [sentFilter_eq, if_neg (List.ne_nil_of_mem empty)]
  obtain ⟨o, last⟩ := filters_lastAt sent free
  obtain ⟨p, hp⟩ := build_ok_of_ok built o
  obtain ⟨p', hp', same⟩ := h _ p hp
  obtain ⟨-, -, filters, -⟩ := Builder.build_eq_ok hp
  obtain ⟨-, -, filters', -⟩ := Builder.build_eq_ok hp'
  obtain ⟨vs, c, hvs, hc⟩ := sentFilters_condition sent
  cases hvs
  have rendered : filterCondition e.2 (.slice _) = some c := hc
  obtain ⟨column, -⟩ := filterCondition_leaf rendered
  have present : c ∈ p.conditions .listed :=
    Request.mem_conditions.mpr (.inl ⟨e.2, _, filters ▸ last, rendered⟩)
  obtain ⟨v, found, again⟩ := filters_of_mem_conditions ((same c).mp present)
    (filterCondition_op rendered)
  rw [column, filters'] at found
  obtain ⟨ws, rfl, nonempty⟩ := dropped_slice free found
  rw [column] at again
  have slices := List.map_injective_iff.mpr (fun s t => Value.str.inj)
    (sliceCondition_injective hc again)
  exact nonempty (slices ▸ empty)

theorem fuzzy_visited_last {t : GoString} (silent : sentFuzzy (parseQuery b.rawQuery) e = none)
    (new : sentFuzzy (parseQuery (dropEmpties b).rawQuery) e = some (e.2, t)) {ord : RangeOrder}
    {rest : List (GoString × GoString)}
    (visited : range ord Loop.fuzzy.site b.fuzzyFiltersDBMap = rest ++ [e]) :
    (insertAll ∅ (rest.filterMap (sentFuzzy (parseQuery b.rawQuery)))).lookup e.2 = some t := by
  obtain ⟨p, hp⟩ := build_ok_of_ok built ord
  obtain ⟨p', hp', same⟩ := h _ p hp
  obtain ⟨-, -, -, fuzzy⟩ := Builder.build_eq_ok hp
  obtain ⟨-, -, -, fuzzy'⟩ := Builder.build_eq_ok hp'
  have written : p'.fuzzyFilters.lookup e.2 = some t := by
    rw [fuzzy', fuzzyFilters_eq]
    exact visited ▸ lookup_insertAll_last new ∅ rest
  have present : iLike e.2 (str "%" ++ t ++ str "%") ∈ p'.conditions .listed :=
    Request.mem_conditions.mpr (.inr (.inl ⟨e.2, t, written, rfl⟩))
  have read := fuzzy_of_mem_conditions ((same _).mpr present)
  rw [fuzzy, fuzzyFilters_eq, visited, List.filterMap_append, List.filterMap_cons_none silent,
    List.filterMap_nil, List.append_nil] at read
  exact read

theorem fuzzy_of_conditions (he : e ∈ pairs b.fuzzyFiltersDBMap)
    (empty : Values.get (parseQuery b.rawQuery) e.1 = []) {t : GoString}
    (new : sentFuzzy (parseQuery (dropEmpties b).rawQuery) e = some (e.2, t)) :
    (∃ x ∈ sentFuzzies b, x.1 = e.2) ∧ ∀ x ∈ sentFuzzies b, x.1 = e.2 → x.2 = t := by
  have silent : sentFuzzy (parseQuery b.rawQuery) e = none := by
    rw [sentFuzzy, empty]
    rfl
  constructor
  · obtain ⟨ord, last⟩ := exists_last he
    obtain ⟨rest, visited⟩ := last Loop.fuzzy.site
    have term := fuzzy_visited_last built h silent new visited
    obtain unwritten | written := mem_of_lookup_insertAll term
    · cases unwritten
    · obtain ⟨f, hf, sent⟩ := List.mem_filterMap.mp written
      have listed : f ∈ range ord Loop.fuzzy.site b.fuzzyFiltersDBMap := by
        rw [visited]
        exact List.mem_append_left _ hf
      exact ⟨_, List.mem_filterMap.mpr ⟨f, (range_perm _ _ _).mem_iff.mp listed, sent⟩, rfl⟩
  · intro x hx column
    obtain ⟨f, hf, sent⟩ := List.mem_filterMap.mp hx
    have other : f ≠ e := by
      rintro rfl
      rw [silent] at sent
      cases sent
    obtain ⟨ord, last⟩ := exists_lastTwo he hf other
    obtain ⟨rest, visited⟩ := last Loop.fuzzy.site
    have behind : range ord Loop.fuzzy.site b.fuzzyFiltersDBMap = rest ++ [f] ++ [e] := by
      rw [visited, List.append_assoc]
      rfl
    have old := lookup_insertAll_last sent ∅ rest
    rw [column, fuzzy_visited_last built h silent new behind] at old
    exact (Option.some.inj old).symm

theorem rest_of_conditions : RestKept lower b := by
  obtain ⟨p', built', same⟩ := h _ _ built
  obtain ⟨-, temporal, -, -⟩ := Builder.build_eq_ok built
  obtain ⟨sorted', temporal', -, -⟩ := Builder.build_eq_ok built'
  refine ⟨⟨_, sorted'⟩, _, _, temporal, temporal', fun c => ?_⟩
  rw [mem_fromTemporal_iff, mem_fromTemporal_iff, same]

end Needed

section Reserved

theorem findSome?_filter_not {α β : Type} {f : α → Option β} {p : α → Bool}
    (silent : ∀ x, p x = true → f x = none) (l : List α) :
    (l.filter fun x => !p x).findSome? f = l.findSome? f := by
  induction l with
  | nil => rfl
  | cons x l ih =>
    cases skipped : p x with
    | true =>
      rw [List.filter_cons_of_neg (by simp [skipped]), ih, List.findSome?_cons, silent x skipped]
    | false =>
      rw [List.filter_cons_of_pos (by simp [skipped]), List.findSome?_cons, List.findSome?_cons, ih]

def reservedNames (b : Builder) : List GoString :=
  [str "sort", str "time", str "endtime", str "timerel"] ++
    b.allowedTimeFields.keys.flatMap fun f =>
      [f ++ str "_time", f ++ str "_endtime", f ++ str "_timerel"]

variable {lower : GoString → GoString} {b : Builder}
  (apart : ∀ name ∈ reservedNames b, name ∉ filterNames b)

include apart

theorem get_reserved (name : GoString) (h : name ∈ reservedNames b) :
    Values.get (parseQuery (dropEmpties b).rawQuery) name =
      Values.get (parseQuery b.rawQuery) name := by
  have other : ¬(filterNames b).contains name = true := by
    rw [List.contains_iff_mem]
    exact apart name h
  have kept := values_dropEmpties b name
  rw [if_neg other] at kept
  exact congrArg (·.headD []) kept

theorem rawQueryParam_reserved :
    rawQueryParam (dropEmpties b).rawQuery (str "sort") =
      rawQueryParam b.rawQuery (str "sort") := by
  have dropped : ∀ pair, (parsePair pair).any (isEmptyFilter b) = true →
      literalValue (str "sort") pair = none := by
    intro pair deleted
    by_contra found
    obtain ⟨v, hv⟩ := Option.ne_none_iff_exists'.mp found
    obtain ⟨p, parsed, empty⟩ := (Option.any_eq_true _ _).mp deleted
    have named : Names pair p.1 := parsePair_eq_some parsed
    rw [Names, literalValue_sort hv, Option.some.injEq] at named
    simp only [isEmptyFilter, Bool.and_eq_true, List.contains_iff_mem, ← named] at empty
    exact apart _ (by simp [reservedNames]) empty.2
  have read : (split (dropEmpties b).rawQuery 38).findSome? (literalValue (str "sort")) =
      (keptPairs b).findSome? (literalValue (str "sort")) :=
    @read_dropEmpties b _ (List.findSome? (literalValue (str "sort"))) rfl
  rw [rawQueryParam_eq, rawQueryParam_eq, read, keptPairs, findSome?_filter_not dropped]

theorem extractTemporal_reserved :
    b.extractTemporal .listed (parseQuery (dropEmpties b).rawQuery) =
      b.extractTemporal .listed (parseQuery b.rawQuery) := by
  have bare : b.defaultTemporal (parseQuery (dropEmpties b).rawQuery) =
      b.defaultTemporal (parseQuery b.rawQuery) := by
    unfold Builder.defaultTemporal
    rw [get_reserved apart (str "time") (by simp [reservedNames]),
      get_reserved apart (str "endtime") (by simp [reservedNames]),
      get_reserved apart (str "timerel") (by simp [reservedNames])]
  unfold Builder.extractTemporal
  rw [bare]
  congr 1
  funext out
  congr 1
  refine List.filterMap_congr fun e he => ?_
  have member : e.1 ∈ b.allowedTimeFields.keys :=
    AList.mem_keys.mpr (mem_range_keys.mp (List.mem_map_of_mem he))
  have own : ∀ suffix ∈ [str "_time", str "_endtime", str "_timerel"],
      Values.get (parseQuery (dropEmpties b).rawQuery) (e.1 ++ suffix) =
        Values.get (parseQuery b.rawQuery) (e.1 ++ suffix) := by
    intro suffix listed
    refine get_reserved apart _ (List.mem_append_right _ (List.mem_flatMap.mpr ⟨e.1, member, ?_⟩))
    simp only [List.mem_cons, List.not_mem_nil, or_false] at listed
    rcases listed with rfl | rfl | rfl <;> simp
  unfold Builder.fieldTemporal
  rw [own _ (by simp), own _ (by simp), own _ (by simp)]

theorem restKept_of_apart {p₀ : Request} (built : b.build lower .listed = .ok p₀) :
    RestKept lower b := by
  obtain ⟨sorted, temporal, -, -⟩ := Builder.build_eq_ok built
  refine ⟨⟨p₀.orderBy, ?_⟩, _, _, temporal, (extractTemporal_reserved apart).trans temporal,
    fun c => Iff.rfl⟩
  rw [rawQueryParam_reserved apart]
  exact sorted

end Reserved

/-- Deleting the empty filter parameters of a request that is built leaves its
conditions alone, in every order, exactly if they are ignored; the rows it selects from
any table are then the same. -/
theorem empties_ignored_iff {lower : GoString → GoString} {b : Builder} {p₀ : Request}
    (built : b.build lower .listed = .ok p₀) :
    (EmptiesIgnored lower b ↔ ∀ o p, b.build lower o = .ok p →
      ∃ p', (dropEmpties b).build lower o = .ok p' ∧
        ∀ o' u' c, c ∈ p.conditions o' ↔ c ∈ p'.conditions u') ∧
    (EmptiesIgnored lower b → PlainColumns lower b →
      ∀ (D : Type) (P : Database D) startIdx o o' u' row,
        Selects lower b P startIdx o o' row ↔
          Selects lower (dropEmpties b) P startIdx o u' row) := by
  refine ⟨⟨fun h o p hp => ?_, fun h => ?_⟩, fun h plain D P startIdx o o' u' row => ?_⟩
  · obtain ⟨p', hp'⟩ := h.build hp
    exact ⟨p', hp', h.conditions hp hp'⟩
  · have listed : ∀ o p, b.build lower o = .ok p → ∃ p',
        (dropEmpties b).build lower o = .ok p' ∧
        ∀ c, c ∈ p.conditions .listed ↔ c ∈ p'.conditions .listed := by
      intro o p hp
      obtain ⟨p', hp', same⟩ := h o p hp
      exact ⟨p', hp', same .listed .listed⟩
    exact ⟨fun e he free => exact_of_conditions built listed he free,
      fun e he empty t new => fuzzy_of_conditions built listed he empty new,
      rest_of_conditions built listed⟩
  · have plain' : PlainColumns lower (dropEmpties b) := by
      intro o u p' hp' c hc
      obtain ⟨p, hp⟩ := build_ok_of_ok built o
      exact plain o u p hp c ((h.conditions hp hp' u u c).mpr hc)
    obtain ⟨p, hp⟩ := build_ok_of_ok built o
    obtain ⟨p', hp'⟩ := h.build hp
    rw [selects_iff plain, selects_iff plain']
    simp only [hp, hp', Except.ok.injEq, exists_eq_left', h.conditions hp hp' o' u']

def searched (raw : String) : Builder where
  rawQuery := str raw
  allowedFiltersDBMap := ofPairs [(str "status", str "status")]
  fuzzyFiltersDBMap := ofPairs [(str "q", str "name")]

theorem empties_ignored_behind :
    ∃ p p', (searched "status=A&q=x&q=").build id .listed = .ok p ∧
      (dropEmpties (searched "status=A&q=x&q=")).build id .listed = .ok p' ∧
      ∀ o' u' c, c ∈ p.conditions o' ↔ c ∈ p'.conditions u' := by
  obtain ⟨p, built⟩ : ∃ p, (searched "status=A&q=x&q=").build id .listed = .ok p := ⟨_, rfl⟩
  have exact : ∀ e ∈ pairs (searched "status=A&q=x&q=").allowedFiltersDBMap,
      [] ∉ values (parseQuery (str "status=A&q=x&q=")) e.1 := by decide +kernel
  have fuzzy : ∀ e ∈ pairs (searched "status=A&q=x&q=").fuzzyFiltersDBMap,
      Values.get (parseQuery (str "status=A&q=x&q=")) e.1 ≠ [] := by decide +kernel
  have rest := restKept_of_apart (by decide +kernel) built
  have same := (empties_ignored_iff built).1.mp
    ⟨fun e he _ => exact e he, fun e he empty => absurd empty (fuzzy e he), rest⟩
  obtain ⟨p', built', conditions⟩ := same .listed p built
  exact ⟨p, p', built, built', conditions⟩

/-- An empty exact filter keeps only rows with an empty value, and an empty first value
hides a fuzzy filter. -/
theorem empty_value_filters :
    (¬Selects id (searched "status=") valueDatabase 1 .listed .listed (statusRow (str "A")) ∧
      Selects id (dropEmpties (searched "status=")) valueDatabase 1 .listed .listed
        (statusRow (str "A"))) ∧
    ∃ p p', (searched "q=&q=x").build id .listed = .ok p ∧ p.conditions .listed = [] ∧
      (dropEmpties (searched "q=&q=x")).build id .listed = .ok p' ∧
      p'.conditions .listed = [iLike (str "name") (str "%x%")] := by
  obtain ⟨p, hp, conditions⟩ : ∃ p, (searched "status=").build id .listed = .ok p ∧
    p.conditions .listed = [eq (str "status") (.str [])] := ⟨_, rfl, rfl⟩
  obtain ⟨r, hr, none⟩ : ∃ r, (dropEmpties (searched "status=")).build id .listed = .ok r ∧
    r.conditions .listed = [] := ⟨_, rfl, rfl⟩
  refine ⟨⟨?_, r, hr, ?_⟩, _, _, rfl, rfl, rfl, rfl⟩
  · rintro ⟨p', hp', selected⟩
    cases hp.symm.trans hp'
    rw [conditions, QueryWhere.buildWhere_truth _ _ (by decide)] at selected
    revert selected
    decide
  · rw [none, QueryWhere.buildWhere_truth _ _ (by decide)]
    decide

end DxCommonGo.RequestEmpties
