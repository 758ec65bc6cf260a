import DxCommonGo.PaginatedRequest

/-! The identifiers of a list request: every column is one the builder was configured with. -/

namespace DxCommonGo.RequestAllowlist
open GoStrings GoMaps GoErrors NetUrl QueryModel QueryFilters PaginatedRequest

def filterColumns (b : Builder) : List GoString :=
  (pairs b.allowedFiltersDBMap).map Prod.snd ++ (pairs b.fuzzyFiltersDBMap).map Prod.snd ++
    b.additionalFilters.keys ++ b.defaultTimeField :: b.allowedTimeFields.keys

/-- The columns a sort order may name: the default one, and each allowed sort
field under its database name if it has one. -/
def sortColumns (b : Builder) : List GoString :=
  b.defaultSortBy :: b.allowedSortFields.keys.map fun f => (b.apiToDBMap.lookup f).getD f

variable {b : Builder} {ord : RangeOrder} {q : Values}

theorem sortItem_column {lower : GoString → GoString} {item : GoString} {o : OrderBy}
    (h : b.sortItem lower item = .ok o) : o.column ∈ sortColumns b := by
  unfold Builder.sortItem at h
  split at h
  · rename_i name order _
    dsimp only at h
    split_ifs at h with hfield
    cases h
    have allowed : trimSpace name ∈ b.allowedSortFields.keys := AList.mem_keys.mp hfield
    exact List.mem_cons_of_mem _ (List.mem_map_of_mem allowed)
  · cases h

theorem extractSort_columns {lower : GoString → GoString} {s : GoString} {os : List OrderBy}
    (h : b.extractSort lower s = .ok os) :
    (∀ o ∈ os, o.column ∈ sortColumns b) ∧ (s ≠ [] → os.length ≤ maxSortFields) := by
  dsimp only [Builder.extractSort] at h
  split_ifs at h with hs hdefault hlength
  · cases h
    simp [hs, sortColumns]
  · cases h
    simp [hs]
  · obtain ⟨same, read⟩ := mapM_ok h
    refine ⟨fun o ho => ?_, fun _ => by omega⟩
    obtain ⟨item, -, hitem⟩ := read o ho
    exact sortItem_column hitem

theorem insertAll_empty_values {β : Type} {ps : List (GoString × β)} {k : GoString}
    (h : k ∈ insertAll (∅ : GoMap β) ps) : k ∈ ps.map Prod.fst := by
  rcases mem_insertAll h with h | h
  · cases h
  · exact h

theorem filters_columns {col : GoString} (h : col ∈ b.filters ord q) : col ∈ filterColumns b := by
  unfold filterColumns
  rcases mem_insertAll h with sent | additional
  · obtain ⟨e, he, rfl⟩ := List.mem_map.mp (insertAll_empty_values sent)
    obtain ⟨⟨api, column⟩, hentry, hsent⟩ := List.mem_filterMap.mp he
    have configured : column ∈ (pairs b.allowedFiltersDBMap).map Prod.snd :=
      List.mem_map_of_mem ((range_perm ..).mem_iff.mp hentry)
    split at hsent
    · cases hsent
      simp [configured]
    · cases hsent
  · have configured : col ∈ b.additionalFilters.keys :=
      AList.mem_keys.mp (mem_range_keys.mp additional)
    simp [configured]

theorem fuzzyFilters_columns {col : GoString} (h : col ∈ b.fuzzyFilters ord q) :
    col ∈ filterColumns b := by
  unfold filterColumns
  obtain ⟨e, he, rfl⟩ := List.mem_map.mp (insertAll_empty_values h)
  obtain ⟨⟨api, column⟩, hentry, hsent⟩ := List.mem_filterMap.mp he
  have configured : column ∈ (pairs b.fuzzyFiltersDBMap).map Prod.snd :=
    List.mem_map_of_mem ((range_perm ..).mem_iff.mp hentry)
  dsimp only at hsent
  split_ifs at hsent
  cases hsent
  simp [configured]

theorem defaultTemporal_fields {ts : List TemporalFilter} (h : b.defaultTemporal q = .ok ts) :
    ∀ t ∈ ts, t.field = b.defaultTimeField := by
  dsimp only [Builder.defaultTemporal] at h
  split_ifs at h
  all_goals cases h
  all_goals simp

theorem extractTemporal_columns {ts : List TemporalFilter} (h : b.extractTemporal ord q = .ok ts) :
    ∀ t ∈ ts, t.field ∈ filterColumns b := by
  intro t ht
  unfold filterColumns
  obtain ⟨out, hout, rfl⟩ := map_eq_ok.mp h
  rcases List.mem_append.mp ht with ht | ht
  · simp [defaultTemporal_fields hout t ht]
  · obtain ⟨e, he, hfield⟩ := List.mem_filterMap.mp ht
    have configured : e.1 ∈ b.allowedTimeFields.keys :=
      AList.mem_keys.mp (mem_range_keys.mp (List.mem_map_of_mem he))
    dsimp only [Builder.fieldTemporal] at hfield
    split_ifs at hfield
    cases hfield
    simp [configured]

theorem conditions_column {p : Request} {c : Condition} (h : c ∈ p.conditions ord) :
    (c.column ∈ p.filters ∨ c.column ∈ p.fuzzyFilters ∨ ∃ t ∈ p.temporal, c.column = t.field) ∧
      c.sub = [] := by
  rcases Request.mem_conditions.mp h with ⟨col, v, hv, hc⟩ | ⟨col, term, ht, rfl⟩ | ⟨t, ht, hc⟩
  · obtain ⟨rfl, hsub⟩ := filterCondition_leaf hc
    exact ⟨.inl (AList.lookup_isSome.mp (by simp [hv])), hsub⟩
  · exact ⟨.inr (.inl (AList.lookup_isSome.mp (by simp [iLike, QueryModel.leaf, ht]))), rfl⟩
  · obtain ⟨hcolumn, hsub⟩ := temporalCondition_leaf hc
    exact ⟨.inr (.inr ⟨t, ht, hcolumn⟩), hsub⟩

/-- Whatever the query string, a request that was built names only configured
columns, and a sort that came from the client has at most three entries. -/
theorem build_columns_configured {lower : GoString → GoString} {ord : RangeOrder} {b : Builder}
    {p : Request} (h : b.build lower ord = .ok p) (ord' : RangeOrder) :
    (∀ c ∈ p.conditions ord', c.column ∈ filterColumns b ∧ c.sub = []) ∧
      (∀ o ∈ p.orderBy, o.column ∈ sortColumns b) ∧
      (rawQueryParam b.rawQuery (str "sort") ≠ [] → p.orderBy.length ≤ 3) := by
  obtain ⟨hsort, htemporal, hfilters, hfuzzy⟩ := Builder.build_eq_ok h
  obtain ⟨hcolumns, hlength⟩ := extractSort_columns hsort
  refine ⟨fun c hc => ?_, hcolumns, hlength⟩
  obtain ⟨hcolumn, hsub⟩ := conditions_column hc
  refine ⟨?_, hsub⟩
  rcases hcolumn with hcolumn | hcolumn | ⟨t, ht, hcolumn⟩
  · exact filters_columns (hfilters ▸ hcolumn)
  · exact fuzzyFilters_columns (hfuzzy ▸ hcolumn)
  · exact hcolumn ▸ extractTemporal_columns htemporal t ht

def itemsBuilder : Builder where
  rawQuery := str "status=ACTIVE&status=CLOSED&q=climate&sort=createdAt:DESC;title:asc&seen_timerel=after&seen_time=5"
  allowedFiltersDBMap := ofPairs [(str "status", str "c_status")]
  additionalFilters := ofPairs [(str "tenant", .str (str "t1"))]
  allowedTimeFields := toSet [str "seen"]
  allowedSortFields := toSet [str "createdAt", str "title"]
  apiToDBMap := ofPairs [(str "createdAt", str "created_at")]
  fuzzyFiltersDBMap := ofPairs [(str "q", str "name")]

theorem build_columns_configured_items : ∃ p, itemsBuilder.build id .listed = .ok p ∧
    (∀ c ∈ p.conditions .backwards, c.column ∈ filterColumns itemsBuilder ∧ c.sub = []) ∧
    (∀ o ∈ p.orderBy, o.column ∈ sortColumns itemsBuilder) ∧ p.orderBy.length ≤ 3 := by
  have sorted : rawQueryParam itemsBuilder.rawQuery (str "sort") ≠ [] := by decide
  obtain ⟨p, hp⟩ : ∃ p, itemsBuilder.build id .listed = .ok p := ⟨_, rfl⟩
  obtain ⟨hfilters, hsort, hlength⟩ := build_columns_configured hp .backwards
  exact ⟨p, hp, hfilters, hsort, hlength sorted⟩

end DxCommonGo.RequestAllowlist
