import DxCommonGo.EsCluster

/-! The states of a cluster in a migration: as long as the alias points at the old indices the new
one is out of sight, and after the first swap it holds everything. -/

namespace DxCommonGo.MigrationPhases
open GoStrings GoMaps IndexLifecycle EsCluster

/-- An alias that points at one or more indices which have no document id twice, and a new index
that is empty or not there at all. -/
structure Migration (β D : Type) where
  scripts : Scripts D
  cluster : Cluster β D
  aliasName : GoString
  newIndex : GoString
  opts : MigrateOptions
  pointed : cluster.aliases aliasName ≠ []
  distinct : (cluster.aliases aliasName).Nodup
  exist : ∀ old ∈ cluster.aliases aliasName, cluster.indices old ≠ none
  ids : ((cluster.search aliasName).map Prod.fst).Nodup
  fresh : newIndex ∉ cluster.aliases aliasName
  empty : cluster.docs newIndex = ∅

variable {β D : Type} (m : Migration β D)

namespace Migration

def olds : List GoString := m.cluster.aliases m.aliasName

def script : Option GoString := if m.opts.script ≠ [] then some m.opts.script else none

def migrated (id : GoString) (d : D) : D := transformed m.scripts m.script id d

/-- A search returns each document exactly once, in its old or its new version. -/
structure Exact (c : Cluster β D) : Prop where
  ids : ((c.search m.aliasName).map Prod.fst).Perm ((m.cluster.search m.aliasName).map Prod.fst)
  versions : ∀ e ∈ c.search m.aliasName,
    ∃ d, (e.1, d) ∈ m.cluster.search m.aliasName ∧ (e.2 = d ∨ e.2 = m.migrated e.1 d)

structure Unswapped (c : Cluster β D) : Prop where
  aliases : c.aliases m.aliasName = m.olds
  indices : ∀ old ∈ m.olds, c.indices old = m.cluster.indices old

def Copied (done : List GoString) (c : Cluster β D) : Prop :=
  ∀ id b, (c.docs m.newIndex).lookup id = some b ↔
    ∃ old ∈ done, ∃ d, (m.cluster.docs old).lookup id = some d ∧ b = m.migrated id d

structure Copying (done : List GoString) (c : Cluster β D) : Prop extends m.Unswapped c where
  copied : m.Copied done c

structure Swapped (c : Cluster β D) : Prop where
  distinct : (c.aliases m.aliasName).Nodup
  points : m.newIndex ∈ c.aliases m.aliasName
  others : ∀ index ∈ c.aliases m.aliasName, index ≠ m.newIndex → c.docs index = ∅
  copied : m.Copied m.olds c

end Migration

variable {m}

theorem mem_search {c : Cluster β D} {aliasName : GoString} {e : GoString × D} :
    e ∈ c.search aliasName ↔
      ∃ index ∈ c.aliases aliasName, (c.docs index).lookup e.1 = some e.2 := by
  rw [Cluster.search, List.mem_flatMap]
  exact exists_congr fun index => and_congr_right fun _ => mem_pairs

theorem separate {c : Cluster β D} {aliasName : GoString}
    (ids : ((c.search aliasName).map Prod.fst).Nodup) {index index' : GoString}
    (h : index ∈ c.aliases aliasName) (h' : index' ∈ c.aliases aliasName) (ne : index ≠ index')
    {id : GoString} {d : D} (found : (c.docs index).lookup id = some d) :
    (c.docs index').lookup id = none := by
  rw [Cluster.search, List.map_flatMap, List.nodup_flatMap] at ids
  have symmetric : Std.Symm (Function.onFun List.Disjoint fun index =>
      (pairs (c.docs index)).map Prod.fst) := ⟨fun _ _ h _ here there => h there here⟩
  have disjoint := ids.2.forall h h' ne
  cases found' : (c.docs index').lookup id with
  | none => rfl
  | some d' =>
    exact (disjoint (List.mem_map.mpr ⟨(id, d), mem_pairs.mpr found, rfl⟩)
      (List.mem_map.mpr ⟨(id, d'), mem_pairs.mpr found', rfl⟩)).elim

namespace Migration

variable {old : GoString} {c : Cluster β D}

theorem ne_newIndex (mem : old ∈ m.olds) : old ≠ m.newIndex :=
  fun same => m.fresh (same ▸ mem)

theorem sorted_nodup : (sortStrings m.olds).Nodup :=
  (List.perm_insertionSort _ m.olds).nodup_iff.mpr m.distinct

theorem exists_first : ∃ first rest, sortStrings m.olds = first :: rest := by
  obtain ⟨old, mem⟩ := List.exists_mem_of_ne_nil m.olds m.pointed
  exact List.exists_cons_of_ne_nil (List.ne_nil_of_mem ((mem_sortStrings m.olds old).mpr mem))

theorem apart {old' : GoString} (h : old ∈ m.olds) (h' : old' ∈ m.olds) (ne : old ≠ old')
    {id : GoString} {d : D} (found : (m.cluster.docs old).lookup id = some d) :
    (m.cluster.docs old').lookup id = none := separate m.ids h h' ne found

theorem Exact.separate (exact : m.Exact c) {index index' : GoString}
    (h : index ∈ c.aliases m.aliasName) (h' : index' ∈ c.aliases m.aliasName) (ne : index ≠ index')
    {id : GoString} {d : D} (found : (c.docs index).lookup id = some d) :
    (c.docs index').lookup id = none :=
  MigrationPhases.separate (exact.ids.nodup_iff.mpr m.ids) h h' ne found

theorem Unswapped.docs (h : m.Unswapped c) (mem : old ∈ m.olds) :
    c.docs old = m.cluster.docs old := by
  rw [Cluster.docs, Cluster.docs, h.indices old mem]

theorem Unswapped.search (h : m.Unswapped c) :
    c.search m.aliasName = m.cluster.search m.aliasName := by
  rw [Cluster.search, h.aliases]
  exact List.flatMap_congr fun old mem => by rw [h.docs mem]

theorem Unswapped.exact (h : m.Unswapped c) : m.Exact c := by
  refine ⟨by rw [h.search], fun e mem => ?_⟩
  rw [h.search] at mem
  exact ⟨e.2, mem, .inl rfl⟩

theorem Swapped.search (h : m.Swapped c) : c.search m.aliasName = pairs (c.docs m.newIndex) := by
  obtain ⟨before, after, split⟩ := List.append_of_mem h.points
  have distinct := h.distinct
  rw [split, List.nodup_append, List.nodup_cons] at distinct
  have none : ∀ names : List GoString, (∀ index ∈ names, c.docs index = ∅) →
      names.flatMap (fun index => pairs (c.docs index)) = [] := by
    intro names all
    rw [List.flatMap_eq_nil_iff]
    intro index mem
    rw [all index mem]
    rfl
  have first : ∀ index ∈ before, c.docs index = ∅ := by
    intro index mem
    refine h.others index (split ▸ List.mem_append_left _ mem) ?_
    rintro rfl
    exact distinct.2.2 _ mem _ List.mem_cons_self rfl
  have last : ∀ index ∈ after, c.docs index = ∅ := by
    intro index mem
    refine h.others index (split ▸ List.mem_append_right _ (List.mem_cons_of_mem _ mem)) ?_
    rintro rfl
    exact distinct.2.1.1 mem
  rw [Cluster.search, split, List.flatMap_append, List.flatMap_cons, none before first,
    none after last, List.append_nil, List.nil_append]

theorem Swapped.exact (h : m.Swapped c) : m.Exact c := by
  have versions : ∀ e ∈ c.search m.aliasName,
      ∃ d, (e.1, d) ∈ m.cluster.search m.aliasName ∧ e.2 = m.migrated e.1 d := by
    intro e mem
    rw [h.search] at mem
    obtain ⟨old, listed, d, found, same⟩ := (h.copied e.1 e.2).mp (mem_pairs.mp mem)
    exact ⟨d, mem_search.mpr ⟨old, listed, found⟩, same⟩
  refine ⟨?_, fun e mem => ?_⟩
  · refine (List.perm_ext_iff_of_nodup ?_ m.ids).mpr fun id => ⟨fun mem => ?_, fun mem => ?_⟩
    · rw [h.search, pairs_keys]
      exact (c.docs m.newIndex).keys_nodup
    · obtain ⟨e, listed, rfl⟩ := List.mem_map.mp mem
      obtain ⟨d, old, -⟩ := versions e listed
      exact List.mem_map.mpr ⟨(e.1, d), old, rfl⟩
    · obtain ⟨e, listed, rfl⟩ := List.mem_map.mp mem
      obtain ⟨old, there, found⟩ := mem_search.mp listed
      rw [h.search]
      exact List.mem_map.mpr ⟨(e.1, m.migrated e.1 e.2),
        mem_pairs.mpr ((h.copied e.1 _).mpr ⟨old, there, e.2, found, rfl⟩), rfl⟩
  · obtain ⟨d, old, same⟩ := versions e mem
    exact ⟨d, old, .inr same⟩

section Requests

variable {c : Cluster β D}

theorem Unswapped.start : m.Unswapped m.cluster := ⟨rfl, fun _ _ => rfl⟩

theorem Unswapped.setIndex (h : m.Unswapped c) (index : Option (Index β D)) :
    m.Unswapped (c.setIndex m.newIndex index) := by
  refine ⟨h.aliases, fun old mem => ?_⟩
  rw [← h.indices old mem]
  exact Function.update_of_ne (ne_newIndex mem) _ _

theorem docs_copy [Inhabited β] (entries : List (GoString × D)) :
    (c.copy m.scripts entries m.newIndex m.script).docs m.newIndex =
      insertAll (c.docs m.newIndex) (entries.map fun e => (e.1, m.migrated e.1 e.2)) := by
  rw [Cluster.copy, Cluster.docs_setIndex_self, Cluster.docs]
  cases c.indices m.newIndex <;> rfl

variable {done : List GoString}

theorem Copied.congr {done' : List GoString} (h : m.Copied done c)
    (same : ∀ old, old ∈ done ↔ old ∈ done') : m.Copied done' c := by
  intro id b
  rw [h id b]
  exact exists_congr fun old => and_congr_left fun _ => same old

theorem Copied.reindex [Inhabited β] (copied : m.Copied done c)
    (listed : ∀ index ∈ done, index ∈ m.olds) (mem : old ∈ m.olds) (left : old ∉ done) :
    m.Copied (done ++ [old])
      (c.copy m.scripts (pairs (m.cluster.docs old)) m.newIndex m.script) := by
  intro id b
  rw [docs_copy]
  have keys : ((pairs (m.cluster.docs old)).map fun e => (e.1, m.migrated e.1 e.2)).map Prod.fst =
      (m.cluster.docs old).keys := by
    rw [List.map_map, ← pairs_keys]
    rfl
  cases found : (m.cluster.docs old).lookup id with
  | some d =>
    have written := lookup_insertAll_of_nodup (c.docs m.newIndex)
      (keys ▸ (m.cluster.docs old).keys_nodup)
      (List.mem_map_of_mem (f := fun e => (e.1, m.migrated e.1 e.2)) (mem_pairs.mpr found))
    rw [written]
    constructor
    · rintro ⟨⟩
      exact ⟨old, by simp, d, found, rfl⟩
    · rintro ⟨index, there, d', found', rfl⟩
      obtain there | same := List.mem_append.mp there
      · have other : old ≠ index := fun same => left (same ▸ there)
        rw [apart mem (listed index there) other found] at found'
        cases found'
      · cases List.mem_singleton.mp same
        cases found.symm.trans found'
        rfl
  | none =>
    rw [lookup_insertAll_of_not_mem _ (by rw [keys]; exact AList.lookup_eq_none.mp found),
      copied id b]
    constructor
    · rintro ⟨index, there, rest⟩
      exact ⟨index, List.mem_append_left _ there, rest⟩
    · rintro ⟨index, there, d, found', same⟩
      obtain there | here := List.mem_append.mp there
      · exact ⟨index, there, d, found', same⟩
      · cases List.mem_singleton.mp here
        cases found.symm.trans found'

theorem Copying.start : m.Copying [] m.cluster := by
  refine ⟨.start, fun id b => ?_⟩
  simp [m.empty]

section Served

variable [Inhabited β]

theorem serve_getAlias (ord : RangeOrder) :
    ∃ resp, m.cluster.serve m.scripts (.getAlias m.aliasName) = (.ok (.ok resp), m.cluster) ∧
      sortStrings ((range ord 0 resp).map Prod.fst) = sortStrings m.olds := by
  have some : (m.cluster.aliases m.aliasName).isEmpty = false := by simpa using m.pointed
  let named := m.olds.map fun index => (index, ())
  have keys : named.map Prod.fst = m.olds := by simp [named, Function.comp_def]
  have distinct : m.olds.Nodup := m.distinct
  refine ⟨insertAll ∅ named, by rw [Cluster.serve, some]; rfl, sortStrings_eq_of_perm ?_⟩
  refine (List.perm_ext_iff_of_nodup (range_keys_nodup ..) distinct).mpr fun index => ?_
  rw [mem_range_keys]
  constructor
  · intro mem
    rw [← keys]
    exact (mem_insertAll mem).resolve_left (AList.notMem_empty _)
  · intro mem
    have written := lookup_insertAll_of_nodup ∅ (keys.symm ▸ distinct)
      (List.mem_map.mpr ⟨index, mem, rfl⟩ : (index, ()) ∈ named)
    exact AList.lookup_isSome.mp (Option.isSome_iff_exists.mpr ⟨_, written⟩)

theorem Copying.putIndex (h : m.Copying [] c) (body : β) :
    m.Copying [] (c.serve m.scripts (.putIndex m.newIndex body)).2 := by
  rw [Cluster.serve]
  split_ifs
  · refine ⟨h.toUnswapped.setIndex _, fun id b => ?_⟩
    rw [Cluster.docs_setIndex_self]
    simp
  · exact h

theorem Copying.serve_reindex (h : m.Copying done c) (listed : ∀ index ∈ done, index ∈ m.olds)
    (mem : old ∈ m.olds) (left : old ∉ done) :
    ∃ c', c.serve m.scripts (.reindex old m.newIndex m.script) = (.ok (), c') ∧
      m.Copying (done ++ [old]) c' ∧ (c'.indices m.newIndex).isSome = true := by
  obtain ⟨source, there⟩ := Option.ne_none_iff_exists'.mp (m.exist old mem)
  have found : c.indices old = some source := (h.indices old mem).trans there
  have docs : source.docs = m.cluster.docs old := by rw [Cluster.docs, there]; rfl
  refine ⟨c.copy m.scripts (pairs (m.cluster.docs old)) m.newIndex m.script, ?_,
    ⟨h.toUnswapped.setIndex _, h.copied.reindex listed mem left⟩, ?_⟩
  · rw [Cluster.serve, found, ← docs]
  · simp [Cluster.copy, Cluster.setIndex]

theorem Copying.putAlias (h : m.Copying [] c) :
    m.Exact (c.serve m.scripts (.putAlias m.newIndex m.aliasName)).2 := by
  have empty : pairs (c.docs m.newIndex) = [] := by
    rw [List.eq_nil_iff_forall_not_mem]
    intro e mem
    simpa using (h.copied e.1 e.2).mp (mem_pairs.mp mem)
  rw [Cluster.serve]
  split_ifs
  · exact h.exact
  · have same : (c.setAlias m.aliasName ((c.aliases m.aliasName).insert m.newIndex)).search
        m.aliasName = m.cluster.search m.aliasName := by
      have fresh : m.newIndex ∉ c.aliases m.aliasName := by
        rw [h.aliases]
        exact m.fresh
      rw [← h.search]
      simp only [Cluster.search, Cluster.setAlias, Function.update_self,
        List.insert_of_not_mem fresh, List.flatMap_cons]
      exact (congrArg (· ++ _) empty).trans (List.nil_append _)
    refine ⟨by rw [same], fun e mem => ?_⟩
    rw [same] at mem
    exact ⟨e.2, mem, .inl rfl⟩

theorem Copying.swap {first : GoString} (h : m.Copying m.olds c)
    (others : ∀ old ∈ m.olds, old ≠ first → m.cluster.docs old = ∅) :
    c.serve m.scripts (.updateAliases m.aliasName first m.newIndex) = (.error noSuchIndex, c) ∨
      ∃ c', c.serve m.scripts (.updateAliases m.aliasName first m.newIndex) = (.ok (), c') ∧
        m.Swapped c' := by
  rw [Cluster.serve]
  split_ifs
  · exact .inl rfl
  · have aliases : (c.setAlias m.aliasName
        (((c.aliases m.aliasName).erase first).insert m.newIndex)).aliases m.aliasName =
          (m.olds.erase first).insert m.newIndex := by
      rw [Cluster.aliases_setAlias_self, h.aliases]
    refine .inr ⟨_, rfl, ?_, ?_, fun index mem other => ?_, h.copied⟩
    · rw [aliases]
      exact (m.distinct.erase first).insert
    · rw [aliases]
      exact List.mem_insert_self
    · rw [aliases] at mem
      have left := (List.mem_insert_iff.mp mem).resolve_left other
      have old := List.mem_of_mem_erase left
      have later : index ≠ first := by
        rintro rfl
        exact m.distinct.not_mem_erase left
      rw [← others index old later]
      exact h.docs old

theorem Swapped.swap (h : m.Swapped c) (old : GoString) :
    m.Swapped (c.serve m.scripts (.updateAliases m.aliasName old m.newIndex)).2 := by
  rw [Cluster.serve]
  split_ifs
  · exact h
  · have aliases : (c.setAlias m.aliasName
        (((c.aliases m.aliasName).erase old).insert m.newIndex)).aliases m.aliasName =
          ((c.aliases m.aliasName).erase old).insert m.newIndex :=
      Cluster.aliases_setAlias_self ..
    refine ⟨?_, ?_, fun index mem other => ?_, h.copied⟩
    · rw [aliases]
      exact (h.distinct.erase old).insert
    · rw [aliases]
      exact List.mem_insert_self
    · rw [aliases] at mem
      have left := (List.mem_insert_iff.mp mem).resolve_left other
      exact h.others index (List.mem_of_mem_erase left) other

theorem Swapped.delete (h : m.Swapped c) (other : old ≠ m.newIndex) :
    m.Swapped (c.serve m.scripts (.deleteIndex old)).2 := by
  rw [Cluster.serve]
  split_ifs
  · exact h
  · refine ⟨h.distinct.filter _, List.mem_filter.mpr ⟨h.points, by simpa using other.symm⟩,
      fun index mem ne => ?_, fun id b => ?_⟩
    · obtain ⟨listed, kept⟩ := List.mem_filter.mp mem
      rw [← h.others index listed ne]
      exact Cluster.docs_setIndex_of_ne _ (by simpa using kept) none
    · rw [← h.copied id b]
      exact iff_of_eq (congrArg (fun docs => docs.lookup id = some b)
        (Cluster.docs_setIndex_of_ne _ other.symm none))

end Served

end Requests

end Migration

end DxCommonGo.MigrationPhases
