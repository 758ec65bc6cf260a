import DxCommonGo.DaoFinder
import DxCommonGo.TableServer

/-! Pages of a Finder. The total counts the selected rows, while the data are rows of the shaped
result: DISTINCT, grouping and aggregates can set the two apart. -/

namespace DxCommonGo.FinderPages
open GoStrings QueryModel Programs PgxPool BaseDao DaoFinder
open QueryMeaning TableSemantics TableServer

variable {D T ω : Type}

def OrdersTotally (E : Engine D) (q : SelectQuery) (rows : List (Row D)) : Prop :=
  ∀ all all', Arranged E q rows all → Arranged E q rows all' → all = all'

structure PageOf (f : Finder) (rows : List T) (page : Page T) : Prop where
  total : page.total = rows.length
  data : page.data = (rows.drop f.offset.toNat).take f.limit.toNat
  hasNext : page.hasNext = true ↔ rows.drop (f.offset + f.limit).toNat ≠ []

def Ungrouped (f : Finder) : Prop := f.distinct = false ∧ f.groupBy = [] ∧ f.having = []

structure Agrees (B : Backend D T ω) (f : Finder) (w : World ω) (rows : List T) : Prop where
  page : ∃ page w', run (handler B.server) f.page w = (.returned (.ok page), w') ∧
    PageOf f rows page
  count : Ungrouped f →
    ∃ w', run (handler B.server) f.count w = (.returned (.ok (rows.length : Int)), w')
  existsRow : Ungrouped f →
    ∃ w', run (handler B.server) f.existsRow w = (.returned (.ok (decide (0 < rows.length))), w')

structure Served (B : Backend D T ω) (f : Finder) : Prop where
  all : B.Serves (.rows (f.query 0 0))
  page : B.Serves (.rows (f.query f.limit f.offset))
  count : B.Serves (.count f.countQuery)
  existsRow : B.Serves (.rows f.existsQuery)

section Terminals

variable {B : Backend D T ω} {f : Finder} (w : World ω)

theorem slice_eq {α : Type} {limit offset : Int} (hlimit : 0 < limit) (hoffset : 0 ≤ offset)
    (all : List α) : slice limit offset all = (all.drop offset.toNat).take limit.toNat := by
  rw [slice, if_pos hlimit]
  split_ifs with positive
  · rfl
  · have zero : offset = 0 := by omega
    rw [zero]
    rfl

theorem run_count (served : Served B f) :
    ∃ w', run (handler B.server) f.count w =
        (.returned (.ok ((selected B.engine f.countQuery (B.rows w.server)).length : Int)), w') ∧
      B.rows w'.server = B.rows w.server := by
  rw [Finder.count_eq]
  exact run_scanCountOf f.dao w served.count

theorem run_page (served : Served B f) (hlimit : 0 < f.limit) (hoffset : 0 ≤ f.offset)
    {all : List (Row D)} (arranged : Arranged B.engine (f.query 0 0) (B.rows w.server) all)
    (totally : OrdersTotally B.engine (f.query 0 0) (B.rows w.server)) :
    let total : Int := (selected B.engine f.countQuery (B.rows w.server)).length
    let data := if f.offset < total
      then ((all.drop f.offset.toNat).take f.limit.toNat).map B.scan else []
    ∃ w', run (handler B.server) f.page w =
      (.returned (.ok ⟨data, total, f.limit, f.offset, f.offset + data.length < total⟩), w') := by
  have limit : pageLimit f.limit = f.limit := if_neg (by omega)
  have offset : pageOffset f.offset = f.offset := if_neg (by omega)
  obtain ⟨w₁, counted, same⟩ := run_scanCountOf f.dao w served.count
  simp only [Finder.page_eq, Finder.countedPage, run_bind, counted, Ending.andThen, limit, offset,
    pageOf]
  split_ifs with below
  · obtain ⟨out, w₂, ⟨all', arranged', rfl⟩, hrun, -⟩ := run_selectManyOf f.dao w₁ served.page
    rw [same] at arranged'
    have one : all' = all := totally all' all arranged' arranged
    subst one
    simp only [run_bind, hrun, Ending.andThen, ← slice_eq hlimit hoffset]
    exact ⟨w₂, rfl⟩
  · exact ⟨w₁, rfl⟩

theorem run_existsRow (served : Served B f) (ungrouped : Ungrouped f) {all : List (Row D)}
    (arranged : Arranged B.engine (f.query 0 0) (B.rows w.server) all) :
    ∃ w', run (handler B.server) f.existsRow w =
      (.returned (.ok (decide (0 < all.length))), w') := by
  obtain ⟨out, w', ⟨all', arranged', rfl⟩, hrun, -⟩ := run_selectOneOf f.dao w served.existsRow
  obtain ⟨distinct, groupBy, having⟩ := ungrouped
  have shaped : all.Perm all' := by
    refine arranged.1.trans (.trans (.of_eq ?_) arranged'.1.symm)
    rw [Finder.query, distinct, groupBy, having]
    rfl
  refine ⟨w', ?_⟩
  rw [Finder.existsRow_eq, run_bind, hrun, shaped.length_eq]
  cases all' with
  | nil => rfl
  | cons r all' => rfl

end Terminals

theorem pageOf_total {f : Finder} (hlimit : 0 < f.limit) (hoffset : 0 ≤ f.offset) (rows : List T) :
    let total : Int := rows.length
    let data := if f.offset < total then (rows.drop f.offset.toNat).take f.limit.toNat else []
    PageOf f rows ⟨data, total, f.limit, f.offset, f.offset + data.length < total⟩ := by
  intro total data
  have sliced : data = (rows.drop f.offset.toNat).take f.limit.toNat := by
    by_cases below : f.offset < total
    · exact if_pos below
    · have beyond : rows.drop f.offset.toNat = [] := List.drop_eq_nil_of_le (by omega)
      rw [beyond, List.take_nil]
      exact if_neg below
  refine ⟨rfl, sliced, ?_⟩
  have length : data.length = min f.limit.toNat (rows.length - f.offset.toNat) := by
    rw [sliced, List.length_take, List.length_drop]
  simp only [decide_eq_true_eq, ne_eq, List.drop_eq_nil_iff, length]
  omega

/-- `Page`, `Count` and `Exists` agree with `Find` exactly if the clauses of the
Finder leave as many rows as it selects. -/
theorem finder_agrees_iff {B : Backend D T ω} {f : Finder} (served : Served B f)
    (hlimit : 0 < f.limit) (hoffset : 0 ≤ f.offset) (w : World ω)
    (totally : OrdersTotally B.engine (f.query 0 0) (B.rows w.server)) :
    ∃ rows w', run (handler B.server) { f with limit := 0, offset := 0 }.find w =
        (.returned (.ok rows), w') ∧
      (Agrees B f w rows ↔
        (selected B.engine f.countQuery (B.rows w.server)).length = rows.length) := by
  obtain ⟨all, w', ⟨_, arranged, rfl⟩, hrun, -⟩ := run_selectManyOf f.dao w served.all
  refine ⟨all.map B.scan, w', hrun, ?_⟩
  obtain ⟨w₁, paged⟩ := run_page w served hlimit hoffset arranged totally
  obtain ⟨w₂, counted, -⟩ := run_count w served
  rw [List.length_map]
  constructor
  · intro agrees
    obtain ⟨page, w'', hpage, agreement⟩ := agrees.page
    rw [paged] at hpage
    cases hpage
    have total := agreement.total
    rw [List.length_map] at total
    exact Int.ofNat.inj total
  · intro same
    rw [same] at paged counted
    refine ⟨⟨_, w₁, paged, ?_⟩, ?_, ?_⟩
    · have agreement := pageOf_total hlimit hoffset (all.map B.scan)
      rwa [List.length_map, ← List.map_drop, ← List.map_take] at agreement
    · intro _
      rw [List.length_map]
      exact ⟨w₂, counted⟩
    · intro ungrouped
      rw [List.length_map]
      exact run_existsRow w served ungrouped arranged

theorem ordersTotally_of_sortKey {q : SelectQuery} {rows : List (Row Value)}
    (h : ∀ r r', r ∈ valueEngine.shape q.distinct q.columns q.groupBy q.having
        (selected valueEngine q rows) →
      r' ∈ valueEngine.shape q.distinct q.columns q.groupBy q.having
        (selected valueEngine q rows) →
      sortKey q.orderBy r = sortKey q.orderBy r' → r = r') :
    OrdersTotally valueEngine q rows := by
  rintro all all' ⟨perm, ordered⟩ ⟨perm', ordered'⟩
  refine List.Perm.eq_of_pairwise ?_ ordered ordered' (perm.trans perm'.symm)
  intro r r' hr hr' le ge
  exact h r r' (perm.mem_iff.mp hr) (perm'.mem_iff.mp hr') (le_antisymm le ge)

def requests : BaseDAO := newBaseDAO .pool (str "requests")

def request (id consumer : Int) : Row Value :=
  rowOf [str "id", str "consumer_id"] [some (.int id), some (.int consumer)]

def finderBackend (f : Finder) : Backend Value (Option Value) (List (Row Value)) :=
  readerBackend (fun row => row (str "consumer_id"))
    (selectReader [f.query 0 0, f.query f.limit f.offset, f.countQuery, f.existsQuery])

def newest : Finder := { dao := requests, orderBy := [⟨str "id", true⟩], limit := 1 }

theorem newest_served : Served (finderBackend newest) newest :=
  ⟨reader_selects _ rfl rfl, reader_selects _ rfl rfl, reader_counts _ rfl,
    reader_selects _ rfl rfl⟩

theorem finder_agrees_newest :
    ∃ rows w', run (handler (finderBackend newest).server) { newest with limit := 0 }.find
        ⟨[request 1 5, request 2 6], []⟩ = (.returned (.ok rows), w') ∧
      Agrees (finderBackend newest) newest ⟨[request 1 5, request 2 6], []⟩ rows := by
  have totally : OrdersTotally (finderBackend newest).engine (newest.query 0 0)
      [request 1 5, request 2 6] := by
    have either : ∀ r ∈ [request 1 5, request 2 6], r = request 1 5 ∨ r = request 2 6 := by simp
    refine ordersTotally_of_sortKey fun r r' hr hr' same => ?_
    rcases either r hr with rfl | rfl <;> rcases either r' hr' with rfl | rfl
    · rfl
    · exact absurd same (by decide)
    · exact absurd same (by decide)
    · rfl
  obtain ⟨rows, w', hrun, agrees⟩ := finder_agrees_iff newest_served (by decide) (by decide)
    ⟨[request 1 5, request 2 6], []⟩ totally
  refine ⟨rows, w', hrun, agrees.mpr ?_⟩
  cases hrun
  rfl

def consumers : Finder where
  dao := requests
  columns := [str "consumer_id"]
  distinct := true
  orderBy := [⟨str "consumer_id", false⟩]
  limit := 1

/-- One consumer has made two requests: there is one row, but the page reports two
and a next one. -/
theorem page_counts_duplicates :
    let w : World (List (Row Value)) := ⟨[request 1 5, request 2 5], []⟩
    Served (finderBackend consumers) consumers ∧
    run (handler (finderBackend consumers).server) { consumers with limit := 0 }.find w =
      (.returned (.ok [some (.int 5)]), w) ∧
    run (handler (finderBackend consumers).server) consumers.page w =
      (.returned (.ok ⟨[some (.int 5)], 2, 1, 0, true⟩), w) := by
  refine ⟨⟨reader_selects _ rfl rfl, reader_selects _ rfl rfl, reader_counts _ rfl,
    reader_selects _ rfl rfl⟩, ?_, ?_⟩
  · rfl
  · rfl

end DxCommonGo.FinderPages
