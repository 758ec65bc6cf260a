import DxCommonGo.FinderPages
import DxCommonGo.GoInts
import DxCommonGo.PaginatedRequest
import Mathlib.Algebra.Order.Floor.Ring
import Mathlib.Data.Rat.Floor

/-! Page metadata. `NewInfo` divides the total by the size and rounds up; `FindPage` compares the
end of its rows with the total. On a table that does not change both agree. -/

namespace DxCommonGo.PageWalks
open GoStrings QueryModel Programs PgxPool BaseDao
open QueryMeaning TableSemantics TableServer FinderPages
open PaginatedRequest (Request)

structure Info where
  page : Int
  size : Int
  totalCount : Int
  totalPages : Int
  hasNext : Bool
  hasPrevious : Bool

def newInfo (page size totalCount : Int) : Info :=
  let page := if page < 1 then 1 else page
  let size := if size < 1 then 10 else size
  let totalPages := ⌈(totalCount : ℚ) / size⌉
  ⟨page, size, totalCount, totalPages, page < totalPages, 1 < page⟩

variable {size : Int}

theorem lt_totalPages_iff {page : Int} (hsize : 1 ≤ size) (total : Int) :
    page < (newInfo page size total).totalPages ↔ page * size < total := by
  have positive : (0 : ℚ) < size := by exact_mod_cast hsize
  simp only [newInfo, if_neg (not_lt.mpr hsize)]
  rw [Int.lt_ceil, lt_div_iff₀ positive]
  norm_cast

theorem totalPages_eq (page page' size total : Int) :
    (newInfo page size total).totalPages = (newInfo page' size total).totalPages := rfl

theorem newInfo_hasNext {page : Int} (hpage : 1 ≤ page) (hsize : 1 ≤ size) (total : Int) :
    (newInfo page size total).hasNext = true ↔ page * size < total := by
  rw [← lt_totalPages_iff hsize total]
  simp only [newInfo, if_neg (not_lt.mpr hpage), decide_eq_true_eq]

theorem request_bounds {r : Request} (hpage : 1 ≤ r.page) (hsize : 1 ≤ r.size)
    (fits : (r.page - 1) * r.size < 2 ^ 63) :
    r.limit = r.size ∧ r.offset = (r.page - 1) * r.size := by
  refine ⟨rfl, ?_⟩
  have nonneg : 0 ≤ (r.page - 1) * r.size := mul_nonneg (by omega) (by omega)
  rw [PaginatedRequest.Request.offset, if_neg (by omega)]
  exact (GoInts.bmod_eq_self_iff nonneg).mpr fits

variable {D T ω : Type}

def pageAt (rows : List T) (limit offset : Int) : Page T :=
  let data := (rows.drop offset.toNat).take limit.toNat
  ⟨data, rows.length, limit, offset, offset + data.length < rows.length⟩

theorem pageAt_hasNext {page : Int} (hpage : 1 ≤ page) (hsize : 1 ≤ size) (rows : List T) :
    (pageAt rows size ((page - 1) * size)).hasNext = true ↔ page * size < rows.length := by
  have next : page * size = (page - 1) * size + size := by ring
  have start : 0 ≤ (page - 1) * size := mul_nonneg (by omega) (by omega)
  simp only [pageAt, decide_eq_true_eq, List.length_take, List.length_drop, next]
  omega

def pageQuery (d : BaseDAO) (conditions : List Condition) (orderBy : List OrderBy)
    (limit offset : Int) : SelectQuery where
  table := d.tableName
  conditions := d.withSoftDeleteFilter conditions
  orderBy := orderBy
  limit := limit
  offset := offset

def countQuery (d : BaseDAO) (conditions : List Condition) : SelectQuery where
  table := d.tableName
  columns := [str "COUNT(*) AS count"]
  conditions := d.withSoftDeleteFilter conditions

/-- Reads leave the table alone, and every page of the size is cut from one arrangement of the
matching rows. -/
structure Unchanging (B : Backend D T ω) (d : BaseDAO) (conditions : List Condition)
    (orderBy : List OrderBy) (size : Int) (rows all : List (Row D)) : Prop where
  arranged : Arranged B.engine (pageQuery d conditions orderBy 0 0) rows all
  count : B.Serves (.count (countQuery d conditions))
  page : ∀ n, 1 ≤ n → (n - 1) * size < all.length → ∀ conn s, B.rows s = rows →
    let q := pageQuery d conditions orderBy size ((n - 1) * size)
    let answer := B.server.answer ((Select.rows q).op conn) s
    answer.1 = .ok (scanned B.scan (slice size ((n - 1) * size) all)) ∧ B.rows answer.2 = rows

theorem unchanging_of_ordersTotally {B : Backend D T ω} {d : BaseDAO} {conditions : List Condition}
    {orderBy : List OrderBy} {rows all : List (Row D)}
    (arranged : Arranged B.engine (pageQuery d conditions orderBy 0 0) rows all)
    (totally : OrdersTotally B.engine (pageQuery d conditions orderBy 0 0) rows)
    (count : B.Serves (.count (countQuery d conditions)))
    (page : ∀ n, 1 ≤ n → (n - 1) * size < all.length →
      B.Serves (.rows (pageQuery d conditions orderBy size ((n - 1) * size)))) :
    Unchanging B d conditions orderBy size rows all := by
  refine ⟨arranged, count, fun n first below conn s held => ?_⟩
  obtain ⟨⟨out, ⟨all', arranged', rfl⟩, reply⟩, kept⟩ := page n first below conn s
  rw [held] at arranged' kept
  have one : all' = all := totally all' all arranged' arranged
  subst one
  exact ⟨reply, kept⟩

section Walk

variable {B : Backend D T ω} {d : BaseDAO} {conditions : List Condition} {orderBy : List OrderBy}
  {size : Int} {rows all : List (Row D)}

theorem Unchanging.total (h : Unchanging B d conditions orderBy size rows all) :
    (selected B.engine (countQuery d conditions) rows).length = all.length := by
  have shaped := (h.arranged.1.trans (B.engine.shape_plain _)).length_eq
  exact shaped.symm

variable {page : Int}

theorem Unchanging.run_findPage (h : Unchanging B d conditions orderBy size rows all)
    (hsize : 1 ≤ size) (hpage : 1 ≤ page) {w : World ω} (held : B.rows w.server = rows) :
    ∃ w', run (handler B.server) (d.findPage conditions orderBy size ((page - 1) * size)) w =
        (.returned (.ok (pageAt (all.map B.scan) size ((page - 1) * size))), w') ∧
      B.rows w'.server = rows := by
  have start : 0 ≤ (page - 1) * size := mul_nonneg (by omega) (by omega)
  have limit : pageLimit size = size := if_neg (by omega)
  have offset : pageOffset ((page - 1) * size) = (page - 1) * size := if_neg (by omega)
  obtain ⟨w₁, counted, kept⟩ := run_scanCountOf d w h.count
  rw [held, h.total] at counted
  rw [held] at kept
  have total : run (handler B.server) (d.count conditions) w =
    (.returned (.ok (all.length : Int)), w₁) := counted
  simp only [BaseDAO.findPage, run_bind, total, Ending.andThen, limit, offset, pageOf]
  have size_eq : (all.map B.scan).length = all.length := List.length_map _
  split_ifs with below
  · obtain ⟨reply, same⟩ := h.page page hpage below d.db w₁.server kept
    obtain ⟨w₂, fetched, server⟩ := run_selectManyOf_reply d w₁ reply
    refine ⟨w₂, ?_, server ▸ same⟩
    have fetched' : run (handler B.server) (d.selectManyOf
        (pageQuery d conditions orderBy size ((page - 1) * size))) w₁ = _ := fetched
    simp only [pageQuery] at fetched'
    simp only [run_bind, fetched', Ending.andThen, slice_eq (show 0 < size by omega) start,
      pageAt, List.length_map, List.map_take, List.map_drop]
    rfl
  · have beyond : (all.map B.scan).drop ((page - 1) * size).toNat = [] :=
      List.drop_eq_nil_of_le (by omega)
    refine ⟨w₁, ?_, kept⟩
    simp only [pageAt, beyond, List.take_nil, size_eq]
    rfl

variable (B d conditions orderBy size) in
/-- A client that asks for one page after the other as long as there is a next one, from a
page on: the pages it is given. -/
inductive Walk : Int → World ω → List (Page T) → World ω → Prop
  | last {page : Int} {w w' : World ω} {p : Page T} :
      run (handler B.server) (d.findPage conditions orderBy size ((page - 1) * size)) w =
        (.returned (.ok p), w') →
      p.hasNext = false → Walk page w [p] w'
  | next {page : Int} {w w' w'' : World ω} {p : Page T} {ps : List (Page T)} :
      run (handler B.server) (d.findPage conditions orderBy size ((page - 1) * size)) w =
        (.returned (.ok p), w') →
      p.hasNext = true → Walk (page + 1) w' ps w'' → Walk page w (p :: ps) w''

theorem Walk.unique {w w₁ w₂ : World ω} {ps qs : List (Page T)}
    (h : Walk B d conditions orderBy size page w ps w₁)
    (h' : Walk B d conditions orderBy size page w qs w₂) : ps = qs := by
  induction h generalizing qs with
  | last fetched stop =>
    cases h' with
    | last fetched' _ =>
      rw [fetched] at fetched'
      cases fetched'
      rfl
    | next fetched' more _ =>
      rw [fetched] at fetched'
      cases fetched'
      rw [stop] at more
      cases more
  | next fetched more _ ih =>
    cases h' with
    | last fetched' stop =>
      rw [fetched] at fetched'
      cases fetched'
      rw [stop] at more
      cases more
    | next fetched' _ rest =>
      rw [fetched] at fetched'
      cases fetched'
      rw [ih rest]

theorem pageAt_data_append (hpage : 1 ≤ page) (hsize : 1 ≤ size) (items : List T) :
    (pageAt items size ((page - 1) * size)).data ++ items.drop ((page + 1 - 1) * size).toNat =
      items.drop ((page - 1) * size).toNat := by
  have start : 0 ≤ (page - 1) * size := mul_nonneg (by omega) (by omega)
  have next : ((page + 1 - 1) * size).toNat = ((page - 1) * size).toNat + size.toNat := by
    rw [← Int.toNat_add start (by omega)]
    ring_nf
  rw [next, pageAt, ← List.drop_drop]
  exact List.take_append_drop size.toNat _

theorem Unchanging.exists_walk (h : Unchanging B d conditions orderBy size rows all)
    (hsize : 1 ≤ size) (hpage : 1 ≤ page) {w : World ω} (held : B.rows w.server = rows) :
    ∃ ps w', Walk B d conditions orderBy size page w ps w' ∧
      ps.flatMap Page.data = (all.map B.scan).drop ((page - 1) * size).toNat ∧
      (ps.length : Int) =
        max 1 ((newInfo page size all.length).totalPages - (page - 1)) := by
  -- the pages that are still to come decrease
  induction left : ((newInfo page size all.length).totalPages - page).toNat
    generalizing page w with
  | zero =>
    obtain ⟨w', fetched, -⟩ := h.run_findPage hsize hpage held
    have none : ¬ page < (newInfo page size all.length).totalPages := by omega
    have stop : ¬ page * size < (all.map B.scan).length := by
      rwa [List.length_map, ← lt_totalPages_iff hsize]
    refine ⟨_, w', .last fetched ?_, ?_, ?_⟩
    · rwa [← Bool.not_eq_true, pageAt_hasNext hpage hsize]
    · have rest : (all.map B.scan).drop ((page + 1 - 1) * size).toNat = [] :=
        List.drop_eq_nil_of_le (by rw [add_sub_cancel_right]; omega)
      rw [← pageAt_data_append hpage hsize, rest]
      simp
    · simp only [List.length_singleton, Nat.cast_one]
      omega
  | succ k ih =>
    obtain ⟨w', fetched, held'⟩ := h.run_findPage hsize hpage held
    have more : page < (newInfo page size all.length).totalPages := by omega
    have same := totalPages_eq page (page + 1) size all.length
    have following : 1 ≤ page + 1 := by omega
    obtain ⟨ps, w'', walk, data, length⟩ := ih following held' (by omega)
    refine ⟨_, w'', .next fetched ?_ walk, ?_, ?_⟩
    · rw [pageAt_hasNext hpage hsize, List.length_map]
      exact (lt_totalPages_iff hsize _).mp more
    · rw [List.flatMap_cons, data]
      exact pageAt_data_append hpage hsize _
    · rw [List.length_cons]
      push_cast
      omega

end Walk

/-- Both kinds of metadata tell of the same pages that there is a next one, and the pages
hold every row once. -/
theorem pages_agree {B : Backend D T ω} {d : BaseDAO} {conditions : List Condition}
    {orderBy : List OrderBy} {size : Int} {rows all : List (Row D)}
    (h : Unchanging B d conditions orderBy size rows all) (hsize : 1 ≤ size) (w : World ω)
    (held : B.rows w.server = rows) :
    (∀ page, 1 ≤ page → ∃ p w',
      run (handler B.server) (d.findPage conditions orderBy size ((page - 1) * size)) w =
        (.returned (.ok p), w') ∧
      p.total = all.length ∧ p.hasNext = (newInfo page size p.total).hasNext ∧
      (p.hasNext = true ↔ page * size < p.total)) ∧
    (∀ r : Request, 1 ≤ r.page → r.size = size → (r.page - 1) * size < 2 ^ 63 →
      r.limit = size ∧ r.offset = (r.page - 1) * size) ∧
    ∃ ps, (∃ w', Walk B d conditions orderBy size 1 w ps w') ∧
      (∀ qs w', Walk B d conditions orderBy size 1 w qs w' → qs = ps) ∧
      ps.flatMap Page.data = all.map B.scan ∧
      (ps.length : Int) = max 1 (newInfo 1 size all.length).totalPages := by
  refine ⟨?_, ?_, ?_⟩
  · intro page hpage
    obtain ⟨w', fetched, -⟩ := h.run_findPage hsize hpage held
    have total : (pageAt (all.map B.scan) size ((page - 1) * size)).total = all.length := by
      simp [pageAt]
    have next := pageAt_hasNext hpage hsize (all.map B.scan)
    rw [List.length_map] at next
    refine ⟨_, w', fetched, total, ?_, by rw [total, next]⟩
    rw [Bool.eq_iff_iff, total, next, newInfo_hasNext hpage hsize]
  · rintro r hpage rfl fits
    exact request_bounds hpage hsize fits
  · obtain ⟨ps, w', walk, data, length⟩ := h.exists_walk hsize le_rfl held
    refine ⟨ps, ⟨w', walk⟩, fun qs w'' walk' => walk'.unique walk, ?_, ?_⟩
    · simpa using data
    · simpa using length

def newestFirst : List OrderBy := [⟨str "id", true⟩]

def threeRequests : List (Row Value) := [request 1 5, request 2 6, request 3 5]

def pagesBackend : Backend Value (Option Value) (List (Row Value)) :=
  readerBackend (fun row => row (str "id"))
    (selectReader [pageQuery requests [] newestFirst 2 0, pageQuery requests [] newestFirst 2 2,
      countQuery requests []])

theorem threeRequests_unchanging : Unchanging pagesBackend requests [] newestFirst 2 threeRequests
    (sortRows newestFirst threeRequests) := by
  have arranged : Arranged pagesBackend.engine (pageQuery requests [] newestFirst 0 0) threeRequests
      (sortRows newestFirst threeRequests) := ⟨sortRows_perm _ _, sortRows_ordered _ _⟩
  refine unchanging_of_ordersTotally arranged ?_ (reader_counts _ rfl) ?_
  · have listed : ∀ r ∈ threeRequests, r = request 1 5 ∨ r = request 2 6 ∨ r = request 3 5 := by
      simp [threeRequests]
    refine ordersTotally_of_sortKey fun r r' hr hr' same => ?_
    rcases listed r hr with rfl | rfl | rfl <;> rcases listed r' hr' with rfl | rfl | rfl <;>
      first | rfl | exact absurd same (by decide)
  · intro n first below
    have length : (sortRows newestFirst threeRequests).length = 3 := rfl
    rw [length] at below
    obtain rfl | rfl : n = 1 ∨ n = 2 := by omega
    · exact reader_selects _ rfl rfl
    · exact reader_selects _ rfl rfl

theorem pages_agree_threeRequests :
    (∀ page : Int, 1 ≤ page → ∃ p w',
      run (handler pagesBackend.server) (requests.findPage [] newestFirst 2 ((page - 1) * 2))
        ⟨threeRequests, []⟩ = (.returned (.ok p), w') ∧
      p.total = 3 ∧ p.hasNext = (newInfo page 2 p.total).hasNext ∧
      (p.hasNext = true ↔ page * 2 < p.total)) ∧
    (∀ r : Request, 1 ≤ r.page → r.size = 2 → (r.page - 1) * 2 < 2 ^ 63 →
      r.limit = 2 ∧ r.offset = (r.page - 1) * 2) ∧
    ∃ ps, (∃ w', Walk pagesBackend requests [] newestFirst 2 1 ⟨threeRequests, []⟩ ps w') ∧
      (∀ qs w', Walk pagesBackend requests [] newestFirst 2 1 ⟨threeRequests, []⟩ qs w' → qs = ps) ∧
      ps.flatMap Page.data = [some (.int 3), some (.int 2), some (.int 1)] ∧
      (ps.length : Int) = max 1 (newInfo 1 2 3).totalPages :=
  pages_agree threeRequests_unchanging (by decide) ⟨threeRequests, []⟩ rfl

end DxCommonGo.PageWalks
