import DxCommonGo.FinderPages
import DxCommonGo.GoInts
import DxCommonGo.PaginatedRequest

/-! The offset of a page in 64-bit arithmetic. The product with the size can wrap; a negative offset
is none for the SELECT builder, and the first page comes back. -/

namespace DxCommonGo.PageOffsets
open GoStrings GoMaps GoErrors NetUrl PaginatedRequest BaseDao TableSemantics FinderPages

def Accepted (p : Request) : Prop :=
  ∃ (lower : GoString → GoString) (ord : RangeOrder) (b : Builder), b.build lower ord = .ok p

variable {p : Request}

theorem Accepted.page_size (h : Accepted p) :
    ∃ q : Values, p.page = Builder.page q ∧ p.size = Builder.size q := by
  obtain ⟨lower, ord, b, built⟩ := h
  dsimp only [Builder.build] at built
  split at built
  · cases built
  · obtain ⟨orderBy, -, built⟩ := bind_eq_ok.mp built
    obtain ⟨temporal, -, built⟩ := bind_eq_ok.mp built
    cases built
    exact ⟨parseQuery b.rawQuery, rfl, rfl⟩

theorem one_le_page (q : Values) : 1 ≤ Builder.page q := by
  rw [Builder.page]
  generalize parseIntOrDefault (Values.get q (str "page")) defaultPage = n
  dsimp only [defaultPage]
  split_ifs <;> omega

theorem size_bounds (q : Values) : 1 ≤ Builder.size q ∧ Builder.size q ≤ 100 := by
  rw [Builder.size]
  generalize parseIntOrDefault (Values.get q (str "size")) defaultSize = n
  dsimp only [defaultSize, maxSize]
  split_ifs <;> omega

structure ExactPage (p : Request) : Prop where
  offset : p.offset = (p.page - 1) * p.size
  nonneg : 0 ≤ p.offset
  increasing : ∀ p', Accepted p' → p'.size = p.size → p'.page < p.page → p'.offset < p.offset
  later : 1 < p.page → 0 < p.offset
  rows : ∀ {α : Type} (all : List α), slice (pageLimit p.limit) (pageOffset p.offset) all =
    (all.drop ((p.page - 1) * p.size).toNat).take p.size.toNat

theorem Accepted.offset_eq (h : Accepted p) : p.offset = ((p.page - 1) * p.size).bmod (2 ^ 64) := by
  obtain ⟨q, page, -⟩ := h.page_size
  have first := one_le_page q
  rw [Request.offset, if_neg (by omega)]

theorem Accepted.product_nonneg (h : Accepted p) : 0 ≤ (p.page - 1) * p.size := by
  obtain ⟨q, page, size⟩ := h.page_size
  have first := one_le_page q
  have small := size_bounds q
  exact mul_nonneg (by omega) (by omega)

theorem Accepted.offset_exact (h : Accepted p) :
    p.offset = (p.page - 1) * p.size ↔ (p.page - 1) * p.size < 2 ^ 63 := by
  rw [h.offset_eq]
  exact GoInts.bmod_eq_self_iff h.product_nonneg

theorem Accepted.product_lt {p' : Request} (h : Accepted p) (size : p'.size = p.size)
    (page : p'.page < p.page) : (p'.page - 1) * p'.size < (p.page - 1) * p.size := by
  obtain ⟨q, -, hsize⟩ := h.page_size
  have small := size_bounds q
  rw [size]
  exact mul_lt_mul_of_pos_right (by omega) (by omega)

/-- The offset is the one of the page exactly if the product fits into 63 bits. -/
theorem exactPage_iff {p : Request} (h : Accepted p) :
    ExactPage p ↔ (p.page - 1) * p.size < 2 ^ 63 := by
  constructor
  · exact fun exact => h.offset_exact.mp exact.offset
  · intro fits
    have offset := h.offset_exact.mpr fits
    have nonneg : 0 ≤ p.offset := offset ▸ h.product_nonneg
    obtain ⟨q, page, size⟩ := h.page_size
    have small := size_bounds q
    have limit : pageLimit p.limit = p.size := if_neg (by rw [Request.limit]; omega)
    refine ⟨offset, nonneg, ?_, ?_, ?_⟩
    · intro p' accepted same before
      have less := h.product_lt same before
      rw [accepted.offset_exact.mpr (less.trans fits), offset]
      exact less
    · intro later
      rw [offset]
      exact mul_pos (by omega) (by omega)
    · intro α all
      rw [limit, pageOffset, if_neg (by omega), slice_eq (by omega) nonneg, offset]

def lastPageBuilder (page : String) : Builder where
  rawQuery := str "page=" ++ str page ++ str "&size=100"

theorem lastPage_fits :
    ∃ p, (lastPageBuilder "92233720368547759").build id .listed = .ok p ∧
      p.page = 92233720368547759 ∧ ExactPage p := by
  refine ⟨_, rfl, by decide +kernel, ?_⟩
  exact (exactPage_iff ⟨id, .listed, lastPageBuilder "92233720368547759", rfl⟩).mpr
    (by decide +kernel)

/-- One page further the offset is negative, and the SELECT is that of the first page. -/
theorem nextPage_wraps :
    ∃ p, (lastPageBuilder "92233720368547760").build id .listed = .ok p ∧
      p.page = 92233720368547760 ∧ p.offset < 0 ∧
      ∀ (α : Type) (all : List α),
        slice (pageLimit p.limit) (pageOffset p.offset) all = slice p.limit 0 all := by
  refine ⟨_, rfl, by decide +kernel, by decide +kernel, fun α all => rfl⟩

end DxCommonGo.PageOffsets
