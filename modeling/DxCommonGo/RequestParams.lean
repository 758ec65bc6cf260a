import DxCommonGo.PaginatedRequest

/-! Two readers of one raw query. `Build` checks the names that `URL.Query` reports, which drops
pairs, and reads the sort from the raw text by its literal key, which it does not decode. -/

namespace DxCommonGo.RequestParams
open GoStrings GoMaps NetUrl PaginatedRequest

def pairParts (pair : GoString) : GoString × GoString := (cut 61 pair).getD (pair, [])

def Names (pair name : GoString) : Prop := queryUnescape (pairParts pair).1 = some name

instance (pair name : GoString) : Decidable (Names pair name) :=
  inferInstanceAs (Decidable (_ = _))

theorem parsePair_eq_some {pair key value : GoString} (h : parsePair pair = some (key, value)) :
    Names pair key := by
  unfold parsePair at h
  split_ifs at h
  obtain ⟨k, hk, h⟩ := Option.bind_eq_some_iff.mp h
  obtain ⟨v, -, h⟩ := Option.bind_eq_some_iff.mp h
  cases h
  exact hk

theorem mem_foldl_add {k : GoString} (ps : List (GoString × GoString)) (m : Values) :
    k ∈ ps.foldl (fun m p => Values.add m p.1 p.2) m ↔ k ∈ m ∨ k ∈ ps.map Prod.fst := by
  induction ps generalizing m with
  | nil => simp
  | cons p ps ih =>
    rw [List.foldl_cons, ih, List.map_cons, List.mem_cons]
    unfold Values.add
    rw [AList.mem_insert]
    tauto

theorem build_names_allowed {lower : GoString → GoString} {ord : RangeOrder} {b : Builder}
    {p : Request} (h : b.build lower ord = .ok p) {name : GoString}
    (hname : name ∈ parseQuery b.rawQuery) : name ∈ b.allowedQueryParams := by
  dsimp only [Builder.build] at h
  split at h
  · cases h
  · next unknown =>
    have checked := List.find?_eq_none.mp unknown name (mem_range_keys.mpr hname)
    simpa using checked

/-- The pair is written with the plain key and an equals sign. -/
def SortLiteral (pair : GoString) : Prop := (cut 61 pair).map Prod.fst = some (str "sort")

def literalValue (key pair : GoString) : Option GoString :=
  (cut 61 pair).bind fun p => if p.1 = key then some p.2 else none

theorem literalValue_sort {pair value : GoString}
    (h : literalValue (str "sort") pair = some value) : Names pair (str "sort") := by
  obtain ⟨parts, hcut, h⟩ := Option.bind_eq_some_iff.mp h
  split_ifs at h with key
  rw [Names, pairParts, hcut, Option.getD_some, key]
  rfl

theorem SortLiteral.value {pair : GoString} (h : SortLiteral pair) :
    literalValue (str "sort") pair = some (pairParts pair).2 := by
  obtain ⟨parts, hcut, key⟩ := Option.map_eq_some_iff.mp h
  simp [literalValue, pairParts, hcut, key]

theorem rawQueryParam_eq (raw key : GoString) :
    rawQueryParam raw key =
      ((split raw 38).findSome? (literalValue key)).elim [] fun v => (queryUnescape v).getD v := by
  unfold rawQueryParam literalValue
  dsimp only
  split
  · next found => simp only [found, Option.elim_some]
  · next absent => simp only [absent, Option.elim_none]

end DxCommonGo.RequestParams
