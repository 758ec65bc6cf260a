import DxCommonGo.QueryMeaning
import Mathlib.Data.List.Dedup
import Mathlib.Data.List.Lex
import Mathlib.Data.List.Sort

/-! What SQL makes of a table, a list of rows whose order means nothing. Joins, grouping, select
lists and sort orders are parameters with a few laws. -/

namespace DxCommonGo.TableSemantics
open GoStrings GoMaps QueryModel QueryBuilder SqlSemantics QueryMeaning

structure Engine (D : Type) extends Database D where
  succ : D → D
  source : List Join → List (Row D) → List (Row D)
  /-- What DISTINCT, the select list, GROUP BY and HAVING make of the selected rows. -/
  shape : Bool → List GoString → List GoString → List Condition → List (Row D) → List (Row D)
  Ordered : List OrderBy → List (Row D) → Prop
  groups : GoString → List (Row D) → List (Value × Int)
  succ_int : ∀ n : Int, succ (encode (.int n)) = encode (.int (n + 1))
  int_injective : ∀ m n : Int, encode (.int m) = encode (.int n) → m = n
  str_injective : ∀ s t : GoString, encode (.str s) = encode (.str t) → s = t
  source_nil : ∀ rows, source [] rows = rows
  shape_plain : ∀ rows, (shape false [] [] [] rows).Perm rows
  shape_perm : ∀ distinct columns groupBy having rows rows', List.Perm rows rows' →
    (shape distinct columns groupBy having rows).Perm (shape distinct columns groupBy having rows')
  groups_perm : ∀ column rows rows', List.Perm rows rows' →
    (groups column rows).Perm (groups column rows')

variable {D : Type}

def satisfies (P : Database D) (cs : List Condition) (row : Row D) : Bool :=
  Truth.all (conditionsTruth P row cs) = .true

theorem satisfies_iff {P : Database D} {cs : List Condition} {row : Row D} :
    satisfies P cs row = true ↔ ∀ c ∈ cs, conditionTruth P row c = .true := by
  rw [satisfies, decide_eq_true_eq, all_conditionsTruth]

theorem satisfies_append (P : Database D) (cs cs' : List Condition) (row : Row D) :
    satisfies P (cs ++ cs') row = (satisfies P cs row && satisfies P cs' row) := by
  rw [Bool.eq_iff_iff, Bool.and_eq_true, satisfies_iff, satisfies_iff, satisfies_iff,
    List.forall_mem_append]

theorem satisfies_eq {P : Database D} {column : GoString} {v : Value} (hv : v ≠ .nil)
    {row : Row D} :
    satisfies P [QueryModel.eq column v] row = true ↔ row column = some (P.encode v) := by
  have scalar : P.scalar v = some (P.encode v) := by
    cases v with
    | nil => exact absurd rfl hv
    | _ => rfl
  simp only [satisfies_iff, List.mem_singleton, forall_eq, QueryModel.eq, leaf, conditionTruth,
    scalar]
  constructor
  · exact fun h => (P.compare_eq_true h).1
  · intro h
    rw [h]
    exact P.eq_self _

def selected (E : Engine D) (q : SelectQuery) (rows : List (Row D)) : List (Row D) :=
  (E.source q.joins rows).filter (satisfies E.toDatabase q.conditions)

/-- A list of all rows of the result, before LIMIT and OFFSET. -/
def Arranged (E : Engine D) (q : SelectQuery) (rows all : List (Row D)) : Prop :=
  all.Perm (E.shape q.distinct q.columns q.groupBy q.having (selected E q rows)) ∧
  E.Ordered q.orderBy all

/-- LIMIT and OFFSET, each written only for a positive number. -/
def slice {α : Type} (limit offset : Int) (all : List α) : List α :=
  let rest := if 0 < offset then all.drop offset.toNat else all
  if 0 < limit then rest.take limit.toNat else rest

def Outputs (E : Engine D) (q : SelectQuery) (rows out : List (Row D)) : Prop :=
  ∃ all, Arranged E q rows all ∧ out = slice q.limit q.offset all

structure Write (D : Type) where
  built : SqlText × List Value
  conditions : List Condition
  change : Row D → Row D

def updated (E : Engine D) (q : UpdateQuery) (row : Row D) : Row D := fun column =>
  match q.set.lookup column with
  | some v => E.scalar v
  | none => if q.increment.contains column then (row column).map E.succ else row column

def updateWrite (E : Engine D) (ord : RangeOrder) (q : UpdateQuery) : Write D :=
  ⟨buildUpdate ord q, q.conditions, updated E q⟩

def Write.matched (E : Engine D) (st : Write D) (rows : List (Row D)) : List (Row D) :=
  rows.filter (satisfies E.toDatabase st.conditions)

def Write.after (E : Engine D) (st : Write D) (rows : List (Row D)) : List (Row D) :=
  rows.map fun row => if satisfies E.toDatabase st.conditions row then st.change row else row

section Pinned

def Pins (P : Database D) (cs : List Condition) (others : List (Row D)) : Prop :=
  ∀ r ∈ others, satisfies P cs r = false

variable {E : Engine D} {st : Write D} {pre post : List (Row D)}

theorem filter_pinned {P : Database D} {cs : List Condition} (h : Pins P cs (pre ++ post))
    (row : Row D) :
    (pre ++ row :: post).filter (satisfies P cs) = if satisfies P cs row then [row] else [] := by
  have none_of : ∀ rows : List (Row D), (∀ r ∈ rows, r ∈ pre ++ post) →
      rows.filter (satisfies P cs) = [] := by
    intro rows hrows
    simp only [List.filter_eq_nil_iff, Bool.not_eq_true]
    exact fun r hr => h r (hrows r hr)
  simp only [List.filter_append, List.filter_cons,
    none_of pre (fun r hr => List.mem_append_left post hr),
    none_of post (fun r hr => List.mem_append_right pre hr), List.nil_append]

theorem Write.after_pinned (h : Pins E.toDatabase st.conditions (pre ++ post)) (row : Row D) :
    st.after E (pre ++ row :: post) =
      pre ++ (if satisfies E.toDatabase st.conditions row then st.change row else row) :: post := by
  have same : ∀ rows : List (Row D), (∀ r ∈ rows, r ∈ pre ++ post) → st.after E rows = rows := by
    intro rows hrows
    refine (List.map_congr_left fun r hr => ?_).trans (List.map_id rows)
    rw [h r (hrows r hr)]
    rfl
  have hpre := same pre fun r hr => List.mem_append_left post hr
  have hpost := same post fun r hr => List.mem_append_right pre hr
  simp only [Write.after] at hpre hpost ⊢
  rw [List.map_append, List.map_cons, hpre, hpost]

end Pinned

def sortKey (orders : List OrderBy) (row : Row Value) : List Int :=
  orders.map fun o =>
    let key := match row o.column with
      | some (.int n) => n
      | _ => 0
    if o.desc then -key else key

def orderLe (orders : List OrderBy) (r r' : Row Value) : Prop := sortKey orders r ≤ sortKey orders r'

instance (orders : List OrderBy) : DecidableRel (orderLe orders) := fun r r' =>
  inferInstanceAs (Decidable (sortKey orders r ≤ sortKey orders r'))

instance (orders : List OrderBy) : Std.Total (orderLe orders) :=
  ⟨fun r r' => le_total (sortKey orders r) (sortKey orders r')⟩

instance (orders : List OrderBy) : IsTrans (Row Value) (orderLe orders) :=
  ⟨fun _ _ _ => le_trans⟩

def rowOf (columns : List GoString) (values : List (Option Value)) : Row Value := fun column =>
  ((columns.zip values).lookup column).join

/-- Go values as an engine of one table: a select list is a list of columns, and
a group is the row of its columns. -/
def valueEngine : Engine Value where
  toDatabase := valueDatabase
  succ
    | .int n => .int (n + 1)
    | v => v
  source _ rows := rows
  shape distinct columns groupBy having rows :=
    let keys := if groupBy.isEmpty then columns else groupBy
    let grouped :=
      if distinct || !groupBy.isEmpty then ((rows.map keys.map).dedup).map (rowOf keys) else rows
    grouped.filter (satisfies valueDatabase having)
  Ordered orders rows := rows.Pairwise (orderLe orders)
  groups column rows :=
    let values := rows.filterMap fun row => row column
    values.dedup.map fun v => (v, (values.count v : Int))
  succ_int _ := rfl
  int_injective m n h := by
    cases h
    rfl
  str_injective s t h := by
    cases h
    rfl
  source_nil _ := rfl
  shape_plain rows := by
    have all : rows.filter (satisfies valueDatabase []) = rows :=
      List.filter_eq_self.mpr fun row _ => satisfies_iff.mpr (by simp)
    simp [all]
  shape_perm distinct columns groupBy having rows rows' h := by
    apply List.Perm.filter
    split
    · exact ((h.map _).dedup).map _
    · exact h
  groups_perm column rows rows' h := by
    have values := h.filterMap fun row => row column
    have counts : (fun v => (v, ((rows.filterMap fun row => row column).count v : Int))) =
        fun v => (v, ((rows'.filterMap fun row => row column).count v : Int)) := by
      funext v
      rw [values.count_eq]
    simp only [counts]
    exact values.dedup.map _

def sortRows (orders : List OrderBy) (rows : List (Row Value)) : List (Row Value) :=
  rows.insertionSort (orderLe orders)

theorem sortRows_ordered (orders : List OrderBy) (rows : List (Row Value)) :
    valueEngine.Ordered orders (sortRows orders rows) := List.pairwise_insertionSort _ rows

theorem sortRows_perm (orders : List OrderBy) (rows : List (Row Value)) :
    (sortRows orders rows).Perm rows := List.perm_insertionSort _ rows

end DxCommonGo.TableSemantics
