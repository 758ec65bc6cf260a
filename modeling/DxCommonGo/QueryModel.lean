import DxCommonGo.GoMaps

/-! The data model of package `query`: bound values, condition trees, and the five statement
descriptions. `Value` is a Go `any` as far as the package looks into it. -/

namespace DxCommonGo.QueryModel
open GoStrings GoMaps

inductive Value where
  | nil
  | str (s : GoString)
  | int (n : Int)
  | anys (vs : List Value)
  | slice (vs : List Value)
  | other (type text : GoString)

mutual

def Value.decEq : (v w : Value) → Decidable (v = w)
  | .nil, .nil => isTrue rfl
  | .str s, .str t => decidable_of_iff (s = t) (by simp)
  | .int m, .int n => decidable_of_iff (m = n) (by simp)
  | .anys vs, .anys ws => @decidable_of_iff _ (vs = ws) (by simp) (Value.decEqs vs ws)
  | .slice vs, .slice ws => @decidable_of_iff _ (vs = ws) (by simp) (Value.decEqs vs ws)
  | .other s t, .other s' t' => decidable_of_iff (s = s' ∧ t = t') (by simp)
  | .nil, .str _ | .nil, .int _ | .nil, .anys _ | .nil, .slice _ | .nil, .other _ _
  | .str _, .nil | .str _, .int _ | .str _, .anys _ | .str _, .slice _ | .str _, .other _ _
  | .int _, .nil | .int _, .str _ | .int _, .anys _ | .int _, .slice _ | .int _, .other _ _
  | .anys _, .nil | .anys _, .str _ | .anys _, .int _ | .anys _, .slice _ | .anys _, .other _ _
  | .slice _, .nil | .slice _, .str _ | .slice _, .int _ | .slice _, .anys _
  | .slice _, .other _ _
  | .other _ _, .nil | .other _ _, .str _ | .other _ _, .int _ | .other _ _, .anys _
  | .other _ _, .slice _ => isFalse (by simp)

def Value.decEqs : (vs ws : List Value) → Decidable (vs = ws)
  | [], [] => isTrue rfl
  | v :: vs, w :: ws =>
    @decidable_of_iff _ (v = w ∧ vs = ws) (by simp)
      (@instDecidableAnd _ _ (Value.decEq v w) (Value.decEqs vs ws))
  | [], _ :: _ | _ :: _, [] => isFalse (by simp)

end

instance : DecidableEq Value := Value.decEq

inductive Operator where
  | eq | notEq | gt | gte | lt | lte | like | ilike
  | in | notIn | between | isNull | notNull | and | or
  deriving DecidableEq, Repr

def Operator.text : Operator → GoString
  | .eq => GoStrings.str "="
  | .notEq => GoStrings.str "<>"
  | .gt => GoStrings.str ">"
  | .gte => GoStrings.str ">="
  | .lt => GoStrings.str "<"
  | .lte => GoStrings.str "<="
  | .like => GoStrings.str "LIKE"
  | .ilike => GoStrings.str "ILIKE"
  | .in => GoStrings.str "IN"
  | .notIn => GoStrings.str "NOT IN"
  | .between => GoStrings.str "BETWEEN"
  | .isNull => GoStrings.str "IS NULL"
  | .notNull => GoStrings.str "IS NOT NULL"
  | .and => GoStrings.str "AND"
  | .or => GoStrings.str "OR"

structure Condition where
  column : GoString
  op : Operator
  value : Value
  sub : List Condition

/-- Induction over a tree with the hypothesis for every child of a group. -/
theorem Condition.induct {P : Condition → Prop}
    (step : ∀ column op value sub, (∀ c ∈ sub, P c) → P ⟨column, op, value, sub⟩)
    (c : Condition) : P c :=
  Condition.rec (motive_1 := P) (motive_2 := fun cs => ∀ c ∈ cs, P c)
    step (by simp) (fun _ _ hc hcs => by simpa using ⟨hc, hcs⟩) c

def leaf (op : Operator) (column : GoString) (value : Value) : Condition :=
  ⟨column, op, value, []⟩

def eq (column : GoString) (value : Value) : Condition := leaf .eq column value
def notEq (column : GoString) (value : Value) : Condition := leaf .notEq column value
def gt (column : GoString) (value : Value) : Condition := leaf .gt column value
def gte (column : GoString) (value : Value) : Condition := leaf .gte column value
def lt (column : GoString) (value : Value) : Condition := leaf .lt column value
def lte (column : GoString) (value : Value) : Condition := leaf .lte column value
def like (column pattern : GoString) : Condition := leaf .like column (.str pattern)
def iLike (column pattern : GoString) : Condition := leaf .ilike column (.str pattern)
def isIn (column : GoString) (values : Value) : Condition := leaf .in column values
def notIn (column : GoString) (values : Value) : Condition := leaf .notIn column values
def between (column : GoString) (low high : Value) : Condition :=
  leaf .between column (.anys [low, high])
def isNull (column : GoString) : Condition := leaf .isNull column .nil
def isNotNull (column : GoString) : Condition := leaf .notNull column .nil
def and (conditions : List Condition) : Condition := ⟨[], .and, .nil, conditions⟩
def or (conditions : List Condition) : Condition := ⟨[], .or, .nil, conditions⟩

structure OrderBy where
  column : GoString
  desc : Bool
  deriving DecidableEq

structure Join where
  type : GoString
  table : GoString
  on : GoString

structure SelectQuery where
  table : GoString
  distinct : Bool := false
  columns : List GoString := []
  joins : List Join := []
  conditions : List Condition := []
  groupBy : List GoString := []
  having : List Condition := []
  orderBy : List OrderBy := []
  limit : Int := 0
  offset : Int := 0
  forUpdate : Bool := false

structure InsertQuery where
  table : GoString
  columns : List GoString
  values : List Value
  returning : List GoString := []

structure UpdateQuery where
  table : GoString
  set : GoMap Value
  increment : List GoString := []
  conditions : List Condition := []
  returning : List GoString := []

structure DeleteQuery where
  table : GoString
  conditions : List Condition
  softDelete : Bool := false

structure UpsertQuery where
  table : GoString
  columns : List GoString
  values : List Value
  conflictColumn : GoString
  updateColumns : List GoString
  returning : List GoString := []

end DxCommonGo.QueryModel
