import DxCommonGo.QueryBuilder
import DxCommonGo.SqlSyntax

/-! The meaning of condition trees and of the text rendered from them, which is parsed with SQL
precedence and looks its placeholders up among the arguments. -/

namespace DxCommonGo.QueryMeaning
open GoStrings QueryModel QueryBuilder SqlSemantics SqlSyntax

structure Database (D : Type) extends Comparison D where
  encode : Value → D

abbrev Row (D : Type) := GoString → Option D

variable {D : Type}

def Database.scalar (P : Database D) : Value → Option D
  | .nil => none
  | v => some (P.encode v)

def elements : Value → Option (List Value)
  | .anys vs => some vs
  | .slice vs => some vs
  | _ => none

def Database.array (P : Database D) (v : Value) : Option (List (Option D)) :=
  (elements v).map fun vs => vs.map P.scalar

def Database.bound (P : Database D) (v : Value) : Bound D := ⟨P.scalar v, P.array v⟩

def memberTruth (P : Database D) (x : Option D) (v : Value) : Truth :=
  match P.array v with
  | none => .unknown
  | some es => Truth.any (es.map (P.compare .eq x))

mutual

def conditionTruth (P : Database D) (row : Row D) : Condition → Truth
  | ⟨column, op, value, sub⟩ =>
    match op with
    | .eq => P.compare .eq (row column) (P.scalar value)
    | .notEq => P.compare .ne (row column) (P.scalar value)
    | .gt => P.compare .gt (row column) (P.scalar value)
    | .gte => P.compare .ge (row column) (P.scalar value)
    | .lt => P.compare .lt (row column) (P.scalar value)
    | .lte => P.compare .le (row column) (P.scalar value)
    | .like => P.compare .like (row column) (P.scalar value)
    | .ilike => P.compare .ilike (row column) (P.scalar value)
    | .in => memberTruth P (row column) value
    | .notIn => (memberTruth P (row column) value).not
    | .between =>
      match betweenBounds value with
      | some (low, high) =>
        betweenTruth P.toComparison (row column) (P.scalar low) (P.scalar high)
      | none => .false
    | .isNull => nullTruth (row column)
    | .notNull => (nullTruth (row column)).not
    | .and => Truth.all (conditionsTruth P row sub)
    | .or => Truth.any (conditionsTruth P row sub)

def conditionsTruth (P : Database D) (row : Row D) : List Condition → List Truth
  | [] => []
  | c :: cs => conditionTruth P row c :: conditionsTruth P row cs

end

theorem conditionsTruth_eq_map (P : Database D) (row : Row D) (cs : List Condition) :
    conditionsTruth P row cs = cs.map (conditionTruth P row) := by
  induction cs with
  | nil => rfl
  | cons c cs ih => rw [conditionsTruth, ih, List.map_cons]

theorem all_conditionsTruth {P : Database D} {row : Row D} {cs : List Condition} :
    Truth.all (conditionsTruth P row cs) = .true ↔ ∀ c ∈ cs, conditionTruth P row c = .true := by
  rw [Truth.all_eq_true, conditionsTruth_eq_map, List.forall_mem_map]

mutual

def wellFormed : Condition → Bool
  | ⟨column, op, value, sub⟩ =>
    match op with
    | .and | .or => !sub.isEmpty && allWellFormed sub
    | .between => plainIdentifier column && (betweenBounds value).isSome
    | _ => plainIdentifier column

def allWellFormed : List Condition → Bool
  | [] => true
  | c :: cs => wellFormed c && allWellFormed cs

end

/-- The truth value of a rendered WHERE text, each `$n` read as the argument at `n - startIdx`. The
empty text restricts nothing; `none` is a text that does not parse, or a missing argument. -/
def whereTruth (P : Database D) (row : Row D) (startIdx : Int) (text : GoString)
    (args : List Value) : Option Truth :=
  if text.isEmpty then some .true
  else
    (parse text).bind fun e => e.eval P.toComparison
      ⟨row, fun n => if n < startIdx then none else (args[(n - startIdx).toNat]?).map P.bound⟩

/-- Go values compared as themselves; integers and strings are also ordered. -/
def valueDatabase : Database Value where
  cmp op a b :=
    let ofProp (p : Prop) [Decidable p] : Truth := if p then .true else .false
    match op, a, b with
    | .eq, a, b => ofProp (a = b)
    | .ne, a, b => (ofProp (a = b)).not
    | .gt, .int a, .int b => ofProp (b < a)
    | .ge, .int a, .int b => ofProp (b ≤ a)
    | .lt, .int a, .int b => ofProp (a < b)
    | .le, .int a, .int b => ofProp (a ≤ b)
    | .gt, .str a, .str b => ofProp (b < a)
    | .ge, .str a, .str b => ofProp (b < a ∨ a = b)
    | .lt, .str a, .str b => ofProp (a < b)
    | .le, .str a, .str b => ofProp (a < b ∨ a = b)
    | _, _, _ => .unknown
  number n := .int n
  eq_self a := by simp
  eq_of_ne a b h := by simp [h]
  ne_eq_not a b := rfl
  encode v := v

end DxCommonGo.QueryMeaning
