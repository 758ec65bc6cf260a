import DxCommonGo.GoStrings

/-! Three-valued truth and boolean SQL expressions over a row and bound parameters. Of the scalar
domain only `=` as identity of non-null values, and `<>` as its negation, is assumed. -/

namespace DxCommonGo.SqlSemantics
open GoStrings

inductive Truth where
  | false
  | unknown
  | true
  deriving DecidableEq, Repr

namespace Truth

protected def and : Truth → Truth → Truth
  | .false, _ => .false
  | _, .false => .false
  | .true, .true => .true
  | _, _ => .unknown

protected def or : Truth → Truth → Truth
  | .true, _ => .true
  | _, .true => .true
  | .false, .false => .false
  | _, _ => .unknown

protected def not : Truth → Truth
  | .true => .false
  | .false => .true
  | .unknown => .unknown

def all (ts : List Truth) : Truth := ts.foldr Truth.and .true
def any (ts : List Truth) : Truth := ts.foldr Truth.or .false

@[simp] theorem and_true (a : Truth) : a.and .true = a := by cases a <;> rfl
@[simp] theorem or_false (a : Truth) : a.or .false = a := by cases a <;> rfl

theorem and_assoc (a b c : Truth) : (a.and b).and c = a.and (b.and c) := by
  cases a <;> cases b <;> cases c <;> rfl

theorem or_assoc (a b c : Truth) : (a.or b).or c = a.or (b.or c) := by
  cases a <;> cases b <;> cases c <;> rfl

theorem not_or (a b : Truth) : (a.or b).not = a.not.and b.not := by
  cases a <;> cases b <;> rfl

theorem and_eq_true {a b : Truth} : a.and b = .true ↔ a = .true ∧ b = .true := by
  cases a <;> cases b <;> decide

theorem or_eq_true {a b : Truth} : a.or b = .true ↔ a = .true ∨ b = .true := by
  cases a <;> cases b <;> decide

theorem all_append (ts us : List Truth) : all (ts ++ us) = (all ts).and (all us) := by
  induction ts with
  | nil =>
    rw [List.nil_append]
    cases all us <;> rfl
  | cons t ts ih =>
    rw [List.cons_append, show all (t :: (ts ++ us)) = t.and (all (ts ++ us)) from rfl, ih,
      ← and_assoc]
    rfl

theorem any_append (ts us : List Truth) : any (ts ++ us) = (any ts).or (any us) := by
  induction ts with
  | nil =>
    rw [List.nil_append]
    cases any us <;> rfl
  | cons t ts ih =>
    rw [List.cons_append, show any (t :: (ts ++ us)) = t.or (any (ts ++ us)) from rfl, ih,
      ← or_assoc]
    rfl

theorem all_eq_true {ts : List Truth} : all ts = .true ↔ ∀ t ∈ ts, t = .true := by
  induction ts with
  | nil => simp [all]
  | cons t ts ih =>
    rw [show all (t :: ts) = t.and (all ts) from rfl, and_eq_true, ih]
    simp

theorem any_eq_true {ts : List Truth} : any ts = .true ↔ .true ∈ ts := by
  induction ts with
  | nil => simp [any]
  | cons t ts ih =>
    rw [show any (t :: ts) = t.or (any ts) from rfl, or_eq_true, ih, List.mem_cons, eq_comm]

theorem not_any (ts : List Truth) : (any ts).not = all (ts.map Truth.not) := by
  induction ts with
  | nil => rfl
  | cons t ts ih =>
    rw [show any (t :: ts) = t.or (any ts) from rfl, not_or, ih]
    rfl

theorem foldl_and (t : Truth) (ts : List Truth) : ts.foldl Truth.and t = t.and (all ts) := by
  induction ts generalizing t with
  | nil => simp [all]
  | cons u ts ih =>
    rw [List.foldl_cons, ih, and_assoc]
    rfl

theorem foldl_or (t : Truth) (ts : List Truth) : ts.foldl Truth.or t = t.or (any ts) := by
  induction ts generalizing t with
  | nil => simp [any]
  | cons u ts ih =>
    rw [List.foldl_cons, ih, or_assoc]
    rfl

end Truth

inductive CmpOp where
  | eq | ne | gt | ge | lt | le | like | ilike
  deriving DecidableEq, Repr

structure Comparison (D : Type) where
  cmp : CmpOp → D → D → Truth
  number : Nat → D
  eq_self : ∀ a, cmp .eq a a = .true
  eq_of_ne : ∀ a b, a ≠ b → cmp .eq a b = .false
  ne_eq_not : ∀ a b, cmp .ne a b = (cmp .eq a b).not

variable {D : Type}

def Comparison.compare (M : Comparison D) (op : CmpOp) : Option D → Option D → Truth
  | some a, some b => M.cmp op a b
  | _, _ => .unknown

theorem Comparison.compare_ne (M : Comparison D) (a b : Option D) :
    M.compare .ne a b = (M.compare .eq a b).not := by
  cases a <;> cases b <;> simp [Comparison.compare, Truth.not, M.ne_eq_not]

theorem Comparison.compare_eq_true (M : Comparison D) {a b : Option D}
    (h : M.compare .eq a b = .true) : a = b ∧ a.isSome := by
  match a, b, h with
  | some a, some b, h =>
    by_cases hab : a = b
    · exact ⟨congrArg some hab, rfl⟩
    · rw [Comparison.compare, M.eq_of_ne a b hab] at h
      cases h

structure Bound (D : Type) where
  scalar : Option D
  elems : Option (List (Option D))

structure Env (D : Type) where
  row : GoString → Option D
  param : Int → Option (Bound D)

inductive Operand where
  | column (name : GoString)
  | param (n : Int)
  | number (n : Nat)
  deriving DecidableEq, Repr

inductive Expr where
  | compare (op : CmpOp) (l r : Operand)
  | anyOf (op : CmpOp) (l : Operand) (array : Int)
  | allOf (op : CmpOp) (l : Operand) (array : Int)
  | between (x low high : Operand)
  | isNull (x : Operand)
  | isNotNull (x : Operand)
  | not (e : Expr)
  | and (a b : Expr)
  | or (a b : Expr)
  deriving DecidableEq, Repr

/-- `none` marks a parameter that was never bound. -/
def Operand.eval (M : Comparison D) (env : Env D) : Operand → Option (Option D)
  | .column name => some (env.row name)
  | .param n => (env.param n).map Bound.scalar
  | .number n => some (some (M.number n))

def nullTruth (x : Option D) : Truth := if x.isNone then .true else .false

def quantified (M : Comparison D) (fold : List Truth → Truth) (op : CmpOp)
    (x : Option D) (array : Option (List (Option D))) : Truth :=
  match array with
  | none => .unknown
  | some es => fold (es.map (M.compare op x))

def betweenTruth (M : Comparison D) (x low high : Option D) : Truth :=
  (M.compare .ge x low).and (M.compare .le x high)

def Expr.eval (M : Comparison D) (env : Env D) : Expr → Option Truth
  | .compare op l r => do
    let x ← l.eval M env
    let y ← r.eval M env
    return M.compare op x y
  | .anyOf op l n => do
    let x ← l.eval M env
    let array ← env.param n
    return quantified M Truth.any op x array.elems
  | .allOf op l n => do
    let x ← l.eval M env
    let array ← env.param n
    return quantified M Truth.all op x array.elems
  | .between x low high => do
    let x ← x.eval M env
    let low ← low.eval M env
    let high ← high.eval M env
    return betweenTruth M x low high
  | .isNull x => do
    let x ← x.eval M env
    return nullTruth x
  | .isNotNull x => do
    let x ← x.eval M env
    return (nullTruth x).not
  | .not e => do
    let a ← e.eval M env
    return a.not
  | .and a b => do
    let a ← a.eval M env
    let b ← b.eval M env
    return a.and b
  | .or a b => do
    let a ← a.eval M env
    let b ← b.eval M env
    return a.or b

end DxCommonGo.SqlSemantics
