import DxCommonGo.QueryWhere
import DxCommonGo.SqlAlternatives
import DxCommonGo.SqlScanning
import Mathlib.Data.List.Induction

/-! The top level of a boolean text, by the same reading as `parse`: its operands are kept in the
runs of their alternatives, and folding the runs gives the expression of `parse`. -/

namespace DxCommonGo.SqlTopLevel
open GoStrings QueryModel QueryBuilder QueryWhere
open SqlSemantics SqlSyntax SqlReading SqlScanning SqlAlternatives

/-- The outermost level: a `Frame` whose operands are not folded yet. -/
structure Level where
  alternatives : List (List Expr)
  conjuncts : List Expr
  nots : Nat
  current : Option Expr

namespace Level

def empty : Level := ⟨[], [], 0, none⟩

def operand (l : Level) (e : Expr) : Option Level :=
  match l.current with
  | none => some { l with nots := 0, current := some (Expr.not^[l.nots] e) }
  | some _ => none

def closeAnd (l : Level) : Option Level :=
  l.current.map fun e => { l with conjuncts := l.conjuncts ++ [e], current := none }

def closeOr (l : Level) : Option Level :=
  l.current.map fun e => ⟨l.alternatives ++ [l.conjuncts ++ [e]], [], 0, none⟩

def finish (l : Level) : Option (List (List Expr)) :=
  l.current.map fun e => l.alternatives ++ [l.conjuncts ++ [e]]

end Level

def shiftTop : Level × List Frame → Item → Option (Level × List Frame)
  | (l, []), .atom e => (l.operand e).map (·, [])
  | (l, []), .and => l.closeAnd.map (·, [])
  | (l, []), .or => l.closeOr.map (·, [])
  | (l, []), .not => if l.current.isNone then some ({ l with nots := l.nots + 1 }, []) else none
  | (l, []), .lparen => if l.current.isNone then some (l, [Frame.empty]) else none
  | (_, []), .rparen => none
  | (l, [f]), .rparen => do
    let e ← f.finish
    let l ← l.operand e
    return (l, [])
  | (l, fs), i => (shift fs i).map (l, ·)

def topLevel (is : List Item) : Option (List (List Expr)) := do
  match ← is.foldlM shiftTop (Level.empty, []) with
  | (l, []) => l.finish
  | _ => none

def andAll (es : List Expr) : Option Expr := es.foldl (fun acc e => some (Frame.joinAnd acc e)) none

def orAll (as : List (List Expr)) : Option Expr :=
  as.foldl (fun acc es => (andAll es).elim acc fun e => some (Frame.joinOr acc e)) none

section Folding

def Level.toFrame (l : Level) : Frame :=
  ⟨orAll l.alternatives, andAll l.conjuncts, l.nots, l.current⟩

@[simp] theorem andAll_nil : andAll [] = none := rfl

theorem andAll_concat (es : List Expr) (e : Expr) :
    andAll (es ++ [e]) = some (Frame.joinAnd (andAll es) e) := by
  simp [andAll]

theorem orAll_concat (as : List (List Expr)) (es : List Expr) (e : Expr) :
    orAll (as ++ [es ++ [e]]) = some (Frame.joinOr (orAll as) (Frame.joinAnd (andAll es) e)) := by
  simp only [orAll, List.foldl_append, List.foldl_cons, List.foldl_nil, andAll_concat,
    Option.elim_some]

theorem shift_toFrame (l : Level) (fs : List Frame) (i : Item) :
    shift (fs ++ [l.toFrame]) i =
      (shiftTop (l, fs) i).map fun s => s.2 ++ [s.1.toFrame] := by
  obtain ⟨as, es, n, cur⟩ := l
  cases fs with
  | nil =>
    cases i <;> cases cur <;>
      simp [shift, shiftTop, Level.toFrame, Frame.operand, Level.operand, Frame.closeAnd,
        Level.closeAnd, Frame.closeOr, Level.closeOr, andAll_concat, orAll_concat]
  | cons f fs =>
    cases fs with
    | nil =>
      cases i with
      | rparen =>
        cases hf : f.finish <;> cases cur <;>
          simp [shift, shiftTop, Level.toFrame, Frame.operand, Level.operand, hf]
      | atom e => cases h : f.operand e <;> simp [shift, shiftTop, h]
      | and => cases h : f.closeAnd <;> simp [shift, shiftTop, h]
      | or => cases h : f.closeOr <;> simp [shift, shiftTop, h]
      | not | lparen => cases h : f.current <;> simp [shift, shiftTop, h]
    | cons g fs =>
      cases i with
      | rparen =>
        cases hf : f.finish with
        | none => simp [shift, shiftTop, hf]
        | some e => cases hg : g.operand e <;> simp [shift, shiftTop, hf, hg]
      | atom e => cases h : f.operand e <;> simp [shift, shiftTop, h]
      | and => cases h : f.closeAnd <;> simp [shift, shiftTop, h]
      | or => cases h : f.closeOr <;> simp [shift, shiftTop, h]
      | not | lparen => cases h : f.current <;> simp [shift, shiftTop, h]

theorem foldlM_shift_toFrame (is : List Item) (l : Level) (fs : List Frame) :
    is.foldlM shift (fs ++ [l.toFrame]) =
      (is.foldlM shiftTop (l, fs)).map fun s => s.2 ++ [s.1.toFrame] := by
  induction is generalizing l fs with
  | nil => rfl
  | cons i is ih =>
    rw [List.foldlM_cons, List.foldlM_cons, shift_toFrame]
    cases shiftTop (l, fs) i with
    | none => rfl
    | some s => exact ih s.1 s.2

theorem finish_toFrame (l : Level) : l.toFrame.finish = l.finish.bind orAll := by
  obtain ⟨as, es, n, cur⟩ := l
  cases cur with
  | none => rfl
  | some e => exact (orAll_concat as es e).symm

theorem expression_eq (is : List Item) : expression is = (topLevel is).bind orAll := by
  have start : [Frame.empty] = [] ++ [Level.empty.toFrame] := rfl
  rw [expression, start, foldlM_shift_toFrame, topLevel]
  cases is.foldlM shiftTop (Level.empty, []) with
  | none => rfl
  | some s =>
    obtain ⟨l, fs⟩ := s
    cases fs with
    | nil => exact finish_toFrame l
    | cons f fs => cases fs <;> rfl

end Folding

variable {is : List Item}

section Connected

/-- A NOT waits only for an operand that is still to come, and no alternative is empty. -/
structure Level.Settled (l : Level) : Prop where
  nots : l.current.isSome → l.nots = 0
  runs : ∀ run ∈ l.alternatives, run ≠ []

theorem settled_empty : Level.empty.Settled :=
  ⟨by simp [Level.empty], by simp [Level.empty]⟩

theorem settled_operand {l m : Level} {e : Expr} (hl : l.Settled) (h : l.operand e = some m) :
    m.Settled := by
  unfold Level.operand at h
  split at h
  · cases h
    exact ⟨fun _ => rfl, hl.runs⟩
  · cases h

theorem settled_shiftTop {s t : Level × List Frame} {i : Item} (h : s.1.Settled)
    (step : shiftTop s i = some t) : t.1.Settled := by
  unfold shiftTop at step
  split at step
  · obtain ⟨m, hm, rfl⟩ := Option.map_eq_some_iff.mp step
    exact settled_operand h hm
  · obtain ⟨m, hm, rfl⟩ := Option.map_eq_some_iff.mp step
    obtain ⟨e, -, rfl⟩ := Option.map_eq_some_iff.mp hm
    exact ⟨by simp, h.runs⟩
  · obtain ⟨m, hm, rfl⟩ := Option.map_eq_some_iff.mp step
    obtain ⟨e, -, rfl⟩ := Option.map_eq_some_iff.mp hm
    exact ⟨by simp, List.forall_mem_append.mpr ⟨h.runs, by simp⟩⟩
  · split_ifs at step with waiting
    cases step
    refine ⟨fun present => ?_, h.runs⟩
    simp [Option.isNone_iff_eq_none.mp waiting] at present
  · split_ifs at step
    cases step
    exact h
  · cases step
  · obtain ⟨e, -, step⟩ := Option.bind_eq_some_iff.mp step
    obtain ⟨m, hm, step⟩ := Option.bind_eq_some_iff.mp step
    cases step
    exact settled_operand h hm
  · obtain ⟨fs, -, rfl⟩ := Option.map_eq_some_iff.mp step
    exact h

theorem settled_foldlM {s t : Level × List Frame} (h : s.1.Settled)
    (run : is.foldlM shiftTop s = some t) : t.1.Settled := by
  induction is generalizing s with
  | nil =>
    cases run
    exact h
  | cons i is ih =>
    rw [List.foldlM_cons] at run
    obtain ⟨u, step, run⟩ := Option.bind_eq_some_iff.mp run
    exact ih (settled_shiftTop h step) run

/-- The level that a reading has reached if it began behind these alternatives and in
the middle of this run. -/
def Level.behind (as : List (List Expr)) (es : List Expr) (l : Level) : Level :=
  match l.alternatives with
  | [] => ⟨as, es ++ l.conjuncts, l.nots, l.current⟩
  | b :: bs => ⟨as ++ (es ++ b) :: bs, l.conjuncts, l.nots, l.current⟩

variable (as : List (List Expr)) (es : List Expr)

theorem shiftTop_behind (l : Level) (fs : List Frame) (i : Item) :
    shiftTop (l.behind as es, fs) i =
      (shiftTop (l, fs) i).map fun s => (s.1.behind as es, s.2) := by
  obtain ⟨bs, ds, n, cur⟩ := l
  cases fs with
  | nil =>
    cases bs <;> cases i <;> cases cur <;>
      simp [shiftTop, Level.behind, Level.operand, Level.closeAnd, Level.closeOr]
  | cons f fs =>
    cases fs with
    | nil =>
      cases i with
      | rparen =>
        cases hf : f.finish <;> cases bs <;> cases cur <;>
          simp [shiftTop, Level.behind, Level.operand, hf]
      | _ => simp [shiftTop, Option.map_map, Function.comp_def]
    | cons g fs => simp [shiftTop, Option.map_map, Function.comp_def]

theorem foldlM_behind (is : List Item) (l : Level) (fs : List Frame) :
    is.foldlM shiftTop (l.behind as es, fs) =
      (is.foldlM shiftTop (l, fs)).map fun s => (s.1.behind as es, s.2) := by
  induction is generalizing l fs with
  | nil => rfl
  | cons i is ih =>
    rw [List.foldlM_cons, List.foldlM_cons, shiftTop_behind]
    cases shiftTop (l, fs) i with
    | none => rfl
    | some s => exact ih s.1 s.2

variable {bs : List (List Expr)}

theorem finish_behind {l : Level} (h : l.finish = some bs) :
    (l.behind as es).finish = some (glue (as ++ [es]) bs) := by
  obtain ⟨cs, ds, n, cur⟩ := l
  obtain ⟨e, he, rfl⟩ := Option.map_eq_some_iff.mp h
  cases he
  cases cs with
  | nil => simp [Level.behind, Level.finish, glue_concat]
  | cons c cs => simp [Level.behind, Level.finish, glue_concat]

theorem topLevel_eq_some :
    topLevel is = some bs ↔
      ∃ l, is.foldlM shiftTop (Level.empty, []) = some (l, []) ∧ l.finish = some bs := by
  unfold topLevel
  cases is.foldlM shiftTop (Level.empty, []) with
  | none => simp
  | some s =>
    obtain ⟨l, fs⟩ := s
    cases fs with
    | nil => simp
    | cons f fs => simp

theorem topLevel_and {js : List Item} {as : List (List Expr)} (hi : topLevel is = some as)
    (hj : topLevel js = some bs) : topLevel (is ++ .and :: js) = some (glue as bs) := by
  obtain ⟨l, run, finish⟩ := topLevel_eq_some.mp hi
  obtain ⟨m, run', finish'⟩ := topLevel_eq_some.mp hj
  obtain ⟨e, he, rfl⟩ := Option.map_eq_some_iff.mp finish
  have settled : l.nots = 0 :=
    (settled_foldlM (s := (Level.empty, [])) settled_empty run).nots (by simp [he])
  have connected : shiftTop (l, []) .and =
      some (Level.empty.behind l.alternatives (l.conjuncts ++ [e]), []) := by
    simp [shiftTop, Level.closeAnd, he, Level.behind, Level.empty, settled]
  refine topLevel_eq_some.mpr ⟨m.behind l.alternatives (l.conjuncts ++ [e]), ?_, ?_⟩
  · simp only [List.foldlM_append, run, List.foldlM_cons, Option.bind_eq_bind, Option.bind_some,
      connected, foldlM_behind, run', Option.map_some]
  · exact finish_behind _ _ finish'

end Connected

section Operands

theorem orAll_ne_none {as : List (List Expr)} (hne : as ≠ []) (h : ∀ run ∈ as, run ≠ []) :
    orAll as ≠ none := by
  obtain ⟨front, last, rfl⟩ := List.eq_nil_or_concat as |>.resolve_left hne
  rw [List.concat_eq_append] at h ⊢
  have filled : last ≠ [] := h last (by simp)
  obtain ⟨es, e, rfl⟩ := List.eq_nil_or_concat last |>.resolve_left filled
  rw [List.concat_eq_append, orAll_concat]
  exact Option.some_ne_none _

theorem andAll_ne_none {es : List Expr} (hne : es ≠ []) : andAll es ≠ none := by
  obtain ⟨front, last, rfl⟩ := List.eq_nil_or_concat es |>.resolve_left hne
  rw [List.concat_eq_append, andAll_concat]
  exact Option.some_ne_none _

theorem topLevel_of_pushes {e : Expr} (h : Pushes is e) : topLevel is = some [[e]] := by
  have pushed := h Frame.empty [] rfl
  have start : [Frame.empty] = [] ++ [Level.empty.toFrame] := rfl
  rw [start, foldlM_shift_toFrame] at pushed
  obtain ⟨⟨l, fs⟩, run, same⟩ := Option.map_eq_some_iff.mp pushed
  have settled := settled_foldlM (s := (Level.empty, [])) settled_empty run
  cases fs with
  | cons f fs => simp at same
  | nil =>
    simp only [List.nil_append, List.cons.injEq, and_true] at same
    obtain ⟨as, es, n, cur⟩ := l
    simp only [Level.toFrame, Frame.empty, Frame.mk.injEq] at same
    obtain ⟨alternatives, conjuncts, -, current⟩ := same
    have noAlternatives : as = [] := by
      by_contra some
      exact orAll_ne_none some settled.runs alternatives
    have noConjuncts : es = [] := by
      by_contra some
      exact andAll_ne_none some conjuncts
    refine topLevel_eq_some.mpr ⟨_, run, ?_⟩
    simp [Level.finish, current, noAlternatives, noConjuncts]

end Operands

def sqlDialect : Dialect Expr where
  read s := if closed s then (items s).bind topLevel else none
  read_ne_nil {s as} h := by
    split_ifs at h
    obtain ⟨is, -, h⟩ := Option.bind_eq_some_iff.mp h
    obtain ⟨l, -, h⟩ := topLevel_eq_some.mp h
    obtain ⟨e, -, rfl⟩ := Option.map_eq_some_iff.mp h
    simp
  read_and {s t as bs} hs ht := by
    split_ifs at hs ht with cs ct
    obtain ⟨is, his, hs⟩ := Option.bind_eq_some_iff.mp hs
    obtain ⟨js, hjs, ht⟩ := Option.bind_eq_some_iff.mp ht
    rw [if_pos ((closed_append_and cs t).trans ct), items_append_and his cs, hjs]
    exact topLevel_and hs ht

section Truth

variable {D : Type} {M : Comparison D} {env : Env D} {v : Expr → Truth}

theorem eval_andAll {es : List Expr} (hne : es ≠ [])
    (h : ∀ e ∈ es, e.eval M env = some (v e)) :
    ∃ x, andAll es = some x ∧ x.eval M env = some (Truth.all (es.map v)) := by
  induction es using List.reverseRecOn with
  | nil => exact absurd rfl hne
  | append_singleton es e ih =>
    rw [List.forall_mem_append, List.forall_mem_singleton] at h
    have last : Truth.all ([e].map v) = v e := Truth.and_true (v e)
    rw [andAll_concat]
    cases es with
    | nil => exact ⟨e, rfl, h.2.trans (congrArg some last.symm)⟩
    | cons d es =>
      obtain ⟨x, hx, hxv⟩ := ih (List.cons_ne_nil d es) h.1
      refine ⟨.and x e, by rw [hx]; rfl, ?_⟩
      rw [List.map_append, Truth.all_append, last, Expr.eval, hxv, h.2]
      rfl

variable {as : List (List Expr)}

theorem eval_orAll (hne : as ≠ []) (runs : ∀ run ∈ as, run ≠ [])
    (h : ∀ run ∈ as, ∀ e ∈ run, e.eval M env = some (v e)) :
    ∃ x, orAll as = some x ∧ x.eval M env = some (bodyTruth v as) := by
  induction as using List.reverseRecOn with
  | nil => exact absurd rfl hne
  | append_singleton as run ih =>
    rw [List.forall_mem_append, List.forall_mem_singleton] at h runs
    obtain ⟨y, hy, hyv⟩ := eval_andAll runs.2 h.2
    have last : orAll (as ++ [run]) = some (Frame.joinOr (orAll as) y) := by
      simp [orAll, hy]
    have truth : Truth.any [Truth.all (run.map v)] = Truth.all (run.map v) := Truth.or_false _
    rw [last]
    cases as with
    | nil => exact ⟨y, rfl, hyv.trans (congrArg some truth.symm)⟩
    | cons b as =>
      obtain ⟨x, hx, hxv⟩ := ih (List.cons_ne_nil b as) runs.1 h.1
      refine ⟨.or x y, by rw [hx]; rfl, ?_⟩
      rw [bodyTruth, List.map_append, Truth.any_append, List.map_singleton, truth, Expr.eval, hxv,
        hyv]
      rfl

theorem topLevel_runs (h : topLevel is = some as) : as ≠ [] ∧ ∀ run ∈ as, run ≠ [] := by
  obtain ⟨l, run, finish⟩ := topLevel_eq_some.mp h
  obtain ⟨e, -, rfl⟩ := Option.map_eq_some_iff.mp finish
  have settled := settled_foldlM (s := (Level.empty, [])) settled_empty run
  exact ⟨by simp, List.forall_mem_append.mpr ⟨settled.runs, by simp⟩⟩

theorem parse_truth {text : GoString} (read : sqlDialect.read text = some as)
    (h : ∀ run ∈ as, ∀ e ∈ run, e.eval M env = some (v e)) :
    ((parse text).bind fun e => e.eval M env) = sqlDialect.truth v text := by
  have complete := read
  simp only [sqlDialect] at read
  split_ifs at read
  obtain ⟨is, his, top⟩ := Option.bind_eq_some_iff.mp read
  obtain ⟨hne, runs⟩ := topLevel_runs top
  obtain ⟨x, hx, hxv⟩ := eval_orAll hne runs h
  have written : text.isEmpty = false := by
    cases text with
    | nil =>
      cases his
      cases top
    | cons b text => rfl
  rw [parse_eq, his, Option.bind_some, expression_eq, top, Option.bind_some, hx, Option.bind_some,
    hxv, Dialect.truth, written, complete]
  rfl

end Truth

end DxCommonGo.SqlTopLevel
