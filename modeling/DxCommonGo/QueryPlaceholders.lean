import DxCommonGo.QueryBuilder

/-! Placeholder discipline of the statement builders. `Emits` says that a fragment appends some
values and writes exactly the next placeholders; fragments compose. -/

namespace DxCommonGo.QueryPlaceholders
open GoStrings GoMaps QueryModel QueryBuilder

def placeholders (t : SqlText) : List Int :=
  t.filterMap fun
    | .text _ => none
    | .placeholder n => some n

def indices (first : Int) (count : Nat) : List Int := (List.range count).map fun i : Nat => first + i

theorem indices_add (first : Int) (m n : Nat) :
    indices first (m + n) = indices first m ++ indices (first + m) n := by
  simp only [indices, List.range_add, List.map_append, List.map_map]
  congr 1
  apply List.map_congr_left
  intro i _
  simp only [Function.comp_apply]
  push_cast
  ring

structure Emits (b : Binder) (t : SqlText) (vs : List Value) (b' : Binder) : Prop where
  args : b'.args = b.args ++ vs
  idx : b'.idx = b.idx + vs.length
  slots : placeholders t = indices b.idx vs.length

variable {b b' : Binder}

namespace Emits

variable {t : SqlText} {vs : List Value}

theorem plain (h : placeholders t = []) (b : Binder) : Emits b t [] b :=
  ⟨by simp, by simp, by simpa [indices] using h⟩

theorem bind (b : Binder) (v : Value) : Emits b [(b.bind v).1] [v] (b.bind v).2 :=
  ⟨rfl, rfl, by simp [placeholders, indices, Binder.bind]⟩

theorem append {b'' : Binder} {u : SqlText} {ws : List Value} (h : Emits b t vs b')
    (k : Emits b' u ws b'') : Emits b (t ++ u) (vs ++ ws) b'' := by
  refine ⟨?_, ?_, ?_⟩
  · rw [k.args, h.args, List.append_assoc]
  · rw [k.idx, h.idx, List.length_append]
    push_cast
    ring
  · rw [List.length_append, indices_add, ← h.idx, ← h.slots, ← k.slots]
    exact List.filterMap_append

theorem after (h : Emits b t vs b') {u : SqlText} (hu : placeholders u = []) :
    Emits b (t ++ u) vs b' := by
  simpa using h.append (plain hu b')

theorem before (h : Emits b t vs b') {u : SqlText} (hu : placeholders u = []) :
    Emits b (u ++ t) vs b' := by
  simpa using (plain hu b).append h

end Emits

@[simp] theorem placeholders_nil : placeholders [] = [] := rfl
@[simp] theorem placeholders_text (s : GoString) (t : SqlText) :
    placeholders (.text s :: t) = placeholders t := rfl
@[simp] theorem placeholders_lit (s : String) (t : SqlText) :
    placeholders (lit s :: t) = placeholders t := rfl
@[simp] theorem placeholders_append (t u : SqlText) :
    placeholders (t ++ u) = placeholders t ++ placeholders u := List.filterMap_append

@[simp] theorem placeholders_listClause (keyword : String) (names : List GoString) :
    placeholders (listClause keyword names) = [] := by
  unfold listClause
  split <;> simp

theorem placeholders_join (sep : SqlText) (hsep : placeholders sep = []) (ts : List SqlText) :
    placeholders (join sep ts) = placeholders ts.flatten := by
  induction ts with
  | nil => rfl
  | cons t rest ih =>
    cases rest with
    | nil => simp [join]
    | cons u rest =>
      simp only [join_cons_cons, placeholders_append, hsep, ih, List.append_nil,
        List.flatten_cons]

theorem placeholders_flatMap {α : Type} {xs : List α} {f : α → SqlText}
    (h : ∀ x ∈ xs, placeholders (f x) = []) : placeholders (xs.flatMap f) = [] := by
  induction xs with
  | nil => rfl
  | cons x xs ih =>
    rw [List.flatMap_cons, placeholders_append, h x List.mem_cons_self,
      ih fun y hy => h y (List.mem_cons_of_mem _ hy), List.nil_append]

theorem Emits.join {ts : List SqlText} {vs : List Value} (sep : SqlText)
    (hsep : placeholders sep = []) (h : Emits b ts.flatten vs b') :
    Emits b (GoStrings.join sep ts) vs b' :=
  ⟨h.args, h.idx, by rw [placeholders_join sep hsep, h.slots]⟩

mutual

def conditionValues : Condition → List Value
  | ⟨_, op, value, sub⟩ =>
    match op with
    | .isNull | .notNull => []
    | .between =>
      match betweenBounds value with
      | some (low, high) => [low, high]
      | none => []
    | .and | .or => conditionsValues sub
    | .eq | .notEq | .gt | .gte | .lt | .lte | .like | .ilike | .in | .notIn => [value]

def conditionsValues : List Condition → List Value
  | [] => []
  | c :: cs => conditionValues c ++ conditionsValues cs

end

private theorem conditionsSQL_emits_of {cs : List Condition}
    (h : ∀ c ∈ cs, ∀ b, Emits b (conditionSQL c b).1 (conditionValues c) (conditionSQL c b).2)
    (b : Binder) :
    Emits b (conditionsSQL cs b).1.flatten (conditionsValues cs) (conditionsSQL cs b).2 := by
  induction cs generalizing b with
  | nil => exact Emits.plain rfl b
  | cons c cs ih =>
    have first := h c List.mem_cons_self b
    have rest := ih (fun d hd => h d (List.mem_cons_of_mem _ hd)) (conditionSQL c b).2
    exact first.append rest

private theorem group_emits {cs : List Condition} {b : Binder} (sep : String)
    (h : Emits b (conditionsSQL cs b).1.flatten (conditionsValues cs) (conditionsSQL cs b).2) :
    Emits b (lit "(" :: join [lit sep] (conditionsSQL cs b).1 ++ [lit ")"])
      (conditionsValues cs) (conditionsSQL cs b).2 :=
  ((h.join [lit sep] rfl).after (u := [lit ")"]) rfl).before (u := [lit "("]) rfl

private theorem wrapped_emits (before after : SqlText) (hb : placeholders before = [])
    (ha : placeholders after = []) (b : Binder) (v : Value) :
    Emits b (before ++ ([(b.bind v).1] ++ after)) [v] (b.bind v).2 :=
  ((Emits.bind b v).after ha).before hb

theorem conditionSQL_emits (c : Condition) (b : Binder) :
    Emits b (conditionSQL c b).1 (conditionValues c) (conditionSQL c b).2 := by
  induction c using Condition.induct generalizing b with
  | step column op value sub ih =>
    have children := conditionsSQL_emits_of ih b
    cases op with
    | isNull | notNull => exact Emits.plain rfl b
    | «in» => exact wrapped_emits [.text column, lit " = ANY("] [lit ")"] rfl rfl b value
    | notIn => exact wrapped_emits [.text column, lit " <> ALL("] [lit ")"] rfl rfl b value
    | between =>
      simp only [conditionSQL, conditionValues]
      cases betweenBounds value with
      | none => exact Emits.plain rfl b
      | some bounds =>
        obtain ⟨low, high⟩ := bounds
        have first := wrapped_emits [.text column, lit " BETWEEN "] [lit " AND "] rfl rfl b low
        exact first.append (Emits.bind (b.bind low).2 high)
    | and => exact group_emits " AND " children
    | or => exact group_emits " OR " children
    | eq | notEq | gt | gte | lt | lte | like | ilike =>
      exact wrapped_emits [.text column, lit " ", .text _, lit " "] [] rfl rfl b value

theorem conditionsSQL_emits (cs : List Condition) (b : Binder) :
    Emits b (conditionsSQL cs b).1.flatten (conditionsValues cs) (conditionsSQL cs b).2 :=
  conditionsSQL_emits_of (fun c _ => conditionSQL_emits c) b

theorem conditionClause_emits (keyword : String) (cs : List Condition) (b : Binder) :
    Emits b (conditionClause keyword cs b).1 (conditionsValues cs)
      (conditionClause keyword cs b).2 := by
  cases cs with
  | nil => exact Emits.plain rfl b
  | cons c cs =>
    have body := (conditionsSQL_emits (c :: cs) b).join [lit " AND "] rfl
    exact body.before (u := [lit keyword]) rfl

def countValues (n : Int) : List Value := if 0 < n then [.int n] else []

theorem countClause_emits (keyword : String) (n : Int) (b : Binder) :
    Emits b (countClause keyword n b).1 (countValues n) (countClause keyword n b).2 := by
  unfold countClause countValues
  split_ifs
  · exact wrapped_emits [lit keyword] [] rfl rfl b (.int n)
  · exact Emits.plain rfl b

theorem setParts_emits (es : List (GoString × Value)) (b : Binder) :
    Emits b (setParts es b).1.flatten (es.map Prod.snd) (setParts es b).2 := by
  induction es generalizing b with
  | nil => exact Emits.plain rfl b
  | cons e es ih =>
    have first := wrapped_emits [.text e.1, lit " = "] [] rfl rfl b e.2
    exact first.append (ih (b.bind e.2).2)

/-- A finished statement: its placeholders are `$1` to `$n` in order, and the
arguments are the expected values. -/
def InOrder (statement : SqlText × List Value) (expected : List Value) : Prop :=
  placeholders statement.1 = indices 1 statement.2.length ∧ statement.2 = expected

theorem Emits.inOrder {t : SqlText} {vs : List Value} (h : Emits Binder.first t vs b) :
    InOrder (t, b.args) vs := by
  have args : b.args = vs := h.args
  refine ⟨?_, args⟩
  rw [args]
  exact h.slots

theorem buildSelect_inOrder (q : SelectQuery) :
    InOrder (buildSelect q) (conditionsValues q.conditions ++ conditionsValues q.having ++
      countValues q.limit ++ countValues q.offset) := by
  have joins : placeholders (q.joins.flatMap fun j =>
      [lit " ", .text j.type, lit " JOIN ", .text j.table, lit " ON ", .text j.on]) = [] :=
    placeholders_flatMap fun _ _ => rfl
  have wh := (conditionClause_emits " WHERE " q.conditions Binder.first).before
    (u := [.text (if q.distinct then str "SELECT DISTINCT" else str "SELECT"), lit " ",
        .text (if q.columns.isEmpty then str "*" else GoStrings.join (str ", ") q.columns),
        lit " FROM ", .text q.table] ++
      q.joins.flatMap fun j =>
        [lit " ", .text j.type, lit " JOIN ", .text j.table, lit " ON ", .text j.on])
    (by simpa using joins)
  have grouped := wh.after (placeholders_listClause " GROUP BY " q.groupBy)
  have having := grouped.append (conditionClause_emits " HAVING " q.having _)
  have ordered := having.after (placeholders_listClause " ORDER BY " (q.orderBy.map orderTerm))
  have limit := ordered.append (countClause_emits " LIMIT " q.limit _)
  have offset := limit.append (countClause_emits " OFFSET " q.offset _)
  have lock : placeholders (if q.forUpdate then [lit " FOR UPDATE"] else []) = [] := by
    split <;> rfl
  exact (offset.after lock).inOrder

theorem buildDelete_inOrder (q : DeleteQuery) :
    InOrder (buildDelete q) (conditionsValues q.conditions) := by
  have wh := conditionClause_emits " WHERE " q.conditions Binder.first
  unfold buildDelete
  split_ifs
  · exact (wh.before (u := [lit "UPDATE ", .text q.table, lit " SET status = 'DELETED'"])
      rfl).inOrder
  · exact (wh.before (u := [lit "DELETE FROM ", .text q.table]) rfl).inOrder

theorem buildUpdate_inOrder (ord : RangeOrder) (q : UpdateQuery) :
    InOrder (buildUpdate ord q)
      ((range ord 0 q.set).map Prod.snd ++ conditionsValues q.conditions) := by
  have increments : placeholders (q.increment.map incrementPart).flatten = [] := by
    rw [← List.flatMap_def]
    exact placeholders_flatMap fun _ _ => rfl
  have parts := (setParts_emits (range ord 0 q.set) Binder.first).after increments
  rw [← List.flatten_append] at parts
  have set := (parts.join [lit ", "] rfl).before
    (u := [lit "UPDATE ", .text q.table, lit " SET "]) rfl
  have wh := set.append (conditionClause_emits " WHERE " q.conditions _)
  exact (wh.after (placeholders_listClause " RETURNING " q.returning)).inOrder

end DxCommonGo.QueryPlaceholders
