import DxCommonGo.QueryPlaceholders
import DxCommonGo.QueryMeaning
import DxCommonGo.QueryReading

/-! `BuildWhere` renders the conjunction of its condition trees. Each fragment reads as one operand
with the truth value of its tree, and the whole text is one AND of operands. -/

namespace DxCommonGo.QueryWhere
open GoStrings QueryModel QueryBuilder QueryPlaceholders QueryMeaning QueryReading
open SqlSemantics SqlSyntax SqlReading

variable {D : Type}

def Binds (P : Database D) (env : Env D) (first : Int) (vs : List Value) : Prop :=
  ∀ (k : Nat) v, vs[k]? = some v → env.param (first + k) = some (P.bound v)

variable {P : Database D} {env : Env D} {first : Int} {vs : List Value} {cs : List Condition}

theorem Binds.left {ws : List Value} (h : Binds P env first (vs ++ ws)) : Binds P env first vs := by
  intro k v hv
  exact h k v (by rw [List.getElem?_append_left (List.getElem?_eq_some_iff.mp hv).1, hv])

theorem Binds.right {ws : List Value} (h : Binds P env first (vs ++ ws)) :
    Binds P env (first + vs.length) ws := by
  intro k v hv
  have shifted := h (vs.length + k) v (by
    rw [List.getElem?_append_right (by omega)]
    simpa using hv)
  rw [← shifted]
  congr 1
  push_cast
  ring

theorem Binds.head {v : Value} (h : Binds P env first (v :: vs)) :
    env.param first = some (P.bound v) := by
  simpa using h 0 v rfl

def Means (P : Database D) (t : SqlText) (first : Int) (vs : List Value)
    (meaning : Row D → Truth) (p : List Item × Expr) : Prop :=
  ReadsAs (render t) p.1 ∧ Pushes p.1 p.2 ∧
    ∀ env : Env D, Binds P env first vs → p.2.eval P.toComparison env = some (meaning env.row)

theorem quantified_ne (P : Database D) (x : Option D) (v : Value) :
    quantified P.toComparison Truth.all .ne x (P.array v) = (memberTruth P x v).not := by
  unfold quantified memberTruth
  cases P.array v with
  | none => rfl
  | some es =>
    have negated : es.map (P.compare .ne x) = (es.map (P.compare .eq x)).map Truth.not := by
      rw [List.map_map]
      exact List.map_congr_left fun y _ => P.compare_ne x y
    simp only [negated, Truth.not_any]

theorem Means.leaf {t : SqlText} {meaning : Row D → Truth} {e : Expr}
    (reads : ReadsAs (render t) [.atom e]) (truth : ∀ env : Env D, Binds P env first vs →
      e.eval P.toComparison env = some (meaning env.row)) :
    Means P t first vs meaning ([.atom e], e) :=
  ⟨reads, Pushes.atom e, truth⟩

theorem means_comparison (P : Database D) {op : Operator} {c : CmpOp}
    (h : comparison op = some c) {column : GoString} (hc : plainIdentifier column = true)
    (value : Value) (n : Int) :
    ∃ p, Means P [.text column, lit " ", .text op.text, lit " ", .placeholder n] n [value]
      (fun row => P.compare c (row column) (P.scalar value)) p := by
  refine ⟨_, Means.leaf (readsAs_comparison h hc n) ?_⟩
  intro env hb
  simp [Expr.eval, Operand.eval, hb.head, Database.bound]

structure PartsMean (P : Database D) (ts : List SqlText) (first : Int) (vs : List Value)
    (meanings : Row D → List Truth) (ps : List (List Item × Expr)) : Prop where
  reads : List.Forall₂ ReadsAs (ts.map render) (ps.map Prod.fst)
  pushes : ∀ p ∈ ps, Pushes p.1 p.2
  truths : ∀ env : Env D, Binds P env first vs →
    ps.map (fun p => p.2.eval P.toComparison env) = (meanings env.row).map some

theorem eval_foldl {M : Comparison D} (connect : Expr → Expr → Expr)
    (combine : Truth → Truth → Truth)
    (hconnect : ∀ a b t u, a.eval M env = some t → b.eval M env = some u →
      (connect a b).eval M env = some (combine t u)) {e : Expr} {t : Truth}
    (he : e.eval M env = some t) {ps : List (List Item × Expr)} {ts : List Truth}
    (hps : ps.map (fun p => p.2.eval M env) = ts.map some) :
    (ps.foldl (fun a q => connect a q.2) e).eval M env = some (ts.foldl combine t) := by
  induction ps generalizing e t ts with
  | nil =>
    cases ts with
    | nil => exact he
    | cons u ts => cases hps
  | cons p ps ih =>
    cases ts with
    | nil => cases hps
    | cons u ts =>
      simp only [List.map_cons, List.cons.injEq] at hps
      exact ih (hconnect e p.2 t u he hps.1) hps.2

namespace PartsMean

variable {P : Database D} {ts : List SqlText} {first : Int} {vs : List Value}
  {meanings : Row D → List Truth} {p : List Item × Expr} {ps : List (List Item × Expr)}

theorem connected (h : PartsMean P ts first vs meanings (p :: ps)) (env : Env D)
    (hb : Binds P env first vs) (connect : Expr → Expr → Expr) (combine : Truth → Truth → Truth)
    (hconnect : ∀ a b t u, a.eval P.toComparison env = some t → b.eval P.toComparison env = some u →
      (connect a b).eval P.toComparison env = some (combine t u))
    {whole : List Truth → Truth} (hfold : ∀ t us, us.foldl combine t = whole (t :: us)) :
    (ps.foldl (fun a q => connect a q.2) p.2).eval P.toComparison env =
      some (whole (meanings env.row)) := by
  have truths := h.truths env hb
  cases hm : meanings env.row with
  | nil => simp [hm] at truths
  | cons t us =>
    simp only [hm, List.map_cons, List.cons.injEq] at truths
    rw [eval_foldl connect combine hconnect truths.1 truths.2, hfold]

theorem conjunction (h : PartsMean P ts first vs meanings (p :: ps)) (env : Env D)
    (hb : Binds P env first vs) :
    (ps.foldl (fun a q => Expr.and a q.2) p.2).eval P.toComparison env =
      some (Truth.all (meanings env.row)) := by
  apply h.connected env hb Expr.and Truth.and
  · intro a b t u ha hb
    simp [Expr.eval, ha, hb]
  · exact fun t us => Truth.foldl_and t us

theorem disjunction (h : PartsMean P ts first vs meanings (p :: ps)) (env : Env D)
    (hb : Binds P env first vs) :
    (ps.foldl (fun a q => Expr.or a q.2) p.2).eval P.toComparison env =
      some (Truth.any (meanings env.row)) := by
  apply h.connected env hb Expr.or Truth.or
  · intro a b t u ha hb
    simp [Expr.eval, ha, hb]
  · exact fun t us => Truth.foldl_or t us

theorem readsAs_group (h : PartsMean P ts first vs meanings ps) {sep : String} {i : Item}
    (hsep : Connective (str sep) i) :
    ReadsAs (render (lit "(" :: join [lit sep] ts ++ [lit ")"]))
      (.lparen :: join [i] (ps.map Prod.fst) ++ [.rparen]) := by
  have inner := (ReadsAs.join hsep h.reads).parenthesised
  have text : render (lit "(" :: join [lit sep] ts ++ [lit ")"]) =
      str "(" ++ join (str sep) (ts.map render) ++ str ")" := by
    simp [render_append, render_join]
  rwa [text]

theorem and_group (h : PartsMean P ts first vs meanings (p :: ps)) :
    Means P (lit "(" :: join [lit " AND "] ts ++ [lit ")"]) first vs
      (fun row => Truth.all (meanings row))
      (.lparen :: join [.and] ((p :: ps).map Prod.fst) ++ [.rparen],
        ps.foldl (fun a q => .and a q.2) p.2) :=
  ⟨h.readsAs_group connective_and,
    Pushes.group fun fs => foldlM_and h.pushes Frame.empty fs rfl rfl, h.conjunction⟩

theorem or_group (h : PartsMean P ts first vs meanings (p :: ps)) :
    Means P (lit "(" :: join [lit " OR "] ts ++ [lit ")"]) first vs
      (fun row => Truth.any (meanings row))
      (.lparen :: join [.or] ((p :: ps).map Prod.fst) ++ [.rparen],
        ps.foldl (fun a q => .or a q.2) p.2) :=
  ⟨h.readsAs_group connective_or,
    Pushes.group fun fs => foldlM_or h.pushes Frame.empty fs rfl rfl rfl, h.disjunction⟩

end PartsMean

section Legible

mutual

/-- The columns are plain identifiers and the groups have a child. A BETWEEN without its two bounds
is written as `1=0`, and is as false as `zero` says. -/
def Legible (zero : Prop) : Condition → Prop
  | ⟨column, op, value, sub⟩ =>
    match op with
    | .and | .or => sub ≠ [] ∧ AllLegible zero sub
    | .between => if (betweenBounds value).isSome then plainIdentifier column = true else zero
    | _ => plainIdentifier column = true

def AllLegible (zero : Prop) : List Condition → Prop
  | [] => True
  | c :: cs => Legible zero c ∧ AllLegible zero cs

end

theorem allLegible_iff {zero : Prop} : AllLegible zero cs ↔ ∀ c ∈ cs, Legible zero c := by
  induction cs with
  | nil => simp [AllLegible]
  | cons c cs ih => rw [AllLegible, ih, List.forall_mem_cons]

theorem allWellFormed_iff : allWellFormed cs = true ↔ ∀ c ∈ cs, wellFormed c = true := by
  induction cs with
  | nil => simp [allWellFormed]
  | cons c cs ih => rw [allWellFormed, Bool.and_eq_true, ih, List.forall_mem_cons]

theorem legible_of_wellFormed (zero : Prop) {c : Condition} (h : wellFormed c = true) :
    Legible zero c := by
  induction c using Condition.induct with
  | step column op value sub ih =>
    cases op with
    | and | or =>
      simp only [wellFormed, Bool.and_eq_true, Bool.not_eq_true', List.isEmpty_eq_false_iff] at h
      exact ⟨h.1, allLegible_iff.mpr fun c hc => ih c hc (allWellFormed_iff.mp h.2 c hc)⟩
    | between =>
      simp only [wellFormed, Bool.and_eq_true] at h
      simp only [Legible, h.1, h.2, ↓reduceIte]
    | _ => exact h

end Legible

private theorem conditionsSQL_mean_of {P : Database D} {cs : List Condition}
    (h : ∀ c ∈ cs, ∀ b, ∃ p, Means P (conditionSQL c b).1 b.idx (conditionValues c)
      (fun row => conditionTruth P row c) p) (b : Binder) :
    ∃ ps, PartsMean P (conditionsSQL cs b).1 b.idx (conditionsValues cs)
      (fun row => conditionsTruth P row cs) ps := by
  induction cs generalizing b with
  | nil => exact ⟨[], .nil, by simp, fun _ _ => rfl⟩
  | cons c cs ih =>
    obtain ⟨p, hreads, hpushes, htruth⟩ := h c List.mem_cons_self b
    obtain ⟨ps, hps⟩ := ih (fun d hd => h d (List.mem_cons_of_mem _ hd)) (conditionSQL c b).2
    have next : (conditionSQL c b).2.idx = b.idx + (conditionValues c).length :=
      (conditionSQL_emits c b).idx
    refine ⟨p :: ps, .cons hreads hps.reads, ?_, ?_⟩
    · intro q hq
      rcases List.mem_cons.mp hq with rfl | hq
      · exact hpushes
      · exact hps.pushes q hq
    · intro env hb
      have tail := hps.truths env (next ▸ hb.right)
      simp only [List.map_cons, htruth env hb.left, tail, conditionsTruth]

private theorem conditionsSQL_mean_of_ne {P : Database D} {cs : List Condition} (hcs : cs ≠ [])
    (h : ∀ c ∈ cs, ∀ b, ∃ p, Means P (conditionSQL c b).1 b.idx (conditionValues c)
      (fun row => conditionTruth P row c) p) (b : Binder) :
    ∃ p ps, PartsMean P (conditionsSQL cs b).1 b.idx (conditionsValues cs)
      (fun row => conditionsTruth P row cs) (p :: ps) := by
  cases cs with
  | nil => exact absurd rfl hcs
  | cons c cs =>
    obtain ⟨ps, hps⟩ := conditionsSQL_mean_of h b
    cases ps with
    | nil => cases hps.reads
    | cons p ps => exact ⟨p, ps, hps⟩

theorem conditionSQL_means (P : Database D) (c : Condition)
    (hc : Legible (P.number 1 ≠ P.number 0) c) (b : Binder) :
    ∃ p, Means P (conditionSQL c b).1 b.idx (conditionValues c)
      (fun row => conditionTruth P row c) p := by
  induction c using Condition.induct generalizing b with
  | step column op value sub ih =>
    cases op with
    | eq | notEq | gt | gte | lt | lte | like | ilike => exact means_comparison P rfl hc value b.idx
    | isNull =>
      refine ⟨_, Means.leaf (readsAs_isNull hc) fun env _ => ?_⟩
      simp [Expr.eval, Operand.eval, conditionTruth]
    | notNull =>
      refine ⟨_, Means.leaf (readsAs_isNotNull hc) fun env _ => ?_⟩
      simp [Expr.eval, Operand.eval, conditionTruth]
    | «in» =>
      refine ⟨_, Means.leaf (readsAs_any hc b.idx) fun env hb => ?_⟩
      have bound : env.param b.idx = some (P.bound value) := Binds.head hb
      simp only [Expr.eval, Operand.eval, bound, conditionTruth]
      rfl
    | notIn =>
      refine ⟨_, Means.leaf (readsAs_all hc b.idx) fun env hb => ?_⟩
      have bound : env.param b.idx = some (P.bound value) := Binds.head hb
      simp only [Expr.eval, Operand.eval, bound, conditionTruth, ← quantified_ne]
      rfl
    | between =>
      cases hv : betweenBounds value with
      | none =>
        have zero : P.number 1 ≠ P.number 0 := by simpa [Legible, hv] using hc
        simp only [conditionSQL, conditionValues, conditionTruth, hv]
        refine ⟨_, Means.leaf readsAs_noBounds fun env _ => ?_⟩
        simp [Expr.eval, Operand.eval, Comparison.compare, P.eq_of_ne _ _ zero]
      | some bounds =>
        obtain ⟨low, high⟩ := bounds
        have plain : plainIdentifier column = true := by simpa [Legible, hv] using hc
        simp only [conditionSQL, conditionValues, conditionTruth, hv]
        refine ⟨_, Means.leaf (readsAs_between plain b.idx (b.idx + 1)) fun env hb => ?_⟩
        have second : env.param (b.idx + 1) = some (P.bound high) := by simpa using hb 1 high rfl
        simp [Expr.eval, Operand.eval, hb.head, second, Database.bound]
    | and =>
      have subs := fun c hmem => ih c hmem (allLegible_iff.mp hc.2 c hmem)
      obtain ⟨p, ps, h⟩ := conditionsSQL_mean_of_ne hc.1 subs b
      exact ⟨_, h.and_group⟩
    | or =>
      have subs := fun c hmem => ih c hmem (allLegible_iff.mp hc.2 c hmem)
      obtain ⟨p, ps, h⟩ := conditionsSQL_mean_of_ne hc.1 subs b
      exact ⟨_, h.or_group⟩

theorem conditionsSQL_mean (P : Database D) (hcs : ∀ c ∈ cs, Legible (P.number 1 ≠ P.number 0) c)
    (b : Binder) :
    ∃ ps, PartsMean P (conditionsSQL cs b).1 b.idx (conditionsValues cs)
      (fun row => conditionsTruth P row cs) ps :=
  conditionsSQL_mean_of (fun c hmem b => conditionSQL_means P c (hcs c hmem) b) b

theorem parse_eq (text : GoString) : parse text = (items text).bind expression := by
  unfold parse items
  cases tokens text <;> rfl

theorem PartsMean.parse_and {ts : List SqlText} {meanings : Row D → List Truth}
    {p : List Item × Expr} {ps : List (List Item × Expr)}
    (h : PartsMean P ts first vs meanings (p :: ps)) :
    parse (render (join [lit " AND "] ts)) = some (ps.foldl (fun a q => .and a q.2) p.2) := by
  have read : items (render (join [lit " AND "] ts)) =
      some (join [.and] ((p :: ps).map Prod.fst)) := by
    have whole := ReadsAs.join connective_and h.reads [] (by simp [Breaks])
    rw [List.append_nil] at whole
    rw [render_join]
    simpa [items, tokens, scan, flush, lexTokens, predicates] using whole
  obtain ⟨g, hg, hfinish⟩ := foldlM_and h.pushes Frame.empty [] rfl rfl
  rw [parse_eq, read, Option.bind_some, expression, hg]
  exact hfinish

theorem binds_args (P : Database D) (row : Row D) (startIdx : Int) (args : List Value) :
    Binds P ⟨row, fun n =>
      if n < startIdx then none else (args[(n - startIdx).toNat]?).map P.bound⟩ startIdx args := by
  intro k v hv
  have present : ¬startIdx + (k : Int) < startIdx := by omega
  simp [present, hv]

/-- The rendered text has, on every row, the truth value of the conjunction of
the condition trees. -/
theorem buildWhere_truth (P : Database D) (cs : List Condition) (hcs : allWellFormed cs = true)
    (startIdx : Int) (row : Row D) :
    whereTruth P row startIdx (render (buildWhere cs startIdx).1) (buildWhere cs startIdx).2 =
      some (Truth.all (conditionsTruth P row cs)) := by
  cases cs with
  | nil => rfl
  | cons c cs =>
    have legible := fun d hd => legible_of_wellFormed (P.number 1 ≠ P.number 0)
      (allWellFormed_iff.mp hcs d hd)
    obtain ⟨ps, hps⟩ := conditionsSQL_mean P legible ⟨[], startIdx⟩
    cases ps with
    | nil => cases hps.reads
    | cons p ps =>
      have args : (buildWhere (c :: cs) startIdx).2 = conditionsValues (c :: cs) :=
        (conditionsSQL_emits (c :: cs) ⟨[], startIdx⟩).args
      have parsed : parse (render (buildWhere (c :: cs) startIdx).1) = _ := hps.parse_and
      have written : (render (buildWhere (c :: cs) startIdx).1).isEmpty = false := by
        by_contra empty
        rw [Bool.not_eq_false, List.isEmpty_iff] at empty
        rw [empty] at parsed
        cases parsed
      have bound := binds_args P row startIdx (conditionsValues (c :: cs))
      rw [whereTruth, written, parsed, args, Option.bind_some]
      exact hps.conjunction _ bound

def nestedConditions : List Condition :=
  [or [and [eq (str "a") (.int 1), or [between (str "b") (.int 2) (.int 5), isNull (str "c")]],
      notIn (str "d") (.slice [.int 7, .int 8])],
    between (str "e") (.int 0) (.int 9)]

theorem buildWhere_truth_nested :
    allWellFormed nestedConditions = true ∧
      whereTruth valueDatabase (fun name => if name = str "b" then none else some (.int 1)) 4
        (render (buildWhere nestedConditions 4).1) (buildWhere nestedConditions 4).2 =
        some .true :=
  ⟨by decide, (buildWhere_truth _ _ (by decide) 4 _).trans (by decide)⟩

end DxCommonGo.QueryWhere
