import DxCommonGo.QueryLexemes
import DxCommonGo.SqlTopLevel

/-! `JoinAnd` writes AND between fragments without parentheses. The text is more often true than all
fragments are, exactly when a fragment with OR at its top level lets an alternative stand alone;
`BuildWhere` renders none. -/

namespace DxCommonGo.QueryJoin
open GoStrings QueryModel QueryBuilder QueryMeaning QueryReading QueryWhere QueryLexemes
open SqlSemantics SqlSyntax SqlReading SqlScanning SqlAlternatives SqlTopLevel

def nonBlank (fragments : List GoString) : List GoString :=
  fragments.filter fun f => trimSpace f ≠ []

theorem joinAnd_eq (fragments : List GoString) :
    joinAnd fragments = join (str " AND ") (nonBlank fragments) := rfl

theorem ne_nil_of_mem_nonBlank {fragments : List GoString} {f : GoString}
    (h : f ∈ nonBlank fragments) : f ≠ [] := by
  have kept := (List.mem_filter.mp h).2
  rintro rfl
  revert kept
  decide

section Joined

variable {Φ : Type} (δ : Dialect Φ) {fragments : List GoString} (v : Φ → Truth)

def joinedRuns (fragments : List GoString) : List (List Φ) :=
  glueAll ((nonBlank fragments).filterMap δ.read)

def AllTrue (fragments : List GoString) : Prop :=
  ∀ f ∈ nonBlank fragments, δ.truth v f = some .true

theorem mapM_read {ss : List GoString} (h : ∀ s ∈ ss, (δ.read s).isSome) :
    ss.mapM δ.read = some (ss.filterMap δ.read) := by
  induction ss with
  | nil => rfl
  | cons s ss ih =>
    rw [List.forall_mem_cons] at h
    obtain ⟨as, has⟩ := Option.isSome_iff_exists.mp h.1
    rw [List.mapM_cons, ih h.2, has, List.filterMap_cons_some has]
    rfl

theorem filterMap_read_single {ss : List GoString}
    (h : ∀ s ∈ ss, ∃ run, δ.read s = some [run]) :
    ∃ runs : List (List Φ), ss.filterMap δ.read = runs.map fun run => [run] := by
  refine ⟨(ss.filterMap δ.read).map List.flatten, ?_⟩
  rw [List.map_map]
  refine (List.map_id _).symm.trans (List.map_congr_left fun as has => ?_)
  obtain ⟨s, hs, read⟩ := List.mem_filterMap.mp has
  obtain ⟨run, one⟩ := h s hs
  cases read.symm.trans one
  simp

theorem truth_iff_of_one {δ : Dialect Φ} (one : (nonBlank fragments).length ≤ 1) :
    δ.truth v (joinAnd fragments) = some .true ↔ AllTrue δ v fragments := by
  rw [joinAnd_eq, AllTrue]
  cases kept : nonBlank fragments with
  | nil => simp [join, Dialect.truth]
  | cons s ss =>
    rw [kept] at one
    have alone : ss = [] := by
      cases ss with
      | nil => rfl
      | cons t ss => simp at one
    rw [alone, List.forall_mem_singleton]
    rfl

variable {δ} (wf : ∀ f ∈ nonBlank fragments, (δ.read f).isSome)

include wf

theorem truth_joinAnd :
    δ.truth v (joinAnd fragments) = some (bodyTruth v (joinedRuns δ fragments)) := by
  rw [joinAnd_eq, joinedRuns]
  cases kept : nonBlank fragments with
  | nil => rfl
  | cons s ss =>
    rw [kept] at wf
    have filled : s ≠ [] := ne_nil_of_mem_nonBlank (kept ▸ List.mem_cons_self)
    have written : (join (str " AND ") (s :: ss)).isEmpty = false := by
      cases s with
      | nil => exact absurd rfl filled
      | cons b s => cases ss <;> rfl
    rw [Dialect.truth, written, δ.read_join (mapM_read δ wf)]
    rfl

theorem allTrue_iff : AllTrue δ v fragments ↔
    ∀ as ∈ (nonBlank fragments).filterMap δ.read, bodyTruth v as = .true := by
  have fragment {f : GoString} (hf : f ∈ nonBlank fragments) {as : List (List Φ)}
      (has : δ.read f = some as) : δ.truth v f = some .true ↔ bodyTruth v as = .true := by
    have written : f.isEmpty = false := by
      rw [List.isEmpty_eq_false_iff]
      exact ne_nil_of_mem_nonBlank hf
    rw [Dialect.truth, written, has]
    simp
  constructor
  · intro all as has
    obtain ⟨f, hf, read⟩ := List.mem_filterMap.mp has
    exact (fragment hf read).mp (all f hf)
  · intro all f hf
    obtain ⟨as, read⟩ := Option.isSome_iff_exists.mp (wf f hf)
    exact (fragment hf read).mpr (all as (List.mem_filterMap.mpr ⟨f, hf, read⟩))

theorem truth_of_allTrue (h : AllTrue δ v fragments) :
    δ.truth v (joinAnd fragments) = some .true := by
  rw [truth_joinAnd v wf]
  exact congrArg some (bodyTruth_glueAll ((allTrue_iff v wf).mp h))

/-- Without OR at the top level of a fragment the text is the conjunction. -/
theorem truth_iff_of_single (single : ∀ f ∈ nonBlank fragments, ∃ run, δ.read f = some [run]) :
    δ.truth v (joinAnd fragments) = some .true ↔ AllTrue δ v fragments := by
  refine ⟨fun h => ?_, truth_of_allTrue v wf⟩
  obtain ⟨runs, hruns⟩ := filterMap_read_single δ single
  rw [truth_joinAnd v wf, joinedRuns, hruns, glueAll_singletons, Option.some.injEq,
    bodyTruth_singleton] at h
  rw [allTrue_iff v wf, hruns, List.forall_mem_map]
  intro run hrun
  rw [bodyTruth_singleton]
  exact fun φ hφ => h φ (List.mem_flatten.mpr ⟨run, hrun, hφ⟩)

/-- On a row with these truth values of the operands, the joined text is the conjunction
of its fragments exactly if none of its alternatives is true alone. It is so on every
row if at most one fragment is not blank, or none has OR at its top level. -/
theorem joinAnd_exact_iff :
    ((δ.truth v (joinAnd fragments) = some .true ↔ AllTrue δ v fragments) ↔
      ∀ run ∈ joinedRuns δ fragments, (∀ φ ∈ run, v φ = .true) → AllTrue δ v fragments) ∧
    ((nonBlank fragments).length ≤ 1 ∨
        (∀ f ∈ nonBlank fragments, ∃ run, δ.read f = some [run]) →
      (δ.truth v (joinAnd fragments) = some .true ↔ AllTrue δ v fragments)) := by
  constructor
  · constructor
    · intro exact run hrun truths
      refine exact.mp ?_
      rw [truth_joinAnd v wf, bodyTruth_eq_true.mpr ⟨run, hrun, truths⟩]
    · intro covered
      refine ⟨fun h => ?_, truth_of_allTrue v wf⟩
      rw [truth_joinAnd v wf, Option.some.injEq, bodyTruth_eq_true] at h
      obtain ⟨run, hrun, truths⟩ := h
      exact covered run hrun truths
  · rintro (one | single)
    · exact truth_iff_of_one v one
    · exact truth_iff_of_single v wf single

end Joined

section Rendered

theorem columnsPass_of_wellFormed {c : Condition} (h : wellFormed c = true) :
    columnsPass plainIdentifier c = true := by
  induction c using Condition.induct with
  | step column op value sub ih =>
    cases op with
    | and | or =>
      simp only [wellFormed, Bool.and_eq_true] at h
      exact allColumnsPass_iff.mpr fun c hc => ih c hc (allWellFormed_iff.mp h.2 c hc)
    | between =>
      simp only [wellFormed, Bool.and_eq_true] at h
      simp [columnsPass, h.1]
    | _ => exact h

theorem read_condition {c : Condition} (h : wellFormed c = true) (b : Binder) :
    ∃ e, sqlDialect.read (render (conditionSQL c b).1) = some [[e]] := by
  obtain ⟨p, reads, pushes, -⟩ := conditionSQL_means valueDatabase c (legible_of_wellFormed _ h) b
  have anything : Wording fun _ => True := ⟨fun _ _ => trivial, fun _ => trivial⟩
  obtain ⟨ls, lexes, -⟩ := conditionSQL_lexes anything (fun _ _ => trivial) (fun _ plain => plain)
    c (columnsPass_of_wellFormed h) b
  have alone := reads [] (by simp [Breaks])
  rw [List.append_nil] at alone
  refine ⟨p.2, ?_⟩
  simp only [sqlDialect, closed_of_lexes lexes, if_true, alone]
  simp [items, tokens, scan, flush, lexTokens, predicates, topLevel_of_pushes pushes]

theorem read_buildWhere {cs : List Condition} (hne : cs ≠ []) (h : allWellFormed cs = true)
    (startIdx : Int) :
    ∃ run, sqlDialect.read (render (buildWhere cs startIdx).1) = some [run] := by
  have operands : ∀ s ∈ (conditionsSQL cs ⟨[], startIdx⟩).1.map render,
      ∃ run, sqlDialect.read s = some [run] := by
    intro s hs
    obtain ⟨t, ht, rfl⟩ := List.mem_map.mp hs
    obtain ⟨c, hc, b, rfl⟩ := mem_conditionsSQL ht
    obtain ⟨e, read⟩ := read_condition (allWellFormed_iff.mp h c hc) b
    exact ⟨[e], read⟩
  have text : render (buildWhere cs startIdx).1 =
      join (str " AND ") ((conditionsSQL cs ⟨[], startIdx⟩).1.map render) := by
    have filled : cs.isEmpty = false := List.isEmpty_eq_false_iff.mpr hne
    simp [buildWhere, filled, buildConditions, render_join]
  obtain ⟨runs, hruns⟩ := filterMap_read_single sqlDialect operands
  have complete : ∀ s ∈ (conditionsSQL cs ⟨[], startIdx⟩).1.map render,
      (sqlDialect.read s).isSome := by
    intro s hs
    obtain ⟨run, read⟩ := operands s hs
    simp [read]
  refine ⟨runs.flatten, ?_⟩
  rw [text, ← glueAll_singletons, ← hruns]
  have bodies := mapM_read sqlDialect complete
  cases cs with
  | nil => exact absurd rfl hne
  | cons c cs => exact sqlDialect.read_join bodies

/-- Fragments that `BuildWhere` has rendered are joined to their conjunction. -/
theorem joinAnd_rendered {fragments : List GoString}
    (h : ∀ f ∈ fragments, ∃ cs startIdx, allWellFormed cs = true ∧
      f = render (buildWhere cs startIdx).1) (v : Expr → Truth) :
    sqlDialect.truth v (joinAnd fragments) = some .true ↔ AllTrue sqlDialect v fragments := by
  have single : ∀ f ∈ nonBlank fragments, ∃ run, sqlDialect.read f = some [run] := by
    intro f hf
    obtain ⟨cs, startIdx, wf, rfl⟩ := h f (List.mem_of_mem_filter hf)
    refine read_buildWhere ?_ wf startIdx
    rintro rfl
    exact ne_nil_of_mem_nonBlank hf rfl
  refine truth_iff_of_single v (fun f hf => ?_) single
  obtain ⟨run, read⟩ := single f hf
  simp [read]

theorem joinAnd_rendered_groups :
    let either := [QueryModel.or [QueryModel.eq (str "owner") (.int 7), isNull (str "owner")]]
    let fragments := [render (buildWhere either 1).1, render (buildWhere either 2).1]
    sqlDialect.truth (fun _ => .true) (joinAnd fragments) = some .true ↔
      AllTrue sqlDialect (fun _ => .true) fragments :=
  joinAnd_rendered (List.forall_mem_cons.mpr ⟨⟨_, 1, by decide, rfl⟩,
    List.forall_mem_singleton.mpr ⟨_, 2, by decide, rfl⟩⟩) _

/-- On a row that gives every operand its value, the truth value of a complete text is that of
`parse` and the arguments. -/
theorem whereTruth_eq_truth {D : Type} {P : Database D} {row : Row D} {startIdx : Int}
    {args : List Value} {v : Expr → Truth} {text : GoString} {as : List (List Expr)}
    (read : sqlDialect.read text = some as)
    (h : ∀ run ∈ as, ∀ e ∈ run, e.eval P.toComparison ⟨row, fun n =>
      if n < startIdx then none else (args[(n - startIdx).toNat]?).map P.bound⟩ = some (v e)) :
    whereTruth P row startIdx text args = sqlDialect.truth v text := by
  rw [whereTruth, parse_truth read h, Dialect.truth]
  split_ifs <;> rfl

end Rendered

def tenantFragments (body : String) : List GoString :=
  [str body, str " ", render (buildWhere [QueryModel.eq (str "tenant") (.int 3)] 3).1]

theorem joinAnd_exact_parenthesised :
    sqlDialect.truth (fun _ => .true)
        (joinAnd (tenantFragments "(owner = $1 OR shared = $2)")) = some .true ↔
      AllTrue sqlDialect (fun _ => .true) (tenantFragments "(owner = $1 OR shared = $2)") := by
  refine (joinAnd_exact_iff (fun _ => .true) (by decide +kernel)).2 (.inr fun f hf => ?_)
  have runs : ∀ f ∈ nonBlank (tenantFragments "(owner = $1 OR shared = $2)"),
      (sqlDialect.read f).map List.length = some 1 := by decide +kernel
  obtain ⟨as, read, one⟩ := Option.map_eq_some_iff.mp (runs f hf)
  obtain ⟨run, rfl⟩ := List.length_eq_one_iff.mp one
  exact ⟨run, read⟩

def foreignRow : Row Value := fun column =>
  if column = str "owner" then some (.int 7) else if column = str "tenant" then some (.int 4)
  else none

/-- The OR of a fragment lets in a row that the tenant filter behind it excludes. -/
theorem joinAnd_lets_in :
    whereTruth valueDatabase foreignRow 1 (joinAnd (tenantFragments "owner = $1 OR shared = $2"))
      [.int 7, .int 1, .int 3] = some .true ∧
    whereTruth valueDatabase foreignRow 3
      (render (buildWhere [QueryModel.eq (str "tenant") (.int 3)] 3).1) [.int 3] = some .false := by
  decide +kernel

end DxCommonGo.QueryJoin
