import DxCommonGo.QueryLexemes

/-! Groups without children. An empty group is rendered as `()`: a tree with one does not parse, and
every other tree has a text with its meaning. -/

namespace DxCommonGo.QueryGroups
open GoStrings QueryModel QueryBuilder QueryMeaning QueryReading QueryWhere QueryLexemes
open QueryPlaceholders SqlSemantics SqlSyntax SqlReading

mutual

def grouped : Condition → Bool
  | ⟨_, op, _, sub⟩ =>
    match op with
    | .and | .or => !sub.isEmpty && allGrouped sub
    | _ => true

def allGrouped : List Condition → Bool
  | [] => true
  | c :: cs => grouped c && allGrouped cs

end

theorem allGrouped_iff {cs : List Condition} :
    allGrouped cs = true ↔ ∀ c ∈ cs, grouped c = true := by
  induction cs with
  | nil => simp [allGrouped]
  | cons c cs ih => rw [allGrouped, Bool.and_eq_true, ih, List.forall_mem_cons]

theorem legible_of_grouped {zero : Prop} (hz : zero) {c : Condition}
    (columns : columnsPass plainIdentifier c = true) (hg : grouped c = true) : Legible zero c := by
  induction c using Condition.induct with
  | step column op value sub ih =>
    cases op with
    | and | or =>
      simp only [grouped, Bool.and_eq_true, Bool.not_eq_true', List.isEmpty_eq_false_iff] at hg
      refine ⟨hg.1, allLegible_iff.mpr fun c hc => ?_⟩
      exact ih c hc (allColumnsPass_iff.mp columns c hc) (allGrouped_iff.mp hg.2 c hc)
    | between =>
      cases hv : betweenBounds value with
      | none => simpa [Legible, hv] using hz
      | some bounds => simpa [Legible, columnsPass, hv] using columns
    | _ => exact columns

section EmptyGroups

def Fails (is : List Item) : Prop :=
  ∀ (f : Frame) (fs : List Frame), f.current = none → is.foldlM shift (f :: fs) = none

theorem Fails.group {is : List Item}
    (h : ∀ f fs, f = Frame.empty → (is ++ [Item.rparen]).foldlM shift (f :: fs) = none) :
    Fails (.lparen :: is ++ [.rparen]) := by
  intro f fs hf
  have opened : shift (f :: fs) .lparen = some (Frame.empty :: f :: fs) := by simp [shift, hf]
  rw [List.cons_append, List.foldlM_cons, opened]
  exact h Frame.empty (f :: fs) rfl

theorem Fails.join {i : Item} (hi : i = .and ∨ i = .or) {iss : List (List Item)}
    (each : ∀ is ∈ iss, (∃ e, Pushes is e) ∨ Fails is) (one : ∃ is ∈ iss, Fails is) :
    Fails (join [i] iss) := by
  induction iss with
  | nil =>
    obtain ⟨is, none, -⟩ := one
    cases none
  | cons is iss ih =>
    rw [List.forall_mem_cons] at each
    intro f fs hf
    cases iss with
    | nil =>
      obtain ⟨js, mem, fails⟩ := one
      rw [List.mem_singleton] at mem
      exact mem ▸ fails f fs hf
    | cons js iss =>
      rw [join_cons_cons, List.append_assoc, List.foldlM_append]
      rcases each.1 with ⟨e, pushes⟩ | fails
      · have rest : ∃ ks ∈ js :: iss, Fails ks := by
          obtain ⟨ks, mem, fails⟩ := one
          rcases List.mem_cons.mp mem with rfl | mem
          · -- what pushes an operand does not fail
            have pushed := pushes Frame.empty [] rfl
            rw [fails Frame.empty [] rfl] at pushed
            cases pushed
          · exact ⟨ks, mem, fails⟩
        rw [pushes f fs hf]
        rcases hi with rfl | rfl
        · exact ih each.2 rest _ fs rfl
        · exact ih each.2 rest _ fs rfl
      · rw [fails f fs hf]
        rfl

def Reading (c : Condition) (b : Binder) (is : List Item) : Prop :=
  ReadsAs (render (conditionSQL c b).1) is ∧
    if grouped c then ∃ e, Pushes is e else Fails is

theorem conditionsSQL_readings {cs : List Condition} (h : ∀ c ∈ cs, ∀ b, ∃ is, Reading c b is)
    (b : Binder) :
    ∃ iss, List.Forall₂ ReadsAs ((conditionsSQL cs b).1.map render) iss ∧
      (∀ is ∈ iss, (∃ e, Pushes is e) ∨ Fails is) ∧
      (allGrouped cs = false → ∃ is ∈ iss, Fails is) := by
  induction cs generalizing b with
  | nil => exact ⟨[], .nil, by simp, fun none => by cases none⟩
  | cons c cs ih =>
    obtain ⟨is, reads, reading⟩ := h c List.mem_cons_self b
    obtain ⟨iss, each, operands, fails⟩ :=
      ih (fun d hd => h d (List.mem_cons_of_mem _ hd)) (conditionSQL c b).2
    refine ⟨is :: iss, .cons reads each, List.forall_mem_cons.mpr ⟨?_, operands⟩, fun empty => ?_⟩
    · split_ifs at reading
      · exact .inl reading
      · exact .inr reading
    · rw [allGrouped, Bool.and_eq_false_iff] at empty
      rcases empty with here | there
      · rw [here] at reading
        exact ⟨is, List.mem_cons_self, reading⟩
      · obtain ⟨js, mem, hfails⟩ := fails there
        exact ⟨js, List.mem_cons_of_mem _ mem, hfails⟩

theorem reading_group {c : Condition} {b : Binder} {sub : List Condition} {sep : String} {i : Item}
    (hsep : Connective (str sep) i) (hi : i = .and ∨ i = .or)
    (text : (conditionSQL c b).1 = lit "(" :: join [lit sep] (conditionsSQL sub b).1 ++ [lit ")"])
    (hgrouped : grouped c = (!sub.isEmpty && allGrouped sub))
    (h : ∀ d ∈ sub, ∀ b, ∃ is, Reading d b is) (ungrouped : grouped c = false) :
    ∃ is, ReadsAs (render (conditionSQL c b).1) is ∧ Fails is := by
  obtain ⟨iss, each, operands, fails⟩ := conditionsSQL_readings h b
  have reads := (ReadsAs.join hsep each).parenthesised
  rw [← render_group, ← text] at reads
  refine ⟨_, reads, Fails.group ?_⟩
  rintro f fs rfl
  cases sub with
  | nil =>
    cases each
    cases fs <;> rfl
  | cons d sub =>
    have inner : allGrouped (d :: sub) = false := by simpa [hgrouped] using ungrouped
    rw [List.foldlM_append, Fails.join hi operands (fails inner) _ fs rfl]
    rfl

theorem conditionSQL_reading (c : Condition) (columns : columnsPass plainIdentifier c = true)
    (b : Binder) : ∃ is, Reading c b is := by
  induction c using Condition.induct generalizing b with
  | step column op value sub ih =>
    cases hg : grouped ⟨column, op, value, sub⟩ with
    | true =>
      have zero : valueDatabase.number 1 ≠ valueDatabase.number 0 := by decide
      obtain ⟨p, reads, pushes, -⟩ :=
        conditionSQL_means valueDatabase _ (legible_of_grouped zero columns hg) b
      exact ⟨p.1, reads, by simpa [hg] using ⟨p.2, pushes⟩⟩
    | false =>
      suffices fails : ∃ is, ReadsAs (render (conditionSQL ⟨column, op, value, sub⟩ b).1) is ∧
          Fails is by
        obtain ⟨is, reads, fails⟩ := fails
        exact ⟨is, reads, by simpa [hg] using fails⟩
      cases op with
      | and =>
        have subs := fun d hd => ih d hd (allColumnsPass_iff.mp columns d hd)
        exact reading_group connective_and (.inl rfl) rfl rfl subs hg
      | or =>
        have subs := fun d hd => ih d hd (allColumnsPass_iff.mp columns d hd)
        exact reading_group connective_or (.inr rfl) rfl rfl subs hg
      | _ => cases hg

end EmptyGroups

section Bodies

variable {cs : List Condition} (columns : allColumnsPass plainIdentifier cs = true) (b : Binder)

include columns

theorem parse_ungrouped (ungrouped : allGrouped cs = false) :
    parse (render (buildConditions cs b).1) = none := by
  have readings := fun c hc => conditionSQL_reading c (allColumnsPass_iff.mp columns c hc)
  obtain ⟨iss, each, operands, fails⟩ := conditionsSQL_readings readings b
  have read := ReadsAs.join connective_and each [] (by simp [Breaks])
  have text : render (buildConditions cs b).1 =
      join (str " AND ") ((conditionsSQL cs b).1.map render) := by
    simp [buildConditions, render_join]
  have joined : items (render (buildConditions cs b).1) = some (join [.and] iss) := by
    rw [text, ← List.append_nil (join _ _), read]
    simp [items, tokens, scan, flush, lexTokens, predicates]
  rw [parse_eq, joined, Option.bind_some, expression,
    Fails.join (.inl rfl) operands (fails ungrouped) Frame.empty [] rfl]
  rfl

theorem parse_grouped (hne : cs ≠ []) (hg : allGrouped cs = true) {D : Type} (P : Database D)
    (zero : P.number 1 ≠ P.number 0) :
    ∃ e, parse (render (buildConditions cs b).1) = some e ∧
      ∀ env : Env D, Binds P env b.idx (conditionsValues cs) →
        e.eval P.toComparison env = some (Truth.all (conditionsTruth P env.row cs)) := by
  have legible : ∀ c ∈ cs, Legible (P.number 1 ≠ P.number 0) c := fun c hc =>
    legible_of_grouped zero (allColumnsPass_iff.mp columns c hc) (allGrouped_iff.mp hg c hc)
  obtain ⟨ps, parts⟩ := conditionsSQL_mean P legible b
  cases ps with
  | nil =>
    cases cs with
    | nil => exact absurd rfl hne
    | cons c cs => cases parts.reads
  | cons p ps => exact ⟨_, parts.parse_and, parts.conjunction⟩

theorem parse_isSome_iff (hne : cs ≠ []) :
    (parse (render (buildConditions cs b).1)).isSome = true ↔ allGrouped cs = true := by
  cases hg : allGrouped cs with
  | false => simp [parse_ungrouped columns b hg]
  | true =>
    have zero : valueDatabase.number 1 ≠ valueDatabase.number 0 := by decide
    obtain ⟨e, parsed, -⟩ := parse_grouped columns b hne hg valueDatabase zero
    simp [parsed]

end Bodies

end DxCommonGo.QueryGroups
