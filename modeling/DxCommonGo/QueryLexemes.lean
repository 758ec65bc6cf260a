import DxCommonGo.QueryWhere
import DxCommonGo.SqlScanning

/-! The lexemes of a rendered condition tree: its columns, placeholders, and a fixed set of words.
Nothing runs across the end of a fragment. -/

namespace DxCommonGo.QueryLexemes
open GoStrings QueryModel QueryBuilder QueryReading SqlSyntax SqlReading

def conditionWords : List GoString :=
  [Operator.eq, .notEq, .gt, .gte, .lt, .lte, .like, .ilike].map Operator.text ++
  [str "IS", str "NULL", str "NOT", str "ANY", str "ALL", str "(", str ")", str "BETWEEN",
    str "AND", str "OR", str "1", str "0", str "/* BETWEEN requires [low, high] */"]

structure Wording (ok : GoString → Prop) : Prop where
  words : ∀ w ∈ conditionWords, ok w
  placeholder : ∀ n : Int, ok (36 :: itoa n)

mutual

def columnsPass (p : GoString → Bool) : Condition → Bool
  | ⟨column, op, value, sub⟩ =>
    match op with
    | .and | .or => allColumnsPass p sub
    | .between => (betweenBounds value).isNone || p column
    | _ => p column

def allColumnsPass (p : GoString → Bool) : List Condition → Bool
  | [] => true
  | c :: cs => columnsPass p c && allColumnsPass p cs

end

theorem allColumnsPass_iff {p : GoString → Bool} {cs : List Condition} :
    allColumnsPass p cs = true ↔ ∀ c ∈ cs, columnsPass p c = true := by
  induction cs with
  | nil => simp [allColumnsPass]
  | cons c cs ih => rw [allColumnsPass, Bool.and_eq_true, ih, List.forall_mem_cons]

theorem columnsPass_mono {p q : GoString → Bool} (h : ∀ column, p column = true → q column = true)
    {c : Condition} (hc : columnsPass p c = true) : columnsPass q c = true := by
  induction c using Condition.induct with
  | step column op value sub ih =>
    cases op with
    | and | or =>
      exact allColumnsPass_iff.mpr fun c hmem => ih c hmem (allColumnsPass_iff.mp hc c hmem)
    | between =>
      simp only [columnsPass, Bool.or_eq_true] at hc ⊢
      exact hc.imp_right (h column)
    | _ => exact h column hc

def LexesInto (ok : GoString → Prop) (s : GoString) : Prop :=
  ∃ ls, Lexes s ls ∧ ∀ l ∈ ls, ok l

section Trees

variable {ok : GoString → Prop} {word : GoString} {cs : List Condition}

theorem mem_join {lss : List (List GoString)} {l : GoString} (h : l ∈ join [word] lss) :
    l = word ∨ ∃ ls ∈ lss, l ∈ ls := by
  induction lss with
  | nil => cases h
  | cons ls lss ih =>
    cases lss with
    | nil => exact .inr ⟨ls, List.mem_cons_self, h⟩
    | cons ms lss =>
      rw [join_cons_cons, List.mem_append, List.mem_append, List.mem_singleton] at h
      rcases h with (h | h) | h
      · exact .inr ⟨ls, List.mem_cons_self, h⟩
      · exact .inl h
      · rcases ih h with word | ⟨ns, hns, hl⟩
        · exact .inl word
        · exact .inr ⟨ns, List.mem_cons_of_mem _ hns, hl⟩

theorem LexesInto.join {sep : GoString} (ends : Ends sep [word])
    (breaks : ∀ rest, Breaks (sep ++ rest)) (hword : ok word) {ss : List GoString}
    (h : ∀ s ∈ ss, LexesInto ok s) : LexesInto ok (join sep ss) := by
  obtain ⟨lss, each, all⟩ : ∃ lss, List.Forall₂ Lexes ss lss ∧ ∀ ls ∈ lss, ∀ l ∈ ls, ok l := by
    induction ss with
    | nil => exact ⟨[], .nil, by simp⟩
    | cons s ss ih =>
      obtain ⟨ls, lexes, hls⟩ := h s List.mem_cons_self
      obtain ⟨lss, each, all⟩ := ih fun t ht => h t (List.mem_cons_of_mem _ ht)
      exact ⟨ls :: lss, .cons lexes each, List.forall_mem_cons.mpr ⟨hls, all⟩⟩
  refine ⟨_, Lexes.join ends breaks each, fun l hl => ?_⟩
  rcases mem_join hl with rfl | ⟨ls, hls, hl⟩
  · exact hword
  · exact all ls hls l hl

theorem LexesInto.parenthesised {s : GoString} (h : LexesInto ok s) (hok : Wording ok) :
    LexesInto ok (str "(" ++ s ++ str ")") := by
  obtain ⟨ls, lexes, hls⟩ := h
  refine ⟨_, lexes.parenthesised, fun l hl => ?_⟩
  simp only [List.cons_append, List.mem_cons, List.mem_append, List.not_mem_nil, or_false] at hl
  rcases hl with rfl | hl | rfl
  · exact hok.words _ (by decide)
  · exact hls l hl
  · exact hok.words _ (by decide)

theorem mem_conditionsSQL {b : Binder} {t : SqlText} (h : t ∈ (conditionsSQL cs b).1) :
    ∃ c ∈ cs, ∃ b', t = (conditionSQL c b').1 := by
  induction cs generalizing b with
  | nil => cases h
  | cons c cs ih =>
    rcases List.mem_cons.mp h with rfl | h
    · exact ⟨c, List.mem_cons_self, b, rfl⟩
    · obtain ⟨d, hd, b', same⟩ := ih h
      exact ⟨d, List.mem_cons_of_mem _ hd, b', same⟩

theorem lexesInto_conditions {sep : GoString} (ends : Ends sep [word])
    (breaks : ∀ rest, Breaks (sep ++ rest)) (hword : ok word)
    (h : ∀ c ∈ cs, ∀ b, LexesInto ok (render (conditionSQL c b).1)) (b : Binder) :
    LexesInto ok (join sep ((conditionsSQL cs b).1.map render)) := by
  refine LexesInto.join ends breaks hword fun s hs => ?_
  obtain ⟨t, ht, rfl⟩ := List.mem_map.mp hs
  obtain ⟨c, hc, b', rfl⟩ := mem_conditionsSQL ht
  exact h c hc b'

theorem render_group (sep : String) (ts : List SqlText) :
    render (lit "(" :: join [lit sep] ts ++ [lit ")"]) =
      str "(" ++ join (str sep) (ts.map render) ++ str ")" := by
  simp [render_append, render_join]

variable {p : GoString → Bool} (hok : Wording ok) (columns : ∀ column, p column = true → ok column)
  (plain : ∀ column, p column = true → plainIdentifier column = true)

include hok columns

theorem lexesInto_predicate {column s : GoString} {ls : List GoString} (pass : p column = true)
    (lexes : Lexes s (column :: ls))
    (all : ∀ l ∈ ls, l ∈ conditionWords ∨ ∃ n : Int, l = 36 :: itoa n) : LexesInto ok s := by
  refine ⟨_, lexes, List.forall_mem_cons.mpr ⟨columns column pass, fun l hl => ?_⟩⟩
  rcases all l hl with word | ⟨n, rfl⟩
  · exact hok.words l word
  · exact hok.placeholder n

omit columns in
theorem lexesInto_group {sep : String} (ends : Ends (str sep) [word])
    (breaks : ∀ rest, Breaks (str sep ++ rest)) (hword : word ∈ conditionWords)
    (h : ∀ c ∈ cs, ∀ b, LexesInto ok (render (conditionSQL c b).1)) (b : Binder) :
    LexesInto ok (render (lit "(" :: join [lit sep] (conditionsSQL cs b).1 ++ [lit ")"])) := by
  rw [render_group]
  exact (lexesInto_conditions ends breaks (hok.words _ hword) h b).parenthesised hok

include plain

theorem lexesInto_quantified {column : GoString} (pass : p column = true) {word : String}
    {op quantifier : GoString} (ends : Ends (str word) [op, quantifier, str "("])
    (breaks : ∀ rest, Breaks (str word ++ rest)) (hop : op ∈ conditionWords)
    (hquantifier : quantifier ∈ conditionWords) (n : Int) :
    LexesInto ok (render [.text column, lit word, .placeholder n, lit ")"]) := by
  have lexes := lexes_quantified ends breaks (plain column pass) n
  refine lexesInto_predicate hok columns pass lexes ?_
  simp only [List.forall_mem_cons, List.not_mem_nil, false_implies, implies_true, and_true]
  exact ⟨.inl hop, .inl hquantifier, .inl (by decide), .inr ⟨n, rfl⟩, .inl (by decide)⟩

theorem conditionSQL_lexes (c : Condition) (hc : columnsPass p c = true) (b : Binder) :
    LexesInto ok (render (conditionSQL c b).1) := by
  have parameter (n : Int) :
      36 :: itoa n ∈ conditionWords ∨ ∃ m : Int, 36 :: itoa n = 36 :: itoa m := .inr ⟨n, rfl⟩
  induction c using Condition.induct generalizing b with
  | step column op value sub ih =>
    cases op with
    | eq | notEq | gt | gte | lt | lte | like | ilike =>
      refine lexesInto_predicate hok columns hc (lexes_comparison rfl (plain column hc) b.idx) ?_
      simp only [List.forall_mem_cons, List.not_mem_nil, false_implies, implies_true, and_true]
      exact ⟨.inl (by decide), parameter b.idx⟩
    | isNull =>
      refine lexesInto_predicate hok columns hc (lexes_column_isNull (plain column hc)) ?_
      exact fun l hl => .inl ((by decide : ∀ l ∈ [str "IS", str "NULL"], l ∈ conditionWords) l hl)
    | notNull =>
      refine lexesInto_predicate hok columns hc (lexes_column_isNotNull (plain column hc)) ?_
      exact fun l hl =>
        .inl ((by decide : ∀ l ∈ [str "IS", str "NOT", str "NULL"], l ∈ conditionWords) l hl)
    | «in» =>
      exact lexesInto_quantified hok columns plain hc ends_any (fun _ => breaks_space _)
        (by decide) (by decide) b.idx
    | notIn =>
      exact lexesInto_quantified hok columns plain hc ends_all (fun _ => breaks_space _)
        (by decide) (by decide) b.idx
    | between =>
      cases hv : betweenBounds value with
      | none =>
        simp only [conditionSQL, hv]
        refine ⟨_, lexes_noBounds, fun l hl => hok.words l ?_⟩
        exact (by decide : ∀ l ∈ [str "1", str "=", str "0",
          str "/* BETWEEN requires [low, high] */"], l ∈ conditionWords) l hl
      | some bounds =>
        have pass : p column = true := by simpa [columnsPass, hv] using hc
        simp only [conditionSQL, hv]
        refine lexesInto_predicate hok columns pass
          (lexes_between (plain column pass) b.idx (b.idx + 1)) ?_
        simp only [List.forall_mem_cons, List.not_mem_nil, false_implies, implies_true, and_true]
        exact ⟨.inl (by decide), parameter b.idx, .inl (by decide), parameter (b.idx + 1)⟩
    | and =>
      have subs := fun c hmem => ih c hmem (allColumnsPass_iff.mp hc c hmem)
      exact lexesInto_group hok ends_and (fun _ => breaks_space _) (by decide) subs b
    | or =>
      have subs := fun c hmem => ih c hmem (allColumnsPass_iff.mp hc c hmem)
      exact lexesInto_group hok ends_or (fun _ => breaks_space _) (by decide) subs b

end Trees

end DxCommonGo.QueryLexemes
