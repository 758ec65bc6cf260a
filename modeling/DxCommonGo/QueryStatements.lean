import DxCommonGo.QueryGroups
import DxCommonGo.SqlStatements

/-! SELECT, UPDATE and DELETE statements with a condition tree: well-formed, with the meaning of the
tree, exactly if the tree has no empty group. -/

namespace DxCommonGo.QueryStatements
open GoStrings GoMaps QueryModel QueryBuilder QueryPlaceholders QueryMeaning QueryReading QueryWhere
open QueryLexemes QueryGroups SqlSemantics SqlSyntax SqlReading SqlScanning SqlStatements

/-- The truth value of the WHERE clause on a row, each `$n` read as the argument at `n`; without one
every row is kept. -/
def rowTruth {D : Type} (P : Database D) (row : Row D) (text : GoString) (args : List Value) :
    Option Truth :=
  match (sections (scan [] text)).2.lookup .filter with
  | none => some .true
  | some ls => (boolean ls).bind fun e => e.eval P.toComparison
      ⟨row, fun n => if n < 1 then none else (args[(n - 1).toNat]?).map P.bound⟩

/-- The statement is well-formed and keeps the rows that the conditions mean; an empty
AND means true there, and an empty OR false. -/
structure Sound (G : Grammar) (built : SqlText × List Value) (conditions : List Condition) :
    Prop where
  wellFormed : G.Accepts (render built.1)
  meaning : ∀ (D : Type) (P : Database D), P.number 1 ≠ P.number 0 → ∀ row,
    rowTruth P row (render built.1) built.2 = some (Truth.all (conditionsTruth P row conditions))

def unreserved (column : GoString) : Bool := plainIdentifier column && (clauseOf column).isNone

variable {head tail : GoString}

section Parts

/-- The clauses of a tail are among the given ones, in their order, and well-formed exactly under
the condition. -/
structure Parts (G : Grammar) (allowed : List Clause) (text : GoString)
    (found : List (Clause × List GoString)) (ok : Prop) : Prop where
  text : ClauseText text found
  order : (found.map Prod.fst).Sublist allowed
  ok : (∀ s ∈ found, G.clauseOk s.1 s.2) ↔ ok

variable {G : Grammar}

theorem Parts.none (c : Clause) : Parts G [c] [] [] True :=
  ⟨.nil, List.nil_sublist _, by simp⟩

theorem Parts.append {cs ds : List Clause} {s t : GoString}
    {found found' : List (Clause × List GoString)} {p q : Prop} (hs : Parts G cs s found p)
    (ht : Parts G ds t found' q) : Parts G (cs ++ ds) (s ++ t) (found ++ found') (p ∧ q) where
  text := hs.text.append ht.text
  order := by
    rw [List.map_append]
    exact hs.order.append ht.order
  ok := by rw [List.forall_mem_append, hs.ok, ht.ok]

theorem Parts.single {c : Clause} {text : GoString} {ls : List GoString} {p : Prop}
    (h : ClauseText text [(c, ls)]) (ok : G.clauseOk c ls ↔ p) : Parts G [c] text [(c, ls)] p :=
  ⟨h, .refl _, by simpa using ok⟩

theorem accepts_iff {allowed : List Clause} {found : List (Clause × List GoString)} {ok : Prop}
    (hhead : Fits G.head head) (parts : Parts G allowed tail found ok)
    (ordered : allowed.Pairwise fun c d => c.rank < d.rank) : G.Accepts (head ++ tail) ↔ ok := by
  have read := sections_statement hhead.closed hhead.free parts.text
  rw [← parts.ok]
  constructor
  · intro accepts
    have all := accepts.clauses
    rwa [read] at all
  · intro all
    refine ⟨?_, ?_, ?_⟩
    · rw [read]
      exact hhead.accepted
    · rw [read]
      exact ordered.sublist parts.order
    · rwa [read]

end Parts

section Clauses

variable {G : Grammar}

theorem clauseOf_placeholder (n : Int) : clauseOf (36 :: itoa n) = none := by
  rw [clauseOf, List.find?_eq_none]
  intro c _
  cases c <;> simp [Clause.word, str, lowerByte, String.utf8EncodeChar]

theorem wording_clauseOf : Wording fun l => clauseOf l = none :=
  ⟨by decide, clauseOf_placeholder⟩

theorem boolean_scan (text : GoString) : boolean (scan [] text) = parse text := by
  rw [parse_eq]
  rfl

theorem plainColumns {cs : List Condition} (h : allColumnsPass unreserved cs = true) :
    allColumnsPass plainIdentifier cs = true :=
  allColumnsPass_iff.mpr fun c hc => columnsPass_mono
    (fun _ pass => (Bool.and_eq_true_iff.mp pass).1) (allColumnsPass_iff.mp h c hc)

structure Opening (keyword : String) (c : Clause) (words : List GoString) : Prop where
  spaced : ∃ rest, str keyword = 32 :: rest
  scanned : ∀ body, scan [] (str keyword ++ body) = c.word :: words ++ scan [] body
  residue : ∀ body, residue [] (str keyword ++ body) = residue [] body
  free : ∀ w ∈ words, clauseOf w = none

theorem opening_where : Opening " WHERE " .filter [] :=
  ⟨⟨_, rfl⟩, fun _ => rfl, fun _ => rfl, by simp⟩

theorem opening_having : Opening " HAVING " .having [] :=
  ⟨⟨_, rfl⟩, fun _ => rfl, fun _ => rfl, by simp⟩

theorem opening_groupBy : Opening " GROUP BY " .group [str "BY"] :=
  ⟨⟨_, rfl⟩, fun _ => rfl, fun _ => rfl, by decide⟩

theorem opening_orderBy : Opening " ORDER BY " .order [str "BY"] :=
  ⟨⟨_, rfl⟩, fun _ => rfl, fun _ => rfl, by decide⟩

theorem opening_limit : Opening " LIMIT " .limit [] :=
  ⟨⟨_, rfl⟩, fun _ => rfl, fun _ => rfl, by simp⟩

theorem opening_offset : Opening " OFFSET " .offset [] :=
  ⟨⟨_, rfl⟩, fun _ => rfl, fun _ => rfl, by simp⟩

theorem opening_returning : Opening " RETURNING " .returning [] :=
  ⟨⟨_, rfl⟩, fun _ => rfl, fun _ => rfl, by simp⟩

variable {c : Clause} {keyword : String}

theorem Opening.clauseText {words : List GoString} (h : Opening keyword c words) {body : GoString}
    (hbody : SqlScanning.closed body = true) (hfree : ∀ l ∈ scan [] body, clauseOf l = none) :
    ClauseText (str keyword ++ body) [(c, words ++ scan [] body)] := by
  obtain ⟨opening, spaced⟩ := h.spaced
  have hscan := h.scanned body
  have hresidue := h.residue body
  rw [spaced] at hscan hresidue ⊢
  exact .single hscan hresidue h.free hbody hfree

def conditionSection (c : Clause) (cs : List Condition) (b : Binder) :
    List (Clause × List GoString) :=
  if cs.isEmpty then [] else [(c, scan [] (render (buildConditions cs b).1))]

theorem parts_conditions (opening : Opening keyword c [])
    (boolean : ∀ ls, G.clauseOk c ls ↔ (SqlStatements.boolean ls).isSome = true)
    {cs : List Condition} (columns : allColumnsPass unreserved cs = true) (b : Binder) :
    Parts G [c] (render (conditionClause keyword cs b).1) (conditionSection c cs b)
      (allGrouped cs = true) := by
  have plain := plainColumns columns
  cases cs with
  | nil => exact ⟨.nil, List.nil_sublist _, by simp [conditionSection, allGrouped]⟩
  | cons d cs =>
    have lexes : LexesInto (fun l => clauseOf l = none)
        (render (buildConditions (d :: cs) b).1) := by
      have each := fun c hc => conditionSQL_lexes (p := unreserved) wording_clauseOf
        (fun column pass => Option.isNone_iff_eq_none.mp (Bool.and_eq_true_iff.mp pass).2)
        (fun column pass => (Bool.and_eq_true_iff.mp pass).1) c
        (allColumnsPass_iff.mp columns c hc)
      have joined := lexesInto_conditions ends_and (fun _ => breaks_space _)
        (wording_clauseOf.words _ (by decide)) each b
      simpa [buildConditions, render_join] using joined
    obtain ⟨ls, lexes, free⟩ := lexes
    have scanned : scan [] (render (buildConditions (d :: cs) b).1) = ls := by
      simpa [scan, flush] using lexes [] (by simp [Breaks])
    have text : render (conditionClause keyword (d :: cs) b).1 =
        str keyword ++ render (buildConditions (d :: cs) b).1 := by
      simp [conditionClause]
    rw [text]
    refine .single (opening.clauseText (closed_of_lexes lexes) (scanned ▸ free)) ?_
    rw [boolean, boolean_scan]
    exact parse_isSome_iff plain b (List.cons_ne_nil d cs)

theorem parts_list {words : List GoString} (opening : Opening keyword c words)
    {accepts : List GoString → Prop} (ok : ∀ names, accepts names → G.clauseOk c (words ++ names))
    {names : List GoString} (fits : names ≠ [] → Fits accepts (join (str ", ") names)) :
    ∃ found, Parts G [c] (render (listClause keyword names)) found True := by
  cases names with
  | nil => exact ⟨[], Parts.none c⟩
  | cons n names =>
    have given := fits (List.cons_ne_nil n names)
    have text : render (listClause keyword (n :: names)) =
        str keyword ++ join (str ", ") (n :: names) := by
      simp [listClause]
    rw [text]
    refine ⟨_, .single (opening.clauseText given.closed given.free) ?_⟩
    simp [ok _ given.accepted]

theorem parts_count (opening : Opening keyword c []) (ok : ∀ n : Int, G.clauseOk c [36 :: itoa n])
    (n : Int) (b : Binder) :
    ∃ found, Parts G [c] (render (countClause keyword n b).1) found True := by
  by_cases positive : 0 < n
  · have lexes := lexes_placeholder b.idx
    have scanned : scan [] (36 :: itoa b.idx) = [36 :: itoa b.idx] := by
      simpa [scan, flush] using lexes [] (by simp [Breaks])
    have clause := opening.clauseText (closed_of_lexes lexes)
      (by simpa [scanned] using clauseOf_placeholder b.idx)
    have text : render (countClause keyword n b).1 = str keyword ++ (36 :: itoa b.idx) := by
      simp [countClause, positive, Binder.bind]
    rw [text]
    exact ⟨_, Parts.single clause (by simp [scanned, ok])⟩
  · have text : render (countClause keyword n b).1 = [] := by simp [countClause, positive]
    rw [text]
    exact ⟨[], Parts.none c⟩

theorem parts_lock (forUpdate : Bool) : ∃ found,
    Parts G [.lock] (render (if forUpdate then [lit " FOR UPDATE"] else [])) found True := by
  cases forUpdate with
  | false => exact ⟨[], Parts.none .lock⟩
  | true =>
    refine ⟨[(.lock, [str "UPDATE"])], .single ⟨rfl, .inr ⟨_, rfl⟩, rfl, by decide⟩ ?_⟩
    simp [Grammar.clauseOk]

end Clauses

section Statements

variable {G : Grammar}

def selectHead (q : SelectQuery) : GoString :=
  render ([.text (if q.distinct then str "SELECT DISTINCT" else str "SELECT"), lit " ",
      .text (if q.columns.isEmpty then str "*" else join (str ", ") q.columns), lit " FROM ",
      .text q.table] ++
    q.joins.flatMap fun j =>
      [lit " ", .text j.type, lit " JOIN ", .text j.table, lit " ON ", .text j.on])

structure SelectFrame (G : Grammar) (q : SelectQuery) : Prop where
  head : Fits G.head (selectHead q)
  groupBy : q.groupBy ≠ [] → Fits G.names (join (str ", ") q.groupBy)
  orderBy : q.orderBy.map orderTerm ≠ [] →
    Fits G.terms (join (str ", ") (q.orderBy.map orderTerm))

def updateHead (ord : RangeOrder) (q : UpdateQuery) : GoString :=
  render ([lit "UPDATE ", .text q.table, lit " SET "] ++
    join [lit ", "] ((setParts (range ord 0 q.set) Binder.first).1 ++
      q.increment.map incrementPart))

structure UpdateFrame (G : Grammar) (ord : RangeOrder) (q : UpdateQuery) : Prop where
  head : Fits G.head (updateHead ord q)
  returning : q.returning ≠ [] → Fits G.names (join (str ", ") q.returning)

def deleteHead (q : DeleteQuery) : GoString :=
  if q.softDelete then str "UPDATE " ++ q.table ++ str " SET status = 'DELETED'"
  else str "DELETE FROM " ++ q.table

variable {allowed : List Clause} {cs : List Condition} {found : List (Clause × List GoString)}
  {post : List Value}

theorem lookup_filter {b : Binder} (order : (found.map Prod.fst).Sublist allowed)
    (other : Clause.filter ∉ allowed) :
    (conditionSection .filter cs b ++ found).lookup .filter =
      if cs.isEmpty then none else some (scan [] (render (buildConditions cs b).1)) := by
  have absent : found.lookup .filter = none := by
    rw [List.lookup_eq_none_iff]
    intro s hs
    have listed := order.subset (List.mem_map_of_mem hs)
    have different : Clause.filter ≠ s.1 := fun same => other (same ▸ listed)
    simpa using different
  rw [conditionSection]
  split_ifs
  · exact absent
  · rfl

theorem binds_within {D : Type} (P : Database D) (row : Row D) {pre vs : List Value} {first : Int}
    (hfirst : first = pre.length + 1) :
    Binds P ⟨row, fun n => if n < 1 then none
      else (((pre ++ vs ++ post)[(n - 1).toNat]?).map P.bound)⟩ first vs := by
  intro k v hv
  have position : (first + k - 1).toNat = pre.length + k := by omega
  have present : ¬first + (k : Int) < 1 := by omega
  have inside : k < vs.length := (List.getElem?_eq_some_iff.mp hv).1
  have found : (pre ++ vs ++ post)[pre.length + k]? = some v := by
    rw [List.append_assoc, List.getElem?_append_right (by omega), Nat.add_sub_cancel_left,
      List.getElem?_append_left inside, hv]
  simp only [present, ↓reduceIte, position, found, Option.map_some]

theorem rowTruth_eq {D : Type} {P : Database D} (zero : P.number 1 ≠ P.number 0) (row : Row D)
    {b : Binder} {args : List Value} (columns : allColumnsPass plainIdentifier cs = true)
    (hg : allGrouped cs = true) (read : sections (scan [] (head ++ tail)) =
      (scan [] head, conditionSection .filter cs b ++ found))
    (order : (found.map Prod.fst).Sublist allowed) (other : Clause.filter ∉ allowed)
    (hb : b.idx = b.args.length + 1) (hargs : args = b.args ++ conditionsValues cs ++ post) :
    rowTruth P row (head ++ tail) args = some (Truth.all (conditionsTruth P row cs)) := by
  rw [rowTruth, read, lookup_filter order other]
  cases cs with
  | nil => rfl
  | cons c cs =>
    obtain ⟨e, parsed, evals⟩ := parse_grouped columns b (List.cons_ne_nil c cs) hg P zero
    simp only [List.isEmpty_cons, Bool.false_eq_true, ↓reduceIte, boolean_scan, parsed,
      Option.bind_some]
    rw [hargs]
    exact evals _ (binds_within P row hb)

theorem sound_iff {built : SqlText × List Value} {b : Binder} {ok : Prop} (hhead : Fits G.head head)
    (columns : allColumnsPass unreserved cs = true)
    (text : render built.1 = head ++ (render (conditionClause " WHERE " cs b).1 ++ tail))
    (rest : Parts G allowed tail found ok)
    (ordered : (Clause.filter :: allowed).Pairwise fun c d => c.rank < d.rank)
    (hb : b.idx = b.args.length + 1) (hargs : built.2 = b.args ++ conditionsValues cs ++ post) :
    Sound G built cs ↔ allGrouped cs = true ∧ ok := by
  have filter := parts_conditions (G := G) opening_where (fun _ => Iff.rfl) columns b
  have parts := filter.append rest
  have accepted := accepts_iff hhead parts ordered
  have other : Clause.filter ∉ allowed := fun again =>
    absurd ((List.pairwise_cons.mp ordered).1 _ again) (lt_irrefl _)
  constructor
  · intro sound
    exact accepted.mp (text ▸ sound.wellFormed)
  · intro h
    refine ⟨text ▸ accepted.mpr h, fun D P zero row => ?_⟩
    rw [text]
    exact rowTruth_eq zero row (plainColumns columns) h.1
      (sections_statement hhead.closed hhead.free parts.text) rest.order other hb hargs

theorem select_sound_iff {q : SelectQuery} (frame : SelectFrame G q)
    (columns : allColumnsPass unreserved q.conditions = true)
    (columns' : allColumnsPass unreserved q.having = true) :
    Sound G (buildSelect q) q.conditions ↔
      allGrouped q.conditions = true ∧ allGrouped q.having = true := by
  obtain ⟨group, hgroup⟩ := parts_list (G := G) opening_groupBy
    (fun names h => ⟨names, rfl, h⟩) frame.groupBy
  obtain ⟨order, horder⟩ := parts_list (G := G) opening_orderBy
    (fun terms h => ⟨terms, rfl, h⟩) frame.orderBy
  have having := parts_conditions (G := G) opening_having (fun _ => Iff.rfl) columns'
    (conditionClause " WHERE " q.conditions Binder.first).2
  obtain ⟨limit, hlimit⟩ := parts_count (G := G) opening_limit (fun n => ⟨n, rfl⟩) q.limit
    (conditionClause " HAVING " q.having
      (conditionClause " WHERE " q.conditions Binder.first).2).2
  obtain ⟨offset, hoffset⟩ := parts_count (G := G) opening_offset (fun n => ⟨n, rfl⟩) q.offset
    (countClause " LIMIT " q.limit (conditionClause " HAVING " q.having
      (conditionClause " WHERE " q.conditions Binder.first).2).2).2
  obtain ⟨lock, hlock⟩ := parts_lock (G := G) q.forUpdate
  have rest := hgroup.append (having.append (horder.append (hlimit.append (hoffset.append hlock))))
  have args := (buildSelect_inOrder q).2
  rw [List.append_assoc, List.append_assoc, ← List.nil_append (conditionsValues q.conditions)]
    at args
  rw [sound_iff (b := Binder.first) frame.head columns ?_ rest (by decide) rfl args]
  · simp
  · simp only [buildSelect, selectHead, render_append, List.append_assoc]

theorem update_sound_iff {ord : RangeOrder} {q : UpdateQuery} (frame : UpdateFrame G ord q)
    (columns : allColumnsPass unreserved q.conditions = true) :
    Sound G (buildUpdate ord q) q.conditions ↔ allGrouped q.conditions = true := by
  obtain ⟨returning, rest⟩ := parts_list (G := G) opening_returning (fun _ h => h) frame.returning
  have set := setParts_emits (range ord 0 q.set) Binder.first
  have setArgs : (setParts (range ord 0 q.set) Binder.first).2.args =
      (range ord 0 q.set).map Prod.snd := set.args
  have args := (buildUpdate_inOrder ord q).2
  rw [← setArgs, ← List.append_nil (_ ++ _)] at args
  rw [sound_iff frame.head columns ?_ rest (by decide) ?_ args]
  · simp
  · simp only [buildUpdate, updateHead, render_append, List.append_assoc]
  · rw [set.idx, setArgs]
    simp [Binder.first, Int.add_comm]

theorem delete_sound_iff {q : DeleteQuery} (head : Fits G.head (deleteHead q))
    (columns : allColumnsPass unreserved q.conditions = true) :
    Sound G (buildDelete q) q.conditions ↔ allGrouped q.conditions = true := by
  have rest : Parts G [] [] [] True := ⟨.nil, List.nil_sublist _, by simp⟩
  have args := (buildDelete_inOrder q).2
  rw [← List.nil_append (conditionsValues q.conditions), ← List.append_nil (_ ++ _)] at args
  rw [sound_iff (b := Binder.first) head columns ?_ rest (by decide) rfl args]
  · simp
  · simp only [buildDelete, deleteHead]
    split_ifs <;> simp

end Statements

/-- For statements that are well-formed otherwise: SELECT, UPDATE and DELETE are
well-formed, with the meaning of their condition tree, exactly if no group of the tree
is empty. -/
theorem statements_sound_iff (G : Grammar) :
    (∀ q : SelectQuery, SelectFrame G q → allColumnsPass unreserved q.conditions = true →
      allColumnsPass unreserved q.having = true →
      (Sound G (buildSelect q) q.conditions ↔
        allGrouped q.conditions = true ∧ allGrouped q.having = true)) ∧
    (∀ (ord : RangeOrder) (q : UpdateQuery), UpdateFrame G ord q →
      allColumnsPass unreserved q.conditions = true →
      (Sound G (buildUpdate ord q) q.conditions ↔ allGrouped q.conditions = true)) ∧
    ∀ q : DeleteQuery, Fits G.head (deleteHead q) →
      allColumnsPass unreserved q.conditions = true →
      (Sound G (buildDelete q) q.conditions ↔ allGrouped q.conditions = true) :=
  ⟨fun _ frame columns columns' => select_sound_iff frame columns columns',
    fun _ _ frame columns => update_sound_iff frame columns,
    fun _ head columns => delete_sound_iff head columns⟩

def filledGrammar : Grammar := ⟨(· ≠ []), (· ≠ []), (· ≠ [])⟩

def itemsQuery (conditions : List Condition) : SelectQuery where
  table := str "items"
  conditions := conditions
  orderBy := [⟨str "name", false⟩]
  limit := 10

theorem itemsQuery_frame : SelectFrame filledGrammar (itemsQuery nestedConditions) where
  head := ⟨rfl, by decide +kernel, (by decide +kernel : scan [] (selectHead _) ≠ [])⟩
  groupBy none := absurd rfl none
  orderBy _ := ⟨rfl, by decide +kernel, (by decide +kernel : scan [] (join _ _) ≠ [])⟩

theorem statements_sound_items :
    Sound filledGrammar (buildSelect (itemsQuery nestedConditions)) nestedConditions ∧
    Sound filledGrammar (buildDelete { table := str "items", conditions := nestedConditions })
      nestedConditions := by
  have all := statements_sound_iff filledGrammar
  constructor
  · exact (all.1 (itemsQuery nestedConditions) itemsQuery_frame (by decide) rfl).mpr (by decide)
  · refine (all.2.2 { table := str "items", conditions := nestedConditions } ?_ (by decide)).mpr
      (by decide)
    exact ⟨rfl, by decide +kernel, (by decide +kernel : scan [] (deleteHead _) ≠ [])⟩

/-- An empty OR inside an AND: the server rejects the statement, though it means that no
row is kept. -/
theorem empty_or_rejected :
    render (buildSelect (itemsQuery [and [isNull (str "a"), or []]])).1 =
      str "SELECT * FROM items WHERE (a IS NULL AND ()) ORDER BY name ASC LIMIT $1" ∧
    (∀ G : Grammar,
      ¬G.Accepts (render (buildSelect (itemsQuery [and [isNull (str "a"), or []]])).1)) ∧
    ∀ (D : Type) (P : Database D) row,
      Truth.all (conditionsTruth P row [and [isNull (str "a"), or []]]) = .false := by
  refine ⟨by decide +kernel, fun G accepts => ?_, fun D P row => ?_⟩
  · have broken : ∃ s ∈ (sections (scan []
        (render (buildSelect (itemsQuery [and [isNull (str "a"), or []]])).1))).2,
        s.1 = .filter ∧ (boolean s.2).isSome = false := by decide +kernel
    obtain ⟨⟨c, ls⟩, hs, rfl, fails⟩ := broken
    have ok : (boolean ls).isSome = true := accepts.clauses _ hs
    rw [ok] at fails
    cases fails
  · simp only [conditionsTruth, conditionTruth, QueryModel.and, QueryModel.or, isNull,
      QueryModel.leaf]
    cases row (str "a") <;> rfl

end DxCommonGo.QueryStatements
