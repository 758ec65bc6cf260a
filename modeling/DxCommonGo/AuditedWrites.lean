import DxCommonGo.TableInserts

/-! The audit columns of map-based writes. Each operation is given its meaning on a row, and the
statements the DAO sends do exactly that: this decides when a changed row carries the actor and
keeps its creator. -/

namespace DxCommonGo.AuditedWrites
open GoStrings GoMaps DxErrors QueryModel QueryBuilder Programs PgxPool Transactions
open BaseDao DaoWrites QueryMeaning TableSemantics TableServer TableInserts

inductive MapWrite where
  | update (set : GoMap Value) (conditions : List Condition)
  | updateReturning (set : GoMap Value) (conditions : List Condition)
  | updateByIDs (ids : List GoString) (set : GoMap Value)
  | updateVersioned (set : GoMap Value) (conditions : List Condition) (versionCol : GoString)
      (expected : Int)
  | upsert (m : GoMap Value) (conflictColumn : GoString) (updateColumns : List GoString)

def MapWrite.given : MapWrite → GoMap Value
  | .update set _ | .updateReturning set _ | .updateByIDs _ set | .updateVersioned set _ _ _ => set
  | .upsert m _ _ => m

variable {D T ω : Type}

def failure : Result T → Option GoError
  | .ok _ => none
  | .error err => some err

def MapWrite.program (d : BaseDAO) (ord : RangeOrder) (ctx : Context) :
    MapWrite → GoProg T (Option GoError)
  | .update set conditions => d.update ord ctx set conditions
  | .updateReturning set conditions => do
    return failure (← d.updateReturning ord ctx set conditions)
  | .updateByIDs ids set => d.updateByIDs ord ctx ids set
  | .updateVersioned set conditions versionCol expected => do
    return failure (← d.updateVersioned ord set conditions versionCol expected)
  | .upsert m conflictColumn updateColumns => do
    return failure (← d.upsert ord ctx m conflictColumn updateColumns)

inductive Statement (D : Type) where
  | write (st : Write D)
  | insertion (st : Insertion D)

namespace Statement

def hits (E : Engine D) (defaults : Row D) : Statement D → Row D → Bool
  | .write st, row => satisfies E.toDatabase st.conditions row
  | .insertion st, row => st.hits (st.proposed E defaults) row

def effect (E : Engine D) (defaults : Row D) : Statement D → Row D → Row D
  | .write st, row => st.change row
  | .insertion st, row => st.merge (st.proposed E defaults) row

def after (E : Engine D) (defaults : Row D) : Statement D → List (Row D) → List (Row D)
  | .write st, rows => st.after E rows
  | .insertion st, rows => st.after (st.proposed E defaults) rows

theorem after_stored (E : Engine D) (defaults : Row D) (st : Statement D) (rows : List (Row D)) :
    ∃ added, st.after E defaults rows =
      (rows.map fun row => if st.hits E defaults row then st.effect E defaults row else row) ++
        added := by
  cases st with
  | write st => exact ⟨[], by rw [List.append_nil]; rfl⟩
  | insertion st => exact ⟨_, rfl⟩

end Statement

def updateOf (d : BaseDAO) (ctx : Context) (set : GoMap Value) (conditions : List Condition)
    (returning : List GoString) : UpdateQuery :=
  { table := d.tableName, set := d.auditUpdate ctx set, conditions, returning }

def upsertOf (d : BaseDAO) (ord : RangeOrder) (ctx : Context) (m : GoMap Value)
    (conflictColumn : GoString) (updateColumns : List GoString) : UpsertQuery where
  table := d.tableName
  columns := (splitMap ord (d.auditInsert ctx m)).1
  values := (splitMap ord (d.auditInsert ctx m)).2
  conflictColumn := conflictColumn
  updateColumns := d.auditUpdateColumns updateColumns
  returning := [str "*"]

def MapWrite.statement (E : Engine D) (d : BaseDAO) (ord : RangeOrder) (ctx : Context) :
    MapWrite → Statement D
  | .update set conditions => .write (updateWrite E ord (updateOf d ctx set conditions []))
  | .updateReturning set conditions =>
    .write (updateWrite E ord (updateOf d ctx set conditions [str "*"]))
  | .updateByIDs ids set =>
    .write (updateWrite E ord (updateOf d ctx set [isIn d.idColumn (idIn ids)] []))
  | .updateVersioned set conditions versionCol expected =>
    .write (updateWrite E ord
      { table := d.tableName, set, increment := [versionCol]
        conditions := conditions ++ [QueryModel.eq versionCol (.int expected)]
        returning := [str "*"] })
  | .upsert m conflictColumn updateColumns =>
    .insertion (upsertion E (upsertOf d ord ctx m conflictColumn updateColumns))

def MapWrite.fetches : MapWrite → Bool
  | .update _ _ | .updateByIDs _ _ => false
  | .updateReturning _ _ | .updateVersioned _ _ _ _ | .upsert _ _ _ => true

def Statement.Carried (B : Backend D T ω) (defaults : ω → Row D) (fetches : Bool) :
    Statement D → Prop
  | .write st => if fetches then B.Returns st else B.Applies st
  | .insertion st => Inserts B defaults st

def MapWrite.Carried (B : Backend D T ω) (defaults : ω → Row D) (d : BaseDAO) (ord : RangeOrder)
    (ctx : Context) : MapWrite → Prop
  | .updateByIDs [] _ => True
  | op => (op.statement B.engine d ord ctx).Carried B defaults op.fetches

section Meaning

def signature (columns : List GoString) (actor : Option GoString) (column : GoString) :
    Option Value :=
  if !column.isEmpty && columns.contains column then actor.map .str else none

def offered (E : Engine D) (d : BaseDAO) (actor : Option GoString) (defaults : Row D)
    (m : GoMap Value) : Row D := fun column =>
  ((m.lookup column).or (signature [d.auditCreatedBy, d.auditUpdatedBy] actor column)).elim
    (defaults column) E.scalar

def MapWrite.assigned (E : Engine D) (d : BaseDAO) (actor : Option GoString)
    (defaults row : Row D) (column : GoString) : MapWrite → Option (Option D)
  | .update set _ | .updateReturning set _ | .updateByIDs _ set =>
    ((set.lookup column).or (signature [d.auditUpdatedBy] actor column)).map E.scalar
  | .updateVersioned set _ versionCol _ =>
    ((set.lookup column).map E.scalar).or
      (if column = versionCol then some ((row column).map E.succ) else none)
  | .upsert m _ updateColumns =>
    if updateColumns.contains column || (!column.isEmpty && column == d.auditUpdatedBy) then
      some (offered E d actor defaults m column)
    else none

variable (d : BaseDAO) (ctx : Context)

theorem signature_or (column column' : GoString) (actor : Option GoString) (c : GoString) :
    (signature [column] actor c).or (signature [column'] actor c) =
      signature [column, column'] actor c := by
  simp only [signature, List.contains_cons, List.contains_nil, Bool.or_false]
  cases c.isEmpty <;> cases c == column <;> cases c == column' <;> cases actor <;> rfl

theorem lookup_fill (column actor : GoString) (m : GoMap Value) (c : GoString) :
    (fillActor column actor m).lookup c = (m.lookup c).or (signature [column] (some actor) c) := by
  rw [lookup_fillActor]
  by_cases same : c = column
  · subst same
    cases found : m.lookup c with
    | none =>
      have absent : c ∉ m := AList.lookup_eq_none.mp found
      cases c <;> simp [signature, absent]
    | some v =>
      have present : c ∈ m := AList.lookup_isSome.mp (by rw [found]; rfl)
      simp [present]
  · simp [signature, same]

theorem lookup_auditUpdate (set : GoMap Value) (c : GoString) :
    (d.auditUpdate ctx set).lookup c =
      (set.lookup c).or (signature [d.auditUpdatedBy] (actorFromContext ctx) c) := by
  rw [BaseDAO.auditUpdate]
  cases actorFromContext ctx with
  | none => simp [signature]
  | some actor => exact lookup_fill _ _ _ _

theorem lookup_auditInsert (m : GoMap Value) (c : GoString) :
    (d.auditInsert ctx m).lookup c = (m.lookup c).or
      (signature [d.auditCreatedBy, d.auditUpdatedBy] (actorFromContext ctx) c) := by
  rw [BaseDAO.auditInsert]
  cases actorFromContext ctx with
  | none => simp [signature]
  | some actor =>
    rw [lookup_fill, lookup_fill, Option.or_assoc, signature_or]

theorem contains_auditUpdateColumns (updateColumns : List GoString) (c : GoString) :
    (d.auditUpdateColumns updateColumns).contains c =
      (updateColumns.contains c || (!c.isEmpty && c == d.auditUpdatedBy)) := by
  rw [BaseDAO.auditUpdateColumns]
  by_cases off : d.auditUpdatedBy = [] ∨ updateColumns.any (· = d.auditUpdatedBy)
  · rw [if_pos off]
    cases listed : updateColumns.contains c with
    | true => rfl
    | false =>
      cases c with
      | nil => rfl
      | cons b c =>
        have other : ((b :: c) == d.auditUpdatedBy) = false := by
          rw [beq_eq_false_iff_ne]
          intro same
          rw [← same] at off
          simp at off listed
          exact listed off
        rw [other]
        rfl
  · rw [if_neg off, List.contains_append, List.contains_cons, List.contains_nil, Bool.or_false]
    rw [not_or] at off
    by_cases same : c = d.auditUpdatedBy
    · subst same
      simp [off.1]
    · rw [beq_false_of_ne same, Bool.and_false]

variable (E : Engine D)

theorem updated_eq (q : UpdateQuery) (row : Row D) (column : GoString) :
    updated E q row column =
      (((q.set.lookup column).map E.scalar).or
        (if q.increment.contains column then some ((row column).map E.succ) else none)).getD
          (row column) := by
  rw [updated]
  cases q.set.lookup column with
  | some v => rfl
  | none => cases q.increment.contains column <;> rfl

theorem updated_audited {set : GoMap Value} {q : UpdateQuery} (hset : q.set = d.auditUpdate ctx set)
    (hincrement : q.increment = []) (row : Row D) (column : GoString) :
    updated E q row column = (((set.lookup column).or
      (signature [d.auditUpdatedBy] (actorFromContext ctx) column)).map E.scalar).getD
        (row column) := by
  rw [updated_eq, hset, hincrement, lookup_auditUpdate, List.contains_nil,
    if_neg Bool.false_ne_true, Option.or_none]

theorem proposed_eq_offered (ord : RangeOrder) (defaults : Row D) (m : GoMap Value)
    {st : Insertion D} (hcolumns : st.columns = (splitMap ord (d.auditInsert ctx m)).1)
    (hvalues : st.values = (splitMap ord (d.auditInsert ctx m)).2) :
    st.proposed E defaults = offered E d (actorFromContext ctx) defaults m := by
  funext column
  rw [Insertion.proposed, hcolumns, hvalues, lookup_splitMap, lookup_auditInsert, offered]

theorem effect_eq_assigned (ord : RangeOrder) (defaults row : Row D) (op : MapWrite)
    (column : GoString) :
    (op.statement E d ord ctx).effect E defaults row column =
      (op.assigned E d (actorFromContext ctx) defaults row column).getD (row column) := by
  cases op with
  | update set conditions => exact updated_audited d ctx E rfl rfl row column
  | updateReturning set conditions => exact updated_audited d ctx E rfl rfl row column
  | updateByIDs ids set => exact updated_audited d ctx E rfl rfl row column
  | updateVersioned set conditions versionCol expected =>
    change updated E _ row column = _
    rw [updated_eq, MapWrite.assigned, List.contains_cons, List.contains_nil, Bool.or_false]
    simp only [beq_iff_eq]
  | upsert m conflictColumn updateColumns =>
    change excluded _ _ row column = _
    rw [proposed_eq_offered d ctx E ord defaults m rfl rfl, excluded, MapWrite.assigned]
    simp only [upsertOf, contains_auditUpdateColumns]
    split <;> rfl

end Meaning

section Run

variable {B : Backend D T ω} {defaults : ω → Row D} {st : Write D} (d : BaseDAO) (w : World ω)

theorem run_send (h : B.Applies st) :
    ∃ w', run (handler B.server) (d.send st.built) w = (.returned none, w') ∧
      B.rows w'.server = st.after B.engine (B.rows w.server) := by
  obtain ⟨w', answered, after⟩ := handler_applies d.db w h
  exact ⟨w', run_ask answered _, after⟩

theorem run_fetch (h : B.Returns st) {α : Type} {f : Except GoError (Rows T) → GoProg T α}
    (ends : ∀ out, ∃ a, f (.ok (scanned B.scan out)) = .ret a) :
    ∃ a w', run (handler B.server)
        (ask (.query d.db (render st.built.1) st.built.2) >>= f) w = (.returned a, w') ∧
      B.rows w'.server = st.after B.engine (B.rows w.server) := by
  obtain ⟨out, w', _, answered, after⟩ := handler_returns d.db w h
  obtain ⟨a, ended⟩ := ends out
  refine ⟨a, w', ?_, after⟩
  rw [run_ask answered, ended]
  rfl

theorem run_pure {α β : Type} {S : Server T ω} {p : GoProg T α} {a : α} {w w' : World ω}
    (h : run (handler S) p w = (.returned a, w')) (f : α → β) :
    run (handler S) (p >>= fun x => pure (f x)) w = (.returned (f a), w') := by
  rw [run_bind, h]
  rfl

theorem run_program (ord : RangeOrder) (ctx : Context) {op : MapWrite}
    (carried : op.Carried B defaults d ord ctx) :
    ∃ r w', run (handler B.server) (op.program d ord ctx) w = (.returned r, w') ∧
      B.rows w'.server = (op.statement B.engine d ord ctx).after B.engine (defaults w.server)
        (B.rows w.server) := by
  cases op with
  | update set conditions =>
    obtain ⟨w', sent, after⟩ := run_send d w carried
    exact ⟨none, w', sent, after⟩
  | updateReturning set conditions =>
    obtain ⟨r, w', sent, after⟩ : ∃ r w', run (handler B.server)
        (d.updateReturning ord ctx set conditions) w = (.returned r, w') ∧ _ :=
      run_fetch d w carried fun out => ⟨_, rfl⟩
    exact ⟨failure r, w', run_pure sent failure, after⟩
  | updateByIDs ids set =>
    cases ids with
    | nil =>
      -- the statement would have hit no row
      refine ⟨none, w, rfl, (List.map_id _).symm.trans ?_⟩
      exact List.map_congr_left fun row _ => rfl
    | cons id ids =>
      obtain ⟨w', sent, after⟩ := run_send d w carried
      exact ⟨none, w', sent, after⟩
  | updateVersioned set conditions versionCol expected =>
    obtain ⟨r, w', sent, after⟩ : ∃ r w', run (handler B.server)
        (d.updateVersioned ord set conditions versionCol expected) w = (.returned r, w') ∧ _ :=
      run_fetch d w carried fun out => by cases out <;> exact ⟨_, rfl⟩
    exact ⟨failure r, w', run_pure sent failure, after⟩
  | upsert m conflictColumn updateColumns =>
    obtain ⟨r, w', sent, after, _⟩ := run_sendReturning carried d w
    exact ⟨failure r, w', run_pure sent failure, after⟩

end Run

/-- The changed row carries the actor, unless the caller's map has a value for that
column, and keeps its creator. -/
structure Audited (E : Engine D) (d : BaseDAO) (actor : GoString) (op : MapWrite)
    (before after : Row D) : Prop where
  signed : d.auditUpdatedBy ≠ [] → d.auditUpdatedBy ∉ op.given →
    after d.auditUpdatedBy = some (E.encode (.str actor))
  creator : d.auditCreatedBy ≠ [] → after d.auditCreatedBy = before d.auditCreatedBy

/-- `UpdateVersioned` does not sign: the caller does, or the actor stands there
already. -/
def MapWrite.Signs (E : Engine D) (d : BaseDAO) (actor : GoString) (row : Row D) : MapWrite → Prop
  | .updateVersioned set _ versionCol _ =>
    d.auditUpdatedBy = [] ∨ d.auditUpdatedBy ∈ set ∨
      (if d.auditUpdatedBy = versionCol then (row d.auditUpdatedBy).map E.succ
        else row d.auditUpdatedBy) = some (E.encode (.str actor))
  | _ => True

section Audit

variable {E : Engine D} {d : BaseDAO} {actor : GoString} {row : Row D} {op : MapWrite}
  (defaults : Row D)

omit defaults in
theorem filled_own {columns : List GoString} {column : GoString} {m : GoMap Value}
    (on : column ≠ []) (listed : column ∈ columns) (absent : column ∉ m) :
    (m.lookup column).or (signature columns (some actor) column) = some (.str actor) := by
  have nonempty : column.isEmpty = false := by rwa [List.isEmpty_eq_false_iff]
  rw [AList.lookup_eq_none.mpr absent, Option.none_or, signature, nonempty,
    List.contains_iff_mem.mpr listed]
  rfl

theorem signed_iff :
    (d.auditUpdatedBy ≠ [] → d.auditUpdatedBy ∉ op.given →
      (op.assigned E d (some actor) defaults row d.auditUpdatedBy).getD (row d.auditUpdatedBy) =
        some (E.encode (.str actor))) ↔ op.Signs E d actor row := by
  cases op with
  | update set _ | updateReturning set _ | updateByIDs _ set =>
    refine iff_of_true (fun on absent => ?_) trivial
    rw [MapWrite.given] at absent
    rw [MapWrite.assigned, filled_own on List.mem_cons_self absent]
    rfl
  | updateVersioned set conditions versionCol expected =>
    simp only [MapWrite.Signs, MapWrite.given, MapWrite.assigned, or_iff_not_imp_left]
    refine forall_congr' fun _ => forall_congr' fun absent => ?_
    rw [AList.lookup_eq_none.mpr absent, Option.map_none, Option.none_or]
    split <;> rfl
  | upsert m conflictColumn updateColumns =>
    refine iff_of_true (fun on absent => ?_) trivial
    rw [MapWrite.given] at absent
    have taken : (updateColumns.contains d.auditUpdatedBy ||
        (!d.auditUpdatedBy.isEmpty && d.auditUpdatedBy == d.auditUpdatedBy)) = true := by
      simp [on]
    rw [MapWrite.assigned, if_pos taken, offered,
      filled_own on (List.mem_cons_of_mem _ List.mem_cons_self) absent]
    rfl

theorem creator_iff :
    (d.auditCreatedBy ≠ [] →
      (op.assigned E d (some actor) defaults row d.auditCreatedBy).getD (row d.auditCreatedBy) =
        row d.auditCreatedBy) ↔
      (d.auditCreatedBy = [] ∨
        ∀ x, op.assigned E d (some actor) defaults row d.auditCreatedBy = some x →
          x = row d.auditCreatedBy) := by
  rw [or_iff_not_imp_left]
  refine forall_congr' fun _ => ?_
  cases op.assigned E d (some actor) defaults row d.auditCreatedBy with
  | none => simp
  | some x => simp

end Audit

/-- The writes under an actor: every stored row that the statement hits is signed
and keeps its creator if and only if the operation signs and gives the creator's
column nothing new. -/
theorem audited_iff (B : Backend D T ω) (defaults : ω → Row D) (d : BaseDAO) (ord : RangeOrder)
    {ctx : Context} {actor : GoString} (acting : actorFromContext ctx = some actor) (op : MapWrite)
    (carried : op.Carried B defaults d ord ctx) (w : World ω) :
    ∃ r w' added, run (handler B.server) (op.program d ord ctx) w = (.returned r, w') ∧
      let st := op.statement B.engine d ord ctx
      B.rows w'.server =
        ((B.rows w.server).map fun row =>
          if st.hits B.engine (defaults w.server) row then
            st.effect B.engine (defaults w.server) row
          else row) ++ added ∧
      ∀ row, Audited B.engine d actor op row (st.effect B.engine (defaults w.server) row) ↔
        op.Signs B.engine d actor row ∧
        (d.auditCreatedBy = [] ∨ ∀ x,
          op.assigned B.engine d (some actor) (defaults w.server) row d.auditCreatedBy = some x →
            x = row d.auditCreatedBy) := by
  obtain ⟨r, w', ran, after⟩ := run_program d w ord ctx carried
  obtain ⟨added, stored⟩ := (op.statement B.engine d ord ctx).after_stored B.engine
    (defaults w.server) (B.rows w.server)
  refine ⟨r, w', added, ran, after.trans stored, fun row => ?_⟩
  rw [← signed_iff (defaults w.server), ← creator_iff, ← acting]
  simp only [← effect_eq_assigned d ctx B.engine ord]
  exact ⟨fun h => ⟨h.signed, h.creator⟩, fun h => ⟨h.1, h.2⟩⟩

section Items

def auditedItems : BaseDAO :=
  { db := .pool, tableName := str "items", auditCreatedBy := str "created_by"
    auditUpdatedBy := str "updated_by" }

def byAlice : Context := { actor := some (str "alice") }

def bobsItem : Row Value :=
  rowOf [str "id", str "name", str "version", str "created_by", str "updated_by"]
    [some (.str (str "7")), some (.str (str "old")), some (.int 1), some (.str (str "bob")),
      some (.str (str "bob"))]

def rename : GoMap Value := ofPairs [(str "name", .str (str "new"))]

def renameItem : MapWrite := .update rename [QueryModel.eq (str "id") (.str (str "7"))]

def renameVersioned : MapWrite :=
  .updateVersioned rename [QueryModel.eq (str "id") (.str (str "7"))] (str "version") 1

def itemsBackend (st : Write Value) : Backend Value (Row Value) (List (Row Value)) :=
  readerBackend id
    { write := fun _ _ => st
      returning := fun _ _ => some st
      select := fun _ _ => { table := [] } }

theorem renameItem_audited :
    let st := updateWrite valueEngine .listed (updateOf auditedItems byAlice rename
      [QueryModel.eq (str "id") (.str (str "7"))] [])
    ∃ r w', run (handler (itemsBackend st).server) (renameItem.program auditedItems .listed byAlice)
        ⟨[bobsItem], []⟩ = (.returned r, w') ∧
      Audited valueEngine auditedItems (str "alice") renameItem bobsItem (st.change bobsItem) := by
  intro st
  have acting : actorFromContext byAlice = some (str "alice") := rfl
  obtain ⟨r, w', _, ran, _, audited⟩ := audited_iff (itemsBackend st) (fun _ _ => none)
    auditedItems .listed acting renameItem (reader_applies id rfl) ⟨[bobsItem], []⟩
  refine ⟨r, w', ran, (audited bobsItem).mpr ⟨trivial, .inr fun x given => ?_⟩⟩
  cases given

/-- A versioned update by alice leaves bob in `updated_by`. -/
theorem renameVersioned_unsigned :
    let st := updateWrite valueEngine .listed
      { table := str "items", set := rename, increment := [str "version"]
        conditions := [QueryModel.eq (str "id") (.str (str "7")),
          QueryModel.eq (str "version") (.int 1)]
        returning := [str "*"] }
    run (handler (itemsBackend st).server)
        (renameVersioned.program auditedItems .listed byAlice) ⟨[bobsItem], []⟩ =
      (.returned none, ⟨[st.change bobsItem], []⟩) ∧
    st.change bobsItem (str "name") = some (.str (str "new")) ∧
    st.change bobsItem (str "updated_by") = some (.str (str "bob")) := by
  refine ⟨?_, ?_, ?_⟩ <;> rfl

end Items

end DxCommonGo.AuditedWrites
