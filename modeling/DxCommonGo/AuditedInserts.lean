import DxCommonGo.AuditedWrites

/-! Rows that are inserted from a map. An upsert sends the column of the last editor along whether
or not anybody acts, and an insert writes nil entries as NULL, whatever the column's default. -/

namespace DxCommonGo.AuditedInserts
open GoStrings GoMaps QueryModel Programs PgxPool Transactions
open BaseDao DaoWrites QueryMeaning TableSemantics TableServer TableInserts AuditedWrites

variable {D T ω : Type}

structure Frame (updateColumns : List GoString) (proposed before after : Row D) : Prop where
  listed : ∀ column ∈ updateColumns, after column = proposed column
  others : ∀ column, column ∉ updateColumns → after column = before column

def unsigned (E : Engine D) (defaults : Row D) (m : GoMap Value) : Row D := fun column =>
  (m.lookup column).elim (defaults column) E.scalar

theorem offered_unsigned (E : Engine D) (d : BaseDAO) (defaults : Row D) (m : GoMap Value) :
    offered E d none defaults m = unsigned E defaults m := by
  funext column
  simp [offered, unsigned, signature]

theorem frame_iff {d : BaseDAO} {updateColumns : List GoString} {proposed row : Row D} :
    Frame updateColumns proposed row (excluded (d.auditUpdateColumns updateColumns) proposed row) ↔
      d.auditUpdatedBy = [] ∨ d.auditUpdatedBy ∈ updateColumns ∨
        row d.auditUpdatedBy = proposed d.auditUpdatedBy := by
  have sent : ∀ column, excluded (d.auditUpdateColumns updateColumns) proposed row column =
      if column ∈ updateColumns ∨ column ≠ [] ∧ column = d.auditUpdatedBy then proposed column
      else row column := by
    intro column
    rw [excluded, contains_auditUpdateColumns]
    simp
  constructor
  · intro frame
    by_cases listed : d.auditUpdatedBy ∈ updateColumns
    · exact .inr (.inl listed)
    · by_cases on : d.auditUpdatedBy = []
      · exact .inl on
      · have kept := frame.others d.auditUpdatedBy listed
        rw [sent, if_pos (.inr ⟨on, rfl⟩)] at kept
        exact .inr (.inr kept.symm)
  · intro harmless
    refine ⟨fun column listed => ?_, fun column unlisted => ?_⟩
    · rw [sent, if_pos (.inl listed)]
    · rw [sent]
      split
      · rename_i taken
        obtain listed | ⟨on, rfl⟩ := taken
        · exact absurd listed unlisted
        · rcases harmless with off | listed | same
          · exact absurd off on
          · exact absurd listed unlisted
          · exact same.symm
      · rfl

/-- An upsert without an actor, for every conflicting row. -/
theorem upsert_frame_iff (B : Backend D T ω) (defaults : ω → Row D) (d : BaseDAO)
    (ord : RangeOrder) {ctx : Context} (idle : actorFromContext ctx = none) (m : GoMap Value)
    (conflictColumn : GoString) (updateColumns : List GoString)
    (carried : Inserts B defaults
      (upsertion B.engine (upsertOf d ord ctx m conflictColumn updateColumns))) (w : World ω) :
    ∃ r w' added,
      run (handler B.server) (d.upsert ord ctx m conflictColumn updateColumns) w =
        (.returned r, w') ∧
      let st := upsertion B.engine (upsertOf d ord ctx m conflictColumn updateColumns)
      let proposed := unsigned B.engine (defaults w.server) m
      B.rows w'.server =
        ((B.rows w.server).map fun row =>
          if st.hits proposed row then st.merge proposed row else row) ++ added ∧
      ∀ row, Frame updateColumns proposed row (st.merge proposed row) ↔
        d.auditUpdatedBy = [] ∨ d.auditUpdatedBy ∈ updateColumns ∨
          row d.auditUpdatedBy = proposed d.auditUpdatedBy := by
  obtain ⟨r, w', ran, after, _⟩ := run_sendReturning carried d w
  rw [proposed_eq_offered d ctx B.engine ord (defaults w.server) m rfl rfl, idle,
    offered_unsigned] at after
  exact ⟨r, w', _, ran, after, fun row => frame_iff⟩

def renamed : GoMap Value := ofPairs [(str "id", .str (str "7")), (str "name", .str (str "new"))]

def noDefaults : Row Value := fun _ => none

def renameUpsert (updateColumns : List GoString) : Insertion Value :=
  upsertion valueEngine (upsertOf auditedItems .listed {} renamed (str "id") updateColumns)

theorem upsert_frame_listed :
    let st := renameUpsert [str "name", str "updated_by"]
    ∃ r w', run (handler (insertBackend id noDefaults st).server)
        (auditedItems.upsert .listed {} renamed (str "id") [str "name", str "updated_by"])
        ⟨[bobsItem], []⟩ = (.returned r, w') ∧
      Frame [str "name", str "updated_by"] (unsigned valueEngine noDefaults renamed) bobsItem
        (st.merge (unsigned valueEngine noDefaults renamed) bobsItem) := by
  intro st
  obtain ⟨r, w', _, ran, _, frame⟩ := upsert_frame_iff (insertBackend id noDefaults st)
    (fun _ => noDefaults) auditedItems .listed rfl renamed (str "id")
    [str "name", str "updated_by"] (insertBackend_inserts id noDefaults st) ⟨[bobsItem], []⟩
  exact ⟨r, w', ran, (frame bobsItem).mpr (.inr (.inl (by decide)))⟩

/-- Nobody acts and only the name is to change, but bob is gone from `updated_by`. -/
theorem upsert_clears_editor :
    let st := renameUpsert [str "name"]
    let row := st.merge (st.proposed valueEngine noDefaults) bobsItem
    run (handler (insertBackend id noDefaults st).server)
        (auditedItems.upsert .listed {} renamed (str "id") [str "name"]) ⟨[bobsItem], []⟩ =
      (.returned (.ok row), ⟨[row], []⟩) ∧
    bobsItem (str "updated_by") = some (.str (str "bob")) ∧ row (str "updated_by") = none := by
  refine ⟨?_, ?_, ?_⟩ <;> rfl

section Insert

variable (E : Engine D) (d : BaseDAO)

/-- The row that `InsertMap` is to store: the entries that are not nil, the audit
columns the map leaves out, and defaults. -/
def stored (actor : Option GoString) (defaults : Row D) (m : GoMap Value) : Row D := fun column =>
  match m.lookup column with
  | some .nil => defaults column
  | some v => E.scalar v
  | none =>
    (signature [d.auditCreatedBy, d.auditUpdatedBy] actor column).elim (defaults column) E.scalar

variable {E d}

end Insert

def noted : GoMap Value := ofPairs [(str "id", .str (str "7")), (str "note", .nil)]

end DxCommonGo.AuditedInserts
