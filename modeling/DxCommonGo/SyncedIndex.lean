import DxCommonGo.SyncRefinement

/-! `Sync` from the first batch to the last. A run without an error has written the stream; if every
request is answered, there is such a run. -/

namespace DxCommonGo.SyncedIndex
open GoStrings GoMaps DxErrors GoUtf8 Programs BulkIndexing IndexSync
open SyncRefinement

variable {J : Type}

section Returned

variable {dest : Destination J} {weather : Nat → Moment} {ord : RangeOrder} {cfg : SyncConfig}
  {site : Nat} {rep rep' : Report} {w w' : World J} {batch : List (Doc J)} {rest : Source J}

theorem syncBatch_returned (some : batch ≠ [])
    (done : run (handler dest weather) (syncBatch ord cfg site rep batch) w =
      (.returned (.ok rep'), w')) :
    ∃ stats u, run (handler dest weather)
        (bulkDo ord cfg.index (batchOps ord site batch) cfg.maxAttempts) w =
          (.returned (.ok stats), u) ∧ rep' = rep.add stats ∧ w'.docs = u.docs := by
  obtain ⟨d, batch, rfl⟩ := List.exists_cons_of_ne_nil some
  obtain ⟨result, u, bulk, done⟩ := run_bind_returned.mp done
  cases result with
  | error err => cases done
  | ok stats =>
    dsimp only at done
    split_ifs at done
    · cases done
      exact ⟨stats, u, bulk, rfl, rfl⟩
    · cases done
      exact ⟨stats, w', bulk, rfl, rfl⟩

theorem syncBatch_encodes (ids : ∀ d ∈ batch, d.id ≠ [])
    (done : run (handler dest weather) (syncBatch ord cfg site rep batch) w =
      (.returned (.ok rep'), w')) : Encodes batch := by
  by_cases none : batch = []
  · subst none
    exact nofun
  · obtain ⟨stats, u, bulk, -⟩ := syncBatch_returned none done
    obtain ⟨payload, -, -, encoded, -⟩ :=
      bulkDo_returned_ok (batchOps_ne_nil ids none ord site) bulk
    exact (encodes_iff ids ord site cfg.index).mpr ⟨payload, encoded⟩

theorem syncBatch_applied (ids : ∀ d ∈ batch, d.id ≠ [] ∧ validString d.id = true)
    (done : run (handler dest weather) (syncBatch ord cfg site rep batch) w =
      (.returned (.ok rep'), w')) (accepted : rep'.failed = 0) :
    rep.failed = 0 ∧ Counted [batch] rep rep' ∧ Applied batch w.docs w'.docs := by
  by_cases none : batch = []
  · subst none
    cases done
    exact ⟨accepted, ⟨rfl, rfl⟩, .nil _⟩
  · obtain ⟨stats, u, bulk, rfl, docs⟩ := syncBatch_returned none done
    obtain ⟨before, stated⟩ : rep.failed = 0 ∧ stats.failed = 0 := Nat.add_eq_zero_iff.mp accepted
    have some := batchOps_ne_nil (fun d mem => (ids d mem).1) none ord site
    obtain ⟨payload, -, -, encoded, -⟩ := bulkDo_returned_ok some bulk
    obtain ⟨ps, rfl, count, applied⟩ := batch_payload ids encoded
    obtain ⟨indexed, docs', after, others⟩ := bulkDo_writes some encoded bulk stated
    refine ⟨before, ⟨?_, ?_⟩, ?_⟩
    · simp [Report.add, none]
    · rw [List.map_singleton, List.sum_singleton, ← count, ← indexed]
      rfl
    · rw [docs, after]
      exact applied _ _ others

theorem ifLive_returned {round : BulkProg J (Report × Option GoError)}
    (done : run (handler dest weather) (ifLive rep round) w = (.returned (rep', none), w')) :
    ∃ u, u.docs = w.docs ∧ run (handler dest weather) round u = (.returned (rep', none), w') := by
  obtain ⟨live, u, asked, done⟩ := run_bind_returned.mp done
  cases live with
  | some err => cases done
  | none => exact ⟨u, (congrArg (fun r => r.2.docs) asked).symm, done⟩

theorem syncFrom_fails {err : GoError}
    (done : run (handler dest weather) (syncFrom ord cfg site rep (.fails err)) w =
      (.returned (rep', none), w')) : False := by
  obtain ⟨u, -, done⟩ := ifLive_returned done
  cases done

theorem syncFrom_last
    (done : run (handler dest weather) (syncFrom ord cfg site rep (.last batch)) w =
      (.returned (rep', none), w')) :
    ∃ u, u.docs = w.docs ∧ run (handler dest weather) (syncBatch ord cfg site rep batch) u =
      (.returned (.ok rep'), w') := by
  obtain ⟨u, docs, done⟩ := ifLive_returned done
  obtain ⟨result, v, sent, done⟩ := run_bind_returned.mp done
  cases result with
  | error err => cases done
  | ok rep =>
    cases done
    exact ⟨u, docs, sent⟩

theorem syncFrom_more
    (done : run (handler dest weather) (syncFrom ord cfg site rep (.more batch rest)) w =
      (.returned (rep', none), w')) :
    ∃ u v between, u.docs = w.docs ∧
      run (handler dest weather) (syncBatch ord cfg site rep batch) u =
        (.returned (.ok between), v) ∧
      run (handler dest weather) (syncFrom ord cfg (site + 1) between rest) v =
        (.returned (rep', none), w') := by
  obtain ⟨u, docs, done⟩ := ifLive_returned done
  obtain ⟨result, v, sent, done⟩ := run_bind_returned.mp done
  cases result with
  | error err => cases done
  | ok between => exact ⟨u, v, between, docs, sent, done⟩

def Complete : Source J → Prop
  | .last batch => Encodes batch
  | .more batch rest => Encodes batch ∧ Complete rest
  | .fails _ => False

theorem syncFrom_complete {src : Source J} (ids : ∀ batch ∈ batches src, ∀ d ∈ batch, d.id ≠ [])
    (done : run (handler dest weather) (syncFrom ord cfg site rep src) w =
      (.returned (rep', none), w')) : Complete src := by
  induction src generalizing site rep w with
  | fails err => exact syncFrom_fails done
  | last batch =>
    obtain ⟨u, -, sent⟩ := syncFrom_last done
    exact syncBatch_encodes (ids batch List.mem_cons_self) sent
  | more batch rest ih =>
    obtain ⟨u, v, between, -, sent, done⟩ := syncFrom_more done
    exact ⟨syncBatch_encodes (ids batch List.mem_cons_self) sent,
      ih (fun batch mem => ids batch (List.mem_cons_of_mem _ mem)) done⟩

/-- The induction over the stream: what the rest of it writes goes over what is there. -/
theorem syncFrom_applied {src : Source J}
    (ids : ∀ batch ∈ batches src, ∀ d ∈ batch, d.id ≠ [] ∧ validString d.id = true)
    (done : run (handler dest weather) (syncFrom ord cfg site rep src) w =
      (.returned (rep', none), w')) (accepted : rep'.failed = 0) :
    rep.failed = 0 ∧ Counted (batches src) rep rep' ∧
      Applied (batches src).flatten w.docs w'.docs := by
  induction src generalizing site rep w with
  | fails err => exact (syncFrom_fails done).elim
  | last batch =>
    obtain ⟨u, docs, sent⟩ := syncFrom_last done
    obtain ⟨before, counted, applied⟩ :=
      syncBatch_applied (ids batch List.mem_cons_self) sent accepted
    rw [docs] at applied
    refine ⟨before, counted, ?_⟩
    rw [batches, List.flatten_singleton]
    exact applied
  | more batch rest ih =>
    obtain ⟨u, v, between, docs, sent, done⟩ := syncFrom_more done
    obtain ⟨later, countedRest, appliedRest⟩ :=
      ih (fun batch mem => ids batch (List.mem_cons_of_mem _ mem)) done
    obtain ⟨before, counted, applied⟩ :=
      syncBatch_applied (ids batch List.mem_cons_self) sent later
    rw [docs] at applied
    exact ⟨before, counted.cons countedRest, applied.append appliedRest⟩

end Returned

section Rounds

variable {h : Handler (Op J) Reply (World J)} {ord : RangeOrder} {cfg : SyncConfig} {site : Nat}
  {rep : Report} {w : World J}

/-- The context stays live, and the hook leaves the index alone. -/
structure Live (h : Handler (Op J) Reply (World J)) : Prop where
  ctxErr : ∀ w, h .ctxErr w = (none, { w with clock := w.clock + 1 })
  onBatch : ∀ stats w, (h (.onBatch stats) w).2.docs = w.docs

theorem run_ifLive (live : Live h) (round : BulkProg J (Report × Option GoError)) :
    run h (ifLive rep round) w = run h round { w with clock := w.clock + 1 } := by
  have asked : run h (perform Op.ctxErr) w =
      (.returned none, { w with clock := w.clock + 1 }) := by
    change (Ending.returned (h .ctxErr w).1, (h .ctxErr w).2) = _
    rw [live.ctxErr]
  change run h (perform Op.ctxErr >>= _) w = _
  rw [run_bind, asked]
  rfl

theorem run_syncBatch (live : Live h) {d : Doc J} {batch : List (Doc J)} {stats : BulkStats}
    {u : World J} (bulk : run h (bulkDo ord cfg.index (batchOps ord site (d :: batch))
      cfg.maxAttempts) w = (.returned (.ok stats), u)) :
    ∃ w', run h (syncBatch ord cfg site rep (d :: batch)) w =
        (.returned (.ok (rep.add stats)), w') ∧ w'.docs = u.docs := by
  rw [syncBatch]
  change ∃ w', run h (bulkDo _ _ _ _ >>= _) w = _ ∧ _
  rw [run_bind, bulk]
  dsimp only [Ending.andThen]
  split_ifs
  · exact ⟨_, rfl, live.onBatch stats u⟩
  · exact ⟨_, rfl, rfl⟩

def Rounds (Good : List (Doc J) → Prop) : Source J → Prop
  | .last batch => Good batch
  | .more batch rest => Good batch ∧ Rounds Good rest
  | .fails _ => False

theorem run_syncFrom (live : Live h) {P : Report → GoMap J → Prop}
    {Good : List (Doc J) → Prop}
    (round : ∀ batch, Good batch → ∀ site rep w, P rep w.docs →
      ∃ rep' w', run h (syncBatch ord cfg site rep batch) w = (.returned (.ok rep'), w') ∧
        P rep' w'.docs)
    {src : Source J} (rounds : Rounds Good src) (start : P rep w.docs) :
    ∃ rep' w', run h (syncFrom ord cfg site rep src) w = (.returned (rep', none), w') ∧
      P rep' w'.docs := by
  induction src generalizing site rep w with
  | fails err => exact rounds.elim
  | last batch =>
    obtain ⟨rep', w', sent, kept⟩ := round batch rounds site rep
      { w with clock := w.clock + 1 } start
    refine ⟨rep', w', ?_, kept⟩
    rw [syncFrom, run_ifLive live]
    change run h (syncBatch ord cfg site rep batch >>= _) _ = _
    rw [run_bind, sent]
    rfl
  | more batch rest ih =>
    obtain ⟨between, v, sent, kept⟩ := round batch rounds.1 site rep
      { w with clock := w.clock + 1 } start
    obtain ⟨rep', w', later, kept'⟩ := @ih (site + 1) between v rounds.2 kept
    refine ⟨rep', w', ?_, kept'⟩
    rw [syncFrom, run_ifLive live]
    change run h (syncBatch ord cfg site rep batch >>= _) _ = _
    rw [run_bind, sent]
    exact later

end Rounds

section Answered

variable {dest : Destination J} {ord : RangeOrder} {cfg : SyncConfig} {site : Nat} {rep : Report}
  {w : World J} {batch : List (Doc J)}

def calm : Nat → Moment := fun _ => ⟨none, 0, none, ⟨[], .ok (.ok fun _ => none)⟩⟩

theorem calm_live : Live (handler dest calm) where
  ctxErr _ := rfl
  onBatch _ _ := rfl

def AllValid (docs : GoMap J) : Prop := ∀ id ∈ docs, validString id = true

theorem calm_bulkDo {index : GoString} {ops : List (BulkOp J)} {maxAttempts : Int}
    {payload : List (Edit J)} (some : ops ≠ [])
    (encoded : ops.mapM (BulkOp.edit index) = .ok payload) :
    ∃ stats w', run (handler dest calm) (bulkDo ord index ops maxAttempts) w =
        (.returned (.ok stats), w') ∧ stats.failed = 0 ∧
      w'.docs = dest.carryOut payload w.docs fun _ => true := by
  obtain ⟨failed, -⟩ := foldl_items ord (fun _ => none) payload.zipIdx {}
  have ran := @run_bulkDo_answered _ _ (handler dest calm) w _ _ index _ payload _
    some encoded rfl rfl ord maxAttempts
  exact ⟨_, _, ran, failed.trans (by simp), rfl⟩

theorem allValid_carryOut (ids : ∀ d ∈ batch, d.id ≠ []) {index : GoString}
    {payload : List (Edit J)} {docs : GoMap J}
    (encoded : (batchOps ord site batch).mapM (BulkOp.edit index) = .ok payload)
    (valid : AllValid docs) : AllValid (dest.carryOut payload docs fun _ => true) := by
  rw [batchOps_eq ids] at encoded
  obtain ⟨ps, -, rfl⟩ := mapM_indexOp encoded
  have same : (ps.map fun p => (⟨coerce index, coerce p.1, .index p.2⟩ : Edit J)) =
      writes (coerce index) (ps.map fun p => (coerce p.1, p.2)) := by
    rw [writes, List.map_map]
    rfl
  rw [same, carryOut_all fun _ _ => rfl]
  intro id mem
  obtain old | new := mem_insertAll mem
  · exact valid id old
  · rw [List.map_map] at new
    obtain ⟨p, -, rfl⟩ := List.mem_map.mp new
    exact validString_coerce p.1

theorem calm_syncBatch (ids : ∀ d ∈ batch, d.id ≠ []) (encodes : Encodes batch)
    (valid : AllValid w.docs) :
    ∃ rep' w', run (handler dest calm) (syncBatch ord cfg site rep batch) w =
        (.returned (.ok rep'), w') ∧ rep'.failed = rep.failed ∧ AllValid w'.docs := by
  by_cases none : batch = []
  · subst none
    exact ⟨rep, w, rfl, rfl, valid⟩
  · obtain ⟨payload, encoded⟩ := (encodes_iff ids ord site cfg.index).mp encodes
    obtain ⟨stats, u, bulk, failed, docs⟩ := @calm_bulkDo J dest ord w cfg.index
      (batchOps ord site batch) cfg.maxAttempts payload (batchOps_ne_nil ids none ord site) encoded
    have after : AllValid u.docs := docs ▸ allValid_carryOut ids encoded valid
    have failed : (rep.add stats).failed = rep.failed := congrArg (rep.failed + ·) failed
    obtain ⟨d, batch, rfl⟩ := List.exists_cons_of_ne_nil none
    obtain ⟨w', ended, docs'⟩ := run_syncBatch calm_live bulk
    exact ⟨_, w', ended, failed, docs' ▸ after⟩

theorem rounds_of_complete {src : Source J}
    (ids : ∀ batch ∈ batches src, ∀ d ∈ batch, d.id ≠ []) (complete : Complete src) :
    Rounds (fun batch => (∀ d ∈ batch, d.id ≠ []) ∧ Encodes batch) src := by
  induction src with
  | fails err => exact complete.elim
  | last batch => exact ⟨ids batch List.mem_cons_self, complete⟩
  | more batch rest ih =>
    exact ⟨⟨ids batch List.mem_cons_self, complete.1⟩,
      ih (fun batch mem => ids batch (List.mem_cons_of_mem _ mem)) complete.2⟩

theorem calm_syncFrom {src : Source J} (ids : ∀ batch ∈ batches src, ∀ d ∈ batch, d.id ≠ [])
    (complete : Complete src) (valid : AllValid w.docs) :
    ∃ rep' w', run (handler dest calm) (syncFrom ord cfg site rep src) w =
        (.returned (rep', none), w') ∧ rep'.failed = rep.failed ∧ AllValid w'.docs := by
  have start : rep.failed = rep.failed ∧ AllValid w.docs := ⟨rfl, valid⟩
  refine @run_syncFrom J _ ord cfg site rep w calm_live
    (fun rep' docs => rep'.failed = rep.failed ∧ AllValid docs) _ ?_ src
    (rounds_of_complete ids complete) start
  rintro batch ⟨ids, encodes⟩ site between v ⟨failed, valid⟩
  obtain ⟨rep', w', sent, failed', valid'⟩ := @calm_syncBatch J dest ord cfg site between v batch
    ids encodes valid
  exact ⟨rep', w', sent, failed'.trans failed, valid'⟩

end Answered

def keyed : Destination J where
  apply docs e :=
    match e.change with
    | .index doc => docs.insert e.id doc
    | _ => docs
  index _ _ _ _ := rfl

/-- Whenever `Sync` returns without an error and reports no failed item, the index holds what
the stream says and the report counts it: if and only if the ids are valid UTF-8, as far as
the source can be synced at all. -/
theorem sync_exact_iff (src : Source J) (ids : ∀ batch ∈ batches src, ∀ d ∈ batch, d.id ≠ []) :
    (∀ dest weather ord cfg w w' rep,
      run (handler dest weather) (sync ord cfg src) w = (.returned (rep, none), w') →
      rep.failed = 0 →
      Applied (batches src).flatten w.docs w'.docs ∧ Counted (batches src) {} rep) ↔
    (Complete src → ∀ batch ∈ batches src, ∀ d ∈ batch, validString d.id = true) := by
  constructor
  · intro exact complete batch mem d inside
    -- From an empty index, with every request answered.
    obtain ⟨rep, w', done, failed, valid⟩ := @calm_syncFrom J keyed .listed { index := [] } 1 {}
      ⟨0, ∅⟩ src ids complete nofun
    obtain ⟨applied, -⟩ := exact keyed calm .listed { index := [] } ⟨0, ∅⟩ w' rep done failed
    have listed : d.id ∈ (batches src).flatten.map Doc.id :=
      List.mem_map_of_mem (List.mem_flatten.mpr ⟨batch, mem, inside⟩)
    have given : lastBody (batches src).flatten d.id ≠ none := fun none =>
      lastBody_eq_none.mp none listed
    obtain ⟨body, last⟩ := Option.ne_none_iff_exists'.mp given
    obtain ⟨doc, -, found⟩ := applied.written d.id body last
    exact valid d.id (AList.lookup_isSome.mp (Option.isSome_iff_exists.mpr ⟨doc, found⟩))
  · intro valid dest weather ord cfg w w' rep done accepted
    have valid := valid (syncFrom_complete ids done)
    obtain ⟨-, counted, applied⟩ := syncFrom_applied
      (fun batch mem d inside => ⟨ids batch mem d inside, valid batch mem d inside⟩) done accepted
    exact ⟨applied, counted⟩

def repeated : Source Nat :=
  .more [⟨str "a", .ok 1⟩, ⟨str "b", .ok 2⟩, ⟨str "a", .ok 3⟩] (.last [⟨str "b", .ok 4⟩])

def broken : Nat → Moment := fun n =>
  if n = 2 then ⟨none, 0, none, ⟨[fun _ => true], .error (.unreachable (errorsNew (str "EOF")))⟩⟩
  else calm n

/-- A lost response, and the maps visited backwards. -/
theorem repeated_synced :
    ∃ rep w', run (handler keyed broken) (sync .backwards { index := str "items" } repeated)
        ⟨0, ∅⟩ = (.returned (rep, none), w') ∧ rep.failed = 0 ∧
      Applied (batches repeated).flatten ∅ w'.docs ∧ Counted (batches repeated) {} rep := by
  refine ⟨_, _, rfl, ?_⟩
  refine ⟨rfl, ?_⟩
  exact (sync_exact_iff repeated (by decide)).mpr (fun _ => by decide) keyed broken .backwards
    { index := str "items" } ⟨0, ∅⟩ _ _ rfl rfl

/-- Two ids that are no UTF-8 become one, and neither of them is in the index. -/
theorem invalid_ids_lost :
    ∃ rep w', run (handler keyed calm) (sync .listed { index := str "items" }
        (.last [⟨[0xff], .ok 1⟩, ⟨[0xfe], .ok 2⟩])) ⟨0, ∅⟩ = (.returned (rep, none), w') ∧
      rep.failed = 0 ∧ rep.indexed = 2 ∧ w'.docs.lookup [0xff] = none ∧
      w'.docs.lookup [0xfe] = none ∧ w'.docs.keys = [replacement] := by
  refine ⟨_, _, rfl, ?_⟩
  exact ⟨rfl, rfl, rfl, rfl, rfl⟩

end DxCommonGo.SyncedIndex
