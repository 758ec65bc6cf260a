import DxCommonGo.IndexSync
import Mathlib.Data.List.Dedup

/-! What `Sync` leaves in the index, compared with the documents written one after the other: the
last body of each id, whatever the batches, map orders and resent requests. -/

namespace DxCommonGo.SyncRefinement
open GoStrings GoMaps GoErrors DxErrors GoUtf8 Programs RetryLoop EsClient BulkIndexing IndexSync

variable {J : Type}

def batches : Source J → List (List (Doc J))
  | .last batch => [batch]
  | .more batch rest => batch :: batches rest
  | .fails _ => []

def lastBody (stream : List (Doc J)) (id : GoString) : Option (Except GoError J) :=
  (stream.filter (·.id = id)).getLast?.map Doc.body

/-- The index holds the last bodies of the stream, and is unchanged otherwise. -/
structure Applied (stream : List (Doc J)) (docs docs' : GoMap J) : Prop where
  written : ∀ id body, lastBody stream id = some body →
    ∃ doc, body = .ok doc ∧ docs'.lookup id = some doc
  kept : ∀ id, id ∉ stream.map Doc.id → docs'.lookup id = docs.lookup id

structure Counted (sent : List (List (Doc J))) (rep rep' : Report) : Prop where
  batches : rep'.batches = rep.batches + sent.countP fun batch => !batch.isEmpty
  indexed : rep'.indexed = rep.indexed + (sent.map fun batch =>
    (batch.map Doc.id).dedup.length).sum

theorem Counted.cons {batch : List (Doc J)} {rest : List (List (Doc J))} {rep rep' rep'' : Report}
    (first : Counted [batch] rep rep') (second : Counted rest rep' rep'') :
    Counted (batch :: rest) rep rep'' := by
  refine ⟨?_, ?_⟩
  · rw [second.batches, first.batches, List.countP_cons, List.countP_cons, List.countP_nil]
    omega
  · rw [second.indexed, first.indexed, List.map_cons, List.sum_cons, List.map_cons,
      List.sum_cons, List.map_nil, List.sum_nil]
    omega

theorem lastBody_append (s t : List (Doc J)) (id : GoString) :
    lastBody (s ++ t) id = (lastBody t id).or (lastBody s id) := by
  rw [lastBody, List.filter_append, List.getLast?_append, Option.map_or]
  rfl

variable {id index : GoString} {ord : RangeOrder} {payload : List (Edit J)} {stats : BulkStats}

theorem lastBody_eq_none {stream : List (Doc J)} :
    lastBody stream id = none ↔ id ∉ stream.map Doc.id := by
  simp only [lastBody, Option.map_eq_none_iff, List.getLast?_eq_none_iff, List.filter_eq_nil_iff,
    decide_eq_true_eq, List.mem_map, not_exists, not_and]

theorem Applied.nil (docs : GoMap J) : Applied [] docs docs := ⟨nofun, fun _ _ => rfl⟩

theorem Applied.append {s t : List (Doc J)} {docs docs' docs'' : GoMap J}
    (first : Applied s docs docs') (second : Applied t docs' docs'') :
    Applied (s ++ t) docs docs'' := by
  refine ⟨fun id body last => ?_, fun id absent => ?_⟩
  · rw [lastBody_append] at last
    cases later : lastBody t id with
    | some body' =>
      rw [later, Option.some_or] at last
      exact second.written id body (later.trans last)
    | none =>
      rw [later, Option.none_or] at last
      obtain ⟨doc, same, found⟩ := first.written id body last
      exact ⟨doc, same, (second.kept id (lastBody_eq_none.mp later)).trans found⟩
  · rw [List.map_append, List.mem_append, not_or] at absent
    rw [second.kept id absent.2, first.kept id absent.1]

theorem range_item (ord : RangeOrder) (e : Edit J) (error : Option (GoString × GoString)) :
    ∃ name, range ord 0 (item e error) = [(name, ⟨e.id, error⟩)] :=
  ⟨_, List.perm_singleton.mp (range_perm ord 0 _)⟩

theorem foldl_items (ord : RangeOrder) (errors : Nat → Option (GoString × GoString))
    (es : List (Edit J × Nat)) (stats : BulkStats) :
    let after := (es.map fun e => item e.1 (errors e.2)).foldl (fun stats item =>
      (range ord 0 item).foldl (fun stats result => stats.add result.2) stats) stats
    after.failed = stats.failed + es.countP (fun e => (errors e.2).isSome) ∧
      after.indexed = stats.indexed + es.countP (fun e => (errors e.2).isNone) := by
  induction es generalizing stats with
  | nil => exact ⟨rfl, rfl⟩
  | cons e es ih =>
    obtain ⟨name, visited⟩ := range_item ord e.1 (errors e.2)
    simp only [List.map_cons, List.foldl_cons, visited, List.foldl_nil, List.countP_cons]
    obtain ⟨failed, indexed⟩ := ih (stats.add ⟨e.1.id, errors e.2⟩)
    rw [failed, indexed]
    cases errors e.2 with
    | none => simp [BulkStats.add]; omega
    | some error => simp [BulkStats.add]; omega

theorem parse_items {errors : Nat → Option (GoString × GoString)}
    (parsed : parseBulkResponse ord (.ok (items payload errors)) = .ok stats)
    (none : stats.failed = 0) :
    (∀ e ∈ payload.zipIdx, (errors e.2).isNone = true) ∧ stats.indexed = payload.length := by
  obtain ⟨failed, indexed⟩ := foldl_items ord errors payload.zipIdx {}
  cases parsed
  have accepted : ∀ e ∈ payload.zipIdx, (errors e.2).isNone = true := by
    have zero := List.countP_eq_zero.mp ((Nat.zero_add _).symm.trans (failed.symm.trans none))
    intro e mem
    simpa using zero e mem
  refine ⟨accepted, indexed.trans ?_⟩
  rw [List.countP_eq_length.mpr accepted, List.length_zipIdx]
  exact Nat.zero_add _

section Writes

variable {dest : Destination J} {name : GoString} {ps : List (GoString × J)} {docs : GoMap J}

def writes (name : GoString) (ps : List (GoString × J)) : List (Edit J) :=
  ps.map fun p => ⟨name, p.1, .index p.2⟩

theorem carryOut_writes (accepted : Nat → Bool) :
    dest.carryOut (writes name ps) docs accepted =
      insertAll docs ((ps.zipIdx.filter fun e => accepted e.2).map Prod.fst) := by
  rw [Destination.carryOut, writes, List.zipIdx_map, List.filter_map, List.foldl_map, insertAll,
    List.foldl_map]
  simp only [Prod.map, dest.index]
  rfl

theorem carryOut_all {accepted : Nat → Bool} (all : ∀ e ∈ ps.zipIdx, accepted e.2 = true) :
    dest.carryOut (writes name ps) docs accepted = insertAll docs ps := by
  rw [carryOut_writes, List.filter_eq_self.mpr all, List.zipIdx_map_fst]

theorem lookup_carryOut (other : id ∉ ps.map Prod.fst) (accepted : Nat → Bool) :
    (dest.carryOut (writes name ps) docs accepted).lookup id = docs.lookup id := by
  rw [carryOut_writes]
  refine lookup_insertAll_of_not_mem docs fun mem => other ?_
  rw [List.map_map] at mem
  obtain ⟨e, selected, rfl⟩ := List.mem_map.mp mem
  have listed := List.mem_of_mem_filter selected
  exact List.mem_map.mpr ⟨e.1, List.fst_mem_of_mem_zipIdx listed, rfl⟩

theorem lookup_unheard (other : id ∉ ps.map Prod.fst) (unheard : List (Nat → Bool)) :
    (unheard.foldl (dest.carryOut (writes name ps)) docs).lookup id = docs.lookup id := by
  induction unheard generalizing docs with
  | nil => rfl
  | cons accepted unheard ih => rw [List.foldl_cons, ih, lookup_carryOut other]

end Writes

section Requests

variable {dest : Destination J} {weather : Nat → Moment} {payload : List (Edit J)}
  {w w' : World J}

theorem sendBulk_error {err : GoError}
    (sent : run (handler dest weather) (sendBulk payload) w = (.returned (.error err), w')) :
    ∃ unheard : List (Nat → Bool), w'.docs = unheard.foldl (dest.carryOut payload) w.docs := by
  refine ⟨(weather w.clock).fate.unheard, ?_⟩
  change (Ending.returned (doNDJSON (handler dest weather (.bulk payload) w).1),
    (handler dest weather (.bulk payload) w).2) = _ at sent
  rw [handler] at sent
  split at sent
  · cases sent
    rfl
  · cases sent
  · cases sent

theorem sendBulk_ok {found : List Item}
    (sent : run (handler dest weather) (sendBulk payload) w = (.returned (.ok (.ok found)), w')) :
    ∃ (unheard : List (Nat → Bool)) (errors : Nat → Option (GoString × GoString)),
      found = items payload errors ∧
      w'.docs = dest.carryOut payload (unheard.foldl (dest.carryOut payload) w.docs)
        fun i => (errors i).isNone := by
  change (Ending.returned (doNDJSON (handler dest weather (.bulk payload) w).1),
    (handler dest weather (.bulk payload) w).2) = _ at sent
  rw [handler] at sent
  split at sent
  · cases sent
  · cases sent
  · cases sent
    exact ⟨_, _, rfl, rfl⟩

theorem keep_docs (policy : Retry.Policy) (P : GoMap J → Prop) :
    (hooks policy).Keep (handler dest weather) fun w => P w.docs where
  ctxErr w b w' h ran := by cases ran; exact h
  backoff attempt w b w' h ran := by cases ran; exact h
  onRetry attempt err delay w b w' h ran := by cases ran; exact h
  sleep delay w b w' h ran := by cases ran; exact h

theorem bulkDo_returned_ok {ops : List (BulkOp J)} {maxAttempts : Int} (some : ops ≠ [])
    (done : run (handler dest weather) (bulkDo ord index ops maxAttempts) w =
      (.returned (.ok stats), w')) :
    ∃ payload policy raw, ops.mapM (BulkOp.edit index) = .ok payload ∧
      run (handler dest weather) (retry policy (sendBulk payload)) w = (.returned (.ok raw), w') ∧
      parseBulkResponse ord raw = .ok stats := by
  obtain ⟨op, rest, rfl⟩ := List.exists_cons_of_ne_nil some
  rw [bulkDo] at done
  cases encoded : (op :: rest).mapM (BulkOp.edit index) with
  | error err =>
    rw [encoded] at done
    cases done
  | ok payload =>
    rw [encoded] at done
    obtain ⟨result, u, ran, done⟩ := run_bind_returned.mp done
    cases result with
    | error err => cases done
    | ok raw =>
      change (Ending.returned (parseBulkResponse ord raw), u) = _ at done
      obtain ⟨parsed, rfl⟩ := Prod.mk.inj done
      exact ⟨payload, _, raw, rfl, ran, Ending.returned.inj parsed⟩

/-- A batch of documents is written over what is there, however often it was sent. -/
theorem bulkDo_writes {name : GoString} {ops : List (BulkOp J)} {maxAttempts : Int}
    {ps : List (GoString × J)} (some : ops ≠ [])
    (encoded : ops.mapM (BulkOp.edit index) = .ok (writes name ps))
    (done : run (handler dest weather) (bulkDo ord index ops maxAttempts) w =
      (.returned (.ok stats), w')) (none : stats.failed = 0) :
    stats.indexed = ps.length ∧ ∃ docs, w'.docs = insertAll docs ps ∧
      ∀ id, id ∉ ps.map Prod.fst → docs.lookup id = w.docs.lookup id := by
  obtain ⟨payload, policy, raw, same, retried, parsed⟩ := bulkDo_returned_ok some done
  cases encoded.symm.trans same
  -- The loop keeps the documents under other ids as they were.
  let others : GoMap J → Prop := fun docs =>
    ∀ id, id ∉ ps.map Prod.fst → docs.lookup id = w.docs.lookup id
  have failed : ∀ u err u', others u.docs →
      run (handler dest weather) (sendBulk (writes name ps)) u = (.returned (.error err), u') →
      others u'.docs := by
    intro u err u' before sent id other
    obtain ⟨unheard, after⟩ := sendBulk_error sent
    rw [after, lookup_unheard other, before id other]
  obtain ⟨u, before, sent⟩ := loop_ok (keep_docs policy others) failed (fun _ _ => rfl) retried
  cases raw with
  | error err => cases parsed
  | ok found =>
    obtain ⟨unheard, errors, rfl, after⟩ := sendBulk_ok sent
    obtain ⟨accepted, count⟩ := parse_items parsed none
    rw [writes, List.length_map] at count
    refine ⟨count, _, after.trans (carryOut_all fun e mem => ?_), fun id other => ?_⟩
    · refine accepted (⟨name, e.1.1, .index e.1.2⟩, e.2) ?_
      rw [writes, List.zipIdx_map]
      exact List.mem_map.mpr ⟨e, mem, rfl⟩
    · rw [lookup_unheard other, before id other]

end Requests

section Batches

variable {batch : List (Doc J)}

theorem mapM_indexOp {es : List (GoString × Except GoError J)}
    (encoded : (es.map fun e => indexOp e.1 e.2).mapM (BulkOp.edit index) = .ok payload) :
    ∃ ps : List (GoString × J), es = ps.map (fun p => (p.1, .ok p.2)) ∧
      payload = ps.map fun p => ⟨coerce index, coerce p.1, .index p.2⟩ := by
  induction es generalizing payload with
  | nil =>
    cases encoded
    exact ⟨[], rfl, rfl⟩
  | cons e es ih =>
    rw [List.map_cons, List.mapM_cons] at encoded
    obtain ⟨edit, first, encoded⟩ := bind_eq_ok.mp encoded
    obtain ⟨edits, others, encoded⟩ := bind_eq_ok.mp encoded
    cases encoded
    obtain ⟨ps, rfl, rfl⟩ := ih others
    obtain ⟨id, body⟩ := e
    cases body with
    | error err => cases first
    | ok doc =>
      cases first
      exact ⟨(id, doc) :: ps, rfl, rfl⟩

theorem lookup_batchDocs (ids : ∀ d ∈ batch, d.id ≠ []) (id : GoString) :
    (batchDocs batch).lookup id = lastBody batch id := by
  have all : batch.filter (fun d => !d.id.isEmpty) = batch :=
    List.filter_eq_self.mpr fun d mem => by simpa using ids d mem
  rw [batchDocs, all, lookup_insertAll, lastBody, List.filter_map, List.getLast?_map]
  simp [Function.comp_def]

theorem mem_batchDocs (ids : ∀ d ∈ batch, d.id ≠ []) :
    id ∈ batchDocs batch ↔ id ∈ batch.map Doc.id := by
  rw [← not_iff_not, ← AList.lookup_eq_none, lookup_batchDocs ids, lastBody_eq_none]

theorem batchOps_eq (ids : ∀ d ∈ batch, d.id ≠ []) (ord : RangeOrder) (site : Nat) :
    batchOps ord site batch = (range ord site (batchDocs batch)).map fun e => indexOp e.1 e.2 := by
  have none : batch.filter (fun d => d.id.isEmpty) = [] :=
    List.filter_eq_nil_iff.mpr fun d mem => by simpa using ids d mem
  rw [batchOps, none, List.map_nil, List.nil_append]

def Encodes (batch : List (Doc J)) : Prop :=
  ∀ id body, lastBody batch id = some body → ∃ doc, body = .ok doc

theorem encodes_iff (ids : ∀ d ∈ batch, d.id ≠ []) (ord : RangeOrder) (site : Nat)
    (index : GoString) :
    Encodes batch ↔
      ∃ payload, (batchOps ord site batch).mapM (BulkOp.edit index) = .ok payload := by
  rw [batchOps_eq ids]
  constructor
  · intro encodes
    refine exists_mapM_ok fun op mem => ?_
    obtain ⟨e, visited, rfl⟩ := List.mem_map.mp mem
    obtain ⟨doc, same⟩ :=
      encodes e.1 e.2 ((lookup_batchDocs ids e.1).symm.trans (mem_range.mp visited))
    rw [same]
    exact ⟨_, rfl⟩
  · rintro ⟨payload, encoded⟩ id body last
    obtain ⟨ps, visited, -⟩ := mapM_indexOp encoded
    have there : (id, body) ∈ range ord site (batchDocs batch) :=
      mem_range.mpr ((lookup_batchDocs ids id).trans last)
    rw [visited] at there
    obtain ⟨p, -, same⟩ := List.mem_map.mp there
    cases same
    exact ⟨p.2, rfl⟩

theorem batchOps_ne_nil (ids : ∀ d ∈ batch, d.id ≠ []) (some : batch ≠ []) (ord : RangeOrder)
    (site : Nat) : batchOps ord site batch ≠ [] := by
  obtain ⟨d, mem⟩ := List.exists_mem_of_ne_nil batch some
  have visited : d.id ∈ (range ord site (batchDocs batch)).map Prod.fst :=
    mem_range_keys.mpr ((mem_batchDocs ids).mpr (List.mem_map_of_mem mem))
  rw [batchOps_eq ids]
  intro none
  rw [List.map_eq_nil_iff.mp none] at visited
  cases visited

theorem batch_payload {site : Nat} (ids : ∀ d ∈ batch, d.id ≠ [] ∧ validString d.id = true)
    (encoded : (batchOps ord site batch).mapM (BulkOp.edit index) = .ok payload) :
    ∃ ps, payload = writes (coerce index) ps ∧
      ps.length = (batch.map Doc.id).dedup.length ∧
      ∀ docs docs' : GoMap J,
        (∀ id, id ∉ ps.map Prod.fst → docs'.lookup id = docs.lookup id) →
        Applied batch docs (insertAll docs' ps) := by
  have some : ∀ d ∈ batch, d.id ≠ [] := fun d mem => (ids d mem).1
  rw [batchOps_eq some] at encoded
  obtain ⟨ps, visited, rfl⟩ := mapM_indexOp encoded
  have keys : ps.map Prod.fst = (range ord site (batchDocs batch)).map Prod.fst := by
    rw [visited, List.map_map]
    rfl
  have nodup : (ps.map Prod.fst).Nodup := keys ▸ range_keys_nodup ..
  have listed : ∀ id, id ∈ ps.map Prod.fst ↔ id ∈ batch.map Doc.id := fun id => by
    rw [keys, mem_range_keys, mem_batchDocs some]
  refine ⟨ps, ?_, ?_, fun docs docs' others => ⟨fun id body last => ?_, fun id absent => ?_⟩⟩
  · refine List.map_congr_left fun p mem => ?_
    obtain ⟨d, inside, same⟩ := List.mem_map.mp ((listed p.1).mp (List.mem_map_of_mem mem))
    have unchanged : coerce p.1 = p.1 := coerce_eq_self_iff.mpr (same ▸ (ids d inside).2)
    rw [unchanged]
  · rw [← List.length_map Prod.fst]
    refine ((List.perm_ext_iff_of_nodup nodup (List.nodup_dedup _)).mpr fun id => ?_).length_eq
    rw [List.mem_dedup, listed]
  · have there : (id, body) ∈ range ord site (batchDocs batch) :=
      mem_range.mpr ((lookup_batchDocs some id).trans last)
    rw [visited] at there
    obtain ⟨p, mem, same⟩ := List.mem_map.mp there
    cases same
    exact ⟨p.2, rfl, lookup_insertAll_of_nodup docs' nodup mem⟩
  · have other : id ∉ ps.map Prod.fst := fun mem => absent ((listed id).mp mem)
    rw [lookup_insertAll_of_not_mem docs' other, others id other]

end Batches

end DxCommonGo.SyncRefinement
