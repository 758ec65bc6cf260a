import DxCommonGo.EsOperations
import DxCommonGo.SyncedIndex

/-! Documents without an id. `IndexDoc` leaves an empty id out of the path, and the index assigns
one; `BulkDo` writes it into the action, which is then rejected while `Sync` returns no error. -/

namespace DxCommonGo.AnonymousDocs
open GoStrings GoMaps GoErrors DxErrors GoUtf8 Programs GoJson EsOperations
open BulkIndexing IndexSync SyncRefinement SyncedIndex

variable {J : Type}

section Actions

def actionName : Action → GoString
  | .index => str "index"
  | .update => str "update"
  | .delete => str "delete"
  | .unknown name => name

def metaLine (index : GoString) (op : BulkOp J) : Except GoError Json :=
  marshal (literal [(actionName op.action,
    literal [(str "_index", ofString index), (str "_id", ofString op.id)])])

def field (name : String) (fields : List (GoString × Json)) : Option Json :=
  (fields.find? fun f => f.1 = str name).map Prod.snd

def metaId : Except GoError Json → Option Json
  | .ok (.object [(_, .object fields)]) => field "_id" fields
  | _ => none

theorem metaId_metaLine (index : GoString) (op : BulkOp J) :
    metaId (metaLine index op) = some (.string (coerce op.id)) :=
  rfl

end Actions

section Rejections

def anonymous (payload : List (Edit J)) (i : Nat) : Bool := payload[i]?.any fun e => e.id.isEmpty

def rejection : GoString × GoString :=
  (str "illegal_argument_exception", str "if _id is specified it must not be empty")

def verdict (payload : List (Edit J)) (i : Nat) : Option (GoString × GoString) :=
  if anonymous payload i then some rejection else none

/-- The moment of a request, if an action is rejected exactly for an empty id. -/
def screened (payload : List (Edit J)) (m : Moment) : Moment :=
  { m with
    fate := ⟨m.fate.unheard.map fun accepted i => accepted i && (verdict payload i).isNone,
      m.fate.last.map fun answer => answer.map fun _ => verdict payload⟩ }

def strict (dest : Destination J) (weather : Nat → Moment) : Handler (Op J) Reply (World J)
  | .bulk payload, w => handler dest (fun n => screened payload (weather n)) (.bulk payload) w
  | .ctxErr, w => handler dest weather .ctxErr w
  | .backoff delay attempt, w => handler dest weather (.backoff delay attempt) w
  | .sleep delay, w => handler dest weather (.sleep delay) w
  | .onBatch stats, w => handler dest weather (.onBatch stats) w

end Rejections

section Sendable

variable {ord : RangeOrder} {cfg : SyncConfig} {site : Nat} {rep : Report} {batch : List (Doc J)}

def Sendable (batch : List (Doc J)) : Prop :=
  (∀ d ∈ batch, d.id = [] → ∃ doc, d.body = .ok doc) ∧
    ∀ id body, (batchDocs batch).lookup id = some body → ∃ doc, body = .ok doc

def Syncable : Source J → Prop
  | .last batch => Sendable batch
  | .more batch rest => Sendable batch ∧ Syncable rest
  | .fails _ => False

theorem edit_indexOp_iff {index id : GoString} {body : Except GoError J} :
    (∃ e, (indexOp id body).edit index = .ok e) ↔ ∃ doc, body = .ok doc := by
  cases body with
  | error err => exact iff_of_false (fun ⟨_, h⟩ => nomatch h) (fun ⟨_, h⟩ => nomatch h)
  | ok doc => exact iff_of_true ⟨_, rfl⟩ ⟨doc, rfl⟩

theorem mem_batchOps {op : BulkOp J} :
    op ∈ batchOps ord site batch ↔
      (∃ d ∈ batch, d.id = [] ∧ op = indexOp [] d.body) ∨
        ∃ id body, (batchDocs batch).lookup id = some body ∧ op = indexOp id body := by
  rw [batchOps, List.mem_append, List.mem_map, List.mem_map]
  refine or_congr ?_ ?_
  · constructor
    · rintro ⟨d, kept, rfl⟩
      obtain ⟨inside, empty⟩ := List.mem_filter.mp kept
      exact ⟨d, inside, List.isEmpty_iff.mp empty, rfl⟩
    · rintro ⟨d, inside, empty, rfl⟩
      exact ⟨d, List.mem_filter.mpr ⟨inside, List.isEmpty_iff.mpr empty⟩, rfl⟩
  · constructor
    · rintro ⟨e, visited, rfl⟩
      exact ⟨e.1, e.2, mem_range.mp visited, rfl⟩
    · rintro ⟨id, body, found, rfl⟩
      exact ⟨(id, body), mem_range.mpr found, rfl⟩

theorem sendable_iff (ord : RangeOrder) (site : Nat) (index : GoString) :
    Sendable batch ↔
      ∃ payload, (batchOps ord site batch).mapM (BulkOp.edit index) = .ok payload := by
  constructor
  · rintro ⟨unnamed, named⟩
    refine exists_mapM_ok fun op mem => ?_
    rcases mem_batchOps.mp mem with ⟨d, inside, empty, rfl⟩ | ⟨id, body, found, rfl⟩
    · exact edit_indexOp_iff.mpr (unnamed d inside empty)
    · exact edit_indexOp_iff.mpr (named id body found)
  · rintro ⟨payload, encoded⟩
    have each : ∀ op ∈ batchOps ord site batch, ∃ e, op.edit index = .ok e := by
      intro op mem
      obtain ⟨e, -, same⟩ := forall_of_mapM_ok encoded op mem
      exact ⟨e, same⟩
    refine ⟨fun d inside empty => ?_, fun id body found => ?_⟩
    · exact edit_indexOp_iff.mp (each _ (mem_batchOps.mpr (.inl ⟨d, inside, empty, rfl⟩)))
    · exact edit_indexOp_iff.mp (each _ (mem_batchOps.mpr (.inr ⟨id, body, found, rfl⟩)))

theorem bulkDo_post (ord : RangeOrder) (index : GoString) (ops : List (BulkOp J))
    (maxAttempts : Int) :
    Post (fun r => ∀ stats, r = .ok stats → ∃ payload, ops.mapM (BulkOp.edit index) = .ok payload)
      (bulkDo ord index ops maxAttempts) := by
  cases encoded : ops.mapM (BulkOp.edit index) with
  | ok payload => exact post_of_forall (fun _ _ _ => ⟨payload, rfl⟩) _
  | error err =>
    cases ops with
    | nil => cases encoded
    | cons op ops =>
      rw [bulkDo, encoded]
      intro stats failed
      cases failed

theorem syncBatch_post (ord : RangeOrder) (cfg : SyncConfig) (site : Nat) (rep : Report)
    (batch : List (Doc J)) :
    Post (fun r => ∀ rep', r = .ok rep' → Sendable batch) (syncBatch ord cfg site rep batch) := by
  cases batch with
  | nil => exact fun _ _ => ⟨nofun, nofun⟩
  | cons d batch =>
    refine post_bind (bulkDo_post ord cfg.index (batchOps ord site (d :: batch)) cfg.maxAttempts)
      fun result encodes => ?_
    cases result with
    | error err =>
      intro rep' failed
      cases failed
    | ok stats =>
      have sendable := (sendable_iff ord site cfg.index).mpr (encodes stats rfl)
      exact post_of_forall (fun _ _ _ => sendable) _

theorem ifLive_post {P : Report × Option GoError → Prop}
    {round : BulkProg J (Report × Option GoError)}
    (dead : ∀ err, P (rep, some err)) (live : Post P round) : Post P (ifLive rep round) := by
  refine post_perform_bind fun asked => ?_
  cases asked with
  | some err => exact dead err
  | none => exact live

theorem syncFrom_post (ord : RangeOrder) (cfg : SyncConfig) (site : Nat) (rep : Report)
    (src : Source J) :
    Post (fun r => r.2 = none → Syncable src) (syncFrom ord cfg site rep src) := by
  induction src generalizing site rep with
  | fails err => exact ifLive_post (fun _ h => nomatch h) (fun h => nomatch h)
  | last batch =>
    refine ifLive_post (fun _ h => nomatch h)
      (post_bind (syncBatch_post ord cfg site rep batch) fun result sendable => ?_)
    cases result with
    | error err => exact fun h => nomatch h
    | ok rep => exact fun _ => sendable rep rfl
  | more batch rest ih =>
    refine ifLive_post (fun _ h => nomatch h)
      (post_bind (syncBatch_post ord cfg site rep batch) fun result sendable => ?_)
    cases result with
    | error err => exact fun h => nomatch h
    | ok rep =>
      exact (ih (site + 1) rep).mono fun _ later h => ⟨sendable rep rfl, later h⟩

end Sendable

section Answered

variable {ord : RangeOrder} {cfg : SyncConfig} {site : Nat} {rep : Report} {w : World J}
  {batch : List (Doc J)}

theorem strict_live : Live (strict (keyed (J := J)) calm) where
  ctxErr _ := rfl
  onBatch _ _ := rfl

theorem strict_bulkDo {index : GoString} {ops : List (BulkOp J)} {maxAttempts : Int}
    {payload : List (Edit J)} (encoded : ops.mapM (BulkOp.edit index) = .ok payload) :
    ∃ stats w' accepted, run (strict keyed calm) (bulkDo ord index ops maxAttempts) w =
        (.returned (.ok stats), w') ∧ w'.docs = keyed.carryOut payload w.docs accepted := by
  cases ops with
  | nil =>
    cases encoded
    exact ⟨_, w, fun _ => true, rfl, rfl⟩
  | cons op ops =>
    have ran := @run_bulkDo_answered _ _ (strict keyed calm) w _ _ index _ payload _
      (List.cons_ne_nil op ops) encoded rfl rfl ord maxAttempts
    exact ⟨_, _, fun i => (verdict payload i).isNone, ran, rfl⟩

theorem mem_apply {docs : GoMap J} {e : Edit J} {id : GoString} (mem : id ∈ keyed.apply docs e) :
    id ∈ docs ∨ id = e.id := by
  rw [keyed] at mem
  dsimp only at mem
  split at mem
  · exact (AList.mem_insert _).mp mem |>.symm
  · exact .inl mem

theorem mem_carryOut {payload : List (Edit J)} {docs : GoMap J} {accepted : Nat → Bool}
    {id : GoString} (mem : id ∈ keyed.carryOut payload docs accepted) :
    id ∈ docs ∨ ∃ e ∈ payload, id = e.id := by
  have carried : ∀ (es : List (Edit J × Nat)) (docs : GoMap J),
      id ∈ es.foldl (fun docs e => keyed.apply docs e.1) docs →
        id ∈ docs ∨ ∃ e ∈ es, id = e.1.id := by
    intro es
    induction es with
    | nil => exact fun _ mem => .inl mem
    | cons e es ih =>
      intro docs mem
      rcases ih _ mem with old | ⟨e', later, same⟩
      · rcases mem_apply old with old | same
        · exact .inl old
        · exact .inr ⟨e, List.mem_cons_self, same⟩
      · exact .inr ⟨e', List.mem_cons_of_mem e later, same⟩
  rcases carried _ docs mem with old | ⟨e, selected, same⟩
  · exact .inl old
  · exact .inr ⟨e.1, List.fst_mem_of_mem_zipIdx (List.mem_of_mem_filter selected), same⟩

def sentIds (batch : List (Doc J)) : List GoString := batch.map fun d => coerce d.id

theorem mem_sentIds {index : GoString} {payload : List (Edit J)}
    (encoded : (batchOps ord site batch).mapM (BulkOp.edit index) = .ok payload) {e : Edit J}
    (mem : e ∈ payload) : e.id ∈ sentIds batch := by
  obtain ⟨op, listed, same⟩ := (mapM_ok encoded).2 e mem
  have sent : ∀ id (body : Except GoError J), (indexOp id body).edit index = .ok e →
      e.id = coerce id := by
    intro id body same
    cases body with
    | error err => cases same
    | ok doc => cases same; rfl
  rcases mem_batchOps.mp listed with ⟨d, inside, unnamed, rfl⟩ | ⟨id, body, found, rfl⟩
  · rw [sent _ _ same, ← unnamed]
    exact List.mem_map_of_mem inside
  · rw [sent _ _ same]
    rcases mem_of_lookup_insertAll found with old | here
    · cases old
    · obtain ⟨d, kept, pair⟩ := List.mem_map.mp here
      cases pair
      exact List.mem_map_of_mem (List.mem_of_mem_filter kept)

theorem strict_syncBatch (sendable : Sendable batch) :
    ∃ rep' w', run (strict keyed calm) (syncBatch ord cfg site rep batch) w =
        (.returned (.ok rep'), w') ∧ ∀ id ∈ w'.docs, id ∈ w.docs ∨ id ∈ sentIds batch := by
  cases batch with
  | nil => exact ⟨rep, w, rfl, fun id mem => .inl mem⟩
  | cons d batch =>
    obtain ⟨payload, encoded⟩ := (sendable_iff ord site cfg.index).mp sendable
    obtain ⟨stats, u, accepted, bulk, docs⟩ := @strict_bulkDo J ord w cfg.index
      (batchOps ord site (d :: batch)) cfg.maxAttempts payload encoded
    obtain ⟨w', ended, docs'⟩ := run_syncBatch strict_live bulk
    refine ⟨_, w', ended, fun id mem => ?_⟩
    rw [docs', docs] at mem
    rcases mem_carryOut mem with old | ⟨e, inside, rfl⟩
    · exact .inl old
    · exact .inr (mem_sentIds encoded inside)

theorem rounds_of_syncable {src : Source J} (syncable : Syncable src)
    {all : List (List (Doc J))} (listed : ∀ batch ∈ batches src, batch ∈ all) :
    Rounds (fun batch => Sendable batch ∧ batch ∈ all) src := by
  induction src with
  | fails err => exact syncable.elim
  | last batch => exact ⟨syncable, listed batch List.mem_cons_self⟩
  | more batch rest ih =>
    exact ⟨⟨syncable.1, listed batch List.mem_cons_self⟩,
      ih syncable.2 fun batch mem => listed batch (List.mem_cons_of_mem _ mem)⟩

theorem strict_syncFrom {src : Source J} (syncable : Syncable src) :
    ∃ rep' w', run (strict keyed calm) (syncFrom ord cfg site rep src) w =
        (.returned (rep', none), w') ∧
      ∀ id ∈ w'.docs, id ∈ w.docs ∨ id ∈ sentIds (batches src).flatten := by
  refine @run_syncFrom J _ ord cfg site rep w strict_live
    (fun _ docs => ∀ id ∈ docs, id ∈ w.docs ∨ id ∈ sentIds (batches src).flatten) _ ?_ src
    (rounds_of_syncable syncable fun _ mem => mem) fun id mem => .inl mem
  rintro batch ⟨sendable, listed⟩ site between v known
  obtain ⟨rep', w', sent, ids⟩ := @strict_syncBatch J ord cfg site between v batch sendable
  refine ⟨rep', w', sent, fun id mem => ?_⟩
  rcases ids id mem with before | here
  · exact known id before
  · obtain ⟨d, inside, same⟩ := List.mem_map.mp here
    exact .inr (List.mem_map.mpr ⟨d, List.mem_flatten.mpr ⟨batch, listed, inside⟩, same⟩)

end Answered

def Stored (stream : List (Doc J)) (docs docs' : GoMap J) : Prop :=
  ∃ ids : List GoString, ids.Nodup ∧ (∀ id ∈ ids, id ∉ docs ∧ id ∉ sentIds stream) ∧
    List.Forall₂ (fun id d => ∃ doc, d.body = .ok doc ∧ docs'.lookup id = some doc) ids
      (stream.filter fun d => d.id.isEmpty)

/-- The line of an operation with an empty id would leave the id out, and `Sync` would store the
documents without one whenever it returns no error: exactly if there are none, as far as the
source can be synced at all. -/
theorem anonymous_stored_iff (index : GoString) (ops : List (BulkOp J)) (src : Source J) :
    ((∀ op ∈ ops, op.id = [] → metaId (metaLine index op) = none) ↔ ∀ op ∈ ops, op.id ≠ []) ∧
      ((∀ dest weather ord cfg w w' rep,
          run (strict dest weather) (sync ord cfg src) w = (.returned (rep, none), w') →
          Stored (batches src).flatten w.docs w'.docs) ↔
        (Syncable src → ∀ batch ∈ batches src, ∀ d ∈ batch, d.id ≠ [])) := by
  refine ⟨?_, ?_, ?_⟩
  · refine forall₂_congr fun op _ => ?_
    rw [metaId_metaLine]
    simp
  · intro stored syncable batch mem d inside unnamed
    -- From an empty index, with every request answered.
    obtain ⟨rep, w', done, sent⟩ := @strict_syncFrom J .listed { index := [] } 1 {} ⟨0, ∅⟩ src
      syncable
    obtain ⟨fresh, -, free, paired⟩ := stored keyed calm .listed { index := [] } ⟨0, ∅⟩ w' rep done
    have listed : d ∈ (batches src).flatten.filter fun d => d.id.isEmpty :=
      List.mem_filter.mpr ⟨List.mem_flatten.mpr ⟨batch, mem, inside⟩, by rw [unnamed]; rfl⟩
    cases unnamed : (batches src).flatten.filter fun d => d.id.isEmpty with
    | nil => exact List.ne_nil_of_mem listed unnamed
    | cons d' rest =>
      rw [unnamed] at paired
      cases paired with
      | @cons id _ ids _ first _ =>
        obtain ⟨doc, -, found⟩ := first
        have present : id ∈ w'.docs :=
          AList.lookup_isSome.mp (Option.isSome_iff_exists.mpr ⟨doc, found⟩)
        rcases sent id present with old | sentId
        · exact (free id List.mem_cons_self).1 old
        · exact (free id List.mem_cons_self).2 sentId
  · intro named dest weather ord cfg w w' rep done
    have named := named (post_returned (syncFrom_post ord cfg 1 {} src) done rfl)
    have none : (batches src).flatten.filter (fun d => d.id.isEmpty) = [] := by
      refine List.filter_eq_nil_iff.mpr fun d mem empty => ?_
      obtain ⟨batch, listed, inside⟩ := List.mem_flatten.mp mem
      exact named batch listed d inside (List.isEmpty_iff.mp empty)
    refine ⟨[], List.nodup_nil, nofun, ?_⟩
    rw [none]
    exact .nil

/-- A batch of one document without an id, next to the same document given to `IndexDoc`. The
action carries the empty id, `Sync` returns no error, and the index stays empty. -/
theorem anonymous_lost :
    ∃ rep w', run (strict keyed calm) (sync .listed { index := str "books" }
        (.last [⟨[], .ok 1⟩])) ⟨0, ∅⟩ = (.returned (rep, none), w') ∧
      rep.indexed = 0 ∧ rep.failed = 1 ∧ w'.docs = (∅ : GoMap Nat) ∧
      metaId (metaLine (str "books") (indexOp [] (.ok 1))) = some (.string []) ∧
      (Operation.indexDoc (str "books") [] (ofInt 1)).call.path = str "/books/_doc" := by
  refine ⟨_, _, rfl, ?_⟩
  exact ⟨rfl, rfl, rfl, rfl, rfl⟩

end DxCommonGo.AnonymousDocs
