import DxCommonGo.BulkIndexing

/-! `Sync` of package `indexing`: a source is drained batch by batch into an index. A source is
given as what its calls of `Next` return. -/

namespace DxCommonGo.IndexSync
open GoStrings GoMaps DxErrors Programs EsClient BulkIndexing

variable {J : Type}

structure Doc (J : Type) where
  id : GoString
  body : Except GoError J

inductive Source (J : Type) where
  | last (batch : List (Doc J))
  | more (batch : List (Doc J)) (rest : Source J)
  | fails (err : GoError)

structure SyncConfig where
  index : GoString
  maxAttempts : Int := 0
  onBatch : Bool := false

structure Report where
  batches : Nat := 0
  indexed : Nat := 0
  failed : Nat := 0
  errors : List ItemError := []

def Report.add (rep : Report) (stats : BulkStats) : Report where
  batches := rep.batches + 1
  indexed := rep.indexed + stats.indexed
  failed := rep.failed + stats.failed
  errors := rep.errors ++ stats.errors

def batchDocs (batch : List (Doc J)) : GoMap (Except GoError J) :=
  insertAll ∅ ((batch.filter fun d => !d.id.isEmpty).map fun d => (d.id, d.body))

def batchOps (ord : RangeOrder) (site : Nat) (batch : List (Doc J)) : List (BulkOp J) :=
  ((batch.filter fun d => d.id.isEmpty).map fun d => indexOp [] d.body) ++
    (range ord site (batchDocs batch)).map fun e => indexOp e.1 e.2

def syncBatch (ord : RangeOrder) (cfg : SyncConfig) (site : Nat) (rep : Report)
    (batch : List (Doc J)) : BulkProg J (Except GoError Report) := do
  if batch.isEmpty then return .ok rep
  match ← bulkDo ord cfg.index (batchOps ord site batch) cfg.maxAttempts with
  | .error err => return .error err
  | .ok stats =>
    if cfg.onBatch then perform (Op.onBatch stats)
    return .ok (rep.add stats)

def ifLive (rep : Report) (round : BulkProg J (Report × Option GoError)) :
    BulkProg J (Report × Option GoError) := do
  match ← perform Op.ctxErr with
  | some err => return (rep, some err)
  | none => round

def syncFrom (ord : RangeOrder) (cfg : SyncConfig) :
    Nat → Report → Source J → BulkProg J (Report × Option GoError)
  | _, rep, .fails err => ifLive rep (return (rep, some err))
  | site, rep, .last batch => ifLive rep do
    match ← syncBatch ord cfg site rep batch with
    | .error err => return (rep, some err)
    | .ok rep => return (rep, none)
  | site, rep, .more batch rest => ifLive rep do
    match ← syncBatch ord cfg site rep batch with
    | .error err => return (rep, some err)
    | .ok rep => syncFrom ord cfg (site + 1) rep rest

def sync (ord : RangeOrder) (cfg : SyncConfig) (src : Source J) :
    BulkProg J (Report × Option GoError) :=
  syncFrom ord cfg 1 {} src

/-- The destination carries out an operation; what it does is only given for the kind that
`Sync` sends. -/
structure Destination (J : Type) where
  apply : GoMap J → Edit J → GoMap J
  index : ∀ docs name id doc, apply docs ⟨name, id, .index doc⟩ = docs.insert id doc

def Destination.carryOut (dest : Destination J) (payload : List (Edit J)) (docs : GoMap J)
    (accepted : Nat → Bool) : GoMap J :=
  (payload.zipIdx.filter fun e => accepted e.2).foldl (fun docs e => dest.apply docs e.1) docs

/-- Copies of the request can arrive whose responses are lost, and be carried out in part; the last
one fails, or is answered with the error, if any, of each operation. -/
structure Fate where
  unheard : List (Nat → Bool)
  last : Outcome (Except GoError (Nat → Option (GoString × GoString)))

structure Moment where
  ctxErr : Option GoError
  delay : Int
  wait : Option GoError
  fate : Fate

structure World (J : Type) where
  clock : Nat
  docs : GoMap J

def item (e : Edit J) (error : Option (GoString × GoString)) : Item :=
  AList.singleton (match e.change with
    | .index _ => str "index" | .update _ => str "update" | .delete => str "delete") ⟨e.id, error⟩

def items (payload : List (Edit J)) (errors : Nat → Option (GoString × GoString)) : List Item :=
  payload.zipIdx.map fun e => item e.1 (errors e.2)

def handler (dest : Destination J) (weather : Nat → Moment) : Handler (Op J) Reply (World J)
  | .ctxErr, w => ((weather w.clock).ctxErr, { w with clock := w.clock + 1 })
  | .backoff _ _, w => ((weather w.clock).delay, { w with clock := w.clock + 1 })
  | .sleep _, w => ((weather w.clock).wait, { w with clock := w.clock + 1 })
  | .onBatch _, w => ((), { w with clock := w.clock + 1 })
  | .bulk payload, w =>
    let fate := (weather w.clock).fate
    let docs := fate.unheard.foldl (dest.carryOut payload) w.docs
    match fate.last with
    | .error failure => (.error failure, ⟨w.clock + 1, docs⟩)
    | .ok (.error err) => (.ok (.error err), ⟨w.clock + 1, docs⟩)
    | .ok (.ok errors) =>
      (.ok (.ok (items payload errors)),
        ⟨w.clock + 1, dest.carryOut payload docs fun i => (errors i).isNone⟩)

end DxCommonGo.IndexSync
