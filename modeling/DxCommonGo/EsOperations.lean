import DxCommonGo.EsQueries
import DxCommonGo.IndexLifecycle

/-! The operations that go through `Client.Do`, with the request that each makes. `Do` leaves out a
body that is the nil interface, and encodes anything else, also a nil map. -/

namespace DxCommonGo.EsOperations
open GoStrings GoMaps DxErrors GoJson EsQueries

inductive Method where
  | get | post | put | delete

structure HttpRequest where
  method : Method
  path : GoString
  contentType : Option GoString := none
  body : Option Json := none

structure Call where
  method : Method
  path : GoString
  body : GoAny := none

def newRequest (c : Call) : Except GoError HttpRequest :=
  match c.body with
  | none => .ok { method := c.method, path := c.path }
  | some encoded =>
    match encoded with
    | .error err => .error (errorf (str "elastic: marshal request: %w") err)
    | .ok b =>
      .ok { method := c.method, path := c.path, contentType := some (str "application/json"),
            body := some b }

section Paths

def unreserved (b : UInt8) : Bool :=
  (48 ≤ b && b ≤ 57) || (65 ≤ b && b ≤ 90) || (97 ≤ b && b ≤ 122) || (str "-_.~").contains b

def hexDigit (b : UInt8) : UInt8 := if b < 10 then 48 + b else 55 + b

def percent (b : UInt8) : GoString := [37, hexDigit (b / 16), hexDigit (b % 16)]

def pathEscape (s : GoString) : GoString :=
  s.flatMap fun b => if unreserved b || (str "$&+:=@").contains b then [b] else percent b

def queryEscape (s : GoString) : GoString :=
  s.flatMap fun b => if b = 32 then [43] else if unreserved b then [b] else percent b

example : pathEscape (str "a b/c") = str "a%20b%2Fc" := rfl
example : queryEscape (str "1m &") = str "1m+%26" := rfl

def searchPath (indices : List GoString) : GoString :=
  if indices.isEmpty then str "/_search"
  else str "/" ++ join (str ",") (indices.map pathEscape) ++ str "/_search"

def orOneMinute (keepAlive : GoString) : GoString :=
  if keepAlive.isEmpty then str "1m" else keepAlive

end Paths

inductive Operation where
  | ping
  | clusterHealth
  | indexDoc (index id : GoString) (doc : GoAny)
  | getDoc (index id : GoString)
  | updateDoc (index id : GoString) (doc : GoAny)
  | scriptUpdate (index id script : GoString) (params : AnyMap)
  | updateByQuery (index : GoString) (q : Query) (script : GoString) (params : AnyMap)
  | deleteDoc (index id : GoString)
  | deleteByQuery (index : GoString) (q : Query)
  | searchMulti (indices : List GoString) (req : SearchRequest)
  | count (index : GoString) (q : Query)
  | scroll (index : GoString) (req : SearchRequest) (keepAlive : GoString)
  | scrollNext (scrollID keepAlive : GoString)
  | clearScroll (scrollID : GoString)
  | openPIT (index keepAlive : GoString)
  | closePIT (pitID : GoString)
  | createIndex (index : GoString) (body : AnyMap)
  | indexExists (index : GoString)
  | deleteIndex (index : GoString)
  | refresh (index : GoString)
  | updateIndexSettings (index : GoString) (settings : AnyMap)
  | putILMPolicy (name : GoString) (phases : AnyMap)
  | ensureAlias (index aliasName : GoString)
  | swapAlias (aliasName oldIndex newIndex : GoString)
  | putMapping (index : GoString) (mapping : AnyMap)
  | aliasIndices (aliasName : GoString)
  | putIndexTemplate (name : GoString) (body : AnyMap)
  | deleteIndexTemplate (name : GoString)
  | reindex (src dst script : GoString)

def painless (script : GoString) (params : AnyMap) : GoAny :=
  literal [(str "source", ofString script), (str "lang", ofString (str "painless")),
    (str "params", ofMap params)]

def countBody (q : Query) : AnyMap := q.map fun m => ofPairs [(str "query", ofMap (some m))]

def aliasAction (action : String) (index aliasName : GoString) : GoAny :=
  literal [(str action, literal [(str "index", ofString index), (str "alias", ofString aliasName)])]

def reindexBody (src dst script : GoString) : GoMap GoAny :=
  ofPairs [(str "source", literal [(str "index", ofString src)]),
    (str "dest", literal [(str "index", ofString dst)])]
  |> setIf (!script.isEmpty) "script"
    (literal [(str "source", ofString script), (str "lang", ofString (str "painless"))])

namespace Operation

def call : Operation → Call
  | ping => { method := .get, path := str "/" }
  | clusterHealth => { method := .get, path := str "/_cluster/health" }
  | indexDoc index id doc =>
    if id.isEmpty then
      { method := .post, path := str "/" ++ pathEscape index ++ str "/_doc", body := doc }
    else
      { method := .put, path := str "/" ++ pathEscape index ++ str "/_doc/" ++ pathEscape id,
        body := doc }
  | getDoc index id =>
    { method := .get, path := str "/" ++ pathEscape index ++ str "/_doc/" ++ pathEscape id }
  | updateDoc index id doc =>
    { method := .post, path := str "/" ++ pathEscape index ++ str "/_update/" ++ pathEscape id,
      body := literal [(str "doc", doc)] }
  | scriptUpdate index id script params =>
    { method := .post, path := str "/" ++ pathEscape index ++ str "/_update/" ++ pathEscape id,
      body := literal [(str "script", painless script params)] }
  | updateByQuery index q script params =>
    { method := .post, path := str "/" ++ pathEscape index ++ str "/_update_by_query",
      body := literal [(str "query", ofMap q), (str "script", painless script params)] }
  | deleteDoc index id =>
    { method := .delete, path := str "/" ++ pathEscape index ++ str "/_doc/" ++ pathEscape id }
  | deleteByQuery index q =>
    { method := .post, path := str "/" ++ pathEscape index ++ str "/_delete_by_query",
      body := literal [(str "query", ofMap q)] }
  | searchMulti indices req =>
    -- A PIT search names no indices in its path.
    { method := .post, path := searchPath (if req.pit.isSome then [] else indices),
      body := ofMap (some req.body) }
  | count index q =>
    { method := .post, path := str "/" ++ pathEscape index ++ str "/_count",
      body := ofMap (countBody q) }
  | scroll index req keepAlive =>
    { method := .post,
      path := str "/" ++ pathEscape index ++ str "/_search?scroll=" ++
        queryEscape (orOneMinute keepAlive),
      body := ofMap (some req.body) }
  | scrollNext scrollID keepAlive =>
    { method := .post, path := str "/_search/scroll",
      body := literal [(str "scroll", ofString (orOneMinute keepAlive)),
        (str "scroll_id", ofString scrollID)] }
  | clearScroll scrollID =>
    { method := .delete, path := str "/_search/scroll",
      body := literal [(str "scroll_id", ofString scrollID)] }
  | openPIT index keepAlive =>
    { method := .post,
      path := str "/" ++ pathEscape index ++ str "/_pit?keep_alive=" ++
        queryEscape (orOneMinute keepAlive) }
  | closePIT pitID =>
    { method := .delete, path := str "/_pit", body := literal [(str "id", ofString pitID)] }
  | createIndex index body =>
    { method := .put, path := str "/" ++ pathEscape index, body := ofMap (some (body.getD ∅)) }
  | indexExists index => { method := .get, path := str "/" ++ pathEscape index }
  | deleteIndex index => { method := .delete, path := str "/" ++ pathEscape index }
  | refresh index => { method := .post, path := str "/" ++ pathEscape index ++ str "/_refresh" }
  | updateIndexSettings index settings =>
    { method := .put, path := str "/" ++ pathEscape index ++ str "/_settings",
      body := literal [(str "index", ofMap settings)] }
  | putILMPolicy name phases =>
    { method := .put, path := str "/_ilm/policy/" ++ pathEscape name,
      body := literal [(str "policy", literal [(str "phases", ofMap phases)])] }
  | ensureAlias index aliasName =>
    { method := .put,
      path := str "/" ++ pathEscape index ++ str "/_alias/" ++ pathEscape aliasName }
  | swapAlias aliasName oldIndex newIndex =>
    { method := .post, path := str "/_aliases",
      body := literal [(str "actions", ofSlice (some
        [aliasAction "remove" oldIndex aliasName, aliasAction "add" newIndex aliasName]))] }
  | putMapping index mapping =>
    { method := .put, path := str "/" ++ pathEscape index ++ str "/_mapping",
      body := ofMap mapping }
  | aliasIndices aliasName => { method := .get, path := str "/_alias/" ++ pathEscape aliasName }
  | putIndexTemplate name body =>
    { method := .put, path := str "/_index_template/" ++ pathEscape name, body := ofMap body }
  | deleteIndexTemplate name =>
    { method := .delete, path := str "/_index_template/" ++ pathEscape name }
  | reindex src dst script =>
    { method := .post, path := str "/_reindex?wait_for_completion=true",
      body := ofMap (some (reindexBody src dst script)) }

/-- The arguments with which an operation passes an object, or nothing: a query to count, a mapping
and a template are there, and a document is nil or an object. -/
def Proper : Operation → Prop
  | indexDoc _ _ doc => ∀ j, doc = some (.ok j) → j.isObject = true
  | count _ q => q.isSome = true
  | putMapping _ mapping => mapping.isSome = true
  | putIndexTemplate _ body => body.isSome = true
  | _ => True

end Operation

def SearchBuilder.count (b : SearchBuilder) : Operation :=
  .count (b.indices.headD []) b.request.query

section Bodies

variable {c : Call}

def Objective (c : Call) : Prop :=
  ∀ request, newRequest c = .ok request → ∀ b, request.body = some b → b.isObject = true

theorem objective_of_nil (h : c.body = none) : Objective c := by
  intro request made b sent
  simp only [newRequest, h, Except.ok.injEq] at made
  rw [← made] at sent
  cases sent

theorem objective_iff {encoded : Except GoError Json} (h : c.body = some encoded) :
    Objective c ↔ ∀ j, encoded = .ok j → j.isObject = true := by
  cases encoded with
  | error err => simp [Objective, newRequest, h]
  | ok b => simp [Objective, newRequest, h]

theorem objective_map_iff {m : AnyMap} (h : c.body = ofMap m) :
    Objective c ↔ m.isSome = true := by
  rw [objective_iff h]
  cases m with
  | none => simp [marshalMap, Json.isObject]
  | some m => exact iff_of_true (fun j encoded => marshalMap_ok encoded) rfl

theorem objective_map {m : GoMap GoAny} (h : c.body = ofMap (some m)) : Objective c :=
  (objective_map_iff h).mpr rfl

end Bodies

/-- An operation makes no request with anything but an object for its body exactly if it is given
proper arguments. -/
theorem objective_iff_proper (op : Operation) : Objective op.call ↔ op.Proper := by
  cases op with
  | ping | clusterHealth | getDoc | deleteDoc | openPIT | indexExists | deleteIndex | refresh
  | ensureAlias | aliasIndices | deleteIndexTemplate =>
    exact iff_of_true (objective_of_nil rfl) trivial
  | updateDoc | scriptUpdate | updateByQuery | deleteByQuery | searchMulti | scroll | scrollNext
  | clearScroll | closePIT | createIndex | updateIndexSettings | putILMPolicy | swapAlias
  | reindex =>
    exact iff_of_true (objective_map rfl) trivial
  | indexDoc index id doc =>
    have sent : (Operation.indexDoc index id doc).call.body = doc := by
      rw [Operation.call]
      split <;> rfl
    cases doc with
    | none => exact iff_of_true (objective_of_nil sent) (fun j h => nomatch h)
    | some encoded =>
      rw [objective_iff sent]
      simp [Operation.Proper]
  | count index q =>
    rw [objective_map_iff rfl, countBody, Option.isSome_map]
    rfl
  | putMapping | putIndexTemplate => exact objective_map_iff rfl

/-- A count of everything, which leaves its query out, sends the literal null. -/
theorem count_all_null :
    newRequest (Operation.count (str "books") none).call =
      .ok { method := .post, path := str "/books/_count",
            contentType := some (str "application/json"), body := some .null } :=
  rfl

theorem builder_count_proper_iff (b : SearchBuilder) :
    (SearchBuilder.count b).Proper ↔
      b.rawQuery.isSome = true ∨ b.boolQ.isSome = true ∨ b.req.query.isSome = true := by
  rw [SearchBuilder.count, Operation.Proper, SearchBuilder.request]
  cases b.rawQuery with
  | some q => simp
  | none =>
    cases b.boolQ with
    | some q => simp [BoolBuilder.build]
    | none => simp

section Lifecycle

open IndexLifecycle

def operation : Request (GoMap GoAny) → Operation
  | .getAlias aliasName => .aliasIndices aliasName
  | .putAlias index aliasName => .ensureAlias index aliasName
  | .updateAliases aliasName remove add => .swapAlias aliasName remove add
  | .getIndex index => .indexExists index
  | .putIndex index body => .createIndex index (some body)
  | .deleteIndex index => .deleteIndex index
  | .reindex src dst script => .reindex src dst (script.getD [])

theorem lifecycle_proper (r : Request (GoMap GoAny)) : (operation r).Proper := by
  cases r <;> trivial

end Lifecycle

end DxCommonGo.EsOperations
