import DxCommonGo.GoJson

/-! Package `query`: the request of a search and the map its `Body` renders, with the builder that
fills it. -/

namespace DxCommonGo.EsQueries
open GoStrings GoMaps GoJson

abbrev Query := AnyMap

structure Highlight where
  fields : List GoString
  preTags : List GoString := []
  postTags : List GoString := []
  fragmentSize : Int := 0
  numberOfFragments : Int := 0

/-- A clause with numbers that are not integers, which stand as they are encoded; a boost is there
if it is positive. -/
structure KNN where
  field : GoString
  queryVector : Option (List GoAny)
  k : Int
  numCandidates : Int := 0
  filter : Query := none
  boost : GoAny := none

structure PIT where
  id : GoString
  keepAlive : GoString := []

structure SearchRequest where
  query : Query := none
  size : Int := 0
  searchFrom : Int := 0
  sort : List (Option (GoMap GoString)) := []
  sourceIncludes : List GoString := []
  sourceExcludes : List GoString := []
  aggregations : GoMap AnyMap := ∅
  trackTotalHits : Bool := false
  sizeZero : Bool := false
  searchAfter : List GoAny := []
  highlight : Option Highlight := none
  suggest : GoMap AnyMap := ∅
  knn : List KNN := []
  pit : Option PIT := none

def setIf (cond : Bool) (key : String) (value : GoAny) (body : GoMap GoAny) : GoMap GoAny :=
  if cond then body.insert (str key) value else body

theorem lookup_setIf_self (cond : Bool) (key : String) (value : GoAny) (body : GoMap GoAny) :
    (setIf cond key value body).lookup (str key) =
      if cond then some value else body.lookup (str key) := by
  cases cond <;> simp [setIf]

theorem lookup_setIf_ne {key name : String} (ne : str name ≠ str key) (cond : Bool) (value : GoAny)
    (body : GoMap GoAny) :
    (setIf cond key value body).lookup (str name) = body.lookup (str name) := by
  cases cond with
  | false => rfl
  | true => exact AList.lookup_insert_ne ne

def ofStringList (l : List GoString) : GoAny := ofStrings (some l)

def Highlight.body (h : Highlight) : GoMap GoAny :=
  let fields : GoMap GoAny := ofPairs (h.fields.map fun f => (f, literal []))
  ofPairs [(str "fields", ofMap (some fields))]
  |> setIf (!h.preTags.isEmpty) "pre_tags" (ofStringList h.preTags)
  |> setIf (!h.postTags.isEmpty) "post_tags" (ofStringList h.postTags)
  |> setIf (0 < h.fragmentSize) "fragment_size" (ofInt h.fragmentSize)
  |> setIf (0 < h.numberOfFragments) "number_of_fragments" (ofInt h.numberOfFragments)

def KNN.body (k : KNN) : GoMap GoAny :=
  let numCandidates := if k.numCandidates ≤ 0 then 10 * k.k else k.numCandidates
  ofPairs [(str "field", ofString k.field), (str "query_vector", ofSlice k.queryVector),
    (str "k", ofInt k.k), (str "num_candidates", ofInt numCandidates)]
  |> setIf k.filter.isSome "filter" (ofMap k.filter)
  |> setIf k.boost.isSome "boost" k.boost

def PIT.body (p : PIT) : GoMap GoAny :=
  ofPairs [(str "id", ofString p.id)]
  |> setIf (!p.keepAlive.isEmpty) "keep_alive" (ofString p.keepAlive)

namespace SearchRequest

variable (r : SearchRequest)

def source : GoMap GoAny :=
  ∅ |> setIf (!r.sourceIncludes.isEmpty) "includes" (ofStringList r.sourceIncludes)
    |> setIf (!r.sourceExcludes.isEmpty) "excludes" (ofStringList r.sourceExcludes)

def ofNamed (m : GoMap AnyMap) : GoAny :=
  ofMap (some (ofPairs ((pairs m).map fun e => (e.1, ofMap e.2))))

def ofSort (sort : List (Option (GoMap GoString))) : GoAny :=
  ofSlice (some (sort.map fun s =>
    ofMap (s.map fun m => ofPairs ((pairs m).map fun e => (e.1, ofString e.2)))))

def highlighted : Option Highlight := r.highlight.filter fun h => !h.fields.isEmpty

def body : GoMap GoAny :=
  ∅ |> setIf r.query.isSome "query" (ofMap r.query)
    |> setIf (0 < r.size) "size" (ofInt r.size)
    |> setIf (r.size ≤ 0 && r.sizeZero) "size" (ofInt 0)
    |> setIf (0 < r.searchFrom) "from" (ofInt r.searchFrom)
    |> setIf r.trackTotalHits "track_total_hits" (ofBool true)
    |> setIf (!r.sort.isEmpty) "sort" (ofSort r.sort)
    |> setIf (!r.sourceIncludes.isEmpty || !r.sourceExcludes.isEmpty) "_source"
      (ofMap (some r.source))
    |> setIf (!(pairs r.aggregations).isEmpty) "aggs" (ofNamed r.aggregations)
    |> setIf (!r.searchAfter.isEmpty) "search_after" (ofSlice (some r.searchAfter))
    |> setIf r.highlighted.isSome "highlight" (ofMap (r.highlighted.map Highlight.body))
    |> setIf (!(pairs r.suggest).isEmpty) "suggest" (ofNamed r.suggest)
    |> setIf (!r.knn.isEmpty) "knn" (ofSlice (some (r.knn.map fun k => ofMap (some k.body))))
    |> setIf r.pit.isSome "pit" (ofMap (r.pit.map PIT.body))

end SearchRequest

structure BoolBuilder where
  must : List Query := []
  should : List Query := []
  mustNot : List Query := []
  filter : List Query := []
  minimumShouldMatch : GoAny := none

def ofQueries (qs : List Query) : GoAny := ofSlice (some (qs.map ofMap))

def BoolBuilder.build (b : BoolBuilder) : Query :=
  let body := (∅ : GoMap GoAny)
    |> setIf (!b.must.isEmpty) "must" (ofQueries b.must)
    |> setIf (!b.should.isEmpty) "should" (ofQueries b.should)
    |> setIf (!b.mustNot.isEmpty) "must_not" (ofQueries b.mustNot)
    |> setIf (!b.filter.isEmpty) "filter" (ofQueries b.filter)
    |> setIf b.minimumShouldMatch.isSome "minimum_should_match" b.minimumShouldMatch
  some (ofPairs [(str "bool", ofMap (some body))])

structure SearchBuilder where
  indices : List GoString
  boolQ : Option BoolBuilder := none
  rawQuery : Query := none
  req : SearchRequest := {}

def SearchBuilder.request (b : SearchBuilder) : SearchRequest :=
  match b.rawQuery, b.boolQ with
  | some q, _ => { b.req with query := some q }
  | none, some q => { b.req with query := q.build }
  | none, none => b.req

end DxCommonGo.EsQueries
