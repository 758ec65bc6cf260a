import DxCommonGo.EsOperations
import DxCommonGo.NetHttp
import DxCommonGo.NetUrl
import Mathlib.Data.Finset.Card
import Mathlib.Data.Finset.Union

/-! The total that `Do` reports and the result of `Count`. `Do` names all indices of the builder and
`Count` the first one; without a query `Do` sends an empty object and `Count` null. -/

namespace DxCommonGo.EsCounts
open GoStrings GoMaps GoErrors GoJson EsQueries EsOperations

def decodeSegment : GoString → Option GoString
  | [] => some []
  | 37 :: a :: b :: rest => do
    let high ← NetUrl.unhex a
    let low ← NetUrl.unhex b
    let tail ← decodeSegment rest
    return (high <<< 4 ||| low) :: tail
  | 37 :: _ => none
  | c :: rest => (decodeSegment rest).map (c :: ·)

/-- A cluster that does not change. A name, of an index, an alias or a pattern, stands for
documents, and a query matches documents, unless it is rejected. -/
structure Cluster (Doc : Type) where
  all : Finset Doc
  documents : GoString → Option (Finset Doc)
  meaning : Json → Option (Doc → Bool)

namespace Cluster

variable {Doc : Type} [DecidableEq Doc] (cl : Cluster Doc)

def resolve (names : GoString) : Option (Finset Doc) :=
  if (split names 44).all fun name => (cl.documents name).isSome then
    some ((split names 44).toFinset.biUnion fun name => (cl.documents name).getD ∅)
  else none

def matching (docs : Finset Doc) : Json → Option Nat
  | .object fields =>
    match fields.lookup (str "query") with
    | none => some docs.card
    | some q => (cl.meaning q).map fun holds => (docs.filter fun d => holds d).card
  | _ => none

/-- The total of a search stops at ten thousand unless it is tracked. -/
def hitsTotal (docs : Finset Doc) (body : Json) : Option Nat :=
  (cl.matching docs body).map fun n =>
    match body with
    | .object fields =>
      match fields.lookup (str "track_total_hits") with
      | some (.bool true) => n
      | _ => min n 10000
    | _ => n

def answer (request : HttpRequest) : Option Nat :=
  let body := request.body.getD (.object [])
  match split request.path 47 with
  | [[], endpoint] => if endpoint = str "_search" then cl.hitsTotal cl.all body else none
  | [[], names, endpoint] => do
    let docs ← (decodeSegment names).bind cl.resolve
    if endpoint = str "_search" then cl.hitsTotal docs body
    else if endpoint = str "_count" then cl.matching docs body
    else none
  | _ => none

def result (op : Operation) : Option Nat := (newRequest op.call).toOption.bind cl.answer

end Cluster

section Paths

end Paths

section Bodies

end Bodies

def doSearch (b : SearchBuilder) : Operation := .searchMulti b.indices b.request

section Results

variable {Doc : Type} [DecidableEq Doc] (cl : Cluster Doc) {b : SearchBuilder}
  {fields : List (GoString × Json)}

section Endpoints

variable {names names' : GoString} (free : 47 ∉ names)
  (decoded : decodeSegment names = some names') (contentType : Option GoString) (body : Json)

include free decoded

end Endpoints

end Results

/-- Whatever the cluster holds, both numbers are the same. A cluster may read the empty name as all
documents; it is not known to. -/
def Agree (emptyIsAll : Bool) (b : SearchBuilder) : Prop :=
  ∀ (Doc : Type) [DecidableEq Doc] (cl : Cluster Doc),
    (emptyIsAll = true → cl.documents [] = some cl.all) →
      cl.result (doSearch b) = cl.result (SearchBuilder.count b)

/-- The first entry of the builder names all its indices; an entry can hold several names. -/
def NamesFirst (b : SearchBuilder) : Prop :=
  b.indices ≠ [] ∧ ∀ i ∈ b.indices, ∀ name ∈ split i 44, name ∈ split (b.indices.headD []) 44

section Agreement

variable {emptyIsAll : Bool} {b : SearchBuilder} {fields : List (GoString × Json)}

theorem NamesFirst.mem_iff (h : NamesFirst b) (name : GoString) :
    name ∈ split (join (str ",") b.indices) 44 ↔ name ∈ split (b.indices.headD []) 44 := by
  rw [show str "," = [44] from rfl, mem_split_join h.1]
  constructor
  · rintro ⟨i, mem, here⟩
    exact h.2 i mem name here
  · intro here
    refine ⟨b.indices.headD [], ?_, here⟩
    obtain ⟨first, rest, indices⟩ := List.exists_cons_of_ne_nil h.1
    rw [indices]
    exact List.mem_cons_self

variable (pitless : b.req.pit = none) (tracked : b.req.trackTotalHits = true)
  (encoded : (pairs b.request.body).mapM marshalEntry = .ok fields)

include pitless tracked encoded

end Agreement

end DxCommonGo.EsCounts
