import DxCommonGo.IndexLifecycle

/-! An Elasticsearch cluster, as far as the lifecycle of indices goes: the indices with their
documents, and what each alias points at. A request is carried out as a whole. -/

namespace DxCommonGo.EsCluster
open GoStrings GoMaps EsClient IndexLifecycle

variable {β D : Type}

structure Index (β D : Type) where
  body : β
  docs : GoMap D

structure Cluster (β D : Type) where
  indices : GoString → Option (Index β D)
  aliases : GoString → List GoString

abbrev Scripts (D : Type) := GoString → GoString → D → D

def transformed (scripts : Scripts D) (script : Option GoString) (id : GoString) (d : D) : D :=
  script.elim d fun source => scripts source id d

def refusal (code : Nat) (type reason : String) : Failure :=
  .status code { text := str reason, error := some (str type, str reason) }

def noSuchIndex : Failure := refusal 404 "index_not_found_exception" "no such index"

def alreadyExists : Failure :=
  refusal 400 "resource_already_exists_exception" "index already exists"

namespace Cluster

variable (w : Cluster β D)

def docs (index : GoString) : GoMap D := (w.indices index).elim ∅ Index.docs

def search (aliasName : GoString) : List (GoString × D) :=
  (w.aliases aliasName).flatMap fun index => pairs (w.docs index)

def setIndex (name : GoString) (index : Option (Index β D)) : Cluster β D :=
  { w with indices := Function.update w.indices name index }

def setAlias (aliasName : GoString) (names : List GoString) : Cluster β D :=
  { w with aliases := Function.update w.aliases aliasName names }

def copy [Inhabited β] (scripts : Scripts D) (entries : List (GoString × D)) (dst : GoString)
    (script : Option GoString) : Cluster β D :=
  let target := (w.indices dst).getD ⟨default, ∅⟩
  w.setIndex dst (some { target with
    docs := insertAll target.docs (entries.map fun e =>
      (e.1, transformed scripts script e.1 e.2)) })

/-- A request is carried out as a whole or refused. A missing target of a copy is created, and a
deleted index is taken out of its aliases. -/
def serve [Inhabited β] (scripts : Scripts D) :
    (r : Request β) → Cluster β D → Reply r × Cluster β D
  | .getAlias aliasName, w =>
    if (w.aliases aliasName).isEmpty then
      (.error (refusal 404 "aliases_not_found_exception" "alias missing"), w)
    else (.ok (.ok (insertAll ∅ ((w.aliases aliasName).map fun index => (index, ())))), w)
  | .putAlias index aliasName, w =>
    if (w.indices index).isNone then (.error noSuchIndex, w)
    else (.ok (), w.setAlias aliasName ((w.aliases aliasName).insert index))
  | .updateAliases aliasName remove add, w =>
    if (w.indices add).isNone || !(w.aliases aliasName).contains remove then
      (.error noSuchIndex, w)
    else (.ok (), w.setAlias aliasName (((w.aliases aliasName).erase remove).insert add))
  | .getIndex index, w =>
    if (w.indices index).isNone then (.error noSuchIndex, w) else (.ok (), w)
  | .putIndex index body, w =>
    if (w.indices index).isNone then (.ok (), w.setIndex index (some ⟨body, ∅⟩))
    else (.error alreadyExists, w)
  | .deleteIndex index, w =>
    if (w.indices index).isNone then (.error noSuchIndex, w)
    else
      (.ok (), { w.setIndex index none with
        aliases := fun aliasName => (w.aliases aliasName).filter (· ≠ index) })
  | .reindex src dst script, w =>
    match w.indices src with
    | none => (.error noSuchIndex, w)
    | some source => (.ok (), w.copy scripts (pairs source.docs) dst script)

theorem aliases_setAlias_self (aliasName : GoString) (names : List GoString) :
    (w.setAlias aliasName names).aliases aliasName = names := Function.update_self ..

theorem docs_setIndex_self (name : GoString) (index : Index β D) :
    (w.setIndex name (some index)).docs name = index.docs := by
  simp [docs, setIndex]

theorem docs_setIndex_of_ne {name other : GoString} (ne : other ≠ name)
    (index : Option (Index β D)) : (w.setIndex name index).docs other = w.docs other := by
  simp [docs, setIndex, ne]

section Indices

variable [Inhabited β] {scripts : Scripts D} {w : Cluster β D} {index : GoString}

theorem serve_getIndex_missing (missing : w.indices index = none) :
    w.serve scripts (.getIndex index) = (.error noSuchIndex, w) := by
  simp [serve, missing]

theorem serve_getIndex_found {found : Index β D} (there : w.indices index = some found) :
    w.serve scripts (.getIndex index) = (.ok (), w) := by
  simp [serve, there]

theorem serve_putIndex_missing (missing : w.indices index = none) {body : β} :
    w.serve scripts (.putIndex index body) = (.ok (), w.setIndex index (some ⟨body, ∅⟩)) := by
  simp [serve, missing]

theorem serve_putIndex_found {found : Index β D} (there : w.indices index = some found) {body : β} :
    w.serve scripts (.putIndex index body) = (.error alreadyExists, w) := by
  simp [serve, there]

end Indices

end Cluster

end DxCommonGo.EsCluster
