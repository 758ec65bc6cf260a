import DxCommonGo.EsClient
import DxCommonGo.GoMaps
import DxCommonGo.Programs

/-! The lifecycle of indices in package `mapping`, as programs that send one request after the
other. Escaping of names in URLs is left out. -/

namespace DxCommonGo.IndexLifecycle
open GoStrings GoMaps DxErrors Programs EsClient

variable {β : Type}

/-- The requests; `β` is what an index is created with. -/
inductive Request (β : Type) where
  | getAlias (aliasName : GoString)
  | putAlias (index aliasName : GoString)
  | updateAliases (aliasName remove add : GoString)
  | getIndex (index : GoString)
  | putIndex (index : GoString) (body : β)
  | deleteIndex (index : GoString)
  | reindex (src dst : GoString) (script : Option GoString)

abbrev Payload : Request β → Type
  | .getAlias _ => Except GoError (GoMap Unit)
  | _ => Unit

abbrev Reply (r : Request β) := Outcome (Payload r)

abbrev EsProg (β α : Type) := Prog (Request β) Reply α

def errorOf {π : Type} : Except GoError π → Option GoError
  | .ok _ => none
  | .error err => some err

def send (r : Request β) : EsProg β (Option GoError) := do
  let outcome ← perform r
  pure (errorOf (doJSON outcome))

/-- The body is nil if none is given, and sent as an empty object. -/
def createIndex [Inhabited β] (index : GoString) (body : Option β) : EsProg β (Option GoError) :=
  send (.putIndex index (body.getD default))

def indexExists (index : GoString) : EsProg β (Except GoError Bool) := do
  match ← send (.getIndex index) with
  | some err => if isNotFound err then pure (.ok false) else pure (.error err)
  | none => pure (.ok true)

def ensureIndex [Inhabited β] (index : GoString) (body : Option β) :
    EsProg β (Except GoError Bool) := do
  match ← indexExists index with
  | .error err => pure (.error err)
  | .ok true => pure (.ok false)
  | .ok false =>
    match ← createIndex index body with
    | some err => pure (.error err)
    | none => pure (.ok true)

def deleteIndex (index : GoString) : EsProg β (Option GoError) := send (.deleteIndex index)

def ensureAlias (index aliasName : GoString) : EsProg β (Option GoError) :=
  send (.putAlias index aliasName)

def swapAlias (aliasName oldIndex newIndex : GoString) : EsProg β (Option GoError) :=
  send (.updateAliases aliasName oldIndex newIndex)

def reindex (src dst script : GoString) : EsProg β (Option GoError) :=
  send (.reindex src dst (if script ≠ [] then some script else none))

def aliasIndices (ord : RangeOrder) (aliasName : GoString) :
    EsProg β (Except GoError (List GoString)) := do
  let outcome ← perform (Request.getAlias aliasName)
  match doJSON outcome with
  | .error err => if isNotFound err then pure (.ok []) else pure (.error err)
  | .ok (.error err) => pure (.error (errorf (str "elastic: decode alias response: %w") err))
  | .ok (.ok resp) => pure (.ok (sortStrings ((range ord 0 resp).map Prod.fst)))

structure MigrateOptions where
  script : GoString := []
  deleteOld : Bool := false

def unlessFailed (wrap : GoError → GoError) (rest : EsProg β (Option GoError)) :
    Option GoError → EsProg β (Option GoError)
  | some err => pure (some (wrap err))
  | none => rest

/-- The loops of `MigrateIndex`: each call in turn, except for the new index, up to the
first error. -/
def forEachOld (newIndex format : GoString) (call : GoString → EsProg β (Option GoError)) :
    List GoString → EsProg β (Option GoError)
  | [] => pure none
  | old :: olds =>
    if old = newIndex then forEachOld newIndex format call olds
    else call old >>= unlessFailed (errorf format) (forEachOld newIndex format call olds)

def migrateIndex [Inhabited β] (ord : RangeOrder) (aliasName newIndex : GoString)
    (body : Option β) (opts : MigrateOptions) : EsProg β (Option GoError) := do
  if aliasName = newIndex then
    return some (errorsNew (str "elastic: alias %q must differ from the physical index name"))
  match ← aliasIndices ord aliasName with
  | .error err => return some (errorf (str "elastic: migrate %s: resolve alias: %w") err)
  | .ok olds =>
    match ← ensureIndex newIndex body with
    | .error err => return some (errorf (str "elastic: migrate %s: create %s: %w") err)
    | .ok _ =>
      if olds.isEmpty then
        ensureAlias newIndex aliasName >>=
          unlessFailed (errorf (str "elastic: migrate %s: point alias: %w")) (pure none)
      else
        let copyAll := forEachOld newIndex (str "elastic: migrate %s: reindex %s → %s: %w")
          (fun old => reindex old newIndex opts.script) olds
        let swapAll := forEachOld newIndex (str "elastic: migrate %s: swap %s → %s: %w")
          (fun old => swapAlias aliasName old newIndex) olds
        let deleteAll := forEachOld newIndex (str "elastic: migrate %s: delete old %s: %w")
          (fun old => deleteIndex old) olds
        copyAll >>= unlessFailed id
          (swapAll >>= unlessFailed id (if opts.deleteOld then deleteAll else pure none))

end DxCommonGo.IndexLifecycle
