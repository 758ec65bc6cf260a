import DxCommonGo.DxErrors
import DxCommonGo.RelyGuarantee

/-! `GetOrLoad` of package `cache`, with the flight group that all its calls share. The first call
for a key leads a flight, under its own context and on its own cache; the others wait for its
result. -/

namespace DxCommonGo.GetOrLoad
open GoStrings DxErrors Programs Threads RelyGuarantee

/-- The Go types of cached values, with their zero values and their JSON. -/
structure GoTypes where
  Ty : Type
  Val : Ty → Type
  zero : (t : Ty) → Val t
  marshal : (t : Ty) → Val t → Option GoString
  unmarshal : (t : Ty) → GoString → Option (Val t)
  decEq : DecidableEq Ty

instance (g : GoTypes) : DecidableEq g.Ty := g.decEq

abbrev GoTypes.Any (g : GoTypes) := (t : g.Ty) × g.Val t

inductive Op (g : GoTypes) where
  | get (cache : Nat) (key : GoString)
  | set (cache : Nat) (key value : GoString) (ttl : Int64)
  | load (t : g.Ty)
  | enter (key : GoString)
  | finish (key : GoString) (result : g.Any × Option GoError)
  | wait (leader : Nat)

@[reducible] def Reply (g : GoTypes) : Op g → Type
  | .get _ _ => Except GoError GoString
  | .set _ _ _ _ => Option GoError
  | .load t => Except GoError (g.Val t)
  | .enter _ => Option Nat
  | .finish _ _ => Unit
  | .wait _ => g.Any × Option GoError

abbrev CacheProg (g : GoTypes) (α : Type) := Prog (Op g) (Reply g) α

variable {g : GoTypes}

def ask (op : Op g) : CacheProg g (Reply g op) := perform op

/-- `cached`: any error and any undecodable entry is a miss. -/
def cached (t : g.Ty) (cache : Nat) (key : GoString) : CacheProg g (Option (g.Val t)) := do
  let reply : Except GoError GoString ← ask (.get cache key)
  match reply with
  | .error _ => return none
  | .ok s => if s = [] then return none else return g.unmarshal t s

def groupDo (key : GoString) (fn : CacheProg g (g.Any × Option GoError)) :
    CacheProg g (g.Any × Option GoError) := do
  let flight : Option Nat ← ask (.enter key)
  match flight with
  | some leader => ask (.wait leader)
  | none =>
    let result ← fn
    ask (.finish key result)
    return result

def loadAndCache (t : g.Ty) (cache : Nat) (key : GoString) (ttl : Int64) :
    CacheProg g (g.Any × Option GoError) := do
  match ← cached t cache key with
  | some v => return (⟨t, v⟩, none)
  | none =>
    let reply : Except GoError (g.Val t) ← ask (.load t)
    match reply with
    | .error err => return (⟨t, g.zero t⟩, some err)
    | .ok v =>
      match g.marshal t v with
      | some b =>
        let _ ← ask (.set cache key b ttl)
        return (⟨t, v⟩, none)
      | none => return (⟨t, v⟩, none)

def assertType (t : g.Ty) (out : g.Any) : CacheProg g (g.Val t) :=
  if h : out.1 = t then return h ▸ out.2 else .panic

def getOrLoad (t : g.Ty) (cache : Nat) (key : GoString) (ttl : Int64) :
    CacheProg g (g.Val t × Option GoError) := do
  match ← cached t cache key with
  | some v => return (v, none)
  | none =>
    let (out, err) ← groupDo key (loadAndCache t cache key ttl)
    match err with
    | some err => return (g.zero t, some err)
    | none =>
      let v ← assertType t out
      return (v, none)

structure Call where
  cache : Nat
  key : GoString
  ttl : Int64

/-- The calls of a process. One key always decodes into one type. -/
structure Setup (g : GoTypes) where
  calls : Nat → Call
  typeOf : GoString → g.Ty

def Setup.program (u : Setup g) (i : Nat) : CacheProg g (g.Any × Option GoError) := do
  let c := u.calls i
  let (v, err) ← getOrLoad (u.typeOf c.key) c.cache c.key c.ttl
  return (⟨u.typeOf c.key, v⟩, err)

/-- The flights by key, each known by its leader, and their results; then what has happened: texts
read from the caches, values loaded, calls whose load failed, waits, and cancelled contexts. -/
structure World (g : GoTypes) where
  inFlight : GoString → Option Nat := fun _ => none
  results : Nat → Option (g.Any × Option GoError) := fun _ => none
  reads : List (Nat × GoString × GoString) := []
  loads : List (Nat × g.Any) := []
  failed : List Nat := []
  joined : List (Nat × Nat) := []
  cancelled : List Nat := []

inductive Choice (g : GoTypes) where
  | proceed
  | reads (reply : Except GoError GoString)
  | stores (err : Option GoError)
  | loads (v : g.Any)
  | fails (err : GoError)

def answer (i : Nat) : (op : Op g) → Choice g → World g → Option (Reply g op × World g)
  | .get cache key, .reads (.ok s), w =>
    some (.ok s, { w with reads := (cache, key, s) :: w.reads })
  | .get _ _, .reads (.error err), w => some (.error err, w)
  | .set _ _ _ _, .stores err, w => some (err, w)
  | .load t, .loads v, w =>
    if h : v.1 = t then some (.ok (h ▸ v.2), { w with loads := (i, v) :: w.loads }) else none
  | .load _, .fails err, w => some (.error err, { w with failed := i :: w.failed })
  | .enter key, .proceed, w =>
    match w.inFlight key with
    | some leader => some (some leader, { w with joined := (i, leader) :: w.joined })
    | none => some (none, { w with inFlight := Function.update w.inFlight key (some i) })
  | .finish key result, .proceed, w =>
    some ((), { w with
      inFlight := Function.update w.inFlight key none
      results := Function.update w.results i (some result) })
  | .wait leader, .proceed, w => (w.results leader).map fun result => (result, w)
  | _, _, _ => none

structure Cancel where
  call : Nat

def act (e : Cancel) (w : World g) : Option (World g) :=
  some { w with cancelled := e.call :: w.cancelled }

def env (g : GoTypes) :
    Env Nat (Op g) (Reply g) (g.Any × Option GoError) (Choice g) Cancel (World g) :=
  ⟨answer, act, fun _ _ => none⟩

def Setup.start (u : Setup g) : System Nat (Op g) (Reply g) (g.Any × Option GoError) (World g) :=
  ⟨u.program, {}⟩

end DxCommonGo.GetOrLoad
