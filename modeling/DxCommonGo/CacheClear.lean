import DxCommonGo.DxErrors
import DxCommonGo.GoMaps
import DxCommonGo.Programs
import DxCommonGo.RedisGlob

/-! `Clear` of the cache in package `redis`. It scans for the key prefix with a star behind it, so
the prefix is read as a pattern. -/

namespace DxCommonGo.CacheClear
open GoStrings GoMaps DxErrors Programs RedisGlob

inductive Scan where
  | last (page : List GoString)
  | more (page : List GoString) (rest : Scan)
  | fails (err : GoError)

namespace Scan

def keys : Scan → List GoString
  | last page => page
  | more page rest => page ++ rest.keys
  | fails _ => []

def completes : Scan → Bool
  | last _ => true
  | more _ rest => rest.completes
  | fails _ => false

end Scan

inductive Op where
  | scan (pattern : GoString) (count : Nat)
  | del (key : GoString)

@[reducible] def Reply : Op → Type
  | .scan _ _ => Scan
  | .del _ => Option GoError

abbrev ClearProg (α : Type) := Prog Op Reply α

def ask (op : Op) : ClearProg (Reply op) := perform op

def deletePage : List GoString → ClearProg (Option GoError) → ClearProg (Option GoError)
  | [], next => next
  | key :: page, next => do
    match ← ask (.del key) with
    | some err => return some err
    | none => deletePage page next

def deleteAll : Scan → ClearProg (Option GoError)
  | .last page => deletePage page (return none)
  | .more page rest => deletePage page (deleteAll rest)
  | .fails err => return some err

def errClearRefused : GoError :=
  errorsNew (str "redis cache: Clear requires WithKeyPrefix (refusing to flush a shared DB)")

def clear (keyPrefix : GoString) : ClearProg (Option GoError) :=
  if keyPrefix.isEmpty then return some errClearRefused
  else do deleteAll (← ask (.scan (keyPrefix ++ str "*") 200))

section Server

variable {V : Type}

def server (pages : GoString → GoMap V → Scan) : Handler Op Reply (GoMap V)
  | .scan pattern _, db => (pages pattern db, db)
  | .del key, db => (none, db.erase key)

def eraseAll (db : GoMap V) (keys : List GoString) : GoMap V :=
  keys.foldl (fun acc key => acc.erase key) db

theorem lookup_eraseAll (db : GoMap V) (keys : List GoString) (key : GoString) :
    (eraseAll db keys).lookup key = if keys.contains key then none else db.lookup key := by
  induction keys generalizing db with
  | nil => rfl
  | cons k keys ih =>
    rw [show eraseAll db (k :: keys) = eraseAll (db.erase k) keys from rfl, ih]
    by_cases same : key = k
    · rw [same, AList.lookup_erase, List.contains_cons, beq_self_eq_true, Bool.true_or, ite_self]
      rfl
    · rw [AList.lookup_erase_ne same, List.contains_cons, beq_false_of_ne same, Bool.false_or]

variable (pages : GoString → GoMap V → Scan)

theorem run_deletePage (page : List GoString) (next : ClearProg (Option GoError)) (db : GoMap V) :
    run (server pages) (deletePage page next) db = run (server pages) next (eraseAll db page) := by
  induction page generalizing db with
  | nil => rfl
  | cons key page ih => exact ih (db.erase key)

theorem run_deleteAll (scan : Scan) (completes : scan.completes = true) (db : GoMap V) :
    run (server pages) (deleteAll scan) db = (.returned none, eraseAll db scan.keys) := by
  induction scan generalizing db with
  | last page => exact run_deletePage pages page _ db
  | more page rest ih =>
    rw [deleteAll, run_deletePage, ih completes, Scan.keys, eraseAll, eraseAll, eraseAll,
      List.foldl_append]
  | fails err => cases completes

theorem run_clear {keyPrefix : GoString} (named : keyPrefix ≠ []) {db : GoMap V}
    (completes : (pages (keyPrefix ++ str "*") db).completes = true) :
    run (server pages) (clear keyPrefix) db =
      (.returned none, eraseAll db (pages (keyPrefix ++ str "*") db).keys) := by
  rw [clear, if_neg (by simpa using named)]
  exact run_deleteAll pages _ completes db

end Server

variable {V : Type}

/-- What a scan promises: it returns matching keys only, and each that was there throughout. -/
structure Scanned (pattern : GoString) (db db' : GoMap V) (scan : Scan) : Prop where
  matching : ∀ key ∈ scan.keys, globMatch pattern key = true
  complete : ∀ key ∈ db, key ∈ db' → globMatch pattern key = true → key ∈ scan.keys

def Cleared (keyPrefix : GoString) (db db' : GoMap V) : Prop :=
  ∀ key, db'.lookup key = if keyPrefix.isPrefixOf key then none else db.lookup key

/-- A run of `Clear` over a scan that completes returns nil, and clears the prefix if the server
keeps the promise of the scan. -/
def Clears (keyPrefix : GoString) (db : GoMap V) (scan : Scan) : Prop :=
  ∃ db', run (server fun _ _ => scan) (clear keyPrefix) db = (.returned none, db') ∧
    (Scanned (keyPrefix ++ str "*") db db' scan → Cleared keyPrefix db db')

theorem cleared_of_matching {keyPrefix : GoString} {db : GoMap V} {scan : Scan}
    (literally : ∀ key, globMatch (keyPrefix ++ str "*") key = true ↔ keyPrefix <+: key)
    (promise : Scanned (keyPrefix ++ str "*") db (eraseAll db scan.keys) scan) :
    Cleared keyPrefix db (eraseAll db scan.keys) := by
  intro key
  rw [lookup_eraseAll]
  by_cases returned : key ∈ scan.keys
  · have inside := (literally key).mp (promise.matching key returned)
    rw [if_pos (List.contains_iff_mem.mpr returned), if_pos (List.isPrefixOf_iff_prefix.mpr inside)]
  · have kept : ¬scan.keys.contains key = true := fun h => returned (List.contains_iff_mem.mp h)
    rw [if_neg kept]
    split
    · next inside =>
      -- A key of the prefix that is not returned was not there: nothing deleted it.
      refine AList.lookup_eq_none.mpr fun present => returned (promise.complete key present ?_ ?_)
      · rwa [← AList.lookup_isSome, lookup_eraseAll, if_neg kept, AList.lookup_isSome]
      · exact (literally key).mpr (List.isPrefixOf_iff_prefix.mp inside)
    · rfl

theorem lookup_singleton (key : GoString) (v : V) :
    (AList.singleton key v : GoMap V).lookup key = some v := by
  rw [← AList.insert_empty]
  exact AList.lookup_insert _

def scanOne (pattern key : GoString) : Scan := .last (if globMatch pattern key then [key] else [])

theorem contains_scanOne (pattern key : GoString) :
    (scanOne pattern key).keys.contains key = globMatch pattern key := by
  cases matched : globMatch pattern key <;> simp [scanOne, Scan.keys, matched]

theorem scanned_one (pattern key : GoString) (v : V) (db' : GoMap V) :
    Scanned pattern (AList.singleton key v) db' (scanOne pattern key) where
  matching := by
    intro k returned
    simp only [scanOne, Scan.keys] at returned
    split at returned
    · next matched => rwa [List.mem_singleton.mp returned]
    · cases returned
  complete := by
    intro k present _ matched
    rw [AList.mem_keys, AList.keys_singleton] at present
    obtain rfl : k = key := List.mem_singleton.mp present
    simp [scanOne, Scan.keys, matched]

/-- `Clear` deletes the keys under its prefix and no other ones, whatever the database holds and
however the scan pages it, exactly if the prefix has no character that patterns interpret. -/
theorem clear_exact_iff [Inhabited V] (keyPrefix : GoString) (named : keyPrefix ≠ []) :
    (∀ (db : GoMap V) (scan : Scan), scan.completes = true → Clears keyPrefix db scan) ↔
      ∀ b ∈ keyPrefix, special b = false := by
  rw [← globMatch_star_iff]
  constructor
  · intro clears key
    obtain ⟨db', done, cleared⟩ := clears (AList.singleton key default)
      (scanOne (keyPrefix ++ str "*") key) rfl
    have after := @run_clear V (fun _ _ => scanOne (keyPrefix ++ str "*") key) keyPrefix named
      (AList.singleton key default) rfl
    rw [done] at after
    obtain rfl := (Prod.mk.inj after).2
    have gone := cleared (scanned_one _ key default _) key
    rw [lookup_eraseAll, contains_scanOne, lookup_singleton] at gone
    rw [← List.isPrefixOf_iff_prefix]
    change globMatch (keyPrefix ++ str "*") key = true ↔ _
    cases matched : globMatch (keyPrefix ++ str "*") key <;>
      cases inside : keyPrefix.isPrefixOf key <;> simp_all
  · intro literally db scan completes
    exact ⟨_, run_clear (fun _ _ => scan) named completes, cleared_of_matching literally⟩

def shared : GoMap GoString :=
  ofPairs [(str "app[1]:user", str "ann"), (str "app1:user", str "bob")]

/-- A plain prefix, with a scan that returns its key on two pages. -/
theorem plain_cleared :
    Clears (str "app1:") shared (.more [str "app1:user"] (.last [str "app1:user"])) := by
  refine (clear_exact_iff (str "app1:") (by decide)).mpr ?_ shared _ rfl
  exact plain_of_any (by decide)

/-- The prefix `app[1]:` is read as a class, so its `Clear` deletes the key of `app1:` and leaves
its own. -/
theorem class_clears_other :
    ∃ db', run (server fun _ _ => .last [str "app1:user"]) (clear (str "app[1]:")) shared =
        (.returned none, db') ∧
      Scanned (str "app[1]:*") shared db' (.last [str "app1:user"]) ∧
      db'.lookup (str "app1:user") = none ∧
      db'.lookup (str "app[1]:user") = some (str "ann") := by
  refine ⟨eraseAll shared [str "app1:user"], run_clear _ (by decide) rfl, ⟨?_, ?_⟩, ?_, ?_⟩
  · decide +kernel
  · have listed : ∀ key ∈ shared.keys, globMatch (str "app[1]:*") key = true →
        key ∈ [str "app1:user"] := by decide +kernel
    exact fun key present _ => listed key present
  · decide +kernel
  · decide +kernel

end DxCommonGo.CacheClear
