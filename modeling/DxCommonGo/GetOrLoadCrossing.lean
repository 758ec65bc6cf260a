import DxCommonGo.GetOrLoadFlights

/-! When the result of one call of `GetOrLoad` is served to another: a value of another cache, and
the error of another call's context. -/

namespace DxCommonGo.GetOrLoadCrossing
open GoStrings GoErrors Threads Runs RelyGuarantee GetOrLoad GetOrLoadFlights

variable {g : GoTypes}

/-- A value that a call returns was read from the call's own cache or loaded for it,
if the call has waited for no flight on another cache. -/
theorem value_from_own_cache (u : Setup g) (as : List (Input Nat (Choice g) Cancel)) :
    Always (env g).step (fun s => ∀ i v, s.threads i = .ret (v, none) →
      (∀ j, (i, j) ∈ s.world.joined → (u.calls j).cache = (u.calls i).cache) →
      Supplied u (u.calls i).cache (u.calls i).key v s.world) u.start as := by
  refine (always_obtains u as).mono fun s obtains i v ended home => ?_
  obtain ⟨j, source, key, yields⟩ := obtains i _ ended
  have cache : (u.calls j).cache = (u.calls i).cache := by
    rcases source with rfl | joined
    · rfl
    · exact home j joined
  rw [← cache, ← key]
  exact yields.value rfl

def texts : GoTypes where
  Ty := Unit
  Val _ := GoString
  zero _ := []
  marshal _ v := some v
  unmarshal _ s := some s
  decEq := inferInstance

def twoCaches : Setup texts := ⟨fun i => ⟨i, str "user:7", 60⟩, fun _ => ()⟩

def overlap : List (Input Nat (Choice texts) Cancel) :=
  [.turn 0 (.reads (.ok [])), .turn 0 .proceed, .turn 0 (.reads (.ok [])),
    .turn 1 (.reads (.ok [])), .turn 1 .proceed]

def crossing : List (Input Nat (Choice texts) Cancel) :=
  overlap ++ [.turn 0 (.loads ⟨(), str "Ada"⟩), .turn 0 (.stores none), .turn 0 .proceed,
    .turn 1 .proceed]

/-- The value that call 1 returns was loaded for the other cache: nothing was read
from its own, and no load of a call on it has run. -/
theorem value_crosses_caches : ∃ s,
    crossing.foldlM (env texts).step twoCaches.start = some s ∧
    s.threads 1 = .ret (⟨(), str "Ada"⟩, none) ∧
    ¬Supplied twoCaches 1 (str "user:7") ⟨(), str "Ada"⟩ s.world := by
  refine ⟨_, rfl, rfl, ?_⟩
  rintro (⟨s, x, read, decoded, same⟩ | ⟨j, onCache, -, loaded⟩)
  · have misses : ∀ r ∈ [(1, str "user:7", []), (0, str "user:7", []), (0, str "user:7", [])],
        r.2.2 = ([] : GoString) := by decide
    have empty : s = [] := misses _ read
    subst empty
    cases decoded
    cases same
  · cases List.mem_singleton.mp loaded
    cases onCache

/-- If loads fail only under cancelled contexts, a call whose own context is not
cancelled returns no error, unless it has waited for a call whose context is. -/
theorem error_only_by_cancellation (u : Setup g) (as : List (Input Nat (Choice g) Cancel)) :
    Always (env g).step (fun s => (∀ j ∈ s.world.failed, j ∈ s.world.cancelled) →
      ∀ i v err, s.threads i = .ret (v, err) → i ∉ s.world.cancelled →
        (∀ j, (i, j) ∈ s.world.joined → j ∉ s.world.cancelled) → err = none) u.start as := by
  refine (always_obtains u as).mono fun s obtains onlyCancelled i v err ended own others => ?_
  obtain ⟨j, source, -, yields⟩ := obtains i _ ended
  by_contra failed
  have cancelled : j ∈ s.world.cancelled := onlyCancelled j (yields.error failed)
  rcases source with rfl | joined
  · exact own cancelled
  · exact others j joined cancelled

def oneCache : Setup texts := ⟨fun _ => ⟨0, str "user:7", 60⟩, fun _ => ()⟩

def cancellation : List (Input Nat (Choice texts) Cancel) :=
  overlap ++ [.event ⟨0⟩, .turn 0 (.fails (leaf (.sentinel .canceled))), .turn 0 .proceed,
    .turn 1 .proceed]

/-- The context of call 0 is cancelled, its load fails for that reason, and call 1
returns the error. -/
theorem error_crosses_calls : ∃ s,
    cancellation.foldlM (env texts).step oneCache.start = some s ∧
    s.world.failed = [0] ∧ s.world.cancelled = [0] ∧
    s.threads 1 = .ret (⟨(), []⟩, some (leaf (.sentinel .canceled))) :=
  ⟨_, rfl, rfl, rfl, rfl⟩

end DxCommonGo.GetOrLoadCrossing
