import DxCommonGo.CacheImplementations
import DxCommonGo.Runs
import Mathlib.Logic.Function.Basic

/-! The contract of package `cache`, as a store of strings with moments of expiry. An implementation
follows it if every call shows and leaves what the store does, up to expired entries. -/

namespace DxCommonGo.CacheContract
open GoStrings Runs RedisGlob CacheImplementations

variable {J : Type}

inductive Shown (J : Type) where
  | text (r : Option GoString)
  | decoded (r : Option J)
  | flag (r : Option Bool)
  | done (ok : Bool)

def shown : Result J → Shown J
  | .text r => .text r.toOption
  | .decoded r => .decoded r.toOption
  | .flag r => .flag r.toOption
  | .done err => .done err.isNone

inductive Event where
  | advance (d : Nat)
  | call (c : Call)

def timed {σ : Type} (answer : Int → σ → Call → Shown J × σ) :
    Int × σ → Event → Option (Shown J) × (Int × σ)
  | (now, s), .advance d => (none, (now + d, s))
  | (now, s), .call c => (some (answer now s c).1, (now, (answer now s c).2))

def observed {σ : Type} (call : Int → σ → Call → Result J × σ) (now : Int) (s : σ) (c : Call) :
    Shown J × σ :=
  (shown (call now s c).1, (call now s c).2)

section Spec

structure Stored where
  value : GoString
  expiry : Option Int

abbrev Store := GoString → Option Stored

def fresh (now : Int) (e : Option Stored) : Option Stored :=
  e.filter fun e => !e.expiry.any (· < now)

def lifetime (now ttl : Int) : Option Int := if 0 < ttl then some (now + ttl) else none

def spec (json : Decoder J) (missing : Option GoString) (now : Int) (store : Store) :
    Call → Shown J × Store
  | .get key => (.text (((fresh now (store key)).map Stored.value).or missing), store)
  | .getJSON key =>
    (.decoded ((fresh now (store key)).bind fun e => (json.decode e.value).toOption), store)
  | .set key value ttl =>
    match value.payload with
    | .error _ => (.done false, store)
    | .ok payload => (.done true, Function.update store key (some ⟨payload, lifetime now ttl⟩))
  | .delete key => (.done true, Function.update store key none)
  | .keyExists key => (.flag (some (fresh now (store key)).isSome), store)
  | .clear => (.done true, fun _ => none)

/-- The stores differ in expired entries only. -/
def Agree (now : Int) (a b : Store) : Prop := ∀ key, fresh now (a key) = fresh now (b key)

theorem fresh_fresh {now later : Int} (le : now ≤ later) (e : Option Stored) :
    fresh later (fresh now e) = fresh later e := by
  rw [fresh, fresh, fresh, Option.filter_filter]
  congr 1
  funext e
  cases expiry : e.expiry with
  | none => rfl
  | some t =>
    by_cases gone : t < now
    · have gone' : t < later := by omega
      simp [gone, gone']
    · simp [gone]

theorem Agree.later {now later : Int} (le : now ≤ later) {a b : Store} (agree : Agree now a b) :
    Agree later a b := by
  intro key
  rw [← fresh_fresh le (a key), agree key, fresh_fresh le]

theorem Agree.update {now : Int} {a b : Store} (agree : Agree now a b) (key : GoString)
    (e : Option Stored) : Agree now (Function.update a key e) (Function.update b key e) := by
  intro k
  by_cases same : k = key
  · rw [same, Function.update_self, Function.update_self]
  · rw [Function.update_of_ne same, Function.update_of_ne same, agree k]

variable {json : Decoder J} {missing : Option GoString} {now : Int} {a b : Store}

theorem spec_agree (agree : Agree now a b) (c : Call) :
    (spec json missing now a c).1 = (spec json missing now b c).1 ∧
      Agree now (spec json missing now a c).2 (spec json missing now b c).2 := by
  cases c with
  | get key | getJSON key | keyExists key =>
    exact ⟨by simp only [spec, agree key], agree⟩
  | set key value ttl =>
    cases encoded : value.payload with
    | error err =>
      simp only [spec, encoded]
      exact ⟨trivial, agree⟩
    | ok payload =>
      simp only [spec, encoded]
      exact ⟨trivial, agree.update key _⟩
  | delete key => exact ⟨rfl, agree.update key none⟩
  | clear => exact ⟨rfl, fun _ => rfl⟩

end Spec

/-- The calls of an implementation follow the specification at the moments of one `phase` of the
millisecond. -/
def Implements {σ : Type} (call : Int → σ → Call → Result J × σ) (contents : σ → Store)
    (json : Decoder J) (missing : Option GoString) (phase : Int) (allowed : Call → Prop) : Prop :=
  ∀ now s c, now % 1000000 = phase → allowed c →
    shown (call now s c).1 = (spec json missing now (contents s) c).1 ∧
      Agree now (contents (call now s c).2) (spec json missing now (contents s) c).2

/-- The events on which the caches can be compared. The server rounds to milliseconds, its client
reads a TTL of `-1` as one to keep, and `Clear` reads the prefix as a pattern. -/
def Regular (keyPrefix : GoString) : Event → Prop
  | .advance d => 1000000 ∣ d
  | .call (.set _ _ ttl) => ttl ≠ -1 ∧ (0 < ttl → 1000000 ∣ ttl)
  | .call .clear => keyPrefix ≠ [] ∧ ∀ b ∈ keyPrefix, special b = false
  | .call _ => True

theorem Implements.outputs_eq {σ : Type} {call : Int → σ → Call → Result J × σ}
    {contents : σ → Store} {json : Decoder J} {missing : Option GoString} {now : Int}
    {keyPrefix : GoString}
    (follows : Implements call contents json missing (now % 1000000)
      fun c => Regular keyPrefix (.call c))
    {s : σ} {store : Store} (agree : Agree now (contents s) store) {events : List Event}
    (regular : ∀ e ∈ events, Regular keyPrefix e) :
    outputs (timed (observed call)) (now, s) events =
      outputs (timed (spec json missing)) (now, store) events := by
  refine outputs_eq_of_allowed
    (fun x y => x.1 = y.1 ∧ x.1 % 1000000 = now % 1000000 ∧ Agree x.1 (contents x.2) y.2)
    (Regular keyPrefix) ?_ ⟨rfl, rfl, agree⟩ regular
  rintro ⟨t, s⟩ ⟨_, store⟩ e allowed ⟨rfl, phase, agree⟩
  cases e with
  | advance d =>
    refine ⟨rfl, rfl, ?_, agree.later (show t ≤ t + d by omega)⟩
    change 1000000 ∣ d at allowed
    change (t + d) % 1000000 = now % 1000000
    omega
  | call c =>
    obtain ⟨result, follow⟩ := follows t s c phase allowed
    obtain ⟨result', follow'⟩ := spec_agree agree c
    refine ⟨congrArg some (result.trans result'), rfl, phase, ?_⟩
    exact fun key => (follow key).trans (follow' key)

theorem getD_eq_or (r : Option GoString) : some (r.getD []) = r.or (some []) := by
  cases r <;> rfl

theorem decodeText_toOption (json : Decoder J) (e : Option Stored) :
    (decodeText json (.ok ((e.map Stored.value).getD []))).toOption =
      e.bind fun e => (json.decode e.value).toOption := by
  cases e with
  | none => rfl
  | some e =>
    obtain ⟨value, expiry⟩ := e
    cases value with
    | nil => simp [decodeText, json.decode_nil, Except.toOption]
    | cons b rest => rfl

section Memory

variable {mc : MemoryCache} {now : Int} {key : GoString}

def memoryContents (mc : MemoryCache) : Store := fun key =>
  (mc.data.lookup key).map fun v => ⟨v, mc.ttl.lookup key⟩

theorem memoryContents_remove (mc : MemoryCache) (key : GoString) :
    memoryContents (mc.remove key) = Function.update (memoryContents mc) key none := by
  funext k
  by_cases same : k = key
  · subst same
    simp [memoryContents, MemoryCache.remove]
  · simp [memoryContents, MemoryCache.remove, same, AList.lookup_erase_ne same]

theorem memoryContents_store (mc : MemoryCache) (now : Int) (key payload : GoString) (ttl : Int) :
    memoryContents (mc.store now key payload ttl) =
      Function.update (memoryContents mc) key (some ⟨payload, lifetime now ttl⟩) := by
  funext k
  by_cases same : k = key
  · subst same
    by_cases positive : 0 < ttl <;> simp [memoryContents, MemoryCache.store, lifetime, positive]
  · by_cases positive : 0 < ttl <;>
      simp [memoryContents, MemoryCache.store, same, positive, AList.lookup_erase_ne same,
        AList.lookup_insert_ne same]

theorem fresh_of_expired (expired : mc.expired now key = true) :
    fresh now (memoryContents mc key) = none := by
  simp only [fresh, memoryContents]
  cases mc.data.lookup key with
  | none => rfl
  | some v => simpa [Option.filter, MemoryCache.expired] using expired

theorem fresh_of_not_expired (live : mc.expired now key = false) :
    fresh now (memoryContents mc key) = memoryContents mc key := by
  simp only [fresh, memoryContents]
  cases mc.data.lookup key with
  | none => rfl
  | some v => simpa [Option.filter, MemoryCache.expired] using live

theorem agree_remove (expired : mc.expired now key = true) :
    Agree now (memoryContents (mc.remove key)) (memoryContents mc) := by
  intro k
  rw [memoryContents_remove]
  by_cases same : k = key
  · rw [same, Function.update_self, fresh_of_expired expired]
    rfl
  · rw [Function.update_of_ne same]

theorem memory_get (mc : MemoryCache) (now : Int) (key : GoString) :
    (mc.get now key).1 = .ok (((fresh now (memoryContents mc key)).map Stored.value).getD []) ∧
      Agree now (memoryContents (mc.get now key).2) (memoryContents mc) := by
  rw [MemoryCache.get]
  cases expired : mc.expired now key with
  | true =>
    rw [if_pos rfl, fresh_of_expired expired]
    exact ⟨rfl, agree_remove expired⟩
  | false =>
    rw [if_neg Bool.false_ne_true, fresh_of_not_expired expired, memoryContents, Option.map_map]
    refine ⟨?_, fun _ => rfl⟩
    rw [show (Stored.value ∘ fun v => ⟨v, mc.ttl.lookup key⟩) = id from rfl, Option.map_id_apply]

theorem memory_keyExists (mc : MemoryCache) (now : Int) (key : GoString) :
    (mc.keyExists now key).1 = .ok (fresh now (memoryContents mc key)).isSome ∧
      Agree now (memoryContents (mc.keyExists now key).2) (memoryContents mc) := by
  rw [MemoryCache.keyExists]
  cases expired : mc.expired now key with
  | true =>
    rw [if_pos rfl, fresh_of_expired expired]
    exact ⟨rfl, agree_remove expired⟩
  | false =>
    rw [if_neg Bool.false_ne_true, fresh_of_not_expired expired, memoryContents, Option.isSome_map]
    exact ⟨rfl, fun _ => rfl⟩

theorem memory_implements (json : Decoder J) (phase : Int) (allowed : Call → Prop) :
    Implements (MemoryCache.call json) memoryContents json (some []) phase allowed := by
  intro now mc c _ _
  cases c with
  | get key =>
    obtain ⟨text, agree⟩ := memory_get mc now key
    refine ⟨?_, agree⟩
    simp only [MemoryCache.call, shown, text, spec, ← getD_eq_or]
    rfl
  | getJSON key =>
    obtain ⟨text, agree⟩ := memory_get mc now key
    refine ⟨?_, agree⟩
    simp only [MemoryCache.call, MemoryCache.getJSON, shown, text, decodeText_toOption, spec]
  | set key value ttl =>
    simp only [MemoryCache.call, MemoryCache.set, spec]
    cases value.payload with
    | error err => exact ⟨rfl, fun _ => rfl⟩
    | ok payload =>
      refine ⟨rfl, fun k => ?_⟩
      simp only [memoryContents_store]
  | delete key =>
    refine ⟨rfl, fun k => ?_⟩
    simp only [MemoryCache.call, spec, memoryContents_remove]
  | keyExists key =>
    obtain ⟨flag, agree⟩ := memory_keyExists mc now key
    refine ⟨?_, agree⟩
    simp only [MemoryCache.call, shown, flag, spec]
    rfl
  | clear => exact ⟨rfl, fun _ => rfl⟩

end Memory

end DxCommonGo.CacheContract
