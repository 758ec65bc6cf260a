import DxCommonGo.CacheContract

/-! The caches on Redis against the contract, and the three implementations against each other. They
differ in what `Get` says of a key it does not find. The server counts in milliseconds. -/

namespace DxCommonGo.CacheAgreement
open GoStrings Programs Runs RedisGlob CacheClear CacheImplementations
  CacheContract

variable {J : Type} (json : Decoder J)

section Redis

variable {phase : Int} {db : Database} {now : Int} {keyPrefix key : GoString}

def storedAt (phase : Int) (e : Entry) : Stored :=
  ⟨e.value, e.expireAt.map fun t => t * 1000000 + phase⟩

def redisContents (phase : Int) (keyPrefix : GoString) (db : Database) : Store := fun key =>
  (db.lookup (keyPrefix ++ key)).map (storedAt phase)

theorem fresh_redisContents (now : Int) (keyPrefix : GoString) (db : Database) (key : GoString) :
    fresh now (redisContents (now % 1000000) keyPrefix db key) =
      (liveEntry db now (keyPrefix ++ key)).map (storedAt (now % 1000000)) := by
  simp only [fresh, redisContents, liveEntry]
  cases db.lookup (keyPrefix ++ key) with
  | none => rfl
  | some e =>
    cases expiry : e.expireAt with
    | none => simp [Option.filter, storedAt, Entry.expired, expiry]
    | some t =>
      have later : t * 1000000 + now % 1000000 < now ↔ t < milli now := by
        rw [milli]
        omega
      by_cases gone : t < milli now
      · simp [Option.filter, storedAt, Entry.expired, expiry, later, gone]
      · simp [Option.filter, storedAt, Entry.expired, expiry, later, gone]

theorem redisContents_update {db' : Database} {e : Option Entry}
    (here : db'.lookup (keyPrefix ++ key) = e)
    (others : ∀ k, k ≠ keyPrefix ++ key → db'.lookup k = db.lookup k) :
    redisContents phase keyPrefix db' =
      Function.update (redisContents phase keyPrefix db) key (e.map (storedAt phase)) := by
  funext k
  by_cases same : k = key
  · subst same
    simp [redisContents, here]
  · have apart : keyPrefix ++ k ≠ keyPrefix ++ key := fun h => same (List.append_cancel_left h)
    simp [redisContents, same, others _ apart]

theorem redisContents_insert (phase : Int) (keyPrefix : GoString) (db : Database) (key : GoString)
    (e : Entry) :
    redisContents phase keyPrefix (db.insert (keyPrefix ++ key) e) =
      Function.update (redisContents phase keyPrefix db) key (some (storedAt phase e)) :=
  redisContents_update (AList.lookup_insert db) fun _ apart => AList.lookup_insert_ne apart

theorem redisContents_erase (phase : Int) (keyPrefix : GoString) (db : Database) (key : GoString) :
    redisContents phase keyPrefix (db.erase (keyPrefix ++ key)) =
      Function.update (redisContents phase keyPrefix db) key none :=
  redisContents_update (AList.lookup_erase _ db) fun _ apart => AList.lookup_erase_ne apart

theorem stored_expireAt (db : Database) (now : Int) (key payload : GoString) {ttl : Int}
    (keep : ttl ≠ -1) (whole : 0 < ttl → 1000000 ∣ ttl) :
    storedAt (now % 1000000) ⟨payload, expireAt db now key (expiration ttl)⟩ =
      ⟨payload, lifetime now ttl⟩ := by
  rw [expiration, lifetime]
  split
  · next positive =>
    have whole := whole positive
    split
    · have least : ¬ttl < 1000000 := by omega
      simp only [least, if_false, expireAt, storedAt, Option.map_some, milli, Stored.mk.injEq,
        Option.some.injEq, true_and]
      omega
    · simp only [expireAt, storedAt, Option.map_some, milli, Stored.mk.injEq,
        Option.some.injEq, true_and]
      omega
  · rfl

theorem redisContents_set (keyPrefix : GoString) (db : Database) (now : Int)
    (key payload : GoString) {ttl : Int} (keep : ttl ≠ -1) (whole : 0 < ttl → 1000000 ∣ ttl) :
    redisContents (now % 1000000) keyPrefix (setCommand db now (keyPrefix ++ key) payload ttl) =
      Function.update (redisContents (now % 1000000) keyPrefix db) key
        (some ⟨payload, lifetime now ttl⟩) := by
  rw [setCommand, redisContents_insert, stored_expireAt db now _ payload keep whole]

theorem redis_get (db : Database) (now : Int) (key : GoString) :
    RedisCache.get db now key =
      .ok (((fresh now (redisContents (now % 1000000) [] db key)).map Stored.value).getD []) := by
  rw [fresh_redisContents, RedisCache.get, List.nil_append]
  cases liveEntry db now key <;> rfl

theorem redis_implements (phase : Int) (keyPrefix : GoString) :
    Implements (RedisCache.call json) (redisContents phase []) json (some []) phase
      fun c => Regular keyPrefix (.call c) := by
  rintro now db c rfl regular
  cases c with
  | get key =>
    refine ⟨?_, fun _ => rfl⟩
    simp only [RedisCache.call, shown, redis_get, spec, ← getD_eq_or]
    rfl
  | getJSON key =>
    refine ⟨?_, fun _ => rfl⟩
    simp only [RedisCache.call, shown, redis_get, decodeText_toOption, spec]
  | set key value ttl =>
    simp only [RedisCache.call, RedisCache.set, spec]
    cases value.payload with
    | error err => exact ⟨rfl, fun _ => rfl⟩
    | ok payload =>
      refine ⟨rfl, fun k => ?_⟩
      have stored := redisContents_set [] db now key payload regular.1 regular.2
      rw [List.nil_append] at stored
      simp only [stored]
  | delete key =>
    refine ⟨rfl, fun k => ?_⟩
    have erased := redisContents_erase (now % 1000000) [] db key
    rw [List.nil_append] at erased
    simp only [RedisCache.call, spec, erased]
  | keyExists key =>
    refine ⟨?_, fun _ => rfl⟩
    simp only [RedisCache.call, shown, spec, fresh_redisContents, Option.isSome_map,
      List.nil_append]
    rfl
  | clear => exact ⟨rfl, fun _ => rfl⟩

end Redis

section NewCache

theorem contains_scanPages (now : Int) (pattern : GoString) (db : Database) (key : GoString) :
    (scanPages now pattern db).keys.contains key =
      (globMatch pattern key && (liveEntry db now key).isSome) := by
  rw [scanPages, Scan.keys, Bool.eq_iff_iff, List.contains_iff_mem, List.mem_filter,
    ← AList.mem_keys, ← AList.lookup_isSome]
  refine and_iff_right_of_imp fun found => ?_
  have live := (Bool.and_eq_true_iff.mp found).2
  rw [liveEntry] at live
  cases present : db.lookup key with
  | none => rw [present] at live; exact live
  | some e => rfl

theorem clear_newCache {keyPrefix : GoString} (named : keyPrefix ≠ [])
    (plain : ∀ b ∈ keyPrefix, special b = false) (db : Database) (now : Int) :
    ∃ db', run (server (scanPages now)) (clear keyPrefix) db = (.returned none, db') ∧
      Agree now (redisContents (now % 1000000) keyPrefix db') fun _ => none := by
  refine ⟨_, run_clear (scanPages now) named rfl, fun key => ?_⟩
  rw [fresh_redisContents, liveEntry, lookup_eraseAll, contains_scanPages]
  have matched : globMatch (keyPrefix ++ str "*") (keyPrefix ++ key) = true :=
    (globMatch_star_iff keyPrefix).mpr plain _ |>.mpr (List.prefix_append keyPrefix key)
  rw [matched, Bool.true_and]
  cases live : liveEntry db now (keyPrefix ++ key) with
  | none =>
    rw [Option.isSome_none, if_neg Bool.false_ne_true, ← liveEntry, live]
    rfl
  | some e => rfl

variable {keyPrefix : GoString}

theorem newCache_get (keyPrefix : GoString) (db : Database) (now : Int) (key : GoString) :
    (RedisCacheOptions.get ⟨keyPrefix, 0⟩ db now key).toOption =
      (fresh now (redisContents (now % 1000000) keyPrefix db key)).map Stored.value := by
  rw [fresh_redisContents, RedisCacheOptions.get, RedisCacheOptions.key]
  cases liveEntry db now (keyPrefix ++ key) <;> rfl

theorem newCache_getJSON (keyPrefix : GoString) (db : Database) (now : Int) (key : GoString) :
    (RedisCacheOptions.getJSON json ⟨keyPrefix, 0⟩ db now key).toOption =
      (fresh now (redisContents (now % 1000000) keyPrefix db key)).bind
        fun e => (json.decode e.value).toOption := by
  rw [fresh_redisContents, RedisCacheOptions.getJSON, RedisCacheOptions.get, RedisCacheOptions.key]
  cases liveEntry db now (keyPrefix ++ key) <;> rfl

theorem lifetime_default (now ttl : Int) :
    lifetime now (if ttl ≤ 0 then 0 else ttl) = lifetime now ttl := by
  simp only [lifetime]
  grind

theorem newCache_implements (phase : Int) (keyPrefix : GoString) :
    Implements (RedisCacheOptions.call json ⟨keyPrefix, 0⟩) (redisContents phase keyPrefix) json
      none phase fun c => Regular keyPrefix (.call c) := by
  rintro now db c rfl regular
  cases c with
  | get key =>
    refine ⟨?_, fun _ => rfl⟩
    simp only [RedisCacheOptions.call, shown, newCache_get, spec, Option.or_none]
  | getJSON key =>
    refine ⟨?_, fun _ => rfl⟩
    simp only [RedisCacheOptions.call, shown, newCache_getJSON, spec]
  | set key value ttl =>
    simp only [RedisCacheOptions.call, RedisCacheOptions.set, RedisCacheOptions.key, spec]
    cases value.payload with
    | error err => exact ⟨rfl, fun _ => rfl⟩
    | ok payload =>
      refine ⟨rfl, fun k => ?_⟩
      simp only
      rw [redisContents_set, lifetime_default]
      · split <;> omega
      · split
        · omega
        · exact regular.2
  | delete key =>
    refine ⟨rfl, fun k => ?_⟩
    simp only [RedisCacheOptions.call, RedisCacheOptions.key, spec, redisContents_erase]
  | keyExists key =>
    refine ⟨?_, fun _ => rfl⟩
    simp only [RedisCacheOptions.call, RedisCacheOptions.key, shown, spec, fresh_redisContents,
      Option.isSome_map]
    rfl
  | clear =>
    obtain ⟨db', done, agree⟩ := clear_newCache regular.1 regular.2 db now
    simp only [RedisCacheOptions.call, done, RedisCacheOptions.returned, spec]
    exact ⟨rfl, agree⟩

end NewCache

section Hits

variable (json : Decoder J)

def hits (s : Int × Store) : Event → Bool
  | .call (.get key) => (fresh s.1 (s.2 key)).isSome
  | _ => true

def Hits : Int × Store → List Event → Prop
  | _, [] => True
  | s, e :: events => hits s e = true ∧ Hits (timed (spec json none) s e).2 events

theorem spec_next (missing : Option GoString) (now : Int) (store : Store) (c : Call) :
    (spec json missing now store c).2 = (spec json none now store c).2 := by
  cases c <;> rfl

theorem spec_shown_iff (now : Int) (store : Store) (c : Call) :
    (spec json none now store c).1 = (spec json (some []) now store c).1 ↔
      hits (now, store) (.call c) = true := by
  cases c with
  | get key =>
    simp only [spec, hits, Shown.text.injEq]
    cases fresh now (store key) <;> simp
  | getJSON | set | delete | keyExists | clear => exact iff_of_true rfl rfl

theorem outputs_eq_iff_hits (s : Int × Store) (events : List Event) :
    outputs (timed (spec json none)) s events = outputs (timed (spec json (some []))) s events ↔
      Hits json s events := by
  induction events generalizing s with
  | nil => exact iff_of_true rfl trivial
  | cons e events ih =>
    rw [outputs, outputs, Hits, List.cons.injEq, ← ih]
    cases e with
    | advance d => exact and_congr_left fun _ => iff_of_true rfl rfl
    | call c =>
      simp only [timed, Option.some.injEq, spec_shown_iff, spec_next json (some [])]

end Hits

/-- On a regular history, `MemoryCache` and `RedisCache` answer alike, and `NewCache` answers like
them exactly if every `Get` hits. The database may hold keys of others beside the prefix. -/
theorem caches_agree_iff (json : Decoder J) (keyPrefix : GoString) (now : Int)
    (foreign : Database) (unused : ∀ key, foreign.lookup (keyPrefix ++ key) = none)
    (events : List Event) (regular : ∀ e ∈ events, Regular keyPrefix e) :
    outputs (timed (observed (MemoryCache.call json))) (now, MemoryCache.newMemoryCache) events =
        outputs (timed (observed (RedisCache.call json))) (now, ∅) events ∧
      (outputs (timed (observed (RedisCacheOptions.call json ⟨keyPrefix, 0⟩))) (now, foreign)
          events =
          outputs (timed (observed (MemoryCache.call json))) (now, MemoryCache.newMemoryCache)
            events ↔
        Hits json (now, fun _ => none) events) := by
  have started : Agree now (memoryContents MemoryCache.newMemoryCache) fun _ => none :=
    fun _ => rfl
  have flushed : Agree now (redisContents (now % 1000000) [] ∅) fun _ => none := fun _ => rfl
  have own : Agree now (redisContents (now % 1000000) keyPrefix foreign) fun _ => none := by
    intro key
    rw [redisContents, unused]
    rfl
  rw [(memory_implements json _ _).outputs_eq started regular,
    (redis_implements json _ _).outputs_eq flushed regular,
    (newCache_implements json _ _).outputs_eq own regular]
  exact ⟨rfl, outputs_eq_iff_hits json _ events⟩

def accepting : Decoder Unit where
  decode s := if s.isEmpty then .error redisNil else .ok ()
  failure := redisNil
  decode_nil := rfl

def session : List Event :=
  [.call (.set (str "k") (.text (str "v")) 5000000), .advance 5000000, .call (.get (str "k")),
    .advance 1000000, .call (.getJSON (str "k")), .call .clear]

theorem session_agrees :
    outputs (timed (observed (RedisCacheOptions.call accepting ⟨str "app:", 0⟩)))
        (7, AList.singleton (str "other:") ⟨str "x", none⟩) session =
      outputs (timed (observed (MemoryCache.call accepting))) (7, MemoryCache.newMemoryCache)
        session := by
  refine (caches_agree_iff accepting (str "app:") 7 _ ?_ session ?_).2.mpr ?_
  · intro key
    refine AList.lookup_eq_none.mpr fun present => ?_
    have same : str "app:" ++ key = str "other:" := by
      rw [AList.mem_keys, AList.keys_singleton] at present
      exact List.mem_singleton.mp present
    cases same
  · simp only [session, List.forall_mem_cons, Regular, List.not_mem_nil, false_imp_iff,
      implies_true]
    exact ⟨by decide, by decide, trivial, by decide, trivial, ⟨by decide, plain_of_any (by decide)⟩,
      trivial⟩
  · exact ⟨rfl, rfl, rfl, rfl, rfl, rfl, trivial⟩

/-- A key that was never set: an empty string from two of the caches, an error from the third. -/
theorem missing_get_differs :
    outputs (timed (observed (MemoryCache.call accepting))) (0, MemoryCache.newMemoryCache)
        [.call (.get (str "k"))] = [some (.text (some []))] ∧
      outputs (timed (observed (RedisCache.call accepting))) (0, ∅) [.call (.get (str "k"))] =
        [some (.text (some []))] ∧
      outputs (timed (observed (RedisCacheOptions.call accepting ⟨str "app:", 0⟩))) (0, ∅)
        [.call (.get (str "k"))] = [some (.text none)] :=
  ⟨rfl, rfl, rfl⟩

end DxCommonGo.CacheAgreement
