import DxCommonGo.CacheClear

/-! The implementations of the contract of package `cache`: `MemoryCache`, `RedisCache`, and the
cache of package `redis`. The server answers without fail and counts in milliseconds; durations are
nanoseconds. -/

namespace DxCommonGo.CacheImplementations
open GoStrings GoMaps GoErrors DxErrors Programs RedisGlob CacheClear

/-- A value given to `Set`: a string, or one whose encoding as JSON is given. -/
inductive Value where
  | text (s : GoString)
  | other (encoded : Except GoError GoString)

def Value.payload : Value → Except GoError GoString
  | .text s => .ok s
  | .other encoded => encoded

inductive Call where
  | get (key : GoString)
  | getJSON (key : GoString)
  | set (key : GoString) (value : Value) (ttl : Int)
  | delete (key : GoString)
  | keyExists (key : GoString)
  | clear

structure Decoder (J : Type) where
  decode : GoString → Except GoError J
  failure : GoError
  decode_nil : decode [] = .error failure

inductive Result (J : Type) where
  | text (r : Except GoError GoString)
  | decoded (r : Except GoError J)
  | flag (r : Except GoError Bool)
  | done (err : Option GoError)

def redisNil : GoError := leaf (.other (str "proto.RedisError") (str "redis: nil"))

variable {J : Type} (json : Decoder J)

def decodeText : Except GoError GoString → Except GoError J
  | .error err => .error err
  | .ok [] => .error redisNil
  | .ok (b :: rest) => json.decode (b :: rest)

section Memory

structure MemoryCache where
  data : GoMap GoString
  ttl : GoMap Int

namespace MemoryCache

def newMemoryCache : MemoryCache := ⟨∅, ∅⟩

def remove (mc : MemoryCache) (key : GoString) : MemoryCache :=
  ⟨mc.data.erase key, mc.ttl.erase key⟩

def expired (mc : MemoryCache) (now : Int) (key : GoString) : Bool :=
  (mc.ttl.lookup key).any (· < now)

def get (mc : MemoryCache) (now : Int) (key : GoString) : Except GoError GoString × MemoryCache :=
  if mc.expired now key then (.ok [], mc.remove key)
  else (.ok ((mc.data.lookup key).getD []), mc)

def getJSON (mc : MemoryCache) (now : Int) (key : GoString) : Except GoError J × MemoryCache :=
  (decodeText json (mc.get now key).1, (mc.get now key).2)

def store (mc : MemoryCache) (now : Int) (key payload : GoString) (ttl : Int) : MemoryCache :=
  ⟨mc.data.insert key payload,
    if 0 < ttl then mc.ttl.insert key (now + ttl) else mc.ttl.erase key⟩

def set (mc : MemoryCache) (now : Int) (key : GoString) (value : Value) (ttl : Int) :
    Option GoError × MemoryCache :=
  match value.payload with
  | .error err => (some (errorf (str "memory cache: marshal value for %q: %w") err), mc)
  | .ok payload => (none, mc.store now key payload ttl)

def keyExists (mc : MemoryCache) (now : Int) (key : GoString) : Except GoError Bool × MemoryCache :=
  if mc.expired now key then (.ok false, mc.remove key)
  else (.ok (mc.data.lookup key).isSome, mc)

def call (now : Int) (mc : MemoryCache) : Call → Result J × MemoryCache
  | .get key => (.text (mc.get now key).1, (mc.get now key).2)
  | .getJSON key => (.decoded (mc.getJSON json now key).1, (mc.getJSON json now key).2)
  | .set key value ttl => (.done (mc.set now key value ttl).1, (mc.set now key value ttl).2)
  | .delete key => (.done none, mc.remove key)
  | .keyExists key => (.flag (mc.keyExists now key).1, (mc.keyExists now key).2)
  | .clear => (.done none, newMemoryCache)

end MemoryCache

end Memory

section Server

structure Entry where
  value : GoString
  expireAt : Option Int

abbrev Database := GoMap Entry

def milli (moment : Int) : Int := moment / 1000000

def Entry.expired (now : Int) (e : Entry) : Bool := e.expireAt.any (· < milli now)

def liveEntry (db : Database) (now : Int) (key : GoString) : Option Entry :=
  (db.lookup key).filter fun e => !e.expired now

inductive Expiry where
  | never
  | keepTTL
  | seconds (n : Int)
  | millis (n : Int)

def expiration (ttl : Int) : Expiry :=
  if 0 < ttl then
    if ttl < 1000000000 ∨ ttl % 1000000000 ≠ 0 then
      .millis (if ttl < 1000000 then 1 else ttl / 1000000)
    else .seconds (ttl / 1000000000)
  else if ttl = -1 then .keepTTL
  else .never

def expireAt (db : Database) (now : Int) (key : GoString) : Expiry → Option Int
  | .never => none
  | .keepTTL => (liveEntry db now key).bind Entry.expireAt
  | .seconds n => some (milli now + n * 1000)
  | .millis n => some (milli now + n)

def setCommand (db : Database) (now : Int) (key payload : GoString) (ttl : Int) : Database :=
  db.insert key ⟨payload, expireAt db now key (expiration ttl)⟩

def scanPages (now : Int) (pattern : GoString) (db : Database) : Scan :=
  .last (db.keys.filter fun key => globMatch pattern key && (liveEntry db now key).isSome)

end Server

namespace RedisCache

def get (db : Database) (now : Int) (key : GoString) : Except GoError GoString :=
  match liveEntry db now key with
  | none => .ok []
  | some e => .ok e.value

def set (db : Database) (now : Int) (key : GoString) (value : Value) (ttl : Int) :
    Option GoError × Database :=
  match value.payload with
  | .error err => (some err, db)
  | .ok payload => (none, setCommand db now key payload ttl)

def call (now : Int) (db : Database) : Call → Result J × Database
  | .get key => (.text (get db now key), db)
  | .getJSON key => (.decoded (decodeText json (get db now key)), db)
  | .set key value ttl => (.done (set db now key value ttl).1, (set db now key value ttl).2)
  | .delete key => (.done none, db.erase key)
  | .keyExists key => (.flag (.ok (liveEntry db now key).isSome), db)
  | .clear => (.done none, ∅)

end RedisCache

structure RedisCacheOptions where
  keyPrefix : GoString
  ttl : Int := 0

namespace RedisCacheOptions

variable (rc : RedisCacheOptions)

def key (k : GoString) : GoString := rc.keyPrefix ++ k

def get (db : Database) (now : Int) (k : GoString) : Except GoError GoString :=
  match liveEntry db now (rc.key k) with
  | none => .error redisNil
  | some e => .ok e.value

def getJSON (db : Database) (now : Int) (k : GoString) : Except GoError J :=
  rc.get db now k >>= json.decode

def set (db : Database) (now : Int) (k : GoString) (value : Value) (ttl : Int) :
    Option GoError × Database :=
  match value.payload with
  | .error err => (some (errorf (str "redis cache set %q: marshal: %w") err), db)
  | .ok payload => (none, setCommand db now (rc.key k) payload (if ttl ≤ 0 then rc.ttl else ttl))

def returned : Ending (Option GoError) × Database → Result J × Database
  | (.returned err, db) => (.done err, db)
  | (.panicked, db) => (.done none, db)
  | (.exited, db) => (.done none, db)

def call (now : Int) (db : Database) : Call → Result J × Database
  | .get k => (.text (rc.get db now k), db)
  | .getJSON k => (.decoded (rc.getJSON json db now k), db)
  | .set k value ttl => (.done (rc.set db now k value ttl).1, (rc.set db now k value ttl).2)
  | .delete k => (.done none, db.erase (rc.key k))
  | .keyExists k => (.flag (.ok (liveEntry db now (rc.key k)).isSome), db)
  | .clear => returned (run (server (scanPages now)) (clear rc.keyPrefix) db)

end RedisCacheOptions

end DxCommonGo.CacheImplementations
