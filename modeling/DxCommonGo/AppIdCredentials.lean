import DxCommonGo.AppIdCache
import Mathlib.Data.Set.Function

/-! Whom a cached verification authenticates. The cache is faithful to the credentials exactly as
far as joining them by a colon tells them apart. -/

namespace DxCommonGo.AppIdCredentials
open GoStrings DxErrors Programs Threads Runs RelyGuarantee AuthContext
open AppIdClient AppIdCache

variable {u : Setup}

/-- Every user a call has returned is that of a successful answer for the very pair of the call, to
it or to a call whose entry was live. -/
def Faithful (u : Setup) (s : System Nat Op Reply (Except GoError DxUser) World) : Prop :=
  ∀ i user, s.threads i = .ret (.ok user) → ∃ a ∈ s.world.answers,
    (a.appID, a.appSecret) = u.calls i ∧ a.response.success = true ∧ a.response.user = user ∧
    (a.call = i ∨ Live i a.call user s.world)

theorem credentials_of_cacheKey {sha : Sha256} {appID secret appID' secret' : GoString}
    (h : cacheKey sha appID secret = cacheKey sha appID' secret') :
    credentials appID secret = credentials appID' secret' := by
  have decoded := congrArg hexDecode h
  unfold cacheKey at decoded
  rw [hexDecode_hexEncode, hexDecode_hexEncode] at decoded
  exact sha.injective (Option.some.inj decoded)

theorem faithful_of_injOn {A : Set (GoString × GoString)}
    (injective : Set.InjOn (fun p => credentials p.1 p.2) A) (hA : ∀ i, u.calls i ∈ A)
    (as : List (Input Nat Choice Empty)) : Always env.step (Faithful u) u.start as := by
  refine (always_served u as).mono fun s held i user ended => ?_
  obtain ⟨j, ⟨a, ha, rfl, key, success, same⟩, source⟩ := held.2 i user ended
  have asked := held.1.asked a ha
  have mine : (a.appID, a.appSecret) ∈ A := asked ▸ hA a.call
  exact ⟨a, ha, injective mine (hA i) (credentials_of_cacheKey key), success, same, source⟩

theorem ttl_pos (cfg : Config) : 0 < cfg.ttl := by
  unfold Config.ttl
  split_ifs with unset
  · decide
  · omega

section Crossing

def granted : VerifyAppIdResponse where
  success := true
  principal := some { userId := str "app-owner" }

def firstTurns : List Choice :=
  [.proceed, .token none, .replies (.ok granted), .clock 0, .proceed]

def secondTurns : List Choice := [.proceed, .clock 0]

def crossing : List (Input Nat Choice Empty) :=
  firstTurns.map (.turn 0) ++ secondTurns.map (.turn 1)

def answered (u : Setup) : World where
  cache := AList.insert (keyOf u 0) ⟨granted.user, u.cfg.ttl⟩ ∅
  answers := [⟨0, (u.calls 0).1, (u.calls 0).2, granted⟩]
  stored := [(0, ⟨granted.user, u.cfg.ttl⟩)]
  readings := [(0, 0)]

theorem alone_first (u : Setup) :
    env.alone 0 (u.program 0) firstTurns {} = some (.ret (.ok granted.user), answered u) := by
  have positive := ttl_pos u.cfg
  have success : granted.success = true := rfl
  have unbounded : granted.expiry = 0 := rfl
  simp [Env.alone, firstTurns, Setup.program, verifyAppId, callControlPlane, cacheAnswer, entryTTL,
    ask, perform, env, answer, bind, Prog.bind, pure, success, unbounded, positive, keyOf, answered]

theorem alone_second (same : keyOf u 1 = keyOf u 0) :
    env.alone 1 (u.program 1) secondTurns (answered u) =
      some (.ret (.ok granted.user), { answered u with readings := [(1, 0), (0, 0)] }) := by
  have positive := ttl_pos u.cfg
  have found : (answered u).cache.lookup (cacheKey u.sha (u.calls 1).1 (u.calls 1).2) =
      some ⟨granted.user, u.cfg.ttl⟩ := by
    rw [show cacheKey u.sha (u.calls 1).1 (u.calls 1).2 = keyOf u 0 from same]
    exact AList.lookup_insert _
  simp [Env.alone, secondTurns, Setup.program, verifyAppId, ask, perform, env, answer, bind,
    Prog.bind, pure, found, positive]
  rfl

theorem crossing_reached (same : keyOf u 1 = keyOf u 0) : ∃ s,
    crossing.foldlM env.step u.start = some s ∧ s.threads 1 = .ret (.ok granted.user) ∧
    s.world.answers = [⟨0, (u.calls 0).1, (u.calls 0).2, granted⟩] := by
  rw [crossing, List.foldlM_append, Setup.start, foldlM_alone (alone_first u)]
  have served : env.alone 1 (Function.update u.program 0 (.ret (.ok granted.user)) 1) secondTurns
      (answered u) = some (.ret (.ok granted.user), _) := alone_second same
  refine ⟨_, foldlM_alone served, ?_, rfl⟩
  simp

end Crossing

/-- Calls with pairs from a set are faithful to them, in every interleaving and under
every behaviour of the control plane, exactly when no two pairs of the set are joined
to the same text. -/
theorem faithful_iff_injOn (sha : Sha256) (cfg : Config) (A : Set (GoString × GoString)) :
    (∀ calls : Nat → GoString × GoString, (∀ i, calls i ∈ A) →
      ∀ as, Always env.step (Faithful ⟨sha, cfg, calls⟩) (Setup.start ⟨sha, cfg, calls⟩) as) ↔
    Set.InjOn (fun p => credentials p.1 p.2) A := by
  constructor
  · intro faithful p hp q hq joined
    let calls : Nat → GoString × GoString := fun i => if i = 0 then p else q
    have inA : ∀ i, calls i ∈ A := by
      intro i
      by_cases first : i = 0
      · simpa [calls, first] using hp
      · simpa [calls, first] using hq
    have same : keyOf ⟨sha, cfg, calls⟩ 1 = keyOf ⟨sha, cfg, calls⟩ 0 :=
      congrArg (fun text => hexEncode (sha.sum text)) joined.symm
    obtain ⟨s, reached, returned, answers⟩ := crossing_reached same
    obtain ⟨a, ha, pair, -⟩ := (faithful calls inA crossing).last reached 1 _ returned
    rw [answers] at ha
    cases List.mem_singleton.mp ha
    exact pair
  · intro injective calls inA as
    exact faithful_of_injOn injective inA as

def colons : Setup where
  sha := ⟨id, Function.injective_id⟩
  cfg := {}
  calls i := if i = 0 then (str "a:b", str "c") else (str "a", str "b:c")

/-- The second client is authenticated by an answer that was for the first one. -/
theorem answer_crosses_clients : ∃ s,
    crossing.foldlM env.step colons.start = some s ∧
    s.threads 1 = .ret (.ok granted.user) ∧
    s.world.answers = [⟨0, str "a:b", str "c", granted⟩] ∧ ¬Faithful colons s := by
  obtain ⟨s, reached, returned, answers⟩ := crossing_reached (u := colons) rfl
  refine ⟨s, reached, returned, answers, fun faithful => ?_⟩
  obtain ⟨a, ha, pair, -⟩ := faithful 1 _ returned
  rw [answers] at ha
  cases List.mem_singleton.mp ha
  revert pair
  decide

section Basic

theorem credentials_injOn : Set.InjOn (fun p : GoString × GoString => credentials p.1 p.2)
    {p | (58 : UInt8) ∉ p.1} := by
  intro p hp q hq joined
  have parts (r : GoString × GoString) (hr : (58 : UInt8) ∉ r.1) :
      cut 58 (credentials r.1 r.2) = some r := by
    rw [credentials, List.append_assoc]
    exact cut_append hr r.2
  have same := congrArg (cut 58) joined
  dsimp only at same
  rw [parts p hp, parts q hq] at same
  exact Option.some.inj same

variable {decode : GoString → Option GoString}

/-- The middleware takes the application id up to the first colon. -/
theorem basicCredentials_colonFree {header : GoString} {p : GoString × GoString}
    (h : basicCredentials decode header = some p) : (58 : UInt8) ∉ p.1 := by
  unfold basicCredentials at h
  split at h
  · split_ifs at h
    obtain ⟨found, -⟩ := Option.filter_eq_some_iff.mp h
    obtain ⟨text, -, parts⟩ := Option.bind_eq_some_iff.mp found
    exact cut_eq_some parts
  · cases h

/-- Clients that come through the middleware are told apart. -/
theorem basic_faithful (h : ∀ i, ∃ header, basicCredentials decode header = some (u.calls i))
    (as : List (Input Nat Choice Empty)) : Always env.step (Faithful u) u.start as := by
  refine faithful_of_injOn credentials_injOn (fun i => ?_) as
  obtain ⟨header, found⟩ := h i
  exact basicCredentials_colonFree found

theorem basic_faithful_header :
    let decode := fun s => if s = str "YTpiOmM=" then some (str "a:b:c") else none
    let u := { colons with calls := fun _ => (str "a", str "b:c") }
    basicCredentials decode (str "Basic YTpiOmM=") = some (u.calls 0) ∧
      Always env.step (Faithful u) u.start crossing := by
  intro decode u
  have found : basicCredentials decode (str "Basic YTpiOmM=") = some (u.calls 0) := by decide
  exact ⟨found, basic_faithful (fun _ => ⟨_, found⟩) crossing⟩

end Basic

end DxCommonGo.AppIdCredentials
