import DxCommonGo.RateLimitContract
import Mathlib.Data.Finset.Card
import Mathlib.Data.Fintype.EquivFin

/-! Rate limits by address. Without a user and an `X-Forwarded-For` header the key is the
`RemoteAddr` of the request, port included. -/

namespace DxCommonGo.RateLimitAddresses
open GoStrings Programs Threads RelyGuarantee RateLimiting RateLimitContract
open MiddlewareStack (Middleware)

def joinHostPort (host port : GoString) : GoString :=
  if host.contains 58 then str "[" ++ host ++ str "]:" ++ port else host ++ str ":" ++ port

@[ext]
structure Connection where
  ip : GoString
  port : Nat
  deriving DecidableEq

def unauthenticated (c : Connection) : Request :=
  { remoteAddr := joinHostPort c.ip (itoaNat c.port) }

def addressKey (c : Connection) : GoString := str "ip:" ++ joinHostPort c.ip (itoaNat c.port)

theorem getKey_unauthenticated (cfg : RateLimitConfig) (c : Connection) :
    getKey cfg (unauthenticated c) = addressKey c := by
  cases h : cfg.perUser <;> simp [getKey, unauthenticated, addressKey, h]

theorem append_colon_inj {xs ys ds es : GoString} (hd : (58 : UInt8) ∉ ds) (he : 58 ∉ es)
    (same : xs ++ 58 :: ds = ys ++ 58 :: es) : xs = ys ∧ ds = es := by
  obtain ⟨mid, rfl, right⟩ | ⟨mid, rfl, right⟩ := List.append_eq_append_iff.mp same
  · cases mid with
    | nil => simpa using right
    | cons b mid =>
      obtain ⟨-, rfl⟩ := List.cons.inj right
      simp at hd
  · cases mid with
    | nil => simpa using right.symm
    | cons b mid =>
      obtain ⟨-, rfl⟩ := List.cons.inj right
      simp at he

theorem colon_not_mem_itoaNat (n : Nat) : (58 : UInt8) ∉ itoaNat n := by
  intro h
  have digit := List.all_eq_true.mp (itoaNat_digits n) 58 h
  exact absurd digit (by decide)

theorem itoaNat_injective : Function.Injective itoaNat := by
  intro m n same
  have read := decimal_itoaNat m
  rw [same, decimal_itoaNat n] at read
  simpa using read.symm

def bracketed (host : GoString) : GoString :=
  if host.contains 58 then str "[" ++ host ++ str "]" else host

theorem joinHostPort_eq (host port : GoString) :
    joinHostPort host port = bracketed host ++ 58 :: port := by
  unfold joinHostPort bracketed
  split_ifs
  · rw [show str "]:" = str "]" ++ [58] from rfl]
    simp
  · rw [show str ":" = [58] from rfl]
    simp

theorem bracketed_injective : Function.Injective bracketed := by
  intro host host' same
  have colon : ∀ host : GoString, (bracketed host).contains 58 = host.contains 58 := by
    intro host
    unfold bracketed
    split_ifs with h
    · rw [h, List.contains_iff_mem]
      exact List.mem_append_left _ (List.mem_append_right _ (List.contains_iff_mem.mp h))
    · rfl
  have both : host.contains 58 = host'.contains 58 := by rw [← colon, same, colon]
  unfold bracketed at same
  rw [← both] at same
  split_ifs at same
  · exact List.append_cancel_left (List.append_cancel_right same)
  · exact same

theorem addressKey_injective : Function.Injective addressKey := by
  intro c d same
  have joined := List.append_cancel_left same
  rw [joinHostPort_eq, joinHostPort_eq] at joined
  obtain ⟨ip, port⟩ :=
    append_colon_inj (colon_not_mem_itoaNat _) (colon_not_mem_itoaNat _) joined
  exact Connection.ext (bracketed_injective ip) (itoaNat_injective port)

def post (rl : Nat) (request : Nat → Request) (i : Nat) (m : Middleware) (w : World) : Prop :=
  admits m = true → ∃ cfg, w.cfgOf rl = some cfg ∧ w.Served rl (getKey cfg (request i)) i

theorem safe_middleware (rl : Nat) (request : Nat → Request) (i : Nat) (w : World) :
    Safe env contract i (post rl request i) (middleware rl (request i)) w := by
  refine safe_cfg (F := fun _ => True) (fun _ _ _ _ => trivial) trivial
    fun cfg w sound known _ => ?_
  have stable : ∀ w w' : World, w.cfgOf rl = some cfg → Grows w w' → w'.cfgOf rl = some cfg :=
    fun _ _ h grows => grows.cfgs rl cfg h
  refine safe_getLimiter_bind stable sound known fun l w found known => ?_
  refine safe_allow stable found known (fun w => ?_) fun w served known => ?_
  · exact safe_pure (fun admitted => nomatch admitted) fun _ _ _ _ _ admitted => nomatch admitted
  · have kept : ∀ w w' : World,
        w.cfgOf rl = some cfg ∧ w.Served rl (getKey cfg (request i)) i → Grows w w' →
          w'.cfgOf rl = some cfg ∧ w'.Served rl (getKey cfg (request i)) i :=
      fun w w' h grows => ⟨stable w w' h.1 grows, h.2.grows grows⟩
    refine safe_read kept ⟨known, served⟩ fun remaining w h => ?_
    refine safe_read kept h fun now w h => ?_
    exact safe_pure (fun _ => ⟨cfg, h⟩) fun w w' _ held grows admitted =>
      let ⟨cfg, known, served⟩ := held admitted
      ⟨cfg, grows.cfgs rl cfg known, served.grows grows⟩

theorem run_post {rl : Nat} {request : Nat → Request} {w : World} (sound : Sound w)
    {inputs : List (Input Nat Unit Empty)} {s : System Nat Op Reply Middleware World}
    (run : inputs.foldlM env.step ⟨fun i => middleware rl (request i), w⟩ = some s) {i : Nat}
    (admitted : Admitted (s.threads i)) :
    ∃ cfg, s.world.cfgOf rl = some cfg ∧ s.world.Served rl (getKey cfg (request i)) i := by
  obtain ⟨m, admits, held⟩ := run_safe (safe_middleware rl request) sound run admitted
  exact held admits

theorem alone_middleware {w : World} (sound : Sound w) {rl : Nat} {cfg : RateLimitConfig}
    (known : w.cfgOf rl = some cfg) {r : Request} {n : Nat}
    (some : left w rl (getKey cfg r) = n + 1) (i : Nat) :
    ∃ xs m w', env.alone i (middleware rl r) xs w = .some (.ret m, w') ∧ admits m = true ∧
      Sound w' ∧ w'.cfgOf rl = .some cfg ∧ left w' rl (getKey cfg r) = n ∧
      ∀ key, key ≠ getKey cfg r → left w' rl key = left w rl key := by
  have read : env.answer i (.cfg rl) () w = .some (cfg, w) := by
    obtain ⟨o, there, rfl⟩ := Option.map_eq_some_iff.mp known
    simp [env, answer, there]
  obtain ⟨xs, l, u, admitted, found, sound', grows, here, others⟩ := alone_admits (i := i)
    (f := fun l allowed => if !allowed then
        pure (.rateLimit false cfg.requestsPerSecond 0 none)
      else do
        let remaining ← perform (Op.tokens l)
        let now ← perform Op.now
        pure (.rateLimit true cfg.requestsPerSecond remaining (.some (now + 1))))
    sound known some
  obtain ⟨remaining, tokens⟩ := answer_tokens sound' found i
  refine ⟨() :: (xs ++ [(), ()]),
    .rateLimit true cfg.requestsPerSecond remaining (.some (u.clock + 1)), u, ?_, rfl, sound',
    grows.cfgs rl cfg known, here, others⟩
  calc env.alone i (middleware rl r) (() :: (xs ++ [(), ()])) w
      = _ := alone_perform read
    _ = _ := admitted [(), ()]
    _ = _ := alone_perform tokens
    _ = _ := alone_perform rfl

section Limits

variable (cfg : RateLimitConfig) (connection : Nat → Connection)

def Bounded : Prop :=
  ∀ (rl : Nat) (w : World), Sound w → w.cfgOf rl = some cfg →
    ∀ (inputs : List (Input Nat Unit Empty)) (s : System Nat Op Reply Middleware World),
      inputs.foldlM env.step ⟨fun i => middleware rl (unauthenticated (connection i)), w⟩ =
        some s →
      ∀ S : Finset Nat, (∀ i ∈ S, Admitted (s.threads i)) → S.card ≤ cfg.burstSize.toNat

def Separate : Prop :=
  ∀ (rl : Nat) (w : World), Sound w → w.cfgOf rl = some cfg →
    ∀ (inputs : List (Input Nat Unit Empty)) (s : System Nat Op Reply Middleware World),
      inputs.foldlM env.step ⟨fun i => middleware rl (unauthenticated (connection i)), w⟩ =
        some s →
      ∀ i j l,
        s.world.limiterOf rl (getKey cfg (unauthenticated (connection i))) = some l →
        s.world.limiterOf rl (getKey cfg (unauthenticated (connection j))) = some l →
        (connection i).ip = (connection j).ip

variable {cfg connection}

theorem separate : Separate cfg connection := by
  intro rl w sound known inputs s run i j l found found'
  rw [getKey_unauthenticated] at found found'
  have same := ((run_keeps sound run).1.apart _ _ _ _ _ found found').2
  rw [addressKey_injective same]

theorem bounded_of_one (one : ∀ i j, connection i = connection j) : Bounded cfg connection := by
  intro rl w sound known inputs s run S admitted
  obtain ⟨sound', grows⟩ := run_keeps sound run
  have served : ∀ i ∈ S, s.world.Served rl (addressKey (connection 0)) i := by
    intro i member
    obtain ⟨cfg', -, served⟩ := run_post sound run (admitted i member)
    rwa [getKey_unauthenticated, one i 0] at served
  exact sound'.card_served (grows.cfgs rl cfg known) served

theorem bounded_of_burst (empty : cfg.burstSize ≤ 0) : Bounded cfg connection := by
  intro rl w sound known inputs s run S admitted
  obtain ⟨sound', grows⟩ := run_keeps sound run
  have none : S = ∅ := by
    refine Finset.eq_empty_of_forall_notMem fun i member => ?_
    obtain ⟨cfg', known', served⟩ := run_post sound run (admitted i member)
    have one := sound'.card_served (grows.cfgs rl cfg known) (S := {i}) (by simpa using served)
    rw [Int.toNat_of_nonpos empty] at one
    simp at one
  simp [none]

theorem exists_crowd {i j : Nat} (apart : connection i ≠ connection j) {burst : Nat}
    (some : 0 < burst) :
    ∃ S : Finset Nat, S.card = burst + 1 ∧
      ∀ c, S.toList.countP (connection · = c) ≤ burst := by
  have pair : ({i, j} : Finset Nat).card ≤ burst + 1 := by
    have := Finset.card_le_two (a := i) (b := j)
    omega
  obtain ⟨S, inside, card⟩ := Infinite.exists_superset_card_eq {i, j} _ pair
  refine ⟨S, card, fun c => ?_⟩
  have other : ∃ k ∈ S.toList, ¬connection k = c := by
    by_cases same : connection i = c
    · exact ⟨j, Finset.mem_toList.mpr (inside (by simp)), fun h => apart (same.trans h.symm)⟩
    · exact ⟨i, Finset.mem_toList.mpr (inside (by simp)), same⟩
  have short : S.toList.countP (connection · = c) < S.toList.length :=
    List.countP_lt_length_iff.mpr (by simpa using other)
  rw [Finset.length_toList, card] at short
  omega

theorem exists_all_admitted {order : List Nat} (distinct : order.Nodup)
    (room : ∀ c, order.countP (connection · = c) ≤ cfg.burstSize.toNat) :
    ∃ (w : World) (inputs : List (Input Nat Unit Empty))
      (s : System Nat Op Reply Middleware World), Sound w ∧ w.cfgOf 0 = some cfg ∧
      inputs.foldlM env.step ⟨fun i => middleware 0 (unauthenticated (connection i)), w⟩ =
        some s ∧ ∀ i ∈ order, Admitted (s.threads i) := by
  let start : World := { defaults := cfg, objects := [⟨cfg, ∅⟩] }
  have empty : ∀ rl key, start.limiterOf rl key = none := by
    intro rl key
    cases rl <;> simp [World.limiterOf, start]
  have sound : Sound start := by
    refine ⟨by simp [start], fun rl key l h => ?_, fun rl key _ _ l h => ?_⟩
    · rw [empty] at h
      cases h
    · rw [empty] at h
      cases h
  -- What is left for a connection and what it has used make up the burst.
  let P (done : List Nat) (w : World) : Prop := Sound w ∧ w.cfgOf 0 = some cfg ∧
    ∀ c, left w 0 (addressKey c) + done.countP (connection · = c) = cfg.burstSize.toNat
  have each : ∀ (done : List Nat) i w, done ++ [i] <+: order → P done w → ∃ xs m w',
      env.alone i (middleware 0 (unauthenticated (connection i))) xs w = some (.ret m, w') ∧
        admits m = true ∧ P (done ++ [i]) w' := by
    rintro done i w next ⟨sound, known, balance⟩
    have used : done.countP (connection · = connection i) + 1 ≤ cfg.burstSize.toNat := by
      have := (next.sublist.countP_le (p := (connection · = connection i))).trans (room _)
      simpa using this
    obtain ⟨n, tokens⟩ : ∃ n, left w 0 (addressKey (connection i)) = n + 1 :=
      ⟨left w 0 (addressKey (connection i)) - 1, by have := balance (connection i); omega⟩
    rw [← getKey_unauthenticated cfg] at tokens
    obtain ⟨xs, m, w', alone, admitted, sound', known', here, others⟩ :=
      alone_middleware sound known tokens i
    rw [getKey_unauthenticated] at tokens here others
    refine ⟨xs, m, w', alone, admitted, sound', known', fun c => ?_⟩
    rw [List.countP_append, ← balance c]
    by_cases same : connection i = c
    · subst same
      simp [here, tokens]
      omega
    · rw [others _ fun h => same (addressKey_injective h).symm]
      simp [same]
  obtain ⟨inputs, s, run, ended, -, -⟩ := exists_sequential (P := P)
    (Q := fun m => admits m = true) ⟨sound, rfl, fun c => by simp [left, empty, start, World.cfgOf]⟩
    distinct each
  exact ⟨start, inputs, s, sound, rfl, run, ended⟩

theorem not_bounded {i j : Nat} (apart : connection i ≠ connection j) (some : 0 < cfg.burstSize) :
    ¬Bounded cfg connection := by
  intro bounded
  obtain ⟨S, card, room⟩ := 
    @exists_crowd connection i j apart cfg.burstSize.toNat (by omega)
  obtain ⟨w, inputs, s, sound, known, run, admitted⟩ :=
    @exists_all_admitted cfg connection S.toList S.nodup_toList room
  have few := bounded 0 w sound known inputs s run S fun i member =>
    admitted i (Finset.mem_toList.mpr member)
  omega

end Limits

/-- Requests from one address are bounded by the burst if and only if they all come over one
port, or nobody is admitted at all. No limiter serves two addresses in any case. -/
theorem address_bounded_iff (cfg : RateLimitConfig) (connection : Nat → Connection) :
    ((∀ i j, (connection i).ip = (connection j).ip) →
      (Bounded cfg connection ↔
        (∀ i j, (connection i).port = (connection j).port) ∨ cfg.burstSize ≤ 0)) ∧
    Separate cfg connection := by
  refine ⟨fun address => ⟨fun bounded => ?_, ?_⟩, separate⟩
  · by_contra neither
    push Not at neither
    obtain ⟨⟨i, j, ports⟩, some⟩ := neither
    exact not_bounded (fun same => ports (by rw [same])) some bounded
  · rintro (ports | empty)
    · exact bounded_of_one fun i j => Connection.ext (address i j) (ports i j)
    · exact bounded_of_burst empty

theorem one_connection_bounded :
    Bounded { requestsPerSecond := 5, burstSize := 1 } fun _ => ⟨str "10.0.0.1", 40000⟩ :=
  ((address_bounded_iff _ _).1 fun _ _ => rfl).mpr (.inl fun _ _ => rfl)

/-- Two connections from one address with a burst of one. -/
theorem ports_unbounded :
    let cfg : RateLimitConfig := { requestsPerSecond := 1, burstSize := 1 }
    let connection : Nat → Connection := fun i => ⟨str "10.0.0.1", 40000 + i⟩
    ∃ inputs s, List.foldlM env.step
        ⟨fun i => middleware 0 (unauthenticated (connection i)),
          { defaults := cfg, objects := [newRateLimiter cfg] }⟩ inputs = some s ∧
      Admitted (s.threads 0) ∧ Admitted (s.threads 1) := by
  refine ⟨(List.replicate 6 (.turn 0 ())) ++ (List.replicate 6 (.turn 1 ())), _, rfl, ?_, ?_⟩
  · exact ⟨_, rfl, rfl⟩
  · exact ⟨_, rfl, rfl⟩

end DxCommonGo.RateLimitAddresses
