import DxCommonGo.RateLimitContract

/-! The rate limiter by endpoint. A path that was set has one rate limiter for all its requests; any
other path gets a new one for every request. -/

namespace DxCommonGo.RateLimitEndpoints
open GoStrings GoMaps Programs Threads RelyGuarantee RateLimiting
open RateLimitContract
open MiddlewareStack (Middleware)

def configure (calls : List (GoString × RateLimitConfig)) (defaults : RateLimitConfig) : World :=
  calls.foldl (fun w call => w.setLimit call.1 call.2) { defaults }

/-- The configuration set last for the path, or else for all paths, or else the defaults. -/
def applying (calls : List (GoString × RateLimitConfig)) (defaults : RateLimitConfig)
    (path : GoString) : RateLimitConfig :=
  withDefaults (((calls.reverse.lookup path).or (calls.reverse.lookup (str "*"))).getD defaults)

section Configuration

variable {calls : List (GoString × RateLimitConfig)} {defaults : RateLimitConfig}

theorem configure_append (call : GoString × RateLimitConfig) :
    configure (calls ++ [call]) defaults = (configure calls defaults).setLimit call.1 call.2 := by
  simp [configure]

theorem sound_configure : Sound (configure calls defaults) := by
  induction calls using List.reverseRecOn with
  | nil => exact ⟨by simp [configure], by simp [configure, World.limiterOf],
      by simp [configure, World.limiterOf]⟩
  | append_singleton calls call ih =>
    rw [configure_append]
    have more := ih.alloc call.2
    refine ⟨fun path rl h => ?_, more.bursts, more.apart⟩
    by_cases same : path = call.1
    · subst same
      cases (AList.lookup_insert _).symm.trans h
      exact ⟨_, World.cfgOf_alloc_self _⟩
    · exact more.endpoints path rl ((AList.lookup_insert_ne same).symm.trans h)

theorem defaults_configure : (configure calls defaults).defaults = defaults := by
  induction calls using List.reverseRecOn with
  | nil => rfl
  | append_singleton calls call ih => rwa [configure_append]

theorem lookup_configure (path : GoString) :
    ((configure calls defaults).endpoints.lookup path).map (configure calls defaults).cfgOf =
      (calls.reverse.lookup path).map fun cfg => some (withDefaults cfg) := by
  induction calls using List.reverseRecOn with
  | nil => rfl
  | append_singleton calls call ih =>
    rw [configure_append, List.reverse_concat, List.lookup_cons]
    by_cases same : path = call.1
    · subst same
      rw [World.setLimit, AList.lookup_insert, beq_self_eq_true]
      exact congrArg some (World.cfgOf_alloc_self _)
    · rw [World.setLimit, AList.lookup_insert_ne same, beq_eq_false_iff_ne.mpr same, ← ih]
      cases found : (configure calls defaults).endpoints.lookup path with
      | none => rfl
      | some rl =>
        have sound : Sound (configure calls defaults) := sound_configure
        obtain ⟨cfg, there⟩ := sound.endpoints path rl found
        exact congrArg some ((World.cfgOf_alloc there _).trans there.symm)

end Configuration

def Serves (calls : List (GoString × RateLimitConfig)) (defaults : RateLimitConfig) (w : World) :
    Prop :=
  Sound w ∧ Grows (configure calls defaults) w

section Routes

variable {calls : List (GoString × RateLimitConfig)} {defaults : RateLimitConfig}
  {path : GoString} {w : World}

theorem configured_grows {w' : World} (grows : Grows w w') (path : GoString) :
    w'.configured path = w.configured path := by
  rw [World.configured, World.configured, grows.endpoints]

theorem configured_eq :
    ((configure calls defaults).configured path).map (configure calls defaults).cfgOf =
      ((calls.reverse.lookup path).or (calls.reverse.lookup (str "*"))).map
        fun cfg => some (withDefaults cfg) := by
  rw [World.configured, Option.map_or, Option.map_or, lookup_configure, lookup_configure]

theorem Serves.cfgOf {rl : Nat} (serves : Serves calls defaults w)
    (route : w.configured path = some rl) : w.cfgOf rl = some (applying calls defaults path) := by
  rw [configured_grows serves.2] at route
  have same := @configured_eq calls defaults path
  rw [route, Option.map_some] at same
  obtain ⟨cfg, set, there⟩ := Option.map_eq_some_iff.mp same.symm
  rw [applying, set]
  exact serves.2.cfgs rl _ there.symm

theorem Serves.configured_eq_none (serves : Serves calls defaults w) :
    w.configured path = none ↔
      calls.reverse.lookup path = none ∧ calls.reverse.lookup (str "*") = none := by
  rw [configured_grows serves.2, ← Option.map_eq_none_iff, configured_eq, Option.map_eq_none_iff,
    Option.or_eq_none_iff]

end Routes

/-- A rate limiter that can serve the requests for a path: the one that was set, or any
with the defaults if there is none. -/
def Routed (w : World) (path : GoString) (rl : Nat) (cfg : RateLimitConfig) : Prop :=
  w.cfgOf rl = some cfg ∧
    (w.configured path = some rl ∨ w.configured path = none ∧ cfg = withDefaults w.defaults)

theorem Routed.grows {w w' : World} {path : GoString} {rl : Nat} {cfg : RateLimitConfig}
    (h : Routed w path rl cfg) (grows : Grows w w') : Routed w' path rl cfg := by
  refine ⟨grows.cfgs rl cfg h.1, ?_⟩
  rw [configured_grows grows, grows.defaults]
  exact h.2

theorem routed_endpoint {w : World} (sound : Sound w) (path : GoString) :
    ∃ cfg, Routed (w.endpoint path).2 path (w.endpoint path).1 cfg := by
  rw [World.endpoint_eq]
  cases route : w.configured path with
  | some rl =>
    have there : ∃ cfg, w.cfgOf rl = some cfg := by
      obtain set | ⟨-, set⟩ := Option.or_eq_some_iff.mp route
      · exact sound.endpoints path rl set
      · exact sound.endpoints (str "*") rl set
    obtain ⟨cfg, there⟩ := there
    exact ⟨cfg, there, .inl route⟩
  | none => exact ⟨withDefaults w.defaults, World.cfgOf_alloc_self _, .inr ⟨route, rfl⟩⟩

def post (request : Nat → Request) (i : Nat) (m : Middleware) (w : World) : Prop :=
  admits m = true → ∃ rl cfg,
    Routed w (request i).path rl cfg ∧ w.Served rl (getKey cfg (request i)) i

theorem safe_endpointMiddleware (request : Nat → Request) (i : Nat) (w : World) :
    Safe env contract i (post request i) (endpointMiddleware (request i)) w := by
  have stable : ∀ (rl : Nat) (cfg : RateLimitConfig) (w w' : World),
      Routed w (request i).path rl cfg → Grows w w' → Routed w' (request i).path rl cfg :=
    fun _ _ _ _ h grows => h.grows grows
  refine safe_perform_bind_inv (fun _ _ => trivial) fun w x rl w' sound answered => ?_
  refine ⟨allows_answer sound answered, ?_⟩
  obtain ⟨rfl, rfl⟩ := Prod.ext_iff.mp (Option.some.inj answered)
  obtain ⟨cfg, routed⟩ := routed_endpoint sound (request i).path
  generalize (w.endpoint (request i).path).1 = rl at routed
  refine safe_cfg (stable rl cfg) routed fun cfg' w sound there routed => ?_
  cases routed.1.symm.trans there
  refine safe_getLimiter_bind (stable rl cfg) sound routed fun l w found routed => ?_
  refine safe_allow (stable rl cfg) found routed (fun w => ?_) fun w served routed => ?_
  · exact safe_pure (fun admitted => nomatch admitted) fun _ _ _ _ _ admitted => nomatch admitted
  · have kept : ∀ w w', Routed w (request i).path rl cfg ∧ w.Served rl (getKey cfg (request i)) i →
        Grows w w' → Routed w' (request i).path rl cfg ∧ w'.Served rl (getKey cfg (request i)) i :=
      fun _ _ h grows => ⟨h.1.grows grows, h.2.grows grows⟩
    refine safe_read kept ⟨routed, served⟩ fun remaining w h => ?_
    exact safe_pure (fun _ => ⟨rl, cfg, h⟩) fun w w' _ held grows admitted =>
      let ⟨rl, cfg, routed, served⟩ := held admitted
      ⟨rl, cfg, routed.grows grows, served.grows grows⟩

theorem run_post {request : Nat → Request} {w : World} (sound : Sound w)
    {inputs : List (Input Nat Unit Empty)} {s : System Nat Op Reply Middleware World}
    (run : inputs.foldlM env.step ⟨fun i => endpointMiddleware (request i), w⟩ = some s) {i : Nat}
    (admitted : Admitted (s.threads i)) : ∃ rl cfg,
      Routed s.world (request i).path rl cfg ∧ s.world.Served rl (getKey cfg (request i)) i := by
  obtain ⟨m, admits, held⟩ := run_safe (safe_endpointMiddleware request) sound run admitted
  exact held admits

/-- At one instant, no more requests for a path with one key are admitted than the burst that
applies to the path. -/
def Bounded (calls : List (GoString × RateLimitConfig)) (defaults : RateLimitConfig)
    (path : GoString) : Prop :=
  ∀ (request : Nat → Request) (key : GoString) (w : World), Serves calls defaults w →
    ∀ (inputs : List (Input Nat Unit Empty)) (s : System Nat Op Reply Middleware World),
      inputs.foldlM env.step ⟨fun i => endpointMiddleware (request i), w⟩ = some s →
      ∀ S : Finset Nat,
        (∀ i ∈ S, (request i).path = path ∧
          getKey (applying calls defaults path) (request i) = key ∧ Admitted (s.threads i)) →
        S.card ≤ (applying calls defaults path).burstSize.toNat

section Bound

variable {calls : List (GoString × RateLimitConfig)} {defaults : RateLimitConfig}
  {path : GoString}

theorem bounded_of_configured
    (set : ¬(calls.reverse.lookup path = none ∧ calls.reverse.lookup (str "*") = none)) :
    Bounded calls defaults path := by
  intro request key w serves inputs s run S admitted
  obtain ⟨sound, grows⟩ := run_keeps serves.1 run
  have serves' : Serves calls defaults s.world := ⟨sound, serves.2.trans grows⟩
  obtain ⟨rl, route⟩ := Option.ne_none_iff_exists'.mp (mt serves'.configured_eq_none.mp set)
  have served : ∀ i ∈ S, s.world.Served rl key i := ?_
  · exact sound.card_served (serves'.cfgOf route) served
  intro i member
  obtain ⟨rfl, same, passed⟩ := admitted i member
  obtain ⟨rl', cfg, ⟨there, routed⟩, served⟩ := run_post serves.1 run passed
  obtain routed | ⟨routed, -⟩ := routed
  · cases route.symm.trans routed
    cases (serves'.cfgOf route).symm.trans there
    rwa [same] at served
  · cases route.symm.trans routed

theorem bounded_of_burst
    (unset : calls.reverse.lookup path = none ∧ calls.reverse.lookup (str "*") = none)
    (empty : (withDefaults defaults).burstSize ≤ 0) : Bounded calls defaults path := by
  intro request key w serves inputs s run S admitted
  obtain ⟨sound, grows⟩ := run_keeps serves.1 run
  have serves' : Serves calls defaults s.world := ⟨sound, serves.2.trans grows⟩
  suffices none : S = ∅ by simp [none]
  refine Finset.eq_empty_of_forall_notMem fun i member => ?_
  obtain ⟨rfl, -, passed⟩ := admitted i member
  obtain ⟨rl, cfg, ⟨there, routed⟩, served⟩ := run_post serves.1 run passed
  have route := serves'.configured_eq_none.mpr unset
  obtain routed | ⟨-, rfl⟩ := routed
  · cases route.symm.trans routed
  · have one := sound.card_served there (S := {i}) (by simpa using served)
    rw [serves'.2.defaults, defaults_configure, Int.toNat_of_nonpos empty] at one
    simp at one

theorem alone_endpointMiddleware {w : World} (sound : Sound w) {r : Request}
    (route : w.configured r.path = none) (some : 0 < (withDefaults w.defaults).burstSize)
    (i : Nat) :
    ∃ xs m w', env.alone i (endpointMiddleware r) xs w = .some (.ret m, w') ∧ admits m = true ∧
      Sound w' ∧ Grows w w' := by
  have fresh : env.answer i (.endpoint r.path) () w =
      .some (w.objects.length, w.alloc (newRateLimiter w.defaults)) := by
    simp [env, answer, World.endpoint_eq, route]
  have cfg : env.answer i (.cfg w.objects.length) () (w.alloc (newRateLimiter w.defaults)) =
      .some (withDefaults w.defaults, w.alloc (newRateLimiter w.defaults)) := by
    simp [env, answer, World.alloc, newRateLimiter]
  have known := w.cfgOf_alloc_self (newRateLimiter w.defaults)
  obtain ⟨n, burst⟩ : ∃ n, (withDefaults w.defaults).burstSize.toNat = n + 1 :=
    ⟨(withDefaults w.defaults).burstSize.toNat - 1, by omega⟩
  have full : left (w.alloc (newRateLimiter w.defaults)) w.objects.length
      (getKey (withDefaults w.defaults) r) = n + 1 := by
    rw [left, World.limiterOf_alloc, known]
    simpa [World.limiterOf, newRateLimiter] using burst
  obtain ⟨xs, l, u, admitted, found, sound', grows, -⟩ := alone_admits (i := i)
    (f := fun l allowed => if !allowed then
        pure (.rateLimit false (withDefaults w.defaults).requestsPerSecond 0 none)
      else perform (Op.tokens l) >>= fun remaining =>
        pure (.rateLimit true (withDefaults w.defaults).requestsPerSecond remaining none))
    (sound.alloc w.defaults) known full
  obtain ⟨remaining, tokens⟩ := answer_tokens sound' found i
  refine ⟨() :: () :: (xs ++ [()]),
    .rateLimit true (withDefaults w.defaults).requestsPerSecond remaining none, u, ?_, rfl,
    sound', (Grows.alloc w w.defaults).trans grows⟩
  calc env.alone i (endpointMiddleware r) (() :: () :: (xs ++ [()])) w
      = _ := alone_perform fresh
    _ = _ := alone_perform cfg
    _ = _ := admitted [()]
    _ = _ := alone_perform tokens

theorem not_bounded
    (unset : calls.reverse.lookup path = none ∧ calls.reverse.lookup (str "*") = none)
    (some : 0 < (withDefaults defaults).burstSize) : ¬Bounded calls defaults path := by
  intro bounded
  let request : Nat → Request := fun _ => { path, remoteAddr := [] }
  let n := (applying calls defaults path).burstSize.toNat + 1
  have serves : Serves calls defaults (configure calls defaults) := ⟨sound_configure, .refl _⟩
  have each : ∀ (done : List Nat) i w, done ++ [i] <+: List.range n → Serves calls defaults w →
      ∃ xs m w', env.alone i (endpointMiddleware (request i)) xs w = .some (.ret m, w') ∧
        admits m = true ∧ Serves calls defaults w' := by
    intro _ i w _ serves
    have unrouted : w.configured path = none := serves.configured_eq_none.mpr unset
    have burst : 0 < (withDefaults w.defaults).burstSize := by
      rwa [serves.2.defaults, defaults_configure]
    obtain ⟨xs, m, w', alone, admitted, sound, grows⟩ :=
      alone_endpointMiddleware (r := request i) serves.1 unrouted burst i
    exact ⟨xs, m, w', alone, admitted, sound, serves.2.trans grows⟩
  obtain ⟨inputs, s, run, ended, -, -⟩ := exists_sequential
    (P := fun _ => Serves calls defaults) (Q := fun m => admits m = true) serves
    List.nodup_range each
  have admitted := bounded request (getKey (applying calls defaults path) (request 0)) _ serves
    inputs s run (Finset.range n) fun i member =>
      ⟨rfl, rfl, ended i (List.mem_range.mpr (Finset.mem_range.mp member))⟩
  rw [Finset.card_range] at admitted
  omega

end Bound

theorem lookup_reverse_eq_none {calls : List (GoString × RateLimitConfig)} {path : GoString} :
    calls.reverse.lookup path = none ↔ path ∉ calls.map Prod.fst := by
  rw [List.lookup_eq_none_iff]
  constructor
  · rintro absent member
    obtain ⟨call, there, rfl⟩ := List.mem_map.mp member
    simpa using absent call (List.mem_reverse.mpr there)
  · intro absent call there
    have other : path ≠ call.1 := by
      rintro rfl
      exact absent (List.mem_map_of_mem (List.mem_reverse.mp there))
    simpa using other

/-- The burst bounds what a path admits if and only if something was set for the path or for
all paths, or the defaults admit nobody. -/
theorem endpoint_bounded_iff (calls : List (GoString × RateLimitConfig))
    (defaults : RateLimitConfig) (path : GoString) :
    Bounded calls defaults path ↔
      path ∈ calls.map Prod.fst ∨ str "*" ∈ calls.map Prod.fst ∨
        (withDefaults defaults).burstSize ≤ 0 := by
  by_cases set : path ∈ calls.map Prod.fst ∨ str "*" ∈ calls.map Prod.fst
  · have bounded : Bounded calls defaults path := by
      refine bounded_of_configured ?_
      rw [lookup_reverse_eq_none, lookup_reverse_eq_none]
      tauto
    tauto
  · have unset : calls.reverse.lookup path = none ∧ calls.reverse.lookup (str "*") = none := by
      rw [lookup_reverse_eq_none, lookup_reverse_eq_none]
      tauto
    by_cases empty : (withDefaults defaults).burstSize ≤ 0
    · exact ⟨fun _ => .inr (.inr empty), fun _ => bounded_of_burst unset empty⟩
    · have unbounded := not_bounded unset (Int.not_le.mp empty)
      tauto

/-- With a burst of one and nothing set, two requests from one address are both admitted. -/
theorem default_path_unbounded :
    let r : Request := { path := str "/items", remoteAddr := str "10.0.0.1:4711" }
    let defaults : RateLimitConfig := { requestsPerSecond := 1, burstSize := 1 }
    (applying [] defaults r.path).burstSize = 1 ∧
      ∃ inputs s, List.foldlM env.step ⟨fun _ => endpointMiddleware r, configure [] defaults⟩ inputs
          = some s ∧ Admitted (s.threads 0) ∧ Admitted (s.threads 1) := by
  refine ⟨rfl, (List.replicate 6 (.turn 0 ())) ++ (List.replicate 6 (.turn 1 ())), _, rfl, ?_, ?_⟩
  · exact ⟨_, rfl, rfl⟩
  · exact ⟨_, rfl, rfl⟩

end DxCommonGo.RateLimitEndpoints
