import DxCommonGo.MiddlewareStack
import DxCommonGo.RelyGuarantee
import Mathlib.Data.Finset.Card

/-! The rate limiters of package `middleware` at one instant. Requests are goroutines that take
turns at the locks and the limiters. -/

namespace DxCommonGo.RateLimiting
open GoStrings GoMaps Programs Threads RelyGuarantee Runs MiddlewareStack

structure RateLimitConfig where
  requestsPerSecond : Int
  burstSize : Int
  perUser : Bool := false

structure Limiter where
  burst : Int
  tokens : Nat
  passed : List Nat
  fits : tokens + passed.length ≤ burst.toNat

namespace Limiter

def new (burst : Int) : Limiter := ⟨burst, burst.toNat, [], Nat.le_refl _⟩

def allow (i : Nat) (lim : Limiter) : Bool × Limiter :=
  if some : 0 < lim.tokens then
    (true, ⟨lim.burst, lim.tokens - 1, i :: lim.passed, by
      have := lim.fits
      simp only [List.length_cons]
      omega⟩)
  else (false, lim)

end Limiter

/-- The `limiters` hold addresses of limiters. -/
structure RateLimiter where
  cfg : RateLimitConfig
  limiters : GoMap Nat

def withDefaults (cfg : RateLimitConfig) : RateLimitConfig :=
  let requestsPerSecond := if cfg.requestsPerSecond = 0 then 100 else cfg.requestsPerSecond
  { cfg with
    requestsPerSecond
    burstSize := if cfg.burstSize = 0 then requestsPerSecond else cfg.burstSize }

def newRateLimiter (cfg : RateLimitConfig) : RateLimiter := ⟨withDefaults cfg, ∅⟩

/-- What the rate limiters read of a request; `user` is the ID of the user in its context. -/
structure Request where
  path : GoString := str "/"
  user : Option GoString := none
  forwardedFor : GoString := []
  remoteAddr : GoString

def getKey (cfg : RateLimitConfig) (r : Request) : GoString :=
  let ip := if r.forwardedFor = [] then r.remoteAddr else r.forwardedFor
  match cfg.perUser, r.user with
  | true, some id => if id ≠ [] then str "user:" ++ id else str "ip:" ++ ip
  | _, _ => str "ip:" ++ ip

/-- What a goroutine does under a lock, the calls of a limiter, reads of a shared record and of the
clock. -/
inductive Op where
  | endpoint (path : GoString)
  | cfg (rl : Nat)
  | lookup (rl : Nat) (key : GoString)
  | create (rl : Nat) (key : GoString)
  | allow (limiter : Nat)
  | tokens (limiter : Nat)
  | now

abbrev Reply : Op → Type
  | .endpoint _ => Nat
  | .cfg _ => RateLimitConfig
  | .lookup _ _ => Option Nat
  | .create _ _ => Nat
  | .allow _ => Bool
  | .tokens _ => Nat
  | .now => Int

def getLimiter (rl : Nat) (key : GoString) : Prog Op Reply Nat := do
  match ← perform (Op.lookup rl key) with
  | some limiter => pure limiter
  | none => perform (Op.create rl key)

def middleware (rl : Nat) (r : Request) : Prog Op Reply Middleware := do
  let cfg ← perform (Op.cfg rl)
  let limiter ← getLimiter rl (getKey cfg r)
  if !(← perform (Op.allow limiter)) then
    pure (.rateLimit false cfg.requestsPerSecond 0 none)
  else
    let remaining ← perform (Op.tokens limiter)
    let now ← perform Op.now
    pure (.rateLimit true cfg.requestsPerSecond remaining (some (now + 1)))

def endpointMiddleware (r : Request) : Prog Op Reply Middleware := do
  let limiter ← perform (Op.endpoint r.path)
  let cfg ← perform (Op.cfg limiter)
  let rateLimiter ← getLimiter limiter (getKey cfg r)
  if !(← perform (Op.allow rateLimiter)) then
    pure (.rateLimit false cfg.requestsPerSecond 0 none)
  else
    let remaining ← perform (Op.tokens rateLimiter)
    pure (.rateLimit true cfg.requestsPerSecond remaining none)

def admits : Middleware → Bool
  | .rateLimit allowed _ _ _ => allowed
  | _ => false

def Admitted (p : Prog Op Reply Middleware) : Prop := ∃ m, p = .ret m ∧ admits m = true

/-- The shared state: one rate limiter by endpoint, and all the rate limiters and limiters
there are, by their addresses. -/
structure World where
  endpoints : GoMap Nat := ∅
  defaults : RateLimitConfig
  objects : List RateLimiter := []
  heap : List Limiter := []
  clock : Int := 0

namespace World

def alloc (w : World) (rl : RateLimiter) : World := { w with objects := w.objects ++ [rl] }

def setLimit (w : World) (pattern : GoString) (cfg : RateLimitConfig) : World :=
  { w.alloc (newRateLimiter cfg) with
    endpoints := w.endpoints.insert pattern w.objects.length }

def endpoint (w : World) (path : GoString) : Nat × World :=
  match w.endpoints.lookup path, w.endpoints.lookup (str "*") with
  | some rl, _ => (rl, w)
  | none, some rl => (rl, w)
  | none, none => (w.objects.length, w.alloc (newRateLimiter w.defaults))

def create (w : World) (rl : Nat) (o : RateLimiter) (key : GoString) : Nat × World :=
  match o.limiters.lookup key with
  | some limiter => (limiter, w)
  | none =>
    (w.heap.length, { w with
      heap := w.heap ++ [.new o.cfg.burstSize]
      objects := w.objects.set rl { o with limiters := o.limiters.insert key w.heap.length } })

def allow (w : World) (i limiter : Nat) (lim : Limiter) : Bool × World :=
  ((lim.allow i).1, { w with heap := w.heap.set limiter (lim.allow i).2 })

end World

def answer (i : Nat) : (op : Op) → World → Option (Reply op × World)
  | .endpoint path, w => some (w.endpoint path)
  | .cfg rl, w => (w.objects[rl]?).map fun o => (o.cfg, w)
  | .lookup rl key, w => (w.objects[rl]?).map fun o => (o.limiters.lookup key, w)
  | .create rl key, w => (w.objects[rl]?).map fun o => w.create rl o key
  | .allow limiter, w => (w.heap[limiter]?).map fun lim => w.allow i limiter lim
  | .tokens limiter, w => (w.heap[limiter]?).map fun lim => (lim.tokens, w)
  | .now, w => some (w.clock, w)

def env : RelyGuarantee.Env Nat Op Reply Middleware Unit Empty World where
  answer i op _ w := answer i op w
  act e _ := nomatch e
  again _ _ := none

namespace World

variable (w : World)

def cfgOf (rl : Nat) : Option RateLimitConfig := (w.objects[rl]?).map RateLimiter.cfg

def limiterOf (rl : Nat) (key : GoString) : Option Nat :=
  (w.objects[rl]?).bind fun o => o.limiters.lookup key

def burstOf (limiter : Nat) : Option Int := (w.heap[limiter]?).map Limiter.burst

def Passed (i limiter : Nat) : Prop := ∃ lim, w.heap[limiter]? = some lim ∧ i ∈ lim.passed

end World

/-- Every endpoint has a rate limiter, every limiter has the burst of the rate limiter that
made it, and none serves two keys. -/
structure Sound (w : World) : Prop where
  endpoints : ∀ path rl, w.endpoints.lookup path = some rl → ∃ cfg, w.cfgOf rl = some cfg
  bursts : ∀ rl key l, w.limiterOf rl key = some l →
    ∃ cfg, w.cfgOf rl = some cfg ∧ w.burstOf l = some cfg.burstSize
  apart : ∀ rl key rl' key' l, w.limiterOf rl key = some l → w.limiterOf rl' key' = some l →
    rl = rl' ∧ key = key'

structure Grows (w w' : World) : Prop where
  endpoints : w'.endpoints = w.endpoints
  defaults : w'.defaults = w.defaults
  cfgs : ∀ rl cfg, w.cfgOf rl = some cfg → w'.cfgOf rl = some cfg
  limiters : ∀ rl key l, w.limiterOf rl key = some l → w'.limiterOf rl key = some l
  passed : ∀ i l, w.Passed i l → w'.Passed i l

theorem Grows.refl (w : World) : Grows w w :=
  ⟨rfl, rfl, fun _ _ => id, fun _ _ _ => id, fun _ _ => id⟩

variable {w : World} {i : Nat} {key : GoString} {lim : Limiter}

theorem Grows.trans {u v : World} (h : Grows u v) (h' : Grows v w) : Grows u w where
  endpoints := h'.endpoints.trans h.endpoints
  defaults := h'.defaults.trans h.defaults
  cfgs rl cfg := h'.cfgs rl cfg ∘ h.cfgs rl cfg
  limiters rl key l := h'.limiters rl key l ∘ h.limiters rl key l
  passed i l := h'.passed i l ∘ h.passed i l

theorem allocated {α : Type} {xs : List α} {l : Nat} {a : α} (h : xs[l]? = some a)
    (ys : List α) : (xs ++ ys)[l]? = some a := by
  rw [List.getElem?_append_left (List.getElem?_eq_some_iff.mp h).1, h]

namespace World

variable {w : World} {rl l : Nat} {o : RateLimiter}

theorem cfgOf_alloc {cfg : RateLimitConfig} (h : w.cfgOf rl = some cfg) (o : RateLimiter) :
    (w.alloc o).cfgOf rl = some cfg := by
  obtain ⟨old, there, rfl⟩ := Option.map_eq_some_iff.mp h
  exact Option.map_eq_some_iff.mpr ⟨old, allocated there _, rfl⟩

theorem cfgOf_alloc_self (o : RateLimiter) : (w.alloc o).cfgOf w.objects.length = some o.cfg := by
  simp [cfgOf, alloc]

theorem limiterOf_alloc (cfg : RateLimitConfig) (rl : Nat) (key : GoString) :
    (w.alloc (newRateLimiter cfg)).limiterOf rl key = w.limiterOf rl key := by
  simp only [limiterOf, alloc, List.getElem?_append]
  split_ifs with inside
  · rfl
  · rw [List.getElem?_eq_none (Nat.le_of_not_lt inside)]
    cases rl - w.objects.length <;> simp [newRateLimiter]

theorem cfgOf_create (there : w.objects[rl]? = some o) (key : GoString) (rl' : Nat) :
    (w.create rl o key).2.cfgOf rl' = w.cfgOf rl' := by
  unfold create
  split
  · rfl
  · by_cases same : rl' = rl
    · subst same
      rw [cfgOf, cfgOf, List.getElem?_set_self (List.getElem?_eq_some_iff.mp there).1, there]
      rfl
    · simp [cfgOf, List.getElem?_set_ne (Ne.symm same)]

theorem limiterOf_create (there : w.objects[rl]? = some o) (absent : o.limiters.lookup key = none)
    (rl' : Nat) (key' : GoString) :
    (w.create rl o key).2.limiterOf rl' key' =
      if rl' = rl ∧ key' = key then some w.heap.length else w.limiterOf rl' key' := by
  unfold create
  rw [absent]
  by_cases same : rl' = rl
  · subst same
    rw [limiterOf, limiterOf, List.getElem?_set_self (List.getElem?_eq_some_iff.mp there).1, there]
    by_cases sameKey : key' = key
    · subst sameKey
      simp
    · simp [sameKey, AList.lookup_insert_ne]
  · simp [limiterOf, same, List.getElem?_set_ne (Ne.symm same)]

theorem limiterOf_create_self (there : w.objects[rl]? = some o) (key : GoString) :
    (w.create rl o key).2.limiterOf rl key = some (w.create rl o key).1 := by
  cases found : o.limiters.lookup key with
  | some l => simp [create, found, limiterOf, there]
  | none =>
    rw [limiterOf_create there found, if_pos ⟨rfl, rfl⟩]
    simp [create, found]

theorem burstOf_create {burst : Int} (h : w.burstOf l = some burst) :
    (w.create rl o key).2.burstOf l = some burst := by
  unfold create
  split
  · exact h
  · obtain ⟨lim, there, rfl⟩ := Option.map_eq_some_iff.mp h
    exact Option.map_eq_some_iff.mpr ⟨lim, allocated there _, rfl⟩

theorem passed_create (h : w.Passed i l) : (w.create rl o key).2.Passed i l := by
  unfold create
  split
  · exact h
  · obtain ⟨lim, there, member⟩ := h
    exact ⟨lim, allocated there _, member⟩

theorem burstOf_allow (there : w.heap[l]? = some lim) (i l' : Nat) :
    (w.allow i l lim).2.burstOf l' = w.burstOf l' := by
  by_cases same : l' = l
  · subst same
    simp only [burstOf, allow]
    rw [List.getElem?_set_self (List.getElem?_eq_some_iff.mp there).1, there]
    simp only [Limiter.allow]
    split_ifs <;> rfl
  · simp [burstOf, allow, List.getElem?_set_ne (Ne.symm same)]

theorem passed_allow (there : w.heap[l]? = some lim) {l' : Nat} (h : w.Passed i l') (j : Nat) :
    (w.allow j l lim).2.Passed i l' := by
  obtain ⟨lim', there', member⟩ := h
  by_cases same : l' = l
  · subst same
    cases there.symm.trans there'
    refine ⟨_, List.getElem?_set_self (List.getElem?_eq_some_iff.mp there).1, ?_⟩
    unfold Limiter.allow
    split_ifs
    · exact List.mem_cons_of_mem j member
    · exact member
  · exact ⟨lim', (List.getElem?_set_ne (Ne.symm same)).trans there', member⟩

theorem passed_of_allow (there : w.heap[l]? = some lim) (allowed : (w.allow i l lim).1 = true) :
    (w.allow i l lim).2.Passed i l := by
  refine ⟨_, List.getElem?_set_self (List.getElem?_eq_some_iff.mp there).1, ?_⟩
  simp only [allow, Limiter.allow] at allowed ⊢
  split_ifs at allowed ⊢
  exact List.mem_cons_self

def configured (w : World) (path : GoString) : Option Nat :=
  (w.endpoints.lookup path).or (w.endpoints.lookup (str "*"))

theorem endpoint_eq (w : World) (path : GoString) :
    w.endpoint path =
      ((w.configured path).map fun rl => (rl, w)).getD
        (w.objects.length, w.alloc (newRateLimiter w.defaults)) := by
  unfold endpoint configured
  cases w.endpoints.lookup path <;> cases w.endpoints.lookup (str "*") <;> rfl

end World

namespace Sound

variable {w : World}

theorem alloc (sound : Sound w) (cfg : RateLimitConfig) :
    Sound (w.alloc (newRateLimiter cfg)) where
  endpoints path rl h := by
    obtain ⟨cfg', there⟩ := sound.endpoints path rl h
    exact ⟨cfg', w.cfgOf_alloc there _⟩
  bursts rl key l h := by
    rw [World.limiterOf_alloc] at h
    obtain ⟨cfg', there, burst⟩ := sound.bursts rl key l h
    exact ⟨cfg', w.cfgOf_alloc there _, burst⟩
  apart rl key rl' key' l h h' := by
    rw [World.limiterOf_alloc] at h h'
    exact sound.apart rl key rl' key' l h h'

theorem create (sound : Sound w) {rl : Nat} {o : RateLimiter} (there : w.objects[rl]? = some o)
    (key : GoString) : Sound (w.create rl o key).2 := by
  have cfg : w.cfgOf rl = some o.cfg := Option.map_eq_some_iff.mpr ⟨o, there, rfl⟩
  cases found : o.limiters.lookup key with
  | some l => simpa [World.create, found] using sound
  | none =>
    have fresh : ∀ rl key, w.limiterOf rl key ≠ some w.heap.length := by
      intro rl key h
      obtain ⟨_, -, burst⟩ := sound.bursts rl key _ h
      simp [World.burstOf] at burst
    constructor
    · intro path rl' h
      simp only [World.cfgOf_create there]
      refine sound.endpoints path rl' ?_
      simpa [World.create, found] using h
    · intro rl' key' l h
      rw [World.limiterOf_create there found] at h
      rw [World.cfgOf_create there]
      split_ifs at h with same
      · obtain ⟨rfl, rfl⟩ := same
        cases h
        exact ⟨o.cfg, cfg, by simp [World.create, found, World.burstOf, Limiter.new]⟩
      · obtain ⟨cfg', there', burst⟩ := sound.bursts rl' key' l h
        exact ⟨cfg', there', World.burstOf_create burst⟩
    · intro rl₁ key₁ rl₂ key₂ l h₁ h₂
      rw [World.limiterOf_create there found] at h₁ h₂
      split_ifs at h₁ h₂ with same₁ same₂
      · exact ⟨same₁.1.trans same₂.1.symm, same₁.2.trans same₂.2.symm⟩
      · cases h₁
        exact absurd h₂ (fresh _ _)
      · cases h₂
        exact absurd h₁ (fresh _ _)
      · exact sound.apart rl₁ key₁ rl₂ key₂ l h₁ h₂

theorem allow (sound : Sound w) {l : Nat} (there : w.heap[l]? = some lim) (i : Nat) :
    Sound (w.allow i l lim).2 where
  endpoints := sound.endpoints
  bursts rl key l' h := by
    rw [World.burstOf_allow there]
    exact sound.bursts rl key l' h
  apart := sound.apart

end Sound

namespace Grows

variable (w : World)

theorem alloc (cfg : RateLimitConfig) : Grows w (w.alloc (newRateLimiter cfg)) where
  endpoints := rfl
  defaults := rfl
  cfgs _ _ h := w.cfgOf_alloc h _
  limiters _ _ _ h := (World.limiterOf_alloc ..).trans h
  passed _ _ := id

variable {w}

theorem create {rl : Nat} {o : RateLimiter} (there : w.objects[rl]? = some o) (key : GoString) :
    Grows w (w.create rl o key).2 where
  endpoints := by
    unfold World.create
    split <;> rfl
  defaults := by
    unfold World.create
    split <;> rfl
  cfgs rl' cfg h := (World.cfgOf_create there key rl').trans h
  limiters rl' key' l h := by
    cases found : o.limiters.lookup key with
    | some l' => simpa [World.create, found] using h
    | none =>
      rw [World.limiterOf_create there found, if_neg, h]
      rintro ⟨rfl, rfl⟩
      simp [World.limiterOf, there, found] at h
  passed i l := World.passed_create

theorem allow {l : Nat} (there : w.heap[l]? = some lim) (i : Nat) :
    Grows w (w.allow i l lim).2 where
  endpoints := rfl
  defaults := rfl
  cfgs _ _ := id
  limiters _ _ _ := id
  passed _ _ h := World.passed_allow there h i

end Grows

theorem answer_keeps {op : Op} {x : Unit} {w' : World} {r : Reply op} (sound : Sound w)
    (answered : env.answer i op x w = some (r, w')) : Sound w' ∧ Grows w w' := by
  cases op with
  | endpoint path =>
    obtain rfl := congrArg Prod.snd (Option.some.inj answered)
    rw [World.endpoint_eq]
    cases w.configured path with
    | some rl => exact ⟨sound, .refl w⟩
    | none => exact ⟨sound.alloc _, .alloc w _⟩
  | create rl key =>
    obtain ⟨o, there, answered⟩ := Option.map_eq_some_iff.mp answered
    obtain rfl := congrArg Prod.snd answered
    exact ⟨sound.create there key, .create there key⟩
  | allow l =>
    obtain ⟨lim, there, answered⟩ := Option.map_eq_some_iff.mp answered
    obtain rfl := congrArg Prod.snd answered
    exact ⟨sound.allow there i, .allow there i⟩
  | cfg rl | lookup rl key | tokens l =>
    obtain ⟨_, -, answered⟩ := Option.map_eq_some_iff.mp answered
    cases answered
    exact ⟨sound, .refl w⟩
  | now =>
    cases answered
    exact ⟨sound, .refl w⟩

theorem run_keeps {inputs : List (Input Nat Unit Empty)}
    {s t : System Nat Op Reply Middleware World} (sound : Sound s.world)
    (run : inputs.foldlM env.step s = some t) : Sound t.world ∧ Grows s.world t.world := by
  refine (always_of_invariant (I := fun u => Sound u.world ∧ Grows s.world u.world) ?_
    ⟨sound, .refl _⟩ inputs).last run
  rintro u a v step ⟨sound, grows⟩
  cases step_transition step with
  | answered _ answered =>
    obtain ⟨sound', grows'⟩ := answer_keeps sound answered
    exact ⟨sound', grows.trans grows'⟩
  | resumed _ again => cases again
  | @acted e => exact e.elim

def World.Served (w : World) (rl : Nat) (key : GoString) (i : Nat) : Prop :=
  ∃ l, w.limiterOf rl key = some l ∧ w.Passed i l

theorem World.Served.grows {w' : World} {rl : Nat} (h : w.Served rl key i) (grows : Grows w w') :
    w'.Served rl key i := by
  obtain ⟨l, found, passed⟩ := h
  exact ⟨l, grows.limiters rl key l found, grows.passed i l passed⟩

theorem Sound.card_served (sound : Sound w) {rl : Nat} {cfg : RateLimitConfig}
    (configured : w.cfgOf rl = some cfg) {S : Finset Nat} (served : ∀ i ∈ S, w.Served rl key i) :
    S.card ≤ cfg.burstSize.toNat := by
  obtain rfl | ⟨i, member⟩ := S.eq_empty_or_nonempty
  · exact Nat.zero_le _
  · obtain ⟨l, found, lim, there, -⟩ := served i member
    have inside : S ⊆ lim.passed.toFinset := by
      intro j hj
      obtain ⟨l', found', lim', there', passed⟩ := served j hj
      cases found.symm.trans found'
      cases there.symm.trans there'
      exact List.mem_toFinset.mpr passed
    obtain ⟨cfg', configured', burst⟩ := sound.bursts rl key l found
    cases configured.symm.trans configured'
    have same : lim.burst = cfg.burstSize := by simpa [World.burstOf, there] using burst
    calc S.card ≤ lim.passed.toFinset.card := Finset.card_le_card inside
      _ ≤ lim.passed.length := lim.passed.toFinset_card_le
      _ ≤ cfg.burstSize.toNat := by
        have := lim.fits
        rw [same] at this
        omega

end DxCommonGo.RateLimiting
