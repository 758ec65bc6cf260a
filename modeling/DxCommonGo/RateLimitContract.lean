import DxCommonGo.RateLimiting

/-! The goroutines of the rate limiters, one by one: what each relies on and keeps, and what it does
when it has the turn all the time. -/

namespace DxCommonGo.RateLimitContract
open GoStrings Programs Threads RelyGuarantee RateLimiting
open MiddlewareStack (Middleware)

def contract : Contract Nat Op World where
  inv := Sound
  rely _ := Grows
  pre _ _ _ := True

theorem allows_answer {i : Nat} {op : Op} {x : Unit} {w w' : World} {r : Reply op}
    (sound : Sound w) (answered : env.answer i op x w = some (r, w')) : contract.Allows i w w' :=
  ⟨(answer_keeps sound answered).1, fun _ _ => (answer_keeps sound answered).2⟩

section Goroutine

variable {i rl l : Nat} {key : GoString} {w : World} {α : Type} {Q : α → World → Prop}

theorem safe_getLimiter :
    Safe env contract i (fun l w => w.limiterOf rl key = some l) (getLimiter rl key) w := by
  refine safe_perform_bind_inv (fun _ _ => trivial) fun w x found w' sound answered => ?_
  refine ⟨allows_answer sound answered, ?_⟩
  obtain ⟨o, there, answered⟩ := Option.map_eq_some_iff.mp answered
  cases answered
  cases found : o.limiters.lookup key with
  | some l =>
    refine safe_pure ?_ fun _ _ _ h grows => grows.limiters _ _ _ h
    rw [World.limiterOf, there]
    exact found
  | none =>
    change Safe env contract i _ (perform (Op.create rl key) >>= pure) w
    refine safe_perform_bind_inv (fun _ _ => trivial) fun w x l w' sound answered => ?_
    refine ⟨allows_answer sound answered, ?_⟩
    obtain ⟨o, there, answered⟩ := Option.map_eq_some_iff.mp answered
    obtain ⟨rfl, rfl⟩ := Prod.ext_iff.mp answered
    exact safe_pure (World.limiterOf_create_self there key) fun _ _ _ h grows =>
      grows.limiters _ _ _ h

theorem safe_getLimiter_bind {F : World → Prop} (stable : ∀ w w', F w → Grows w w' → F w')
    {f : Nat → Prog Op Reply α} (sound : Sound w) (held : F w)
    (rest : ∀ l w, w.limiterOf rl key = some l → F w → Safe env contract i Q (f l) w) :
    Safe env contract i Q (getLimiter rl key >>= f) w := by
  have framed := (@safe_getLimiter i rl key w).frame (fun w w' _ => stable w w')
    (fun w w' h allowed => stable w w' h (allowed.2 (i + 1) (Nat.succ_ne_self i))) held
  exact safe_bind Grows.refl sound framed fun l w _ h => rest l w h.1 h.2

theorem safe_cfg {F : World → Prop} (stable : ∀ w w', F w → Grows w w' → F w')
    {f : RateLimitConfig → Prog Op Reply α} (held : F w)
    (rest : ∀ cfg w, Sound w → w.cfgOf rl = some cfg → F w → Safe env contract i Q (f cfg) w) :
    Safe env contract i Q (perform (Op.cfg rl) >>= f) w := by
  refine safe_perform_bind F held (fun w w' _ => stable w w') (fun _ _ _ => trivial)
    fun w x cfg w' sound held answered => ?_
  refine ⟨allows_answer sound answered, ?_⟩
  obtain ⟨o, there, answered⟩ := Option.map_eq_some_iff.mp answered
  cases answered
  exact rest _ w sound (Option.map_eq_some_iff.mpr ⟨o, there, rfl⟩) held

theorem safe_allow {F : World → Prop} (stable : ∀ w w', F w → Grows w w' → F w')
    {f : Bool → Prog Op Reply α} (found : w.limiterOf rl key = some l) (held : F w)
    (refused : ∀ w, Safe env contract i Q (f false) w)
    (passes : ∀ w, w.Served rl key i → F w → Safe env contract i Q (f true) w) :
    Safe env contract i Q (perform (Op.allow l) >>= f) w := by
  refine safe_perform_bind (fun w => w.limiterOf rl key = some l ∧ F w) ⟨found, held⟩
    (fun w w' _ h grows => ⟨grows.limiters _ _ _ h.1, stable w w' h.2 grows⟩)
    (fun _ _ _ => trivial) fun w x allowed w' sound h answered => ?_
  have grows := (answer_keeps sound answered).2
  refine ⟨allows_answer sound answered, ?_⟩
  obtain ⟨lim, there, answered⟩ := Option.map_eq_some_iff.mp answered
  obtain ⟨same, rfl⟩ := Prod.ext_iff.mp answered
  cases allowed with
  | false => exact refused _
  | true => exact passes _ ⟨l, h.1, World.passed_of_allow there same⟩ (stable _ _ h.2 grows)

theorem safe_read {op : Op} {f : Reply op → Prog Op Reply α} {F : World → Prop}
    (stable : ∀ w w', F w → Grows w w' → F w') (held : F w)
    (rest : ∀ r w, F w → Safe env contract i Q (f r) w) :
    Safe env contract i Q (perform op >>= f) w := by
  refine safe_perform_bind F held (fun w w' _ => stable w w') (fun _ _ _ => trivial)
    fun w x r w' sound held answered => ?_
  exact ⟨allows_answer sound answered,
    rest r w' (stable w w' held (answer_keeps sound answered).2)⟩

end Goroutine

theorem run_safe {program : Nat → Prog Op Reply Middleware} {post : Nat → Middleware → World → Prop}
    (safe : ∀ i w, Safe env contract i (post i) (program i) w) {w : World} (sound : Sound w)
    {inputs : List (Input Nat Unit Empty)} {s : System Nat Op Reply Middleware World}
    (run : inputs.foldlM env.step ⟨program, w⟩ = some s) {i : Nat}
    (admitted : Admitted (s.threads i)) : ∃ m, admits m = true ∧ post i m s.world := by
  have coherent : Coherent env contract post :=
    { refl := fun _ => .refl
      trans := fun _ _ _ _ => .trans
      act := fun e => e.elim
      again := fun _ _ _ _ _ _ again => nomatch again }
  have start : AllSafe env contract post ⟨program, w⟩ := ⟨sound, fun i => safe i w⟩
  obtain ⟨m, ended, admits⟩ := admitted
  exact ⟨m, admits, ((always_allSafe coherent start inputs).last run).ended coherent ended⟩

def left (w : World) (rl : Nat) (key : GoString) : Nat :=
  match w.limiterOf rl key with
  | some l => ((w.heap[l]?).map Limiter.tokens).getD 0
  | none => ((w.cfgOf rl).map fun cfg => cfg.burstSize.toNat).getD 0

section Alone

variable {i rl : Nat} {key : GoString} {w : World}

theorem alone_perform {op : Op} {f : Reply op → Prog Op Reply Middleware} {ys : List Unit}
    {r : Reply op} {w' : World} (answered : env.answer i op () w = some (r, w')) :
    env.alone i (perform op >>= f) (() :: ys) w = env.alone i (f r) ys w' := by
  change (env.answer i op () w).bind _ = _
  rw [answered]
  rfl

theorem left_allow {l : Nat} {lim : Limiter} (sound : Sound w) (found : w.limiterOf rl key = some l)
    (there : w.heap[l]? = some lim) {n : Nat} (some : left w rl key = n + 1) :
    (w.allow i l lim).1 = true ∧ left (w.allow i l lim).2 rl key = n ∧
      ∀ key', key' ≠ key → left (w.allow i l lim).2 rl key' = left w rl key' := by
  have tokens : lim.tokens = n + 1 := by simpa [left, found, there] using some
  have same : (w.allow i l lim).2.heap[l]? = .some (lim.allow i).2 :=
    List.getElem?_set_self (List.getElem?_eq_some_iff.mp there).1
  have unchanged : ∀ key, (w.allow i l lim).2.limiterOf rl key = w.limiterOf rl key := fun _ => rfl
  refine ⟨by simp [World.allow, Limiter.allow, tokens], ?_, fun key' other => ?_⟩
  · rw [left, unchanged, found]
    simp [same, Limiter.allow, tokens]
  · rw [left, left, unchanged]
    cases found' : w.limiterOf rl key' with
    | none => rfl
    | some l' =>
      have apart : l ≠ l' := by
        rintro rfl
        exact other (sound.apart _ _ _ _ _ found' found).2
      simp [World.allow, List.getElem?_set_ne apart]

theorem left_create {o : RateLimiter} (sound : Sound w) (there : w.objects[rl]? = some o)
    (key key' : GoString) : left (w.create rl o key).2 rl key' = left w rl key' := by
  have known : w.cfgOf rl = some o.cfg := Option.map_eq_some_iff.mpr ⟨o, there, rfl⟩
  cases found : o.limiters.lookup key with
  | some l => simp [World.create, found]
  | none =>
    have heap : (w.create rl o key).2.heap = w.heap ++ [.new o.cfg.burstSize] := by
      simp [World.create, found]
    rw [left, left, World.limiterOf_create there found, World.cfgOf_create there, heap]
    by_cases same : key' = key
    · subst same
      have absent : w.limiterOf rl key' = none := by simp [World.limiterOf, there, found]
      simp [absent, known, Limiter.new]
    · rw [if_neg fun h => same h.2]
      cases found' : w.limiterOf rl key' with
      | none => rfl
      | some l =>
        obtain ⟨cfg, -, burst⟩ := sound.bursts _ _ _ found'
        obtain ⟨lim, there', -⟩ := Option.map_eq_some_iff.mp burst
        simp only [allocated there', there']

theorem alone_getLimiter {g : Nat → Prog Op Reply Middleware} {cfg : RateLimitConfig}
    (sound : Sound w) (known : w.cfgOf rl = some cfg) :
    ∃ xs l w', (∀ ys, env.alone i (getLimiter rl key >>= g) (xs ++ ys) w =
        env.alone i (g l) ys w') ∧
      w'.limiterOf rl key = some l ∧ Sound w' ∧ Grows w w' ∧
      ∀ key', left w' rl key' = left w rl key' := by
  obtain ⟨o, there, rfl⟩ := Option.map_eq_some_iff.mp known
  have looked : env.answer i (.lookup rl key) () w = some (o.limiters.lookup key, w) := by
    simp [env, answer, there]
  cases found : o.limiters.lookup key with
  | some l =>
    rw [found] at looked
    refine ⟨[()], l, w, fun ys => ?_, ?_, sound, .refl w, fun _ => rfl⟩
    · change (env.answer i (.lookup rl key) () w).bind _ = _
      rw [looked]
      rfl
    · rw [World.limiterOf, there]
      exact found
  | none =>
    have created : env.answer i (.create rl key) () w = some (w.create rl o key) := by
      simp [env, answer, there]
    rw [found] at looked
    refine ⟨[(), ()], (w.create rl o key).1, (w.create rl o key).2, fun ys => ?_,
      World.limiterOf_create_self there key, sound.create there key, .create there key,
      left_create sound there key⟩
    change (env.answer i (.lookup rl key) () w).bind _ = _
    rw [looked]
    change (env.answer i (.create rl key) () w).bind _ = _
    rw [created]
    rfl

theorem alone_admits {f : Nat → Bool → Prog Op Reply Middleware} {cfg : RateLimitConfig}
    (sound : Sound w) (known : w.cfgOf rl = some cfg) {n : Nat} (some : left w rl key = n + 1) :
    ∃ xs l w', (∀ ys, env.alone i (getLimiter rl key >>= fun l => perform (Op.allow l) >>= f l)
        (xs ++ ys) w = env.alone i (f l true) ys w') ∧
      w'.limiterOf rl key = .some l ∧ Sound w' ∧ Grows w w' ∧ left w' rl key = n ∧
      ∀ key', key' ≠ key → left w' rl key' = left w rl key' := by
  obtain ⟨xs, l, u, fetched, found, sound, grows, same⟩ :=
    alone_getLimiter (i := i) (g := fun l => perform (Op.allow l) >>= f l) sound known
  obtain ⟨cfg, -, burst⟩ := sound.bursts _ _ _ found
  obtain ⟨lim, there, -⟩ := Option.map_eq_some_iff.mp burst
  obtain ⟨passes, here, others⟩ :=
    left_allow (i := i) sound found there ((same key).trans some)
  have allowed : env.answer i (.allow l) () u = .some (true, (u.allow i l lim).2) := by
    rw [← passes]
    simp [env, answer, there]
  refine ⟨xs ++ [()], l, (u.allow i l lim).2, fun ys => ?_, found, sound.allow there i,
    grows.trans (.allow there i), here, fun key' other => (others key' other).trans (same key')⟩
  rw [List.append_assoc, fetched]
  exact alone_perform allowed

theorem answer_tokens {l : Nat} (sound : Sound w) (found : w.limiterOf rl key = some l) (i : Nat) :
    ∃ tokens, env.answer i (.tokens l) () w = some (tokens, w) := by
  obtain ⟨_, -, burst⟩ := sound.bursts _ _ _ found
  obtain ⟨lim, there, -⟩ := Option.map_eq_some_iff.mp burst
  exact ⟨lim.tokens, by simp [env, answer, there]⟩

end Alone

end DxCommonGo.RateLimitContract
