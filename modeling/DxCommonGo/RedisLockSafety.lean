import DxCommonGo.RedisLockContract

/-! Safety of the lock in every interleaving, with expiry and lost replies: a token belongs to one
instance, and a call reports and removes only what a command of its own has made. -/

namespace DxCommonGo.RedisLockSafety
open GoStrings Threads Runs RelyGuarantee RedisLock RedisLockContract

variable {u : Setup} {w w' : World}

def Acquired (u : Setup) (i : Nat) (w : World) : Prop :=
  ∃ m token, u.calls i = .lock m ∧ (i, token) ∈ w.issued ∧
    ⟨i, .setNX (u.mutexes m).key token (u.mutexes m).ttl, none, some token⟩ ∈ w.log

def Released (u : Setup) (i : Nat) (w : World) : Prop :=
  ∃ m token, u.calls i = .unlock m ∧ ⟨i, .eval (u.mutexes m).key token, some token, none⟩ ∈ w.log

variable {i m : Nat} {token : GoString}

theorem Acquired.mono (h : Acquired u i w) (grows : Grows w w') : Acquired u i w' := by
  obtain ⟨m, token, called, drawn, logged⟩ := h
  exact ⟨m, token, called, grows.issued drawn, grows.log logged⟩

theorem Released.mono (h : Released u i w) (grows : Grows w w') : Released u i w' := by
  obtain ⟨m, token, called, logged⟩ := h
  exact ⟨m, token, called, grows.log logged⟩

theorem delivered_acquired (called : u.calls i = .lock m) (drawn : (i, token) ∈ w.issued)
    (h : Delivered i (.setNX (u.mutexes m).key token (u.mutexes m).ttl) (.ok true) w) :
    Acquired u i w := by
  obtain ⟨before, logged, result⟩ := h true rfl
  cases apply_setNX_true result
  exact ⟨m, token, called, drawn, logged⟩

theorem delivered_released {n : Int64} (called : u.calls i = .unlock m)
    (h : Delivered i (.eval (u.mutexes m).key token) (.ok n) w) (hn : n ≠ 0) : Released u i w := by
  obtain ⟨before, logged, rfl⟩ := h n rfl
  have held : before = some token := unlockScript_ne_zero hn
  subst held
  simp only [Command.apply, Command.unlockScript, if_true] at logged
  exact ⟨m, token, called, logged⟩

section Fields

variable {i m : Nat} {γ : Type} {post : γ → World → Prop}

theorem safe_readToken {f : GoString → LockProg γ}
    (rest : ∀ w token, Consistent u w → Owned u w m token →
      Safe env (contract u) i post (f token) w) :
    Safe env (contract u) i post (ask (.readToken m) >>= f) w := by
  refine safe_perform_bind_inv (fun _ _ => trivial) ?_
  intro w x token w' inv reply
  cases x with
  | draw | lost | late => cases reply
  | answered =>
    cases reply
    exact ⟨allows inv (.refl w), rest w _ inv (inv.fields m)⟩

theorem safe_writeToken (P : World → Prop) (mono : ∀ w w', P w → Grows w w' → P w')
    {f : Unit → LockProg γ} (h : P w) (owned : Owned u w m token)
    (rest : ∀ w, P w → Safe env (contract u) i post (f ()) w) :
    Safe env (contract u) i post (ask (.writeToken m token) >>= f) w := by
  refine safe_perform_bind (fun w => P w ∧ Owned u w m token) ⟨h, owned⟩
    (fun w w' _ held grows => ⟨mono w w' held.1 grows, held.2.mono grows.issued⟩)
    (fun _ _ _ => trivial) ?_
  intro w x r w' inv held reply
  cases x with
  | draw | lost | late => cases reply
  | answered =>
    cases reply
    have same : Grows w { w with token := Function.update w.token m token } :=
      ⟨List.Subset.refl _, List.Subset.refl _⟩
    exact ⟨allows (inv.write held.2) same, rest _ (mono _ _ held.1 same)⟩

end Fields

theorem safe_lock (called : u.calls i = .lock m) (w : World) :
    Safe env (contract u) i (fun r w => r.1 = true → Acquired u i w)
      (RedisLock.lock u.retries m (u.mutexes m)) w := by
  refine safe_perform_bind_inv (fun _ _ => trivial) ?_
  intro w x r w' inv reply
  cases x with
  | answered | lost | late => cases reply
  | draw token =>
    obtain ⟨fresh, rfl, rfl⟩ := answer_draw reply
    have inv' := inv.draw (i := i) fresh.1 fresh.2
    refine ⟨allows inv' ⟨List.subset_cons_self _ _, List.Subset.refl _⟩, ?_⟩
    have author : Authored u { w with issued := (i, token) :: w.issued } i
        (.setNX (u.mutexes m).key token (u.mutexes m).ttl) :=
      ⟨m, called, rfl, List.mem_cons_self⟩
    refine safe_bind Grows.refl inv' (safe_process u.retries author) ?_
    intro reply w inv delivered
    match reply with
    | .error err => exact safe_pure (by simp) fun _ _ _ _ _ => by simp
    | .ok false => exact safe_pure (by simp) fun _ _ _ _ _ => by simp
    | .ok true =>
      obtain ⟨_, logged, _⟩ := delivered true rfl
      obtain ⟨_, _, _, drawn⟩ := (inv.applied _ logged).1
      refine safe_writeToken (Acquired u i) (fun _ _ held grows => held.mono grows)
        (delivered_acquired called drawn delivered) (.inr ⟨i, called, drawn⟩) fun w held => ?_
      exact safe_pure (fun _ => held) fun _ _ _ held grows same => (held same).mono grows

theorem safe_unlock (called : u.calls i = .unlock m) (w : World) :
    Safe env (contract u) i (fun err w => err = none → Released u i w)
      (RedisLock.unlock u.retries m (u.mutexes m)) w := by
  refine safe_readToken fun w held _ _ => ?_
  split_ifs
  · exact safe_pure (by simp) fun _ _ _ _ _ => by simp
  refine safe_readToken fun w token inv owned => ?_
  have author : Authored u w i (.eval (u.mutexes m).key token) := ⟨m, called, rfl, owned⟩
  refine safe_bind Grows.refl inv (safe_process u.retries author) ?_
  intro reply w inv delivered
  match reply with
  | .error err => exact safe_pure (by simp) fun _ _ _ _ _ => by simp
  | .ok n =>
    refine safe_writeToken (fun w => n ≠ 0 → Released u i w)
      (fun _ _ held grows hn => (held hn).mono grows)
      (fun hn => delivered_released called delivered hn) (.inl rfl) fun w released => ?_
    split_ifs with hn
    · exact safe_pure (by simp) fun _ _ _ _ _ => by simp
    · exact safe_pure (fun _ => released hn) fun _ _ _ held grows same => (held same).mono grows

def Returns (u : Setup) (i : Nat) : Outcome → World → Prop
  | .locked ok _, w => ok = true → Acquired u i w
  | .unlocked err, w => err = none → Released u i w

theorem Returns.mono {outcome : Outcome} (h : Returns u i outcome w) (grows : Grows w w') :
    Returns u i outcome w' := by
  cases outcome with
  | locked ok err => exact fun same => (h same).mono grows
  | unlocked err => exact fun same => (h same).mono grows

theorem safe_program (u : Setup) (i : Nat) (inv : Consistent u w) :
    Safe env (contract u) i (Returns u i) (u.program i) w := by
  unfold Setup.program
  split
  · next m called =>
    refine safe_bind Grows.refl inv (safe_lock called w) fun r w _ held => ?_
    exact safe_pure held fun _ _ _ held grows => held.mono grows
  · next m called =>
    refine safe_bind Grows.refl inv (safe_unlock called w) fun err w _ held => ?_
    exact safe_pure held fun _ _ _ held grows => held.mono grows

theorem coherent (u : Setup) : Coherent env (contract u) (Returns u) where
  refl _ := Grows.refl
  trans _ _ _ _ := Grows.trans
  act _ _ _ inv acted := ⟨(inv.act acted).1, fun _ => (inv.act acted).2⟩
  again _ _ _ _ _ _ none := nomatch none

theorem consistent_empty (u : Setup) : Consistent u {} := by
  refine ⟨?_, ?_, fun m => .inl rfl, ?_, ?_, ?_⟩ <;> simp

/-- A key changes by expiry or by one command, which is logged with what it found
and what it left. -/
def Recorded (s : System Nat Op Reply Outcome World) (a : Input Nat Choice Event)
    (t : System Nat Op Reply Outcome World) : Prop :=
  ∀ key, t.world.store key = s.world.store key ∨
    (a = .event (.expire key) ∧ t.world.store key = none) ∨
    ∃ e, t.world.log = s.world.log ++ [e] ∧ e.command.key = key ∧
      e.before = s.world.store key ∧ e.after = t.world.store key

theorem apply_recorded (w : World) (i : Nat) (c : Command) (key : GoString) :
    (w.apply i c).store key = w.store key ∨
      ∃ e, (w.apply i c).log = w.log ++ [e] ∧ e.command.key = key ∧ e.before = w.store key ∧
        e.after = (w.apply i c).store key := by
  by_cases same : key = c.key
  · subst same
    exact .inr ⟨_, rfl, rfl, rfl, (apply_store_self w i c).symm⟩
  · exact .inl (apply_store_of_ne w i same)

theorem answer_recorded {op : Op} {x : Choice} {r : Reply op} (h : answer i op x w = some (r, w'))
    (key : GoString) :
    w'.store key = w.store key ∨
      ∃ e, w'.log = w.log ++ [e] ∧ e.command.key = key ∧ e.before = w.store key ∧
        e.after = w'.store key := by
  fun_cases answer i op x w with
  | case1 | case2 =>
    obtain ⟨-, -, rfl⟩ := answer_draw h
    exact .inl rfl
  | case3 c | case4 c =>
    cases h
    exact apply_recorded w i c key
  | case5 | case6 | case7 =>
    cases h
    exact .inl rfl
  | case8 => simp [answer, *] at h

theorem step_recorded {s t : System Nat Op Reply Outcome World} {a : Input Nat Choice Event}
    (h : env.step s a = some t) : Recorded s a t := by
  intro key
  cases step_transition h with
  | answered _ answered => exact (answer_recorded answered key).imp_right .inr
  | resumed _ again => cases again
  | @acted e w acted =>
    cases e with
    | expire key' =>
      cases acted
      by_cases same : key = key'
      · subst same
        exact .inr (.inl ⟨rfl, Function.update_self _ _ _⟩)
      · exact .inl (Function.update_of_ne same _ _)
    | deliver n =>
      obtain ⟨p, -, rfl⟩ := Option.map_eq_some_iff.mp acted
      exact (apply_recorded _ p.1 p.2 key).imp_right .inr

/-- What the lock guarantees in a state: which tokens can stand under a key, and
what its calls have done and returned. -/
structure LockSafe (u : Setup) (s : System Nat Op Reply Outcome World) : Prop where
  unique : ∀ key m m', s.world.store key = some (s.world.token m) →
    s.world.store key = some (s.world.token m') → m = m'
  locked : ∀ i err, s.threads i = .ret (.locked true err) → Acquired u i s.world
  removed : ∀ e ∈ s.world.log, ∀ key token, e.command = .eval key token →
    (∃ m, u.calls e.call = .unlock m ∧ key = (u.mutexes m).key ∧ Owned u s.world m token) ∧
      (e.before = some token ∧ e.after = none ∨ e.before ≠ some token ∧ e.after = e.before)
  unlocked : ∀ i, s.threads i = .ret (.unlocked none) → Released u i s.world

theorem token_unique {key : GoString} {m' : Nat} (h : Consistent u w)
    (hm : w.store key = some (w.token m)) (hm' : w.store key = some (w.token m')) : m = m' := by
  have same : w.token m = w.token m' := Option.some.inj (hm.symm.trans hm')
  obtain ⟨i, drawn⟩ := h.stored key _ hm
  -- What stands under a key was drawn, so it is not the empty field of an idle instance.
  have nonempty : w.token m ≠ [] := h.drawn _ drawn
  obtain ⟨j, called, hj⟩ := (h.fields m).resolve_left nonempty
  obtain ⟨j', called', hj'⟩ := (h.fields m').resolve_left (same ▸ nonempty)
  have both := h.distinct _ hj _ hj' same
  rw [(Prod.mk.inj both).1, called'] at called
  exact (Call.lock.inj called).symm

theorem release_removes {e : Applied} (h : Consistent u w) (he : e ∈ w.log) {key : GoString}
    (same : e.command = .eval key token) :
    (∃ m, u.calls e.call = .unlock m ∧ key = (u.mutexes m).key ∧ Owned u w m token) ∧
      (e.before = some token ∧ e.after = none ∨ e.before ≠ some token ∧ e.after = e.before) := by
  obtain ⟨author, left⟩ := h.applied e he
  rw [same] at author left
  refine ⟨author, ?_⟩
  rw [← left, Command.apply, Command.unlockScript]
  split_ifs with held
  · exact .inl ⟨held, rfl⟩
  · exact .inr ⟨held, rfl⟩

/-- In every interleaving of calls, expiries and lost replies, the lock is safe. -/
theorem lock_safe (u : Setup) (as : List (Input Nat Choice Event)) :
    Always env.step (LockSafe u) u.start as ∧ Along env.step Recorded u.start as := by
  have start : AllSafe env (contract u) (Returns u) u.start :=
    ⟨consistent_empty u, fun i => safe_program u i (consistent_empty u)⟩
  refine ⟨(always_allSafe (coherent u) start as).mono fun s safe => ?_,
    along_of_step (fun s a t => step_recorded) u.start as⟩
  have inv : Consistent u s.world := safe.1
  exact {
    unique := fun key m m' => token_unique inv
    locked := fun i err ended => safe.ended (coherent u) ended rfl
    removed := fun e he key token => release_removes inv he
    unlocked := fun i ended => safe.ended (coherent u) ended rfl }

end DxCommonGo.RedisLockSafety
