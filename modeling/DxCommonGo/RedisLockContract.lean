import DxCommonGo.RedisLock

/-! What the calls of the lock keep and rely on. Tokens are drawn once and belong to the call that
drew them; drawn tokens and applied commands are never forgotten. -/

namespace DxCommonGo.RedisLockContract
open GoStrings DxErrors RelyGuarantee RedisLock

def Owned (u : Setup) (w : World) (m : Nat) (token : GoString) : Prop :=
  token = [] ∨ ∃ i, u.calls i = .lock m ∧ (i, token) ∈ w.issued

def Authored (u : Setup) (w : World) (i : Nat) : Command → Prop
  | .setNX key token _ =>
    ∃ m, u.calls i = .lock m ∧ key = (u.mutexes m).key ∧ (i, token) ∈ w.issued
  | .eval key token =>
    ∃ m, u.calls i = .unlock m ∧ key = (u.mutexes m).key ∧ Owned u w m token

structure Consistent (u : Setup) (w : World) : Prop where
  drawn : ∀ p ∈ w.issued, p.2 ≠ []
  distinct : ∀ p ∈ w.issued, ∀ q ∈ w.issued, p.2 = q.2 → p = q
  fields : ∀ m, Owned u w m (w.token m)
  stored : ∀ key token, w.store key = some token → ∃ i, (i, token) ∈ w.issued
  pending : ∀ p ∈ w.pending, Authored u w p.1 p.2
  applied : ∀ e ∈ w.log, Authored u w e.call e.command ∧ (e.command.apply e.before).2 = e.after

structure Grows (w w' : World) : Prop where
  issued : w.issued ⊆ w'.issued
  log : w.log ⊆ w'.log

theorem Grows.refl (w : World) : Grows w w := ⟨List.Subset.refl _, List.Subset.refl _⟩

theorem Grows.trans {u v w : World} (h : Grows u v) (h' : Grows v w) : Grows u w :=
  ⟨List.Subset.trans h.issued h'.issued, List.Subset.trans h.log h'.log⟩

variable {u : Setup} {w w' : World} {token : GoString} {c : Command} {i : Nat}
  {stored : Option GoString}

theorem Owned.mono {m : Nat} (h : Owned u w m token) (grows : w.issued ⊆ w'.issued) :
    Owned u w' m token := by
  rcases h with empty | ⟨i, called, drawn⟩
  · exact .inl empty
  · exact .inr ⟨i, called, grows drawn⟩

theorem Authored.mono (h : Authored u w i c) (grows : w.issued ⊆ w'.issued) :
    Authored u w' i c := by
  cases c with
  | setNX key token ttl =>
    obtain ⟨m, called, same, drawn⟩ := h
    exact ⟨m, called, same, grows drawn⟩
  | eval key token =>
    obtain ⟨m, called, same, owned⟩ := h
    exact ⟨m, called, same, owned.mono grows⟩

theorem apply_eq_some (h : (c.apply stored).2 = some token) :
    stored = some token ∨ ∃ key ttl, c = .setNX key token ttl := by
  cases c with
  | setNX key own ttl =>
    cases stored with
    | none =>
      cases h
      exact .inr ⟨key, ttl, rfl⟩
    | some value => exact .inl h
  | eval key own =>
    simp only [Command.apply, Command.unlockScript] at h
    split_ifs at h
    exact .inl h

theorem apply_setNX_true {key : GoString} {ttl : Int64}
    (h : ((Command.setNX key token ttl).apply stored).1 = true) : stored = none := by
  cases stored with
  | none => rfl
  | some value => cases h

theorem unlockScript_ne_zero (h : (Command.unlockScript stored token).1 ≠ 0) :
    stored = some token := by
  simp only [Command.unlockScript] at h
  split_ifs at h with held
  · exact held
  · exact absurd rfl h

theorem apply_store_self (w : World) (i : Nat) (c : Command) :
    (w.apply i c).store c.key = (c.apply (w.store c.key)).2 := Function.update_self _ _ _

theorem apply_store_of_ne (w : World) (i : Nat) {key : GoString} (h : key ≠ c.key) :
    (w.apply i c).store key = w.store key := Function.update_of_ne h _ _

theorem grows_apply (w : World) (i : Nat) (c : Command) : Grows w (w.apply i c) :=
  ⟨List.Subset.refl _, List.subset_append_left _ _⟩

theorem Consistent.apply (h : Consistent u w) (author : Authored u w i c) :
    Consistent u (w.apply i c) := by
  refine ⟨h.drawn, h.distinct, h.fields, fun key token found => ?_, h.pending, fun e he => ?_⟩
  · by_cases same : key = c.key
    · subst same
      rw [apply_store_self] at found
      rcases apply_eq_some found with before | ⟨key, ttl, rfl⟩
      · exact h.stored _ token before
      · obtain ⟨m, -, -, drawn⟩ := author
        exact ⟨i, drawn⟩
    · rw [apply_store_of_ne w i same] at found
      exact h.stored key token found
  · rcases List.mem_append.mp he with he | he
    · exact h.applied e he
    · cases List.mem_singleton.mp he
      exact ⟨author, rfl⟩

theorem Consistent.draw (h : Consistent u w) (nonempty : token ≠ [])
    (fresh : ∀ p ∈ w.issued, p.2 ≠ token) :
    Consistent u { w with issued := (i, token) :: w.issued } := by
  have grows : w.issued ⊆ (i, token) :: w.issued := List.subset_cons_self _ _
  refine ⟨?_, ?_, fun m => (h.fields m).mono grows, fun key value found => ?_,
    fun p hp => (h.pending p hp).mono grows,
    fun e he => ⟨(h.applied e he).1.mono grows, (h.applied e he).2⟩⟩
  · intro p hp
    rcases List.mem_cons.mp hp with rfl | hp
    · exact nonempty
    · exact h.drawn p hp
  · intro p hp q hq same
    rcases List.mem_cons.mp hp with rfl | hp <;> rcases List.mem_cons.mp hq with rfl | hq
    · rfl
    · exact absurd same.symm (fresh q hq)
    · exact absurd same (fresh p hp)
    · exact h.distinct p hp q hq same
  · obtain ⟨j, drawn⟩ := h.stored key value found
    exact ⟨j, grows drawn⟩

theorem Consistent.send (h : Consistent u w) (author : Authored u w i c) :
    Consistent u { w with pending := w.pending ++ [(i, c)] } := by
  refine ⟨h.drawn, h.distinct, h.fields, h.stored, fun p hp => ?_, h.applied⟩
  rcases List.mem_append.mp hp with hp | hp
  · exact h.pending p hp
  · cases List.mem_singleton.mp hp
    exact author

theorem Consistent.write {m : Nat} (h : Consistent u w) (owned : Owned u w m token) :
    Consistent u { w with token := Function.update w.token m token } := by
  refine ⟨h.drawn, h.distinct, ?_, h.stored, h.pending, h.applied⟩
  exact (Function.forall_update_iff w.token fun m => Owned u w m).mpr
    ⟨owned, fun m' _ => h.fields m'⟩

theorem Consistent.act {e : Event} (h : Consistent u w) (acted : RedisLock.act e w = some w') :
    Consistent u w' ∧ Grows w w' := by
  cases e with
  | expire key =>
    cases acted
    refine ⟨⟨h.drawn, h.distinct, h.fields, ?_, h.pending, h.applied⟩,
      ⟨List.Subset.refl _, List.Subset.refl _⟩⟩
    refine (Function.forall_update_iff w.store fun _ value =>
      ∀ token, value = some token → ∃ i, (i, token) ∈ w.issued).mpr
        ⟨?_, fun key' _ => h.stored key'⟩
    simp
  | deliver n =>
    obtain ⟨p, found, rfl⟩ := Option.map_eq_some_iff.mp acted
    have rest : Consistent u { w with pending := w.pending.eraseIdx n } :=
      ⟨h.drawn, h.distinct, h.fields, h.stored,
        fun q hq => h.pending q (List.mem_of_mem_eraseIdx hq), h.applied⟩
    have author : Authored u w p.1 p.2 := h.pending p (List.mem_of_getElem? found)
    exact ⟨rest.apply author, ⟨List.Subset.refl _, List.subset_append_left _ _⟩⟩

def contract (u : Setup) : Contract Nat Op World :=
  ⟨Consistent u, fun _ => Grows, fun _ _ _ => True⟩

theorem allows (inv : Consistent u w') (grows : Grows w w') :
    (contract u).Allows i w w' := ⟨inv, fun _ _ => grows⟩

def Delivered (i : Nat) (c : Command) (reply : Except GoError c.Result) (w : World) : Prop :=
  ∀ r, reply = .ok r → ∃ before, ⟨i, c, before, (c.apply before).2⟩ ∈ w.log ∧
    (c.apply before).1 = r

theorem Delivered.mono {reply : Except GoError c.Result} (h : Delivered i c reply w)
    (grows : Grows w w') : Delivered i c reply w' := by
  intro r hr
  obtain ⟨before, logged, result⟩ := h r hr
  exact ⟨before, grows.log logged, result⟩

theorem safe_delivered {reply : Except GoError c.Result} (h : Delivered i c reply w) :
    Safe env (contract u) i (Delivered i c) (pure reply) w :=
  safe_pure h fun _ _ _ held grows => held.mono grows

theorem answer_draw {drawn : GoString}
    (h : answer i .newString (.draw drawn) w = some (token, w')) :
    (token ≠ [] ∧ ∀ p ∈ w.issued, p.2 ≠ token) ∧ drawn = token ∧
      w' = { w with issued := (i, token) :: w.issued } := by
  simp only [answer] at h
  split_ifs at h with fresh
  cases h
  exact ⟨fresh, rfl, rfl⟩

theorem safe_send {γ : Type} {post : γ → World → Prop} {f : Except Failure c.Result → LockProg γ}
    (author : Authored u w i c) (answered : ∀ w r, Authored u w i c → Delivered i c (.ok r) w →
      Safe env (contract u) i post (f (.ok r)) w)
    (failed : ∀ w e, Authored u w i c → Safe env (contract u) i post (f (.error e)) w) :
    Safe env (contract u) i post (ask (.send c) >>= f) w := by
  refine safe_perform_bind (fun w => Authored u w i c) author
    (fun _ _ _ held grows => held.mono grows.issued) (fun _ _ _ => trivial) ?_
  intro w x r w' inv held reply
  have applied := allows (i := i) (inv.apply held) (grows_apply w i c)
  cases x with
  | draw token => cases reply
  | answered =>
    cases reply
    refine ⟨applied, answered _ _ held fun r hr => ?_⟩
    cases hr
    exact ⟨w.store c.key, List.mem_append_right _ (List.mem_singleton_self _), rfl⟩
  | lost e =>
    cases reply
    exact ⟨applied, failed _ e held⟩
  | late e =>
    cases reply
    exact ⟨allows (inv.send held) ⟨List.Subset.refl _, List.Subset.refl _⟩, failed _ e held⟩

theorem safe_process (retries : Nat) (author : Authored u w i c) :
    Safe env (contract u) i (Delivered i c) (process c retries) w := by
  induction retries generalizing w with
  | zero =>
    refine safe_send author (fun w r _ delivered => safe_delivered delivered) fun w e _ => ?_
    exact safe_delivered (by simp [Delivered])
  | succ retries ih =>
    refine safe_send author (fun w r _ delivered => safe_delivered delivered) fun w e held => ?_
    dsimp only
    split_ifs
    · exact ih held
    · exact safe_delivered (by simp [Delivered])

end DxCommonGo.RedisLockContract
