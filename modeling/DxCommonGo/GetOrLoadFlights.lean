import DxCommonGo.GetOrLoad

/-! Where the results of `GetOrLoad` come from. The group keeps flights by key alone, and the leader
loads under its own context. -/

namespace DxCommonGo.GetOrLoadFlights
open GoStrings DxErrors Threads Runs RelyGuarantee GetOrLoad

variable {g : GoTypes} {u : Setup g} {w w' : World g}

/-- The value was read from the cache under the key, or produced by a load passed
to a call on that cache and key. -/
def Supplied (u : Setup g) (cache : Nat) (key : GoString) (v : g.Any) (w : World g) : Prop :=
  (∃ s x, (cache, key, s) ∈ w.reads ∧ g.unmarshal (u.typeOf key) s = some x ∧
    v = ⟨u.typeOf key, x⟩) ∨
  ∃ j, (u.calls j).cache = cache ∧ (u.calls j).key = key ∧ (j, v) ∈ w.loads

structure Yields (u : Setup g) (j : Nat) (r : g.Any × Option GoError) (w : World g) : Prop where
  typed : r.1.1 = u.typeOf (u.calls j).key
  value : r.2 = none → Supplied u (u.calls j).cache (u.calls j).key r.1 w
  error : r.2 ≠ none → j ∈ w.failed

def Obtains (u : Setup g) (i : Nat) (r : g.Any × Option GoError) (w : World g) : Prop :=
  ∃ j, (j = i ∨ (i, j) ∈ w.joined) ∧ (u.calls j).key = (u.calls i).key ∧ Yields u j r w

structure Consistent (u : Setup g) (w : World g) : Prop where
  flights : ∀ key j, w.inFlight key = some j → (u.calls j).key = key
  results : ∀ j r, w.results j = some r → Yields u j r w

structure Grows (w w' : World g) : Prop where
  reads : w.reads ⊆ w'.reads
  loads : w.loads ⊆ w'.loads
  failed : w.failed ⊆ w'.failed
  joined : w.joined ⊆ w'.joined

theorem Grows.refl (w : World g) : Grows w w :=
  ⟨List.Subset.refl _, List.Subset.refl _, List.Subset.refl _, List.Subset.refl _⟩

theorem Grows.trans {v : World g} (h : Grows w v) (h' : Grows v w') : Grows w w' :=
  ⟨List.Subset.trans h.reads h'.reads, List.Subset.trans h.loads h'.loads,
    List.Subset.trans h.failed h'.failed, List.Subset.trans h.joined h'.joined⟩

theorem grows_group (w : World g) (inFlight : GoString → Option Nat)
    (results : Nat → Option (g.Any × Option GoError)) :
    Grows w { w with inFlight := inFlight, results := results } :=
  ⟨List.Subset.refl _, List.Subset.refl _, List.Subset.refl _, List.Subset.refl _⟩

variable {key : GoString} {r : g.Any × Option GoError} {i : Nat}

theorem Supplied.mono {cache : Nat} {v : g.Any} (h : Supplied u cache key v w)
    (grows : Grows w w') : Supplied u cache key v w' := by
  rcases h with ⟨s, x, read, decoded, same⟩ | ⟨j, onCache, onKey, loaded⟩
  · exact .inl ⟨s, x, grows.reads read, decoded, same⟩
  · exact .inr ⟨j, onCache, onKey, grows.loads loaded⟩

theorem Yields.mono {j : Nat} (h : Yields u j r w) (grows : Grows w w') : Yields u j r w' :=
  ⟨h.typed, fun ok => (h.value ok).mono grows, fun err => grows.failed (h.error err)⟩

theorem Obtains.mono (h : Obtains u i r w) (grows : Grows w w') : Obtains u i r w' := by
  obtain ⟨j, source, key, yields⟩ := h
  exact ⟨j, source.imp_right fun joined => grows.joined joined, key, yields.mono grows⟩

theorem Consistent.mono (h : Consistent u w) (grows : Grows w w')
    (flights : w'.inFlight = w.inFlight) (results : w'.results = w.results) : Consistent u w' := by
  refine ⟨fun key j led => h.flights key j ?_, fun j r ended => (h.results j r ?_).mono grows⟩
  · rw [← flights, led]
  · rw [← results, ended]

theorem Consistent.lead (h : Consistent u w) (i : Nat) :
    Consistent u
      { w with inFlight := Function.update w.inFlight (u.calls i).key (some i) } := by
  refine ⟨?_, fun j r ended => (h.results j r ended).mono (grows_group w _ _)⟩
  refine (Function.forall_update_iff w.inFlight fun key leader =>
    ∀ j, leader = some j → (u.calls j).key = key).mpr ⟨?_, fun key _ => h.flights key⟩
  rintro j ⟨⟩
  rfl

theorem Consistent.finish (h : Consistent u w) (yields : Yields u i r w) :
    Consistent u { w with
      inFlight := Function.update w.inFlight key none
      results := Function.update w.results i (some r) } := by
  have same := grows_group w (Function.update w.inFlight key none)
    (Function.update w.results i (some r))
  constructor
  · refine (Function.forall_update_iff w.inFlight fun key leader =>
      ∀ j, leader = some j → (u.calls j).key = key).mpr ⟨by simp, fun key _ => h.flights key⟩
  · refine (Function.forall_update_iff w.results fun j result =>
      ∀ r, result = some r → Yields u j r _).mpr
        ⟨?_, fun j _ r ended => (h.results j r ended).mono same⟩
    rintro _ ⟨⟩
    exact yields.mono same

def contract (u : Setup g) : Contract Nat (Op g) (World g) :=
  ⟨Consistent u, fun _ => Grows, fun _ _ _ => True⟩

theorem allows (inv : Consistent u w') (grows : Grows w w') :
    (contract u).Allows i w w' := ⟨inv, fun _ _ => grows⟩

theorem answer_get {cache : Nat} {x : Choice g} {r : Except GoError GoString}
    (h : answer i (.get cache key) x w = some (r, w')) :
    (∃ s, r = .ok s ∧ w' = { w with reads := (cache, key, s) :: w.reads }) ∨
      ∃ err, r = .error err ∧ w' = w := by
  match x with
  | .reads (.ok s) =>
    cases h
    exact .inl ⟨s, rfl, rfl⟩
  | .reads (.error err) =>
    cases h
    exact .inr ⟨err, rfl, rfl⟩
  | .proceed | .stores _ | .loads _ | .fails _ => cases h

theorem answer_load {t : g.Ty} {x : Choice g} {r : Except GoError (g.Val t)}
    (h : answer i (.load t) x w = some (r, w')) :
    (∃ v, r = .ok v ∧ w' = { w with loads := (i, ⟨t, v⟩) :: w.loads }) ∨
      ∃ err, r = .error err ∧ w' = { w with failed := i :: w.failed } := by
  cases x with
  | loads v =>
    obtain ⟨t', v⟩ := v
    simp only [answer] at h
    split_ifs at h with same
    subst same
    cases h
    exact .inl ⟨v, rfl, rfl⟩
  | fails err =>
    cases h
    exact .inr ⟨err, rfl, rfl⟩
  | proceed | reads | stores => cases h

theorem answer_enter {x : Choice g} {r : Option Nat}
    (h : answer i (.enter key) x w = some (r, w')) :
    (∃ leader, r = some leader ∧ w.inFlight key = some leader ∧
        w' = { w with joined := (i, leader) :: w.joined }) ∨
      r = none ∧ w' = { w with inFlight := Function.update w.inFlight key (some i) } := by
  cases x with
  | proceed =>
    simp only [answer] at h
    split at h
    · next leader led =>
      cases h
      exact .inl ⟨leader, rfl, led, rfl⟩
    · cases h
      exact .inr ⟨rfl, rfl⟩
  | reads | stores | loads | fails => cases h

section Programs

variable {i : Nat} {γ : Type} {post : γ → World g → Prop}

theorem safe_get {cache : Nat} {P : World g → Prop} (mono : ∀ w w', P w → Grows w w' → P w')
    {f : Except GoError GoString → CacheProg g γ} (h : P w)
    (found : ∀ w s, Consistent u w → P w → (cache, key, s) ∈ w.reads →
      Safe (env g) (contract u) i post (f (.ok s)) w)
    (failed : ∀ w err, Consistent u w → P w → Safe (env g) (contract u) i post (f (.error err)) w) :
    Safe (env g) (contract u) i post (ask (.get cache key) >>= f) w := by
  refine safe_perform_bind P h (fun w w' _ held grows => mono w w' held grows)
    (fun _ _ _ => trivial) ?_
  intro w x r w' inv held reply
  rcases answer_get reply with ⟨s, rfl, rfl⟩ | ⟨err, rfl, rfl⟩
  · have grows : Grows w { w with reads := (cache, key, s) :: w.reads } :=
      { Grows.refl w with reads := List.subset_cons_self _ _ }
    have inv' := inv.mono grows rfl rfl
    exact ⟨allows inv' grows, found _ s inv' (mono _ _ held grows) List.mem_cons_self⟩
  · exact ⟨allows inv (.refl w'), failed _ err inv held⟩

theorem safe_cached (cache : Nat) (key : GoString) (w : World g) :
    Safe (env g) (contract u) i
      (fun r w => ∀ v, r = some v → Supplied u cache key ⟨u.typeOf key, v⟩ w)
      (cached (u.typeOf key) cache key) w := by
  have stable : ∀ (r : Option (g.Val (u.typeOf key))) (w w' : World g), Consistent u w' →
      (∀ v, r = some v → Supplied u cache key ⟨u.typeOf key, v⟩ w) → Grows w w' →
      ∀ v, r = some v → Supplied u cache key ⟨u.typeOf key, v⟩ w' :=
    fun r w w' _ held grows v hv => (held v hv).mono grows
  refine safe_get (P := fun _ => True) (fun _ _ _ _ => trivial) trivial (fun w s _ _ read => ?_)
    fun w err _ _ => safe_pure (by simp) (stable none)
  dsimp only
  split_ifs
  · exact safe_pure (by simp) (stable none)
  · exact safe_pure (fun v decoded => .inl ⟨s, v, read, decoded, rfl⟩) (stable _)

variable {r : g.Any × Option GoError}

theorem safe_yields {j : Nat} (h : Yields u j r w) :
    Safe (env g) (contract u) i (Yields u j) (pure r) w :=
  safe_pure h fun _ _ _ held grows => held.mono grows

theorem safe_loadAndCache (inv : Consistent u w) :
    Safe (env g) (contract u) i (Yields u i)
      (loadAndCache (u.typeOf (u.calls i).key) (u.calls i).cache (u.calls i).key (u.calls i).ttl)
      w := by
  refine safe_bind Grows.refl inv (safe_cached _ _ w) fun r w inv supplied => ?_
  cases r with
  | some v => exact safe_yields ⟨rfl, fun _ => supplied v rfl, by simp⟩
  | none =>
    refine safe_perform_bind_inv (fun _ _ => trivial) ?_
    intro w x r w' inv reply
    rcases answer_load reply with ⟨v, rfl, rfl⟩ | ⟨err, rfl, rfl⟩
    · have grows : Grows w { w with loads := (i, ⟨u.typeOf (u.calls i).key, v⟩) :: w.loads } :=
        { Grows.refl w with loads := List.subset_cons_self _ _ }
      refine ⟨allows (inv.mono grows rfl rfl) grows, ?_⟩
      have yields : Yields u i (⟨u.typeOf (u.calls i).key, v⟩, none)
          { w with loads := (i, ⟨u.typeOf (u.calls i).key, v⟩) :: w.loads } :=
        ⟨rfl, fun _ => .inr ⟨i, rfl, rfl, List.mem_cons_self⟩, by simp⟩
      dsimp only
      split
      · refine safe_perform_bind (Yields u i (⟨u.typeOf (u.calls i).key, v⟩, none)) yields
          (fun _ _ _ held grows => held.mono grows) (fun _ _ _ => trivial) ?_
        intro w x r w' inv held reply
        cases x with
        | stores err =>
          cases reply
          exact ⟨allows inv (.refl w), safe_yields held⟩
        | proceed | reads | loads | fails => cases reply
      · exact safe_yields yields
    · have grows : Grows w { w with failed := i :: w.failed } :=
        { Grows.refl w with failed := List.subset_cons_self _ _ }
      exact ⟨allows (inv.mono grows rfl rfl) grows,
        safe_yields ⟨rfl, by simp, fun _ => List.mem_cons_self⟩⟩

theorem safe_obtains (h : Obtains u i r w) : Safe (env g) (contract u) i (Obtains u i) (pure r) w :=
  safe_pure h fun _ _ _ held grows => held.mono grows

theorem safe_wait {leader : Nat} (joined : (i, leader) ∈ w.joined)
    (key : (u.calls leader).key = (u.calls i).key) :
    Safe (env g) (contract u) i (Obtains u i) (ask (.wait leader) >>= pure) w := by
  refine safe_perform_bind (fun w => (i, leader) ∈ w.joined) joined
    (fun _ _ _ held grows => grows.joined held) (fun _ _ _ => trivial) ?_
  intro w x r w' inv held reply
  cases x with
  | proceed =>
    obtain ⟨r', ended, same⟩ := Option.map_eq_some_iff.mp reply
    cases same
    exact ⟨allows inv (.refl w), safe_obtains ⟨leader, .inr held, key, inv.results _ _ ended⟩⟩
  | reads | stores | loads | fails => cases reply

theorem safe_finish (h : Yields u i r w) :
    Safe (env g) (contract u) i (Obtains u i)
      (ask (.finish key r) >>= fun _ => pure r) w := by
  refine safe_perform_bind (Yields u i r) h (fun _ _ _ held grows => held.mono grows)
    (fun _ _ _ => trivial) ?_
  intro w x _ w' inv held reply
  cases x with
  | proceed =>
    cases reply
    exact ⟨allows (inv.finish held) (grows_group w _ _),
      safe_obtains ⟨i, .inl rfl, rfl, held.typed, held.value, held.error⟩⟩
  | reads | stores | loads | fails => cases reply

theorem safe_groupDo (w : World g) :
    Safe (env g) (contract u) i (Obtains u i)
      (groupDo (u.calls i).key (loadAndCache (u.typeOf (u.calls i).key) (u.calls i).cache
        (u.calls i).key (u.calls i).ttl)) w := by
  refine safe_perform_bind_inv (fun _ _ => trivial) ?_
  intro w x r w' inv reply
  rcases answer_enter reply with ⟨leader, rfl, led, rfl⟩ | ⟨rfl, rfl⟩
  · have grows : Grows w { w with joined := (i, leader) :: w.joined } :=
      { Grows.refl w with joined := List.subset_cons_self _ _ }
    exact ⟨allows (inv.mono grows rfl rfl) grows,
      safe_wait List.mem_cons_self (inv.flights _ _ led)⟩
  · refine ⟨allows (inv.lead i) (grows_group w _ _), ?_⟩
    exact safe_bind Grows.refl (inv.lead i) (safe_loadAndCache (inv.lead i))
      fun r w _ yields => safe_finish yields

theorem safe_getOrLoad (w : World g) (inv : Consistent u w) :
    Safe (env g) (contract u) i
      (fun r w => Obtains u i (⟨u.typeOf (u.calls i).key, r.1⟩, r.2) w)
      (getOrLoad (u.typeOf (u.calls i).key) (u.calls i).cache (u.calls i).key (u.calls i).ttl)
      w := by
  have stable : ∀ (r : g.Val (u.typeOf (u.calls i).key) × Option GoError) (w w' : World g),
      Consistent u w' → Obtains u i (⟨u.typeOf (u.calls i).key, r.1⟩, r.2) w → Grows w w' →
      Obtains u i (⟨u.typeOf (u.calls i).key, r.1⟩, r.2) w' :=
    fun r w w' _ held grows => held.mono grows
  refine safe_bind Grows.refl inv (safe_cached _ _ w) fun r w inv supplied => ?_
  cases r with
  | some v =>
    exact safe_pure ⟨i, .inl rfl, rfl, ⟨rfl, fun _ => supplied v rfl, by simp⟩⟩ (stable _)
  | none =>
    refine safe_bind Grows.refl inv (safe_groupDo w) fun r w inv obtained => ?_
    obtain ⟨⟨t, v⟩, err⟩ := r
    obtain ⟨j, source, key, typed, value, error⟩ := obtained
    cases err with
    | some err =>
      exact safe_pure ⟨j, source, key, ⟨congrArg u.typeOf key.symm, by simp, error⟩⟩ (stable _)
    | none =>
      rw [key] at typed
      simp only at typed
      subst typed
      simp only [assertType, dite_true]
      exact safe_pure ⟨j, source, key, ⟨congrArg u.typeOf key.symm, value, error⟩⟩ (stable _)

end Programs

theorem safe_program (u : Setup g) (i : Nat) (inv : Consistent u w) :
    Safe (env g) (contract u) i (Obtains u i) (u.program i) w :=
  safe_bind Grows.refl inv (safe_getOrLoad w inv) fun _ _ _ obtained => safe_obtains obtained

theorem coherent (u : Setup g) : Coherent (env g) (contract u) (Obtains u) where
  refl _ := Grows.refl
  trans _ _ _ _ := Grows.trans
  act e w w' inv acted := by
    cases acted
    have grows : Grows w { w with cancelled := e.call :: w.cancelled } :=
      ⟨List.Subset.refl _, List.Subset.refl _, List.Subset.refl _, List.Subset.refl _⟩
    exact ⟨inv.mono grows rfl rfl, fun _ => grows⟩
  again _ _ _ _ _ _ none := nomatch none

theorem always_obtains (u : Setup g) (as : List (Input Nat (Choice g) Cancel)) :
    Always (env g).step (fun s => ∀ i r, s.threads i = .ret r → Obtains u i r s.world) u.start
      as := by
  have empty : Consistent u {} := ⟨by simp, by simp⟩
  have start : AllSafe (env g) (contract u) (Obtains u) u.start :=
    ⟨empty, fun i => safe_program u i empty⟩
  refine (always_allSafe (coherent u) start as).mono ?_
  intro s safe i r ended
  exact safe.ended (coherent u) ended

end DxCommonGo.GetOrLoadFlights
