import DxCommonGo.AppIdClient

/-! What a verification through the cache returns: every entry is vouched for by an answer of the
control plane to a call with the same cache key. -/

namespace DxCommonGo.AppIdCache
open GoStrings DxErrors Threads Runs RelyGuarantee AuthContext AppIdClient

variable {u : Setup} {i j : Nat} {w w' : World}

def keyOf (u : Setup) (i : Nat) : GoString := cacheKey u.sha (u.calls i).1 (u.calls i).2

/-- The control plane has answered call `j` with success, for the user and for
credentials with the cache key. -/
def Vouched (u : Setup) (key : GoString) (user : DxUser) (j : Nat) (w : World) : Prop :=
  ∃ a ∈ w.answers, a.call = j ∧ cacheKey u.sha a.appID a.appSecret = key ∧
    a.response.success = true ∧ a.response.user = user

def Live (i j : Nat) (user : DxUser) (w : World) : Prop :=
  ∃ e t, (j, e) ∈ w.stored ∧ e.user = user ∧ (i, t) ∈ w.readings ∧ t < e.expiresAt

def Served (u : Setup) (i : Nat) (user : DxUser) (w : World) : Prop :=
  ∃ j, Vouched u (keyOf u i) user j w ∧ (j = i ∨ Live i j user w)

structure Consistent (u : Setup) (w : World) : Prop where
  asked : ∀ a ∈ w.answers, (a.appID, a.appSecret) = u.calls a.call
  cached : ∀ key e, w.cache.lookup key = some e →
    ∃ j, (j, e) ∈ w.stored ∧ Vouched u key e.user j w

structure Grows (w w' : World) : Prop where
  answers : w.answers ⊆ w'.answers
  stored : w.stored ⊆ w'.stored
  readings : w.readings ⊆ w'.readings

theorem Grows.refl (w : World) : Grows w w :=
  ⟨List.Subset.refl _, List.Subset.refl _, List.Subset.refl _⟩

theorem Grows.trans {v : World} (h : Grows w v) (h' : Grows v w') : Grows w w' :=
  ⟨List.Subset.trans h.answers h'.answers, List.Subset.trans h.stored h'.stored,
    List.Subset.trans h.readings h'.readings⟩

theorem Vouched.mono {key : GoString} {user : DxUser} (h : Vouched u key user j w)
    (grows : Grows w w') : Vouched u key user j w' := by
  obtain ⟨a, ha, rest⟩ := h
  exact ⟨a, grows.answers ha, rest⟩

theorem Live.mono {user : DxUser} (h : Live i j user w) (grows : Grows w w') :
    Live i j user w' := by
  obtain ⟨e, t, stored, same, read, live⟩ := h
  exact ⟨e, t, grows.stored stored, same, grows.readings read, live⟩

theorem Served.mono {user : DxUser} (h : Served u i user w) (grows : Grows w w') :
    Served u i user w' := by
  obtain ⟨j, vouched, source⟩ := h
  exact ⟨j, vouched.mono grows, source.imp_right fun live => live.mono grows⟩

section Updates

theorem grows_reading (w : World) (i : Nat) (t : Int) :
    Grows w { w with readings := (i, t) :: w.readings } :=
  ⟨List.Subset.refl _, List.Subset.refl _, List.subset_cons_self _ _⟩

theorem grows_answer (w : World) (a : Answer) : Grows w { w with answers := a :: w.answers } :=
  ⟨List.subset_cons_self _ _, List.Subset.refl _, List.Subset.refl _⟩

theorem grows_store (w : World) (i : Nat) (key : GoString) (e : VerifyEntry) :
    Grows w { w with cache := w.cache.insert key e, stored := (i, e) :: w.stored } :=
  ⟨List.Subset.refl _, List.subset_cons_self _ _, List.Subset.refl _⟩

theorem Consistent.reading (h : Consistent u w) (i : Nat) (t : Int) :
    Consistent u { w with readings := (i, t) :: w.readings } := by
  refine ⟨h.asked, fun key e found => ?_⟩
  obtain ⟨j, stored, vouched⟩ := h.cached key e found
  exact ⟨j, stored, vouched.mono (grows_reading w i t)⟩

theorem Consistent.answer (h : Consistent u w) (i : Nat) (resp : VerifyAppIdResponse) :
    Consistent u { w with answers := ⟨i, (u.calls i).1, (u.calls i).2, resp⟩ :: w.answers } := by
  refine ⟨?_, fun key e found => ?_⟩
  · exact List.forall_mem_cons.mpr ⟨rfl, h.asked⟩
  · obtain ⟨j, stored, vouched⟩ := h.cached key e found
    exact ⟨j, stored, vouched.mono (grows_answer w _)⟩

theorem Consistent.store (h : Consistent u w) {key : GoString} {e : VerifyEntry}
    (vouched : Vouched u key e.user i w) :
    Consistent u { w with cache := w.cache.insert key e, stored := (i, e) :: w.stored } := by
  refine ⟨h.asked, fun key' e' found => ?_⟩
  by_cases same : key' = key
  · subst same
    rw [AList.lookup_insert] at found
    cases found
    exact ⟨i, List.mem_cons_self, vouched⟩
  · rw [AList.lookup_insert_ne same] at found
    obtain ⟨j, stored, vouched⟩ := h.cached key' e' found
    exact ⟨j, List.mem_cons_of_mem _ stored, vouched⟩

end Updates

def contract (u : Setup) : Contract Nat Op World :=
  ⟨Consistent u, fun _ => Grows, fun _ _ _ => True⟩

theorem allows (inv : Consistent u w') (grows : Grows w w') : (contract u).Allows i w w' :=
  ⟨inv, fun _ _ => grows⟩

def Returns (u : Setup) (i : Nat) (r : Except GoError DxUser) (w : World) : Prop :=
  ∀ user, r = .ok user → Served u i user w

theorem returns_stable {r : Except GoError DxUser} (w w' : World) (_ : Consistent u w')
    (h : Returns u i r w) (grows : Grows w w') : Returns u i r w' :=
  fun user same => (h user same).mono grows

theorem safe_return {r : Except GoError DxUser} (h : Returns u i r w) :
    Safe env (contract u) i (Returns u i) (pure r) w :=
  safe_pure h fun w w' inv h grows => returns_stable w w' inv h grows

theorem safe_error (err : GoError) (w : World) :
    Safe env (contract u) i (Returns u i) (pure (.error err)) w := by
  refine safe_return fun user same => ?_
  cases same

section Operations

theorem answer_now {x : Choice} {t : Int} (h : answer i .now x w = some (t, w')) :
    w' = { w with readings := (i, t) :: w.readings } := by
  cases x with
  | clock t' =>
    cases h
    rfl
  | proceed | token | replies => cases h

theorem safe_now {P : World → Prop} (mono : ∀ w w', P w → Grows w w' → P w')
    {f : Int → AppIdProg (Except GoError DxUser)} (h : P w)
    (next : ∀ t w, Consistent u w → P w → (i, t) ∈ w.readings →
      Safe env (contract u) i (Returns u i) (f t) w) :
    Safe env (contract u) i (Returns u i) (ask .now >>= f) w := by
  refine safe_perform_bind P h (fun w w' _ h grows => mono w w' h grows) (fun _ _ _ => trivial) ?_
  intro w x t w' inv h answered
  have after := answer_now answered
  subst after
  exact ⟨allows (inv.reading i t) (grows_reading w i t),
    next t _ (inv.reading i t) (mono _ _ h (grows_reading w i t)) List.mem_cons_self⟩

theorem safe_store {key : GoString} {e : VerifyEntry}
    {f : Unit → AppIdProg (Except GoError DxUser)} (h : Vouched u key e.user i w)
    (next : ∀ w, Vouched u key e.user i w → Safe env (contract u) i (Returns u i) (f ()) w) :
    Safe env (contract u) i (Returns u i) (ask (.store key e) >>= f) w := by
  refine safe_perform_bind (Vouched u key e.user i) h (fun w w' _ h grows => h.mono grows)
    (fun _ _ _ => trivial) ?_
  intro w x r w' inv h answered
  cases x with
  | proceed =>
    cases answered
    exact ⟨allows (inv.store h) (grows_store w i key e), next _ (h.mono (grows_store w i key e))⟩
  | clock | token | replies => cases answered

theorem safe_token {f : Option GoError → AppIdProg (Except GoError DxUser)}
    (next : ∀ err w, Safe env (contract u) i (Returns u i) (f err) w) :
    Safe env (contract u) i (Returns u i) (ask .token >>= f) w := by
  refine safe_perform_bind_inv (fun _ _ => trivial) ?_
  intro w x err w' inv answered
  cases x with
  | token err' =>
    cases answered
    exact ⟨allows inv (Grows.refl w), next err w⟩
  | proceed | clock | replies => cases answered

theorem safe_rpc {f : Except GoError VerifyAppIdResponse → AppIdProg (Except GoError DxUser)}
    (failed : ∀ err w, Safe env (contract u) i (Returns u i) (f (.error err)) w)
    (answered : ∀ resp w, (resp.success = true → Vouched u (keyOf u i) resp.user i w) →
      Safe env (contract u) i (Returns u i) (f (.ok resp)) w) :
    Safe env (contract u) i (Returns u i) (ask (.rpc (u.calls i).1 (u.calls i).2) >>= f) w := by
  refine safe_perform_bind_inv (fun _ _ => trivial) ?_
  intro w x reply w' inv h
  cases x with
  | replies reply' =>
    cases reply' with
    | error err =>
      cases h
      exact ⟨allows inv (Grows.refl w), failed err w⟩
    | ok resp =>
      cases h
      refine ⟨allows (inv.answer i resp) (grows_answer w _), answered resp _ fun success => ?_⟩
      exact ⟨_, List.mem_cons_self, rfl, rfl, success, rfl⟩
  | proceed | clock | token => cases h

theorem safe_lookup {key : GoString} {f : Option VerifyEntry → AppIdProg (Except GoError DxUser)}
    (missed : ∀ w, Safe env (contract u) i (Returns u i) (f none) w)
    (found : ∀ e j w, (j, e) ∈ w.stored ∧ Vouched u key e.user j w →
      Safe env (contract u) i (Returns u i) (f (some e)) w) :
    Safe env (contract u) i (Returns u i) (ask (.lookup key) >>= f) w := by
  refine safe_perform_bind_inv (fun _ _ => trivial) ?_
  intro w x reply w' inv h
  cases x with
  | proceed =>
    cases h
    refine ⟨allows inv (Grows.refl w), ?_⟩
    cases hit : w.cache.lookup key with
    | none => exact missed w
    | some e =>
      obtain ⟨j, backed⟩ := inv.cached key e hit
      exact found e j w backed
  | clock | token | replies => cases h

end Operations

theorem safe_cacheAnswer {resp : VerifyAppIdResponse}
    (h : Vouched u (keyOf u i) resp.user i w) :
    Safe env (contract u) i (Returns u i) (cacheAnswer u.cfg (keyOf u i) resp) w := by
  have done : ∀ w, Vouched u (keyOf u i) resp.user i w →
      Safe env (contract u) i (Returns u i) (pure (.ok resp.user)) w := by
    intro w vouched
    refine safe_return fun user same => ?_
    cases same
    exact ⟨i, vouched, .inl rfl⟩
  have stored (ttl : Int) : ∀ w, Vouched u (keyOf u i) resp.user i w →
      Safe env (contract u) i (Returns u i) (do
        if 0 < ttl then
          let now : Int ← ask .now
          ask (.store (keyOf u i) ⟨resp.user, now + ttl⟩)
          return .ok resp.user
        else return .ok resp.user) w := by
    intro w vouched
    split_ifs
    · refine safe_now (fun w w' h grows => h.mono grows) vouched fun t w _ vouched _ => ?_
      exact safe_store vouched fun w vouched => done w vouched
    · exact done w vouched
  unfold cacheAnswer entryTTL
  split_ifs with bounded
  · refine safe_now (fun w w' h grows => h.mono grows) h fun t w _ vouched _ => ?_
    exact stored _ w vouched
  · exact stored _ w h

theorem safe_callControlPlane (w : World) :
    Safe env (contract u) i (Returns u i)
      (callControlPlane u.cfg (keyOf u i) (u.calls i).1 (u.calls i).2) w := by
  refine safe_token fun err w => ?_
  cases err with
  | some err => exact safe_error _ w
  | none =>
    refine safe_rpc (fun err w => safe_error _ w) fun resp w vouched => ?_
    cases success : resp.success with
    | true =>
      simp only [success, ↓reduceIte]
      exact safe_cacheAnswer (vouched success)
    | false =>
      simp only [success, Bool.false_eq_true, ↓reduceIte]
      exact safe_error _ w

theorem safe_program (u : Setup) (i : Nat) (w : World) :
    Safe env (contract u) i (Returns u i) (u.program i) w := by
  refine safe_lookup (fun w => safe_callControlPlane w) fun e j w backed => ?_
  refine safe_now (P := fun w => (j, e) ∈ w.stored ∧ Vouched u (keyOf u i) e.user j w)
    (fun w w' h grows => ⟨grows.stored h.1, h.2.mono grows⟩) backed fun t w _ backed read => ?_
  split_ifs with live
  · refine safe_return fun user same => ?_
    cases same
    exact ⟨j, backed.2, .inr ⟨e, t, backed.1, rfl, read, live⟩⟩
  · exact safe_callControlPlane w

theorem coherent (u : Setup) : Coherent env (contract u) (Returns u) where
  refl _ w := Grows.refl w
  trans _ _ _ _ h h' := h.trans h'
  act e := e.elim
  again _ _ _ _ _ _ h := by cases h

/-- Whatever the calls and their interleaving, a user that a call returns was
vouched for under the call's cache key. -/
theorem always_served (u : Setup) (as : List (Input Nat Choice Empty)) :
    Always env.step (fun s => Consistent u s.world ∧ ∀ i user, s.threads i = .ret (.ok user) →
      Served u i user s.world) u.start as := by
  have inv : Consistent u u.start.world := ⟨by simp [Setup.start], by simp [Setup.start]⟩
  refine (always_allSafe (coherent u) ⟨inv, fun i => safe_program u i _⟩ as).mono fun s safe => ?_
  exact ⟨safe.1, fun i user ended => safe.ended (coherent u) ended user rfl⟩

end DxCommonGo.AppIdCache
