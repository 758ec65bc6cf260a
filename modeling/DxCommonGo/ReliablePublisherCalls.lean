import DxCommonGo.ReliablePublisherAttempts

/-! The redial of a call of `Publish`, its second attempt, and the result for any number of calls.
-/

namespace DxCommonGo.ReliablePublisherCalls
open AmqpBroker (errClosed errClosedValue)
open GoStrings DxErrors Threads Runs RelyGuarantee ReliablePublisher
open ReliablePublisherContract ReliablePublisherAttempts

variable {cfg : PublisherConfig} {i : Nat} {w w' : World}

section Dial

/-- What `dial` leaves to a call: a connection of its own, or the knowledge that it
was disturbed. -/
def Dialled (cfg : PublisherConfig) (i : Nat) (err : Option GoError) (w : World) : Prop :=
  (err = none → ∃ c, Ready cfg i c w) ∧ (err ≠ none → ¬Undisturbed cfg i w.log)

theorem safe_dialled {err : Option GoError} (h : Dialled cfg i err w) :
    Safe env contract i (Dialled cfg i) (pure err) w := by
  refine safe_pure h fun w w' _ held relies => ⟨fun ok => ?_, fun failed => ?_⟩
  · obtain ⟨c, ready⟩ := held.1 ok
    exact ⟨c, ready.mono relies⟩
  · exact not_undisturbed_mono (held.2 failed) relies

variable {c : Nat}

theorem safe_connClose {γ : Type} {post : γ → World → Prop} {f : Unit → PubProg γ}
    (P : World → Prop) (mono : ∀ w w', P w → Relies i w w' → P w') (h : P w) (known : c < w.dialled)
    (may : MayClose i c w)
    (rest : ∀ w, P w → (w.isOpen c = false → Safe env contract i post (f ()) w) ∧
      Safe env contract i post (f ()) ((w.drop c).record (.closed c))) :
    Safe env contract i post (ask (.connClose c) >>= f) w := by
  refine safe_perform_bind (fun w => P w ∧ c < w.dialled ∧ MayClose i c w) ⟨h, known, may⟩
    (fun w w' _ held relies => ⟨mono w w' held.1 relies, held.2.1.trans_le relies.dialled,
      held.2.2.mono held.2.1 relies⟩) (fun _ _ _ => trivial) ?_
  intro w x r w' inv held reply
  cases x with
  | acks | nacks | expires => cases reply
  | proceed =>
    cases reply
    split_ifs with opened
    · exact ⟨allows ((inv.drop c).record _) fun j other => relies_closed other.symm held.2.2,
        (rest w held.1).2⟩
    · exact ⟨allows inv fun j _ => .refl j w, (rest w held.1).1 (by simpa using opened)⟩

theorem safe_closeOwn {err : GoError} (known : c < w.dialled) (mine : w.owner c = some i)
    (disturbed : ¬Undisturbed cfg i w.log) :
    Safe env contract i (Dialled cfg i)
      (ask (.connClose c) >>= fun _ => pure (some err)) w := by
  refine safe_connClose (fun w => ¬Undisturbed cfg i w.log)
    (fun _ _ h relies => not_undisturbed_mono h relies) disturbed known ?_ fun w disturbed => ?_
  · intro k owner other
    exact absurd (Option.some.inj (owner.symm.trans mine)) other
  · refine ⟨fun _ => safe_dialled ⟨by simp, fun _ => disturbed⟩,
      safe_dialled ⟨by simp, fun _ undisturbed => disturbed ?_⟩⟩
    exact undisturbed.of_prefix (List.prefix_append _ _)

theorem safe_abandon {err : GoError} (h : Fresh i c w) (disturbed : ¬Undisturbed cfg i w.log) :
    Safe env contract i (Dialled cfg i) (abandon c err) w := by
  refine safe_perform_bind (fun w => Fresh i c w ∧ ¬Undisturbed cfg i w.log) ⟨h, disturbed⟩
    (fun _ _ _ held relies => ⟨held.1.mono relies, not_undisturbed_mono held.2 relies⟩)
    (fun _ _ _ => trivial) ?_
  intro w x r w' inv held reply
  cases x with
  | acks | nacks | expires => cases reply
  | proceed =>
    cases reply
    exact ⟨allows inv fun j _ => .refl j w, safe_closeOwn held.1.known held.1.mine held.2⟩

theorem safe_request (cfg : PublisherConfig) {γ : Type} {post : γ → World → Prop}
    {request : Request} {f : Option GoError → PubProg γ} (h : Fresh i c w)
    (accepted : ∀ w, Fresh i c w → Safe env contract i post (f none) w)
    (refused : ∀ w err, Fresh i c w → ¬Undisturbed cfg i w.log →
      Safe env contract i post (f (some err)) w) :
    Safe env contract i post (ask (.request c request) >>= f) w := by
  refine safe_perform_bind (Fresh i c) h (fun _ _ _ held relies => held.mono relies)
    (fun _ _ _ => trivial) ?_
  intro w x r w' inv held reply
  cases x with
  | acks | nacks | expires => cases reply
  | proceed =>
    cases reply
    refine ⟨allows inv fun j _ => .refl j w, ?_⟩
    unfold World.onChannel
    split_ifs with opened
    · exact accepted w held
    · refine refused w _ held fun undisturbed => ?_
      exact undisturbed.noLoss c (held.standing.resolve_left opened)

theorem fresh_install (h : Fresh i c w) :
    Ready cfg i c ({ w with conn := some c, ch := some c }.record (.installed i c)) := by
  refine ⟨h.known, h.mine, List.mem_append_left _ h.redialled,
    List.mem_append_right _ (List.mem_singleton_self _), fun undisturbed => ⟨rfl, ?_⟩⟩
  refine h.standing.resolve_right fun lost => undisturbed.noLoss c ?_
  exact lost.mono (List.prefix_append _ _)

theorem ready_closeOther {c' : Nat} (h : Ready cfg i c w) (other : c ≠ c') :
    Ready cfg i c ((w.drop c').record (.closed c')) := by
  refine ⟨h.known, h.mine, List.mem_append_left _ h.redialled, List.mem_append_left _ h.installed,
    fun undisturbed => ?_⟩
  obtain ⟨conn, opened⟩ := h.standing (undisturbed.of_prefix (List.prefix_append _ _))
  exact ⟨conn, (isOpen_drop c' opened).resolve_right other⟩

theorem safe_replaceConn (h : Fresh i c w) :
    Safe env contract i (Dialled cfg i) (replaceConn c) w := by
  refine safe_perform_bind (Fresh i c) h (fun _ _ _ held relies => held.mono relies)
    (fun _ _ _ => trivial) ?_
  intro w x r w' inv held reply
  cases x with
  | acks | nacks | expires => cases reply
  | proceed =>
    cases reply
    refine ⟨allows (orderly_install held.known held.mine)
      fun j other => relies_install other.symm c, ?_⟩
    have ready : Ready cfg i c _ := fresh_install held
    cases old : w.conn with
    | none => exact safe_dialled ⟨fun _ => ⟨c, ready⟩, by simp⟩
    | some c' =>
      -- The old connection was installed by another call, so closing it spares `c`.
      have other : c ≠ c' := by
        rintro rfl
        exact held.untouched c (inv.installed c i old held.mine)
      refine safe_connClose (Ready cfg i c) (fun _ _ held relies => held.mono relies) ready
        (inv.bounded c' old) ?_ fun w ready => ?_
      · intro k owner _
        exact ⟨c, before_concat _ (inv.installed c' k old owner)⟩
      · exact ⟨fun _ => safe_dialled ⟨fun _ => ⟨c, ready⟩, by simp⟩,
          safe_dialled ⟨fun _ => ⟨c, ready_closeOther ready other⟩, by simp⟩⟩

theorem safe_declareExchange (h : Fresh i c w) :
    Safe env contract i (Dialled cfg i) (declareExchange cfg c) w := by
  unfold declareExchange
  split_ifs
  · exact safe_replaceConn h
  all_goals
    exact safe_request cfg h (fun w fresh => safe_replaceConn fresh)
      fun w err fresh disturbed => safe_abandon fresh disturbed

theorem untouched_dialled (h : Untouched i w) :
    Fresh i w.dialled ((w.add i).record (.redial i w.dialled)) where
  known := Nat.lt_succ_self _
  mine := Function.update_self _ _ _
  redialled := List.mem_append_right _ (List.mem_singleton_self _)
  untouched c installed := h c (by simpa [World.add, World.record] using installed)
  standing := .inl (Function.update_self _ _ _)

theorem safe_dial (cfg : PublisherConfig) (h : Untouched i w) :
    Safe env contract i (Dialled cfg i) (dial cfg) w := by
  refine safe_perform_bind (Untouched i) h (fun _ _ _ held relies => held.mono relies)
    (fun _ _ _ => trivial) ?_
  intro w x r w' inv held reply
  cases x with
  | acks | nacks | expires => cases reply
  | proceed =>
    cases reply
    refine ⟨allows ((inv.add i).record _) fun j _ =>
      (relies_add j i w).trans (relies_record (by simp)), ?_⟩
    refine safe_request cfg (untouched_dialled held) (fun w fresh => ?_)
      fun w err fresh disturbed => safe_closeOwn fresh.known fresh.mine disturbed
    dsimp only
    split_ifs
    · exact safe_request cfg fresh (fun w fresh => safe_declareExchange fresh)
        fun w err fresh disturbed => safe_abandon fresh disturbed
    · exact safe_declareExchange fresh

end Dial

def Served (cfg : PublisherConfig) (i : Nat) (err : Option GoError) (w : World) : Prop :=
  Undisturbed cfg i w.log → err = none

theorem safe_served {err : Option GoError} (h : Served cfg i err w) :
    Safe env contract i (Served cfg i) (pure err) w :=
  safe_pure h fun _ _ _ held relies undisturbed => held (undisturbed.of_prefix relies.log)

theorem safe_retry (m : Message) (inv : Orderly w) (h : Untouched i w) :
    Safe env contract i (Served cfg i) (do
      match ← dial cfg with
      | some derr => return some (errorf (str "redial after publish failure: %w") derr)
      | none =>
        match ← publishOnce cfg m with
        | some err2 => return some (errorf (str "publish after redial: %w") err2)
        | none => return none) w := by
  refine safe_bind (Relies.refl i) inv (safe_dial cfg h) fun err w inv dialled => ?_
  cases err with
  | some derr =>
    exact safe_served fun undisturbed => absurd undisturbed (dialled.2 (by simp))
  | none =>
    obtain ⟨c, ready⟩ := dialled.1 rfl
    have stands : Stands cfg i (some c) w := ready
    refine safe_bind (Relies.refl i) inv (safe_publishOnce m stands) fun err w _ attempted => ?_
    cases err with
    | none => exact safe_served fun _ => rfl
    | some err =>
      refine safe_served fun undisturbed => ?_
      rcases attempted.2 with none | disturbed | ⟨first, -⟩
      · cases none
      · exact absurd undisturbed disturbed
      · cases first

theorem safe_publishWithRetry (m : Message) (inv : Orderly w) (h : Untouched i w) :
    Safe env contract i (Served cfg i) (publishWithRetry cfg m) w := by
  have stands : Stands cfg i none w := h
  refine safe_bind (Relies.refl i) inv (safe_publishOnce m stands) fun err w inv attempted => ?_
  obtain ⟨untouched, outcome⟩ := attempted
  cases err with
  | none => exact safe_served fun _ => rfl
  | some err =>
    dsimp only
    split_ifs with closed
    · exact safe_retry m inv untouched
    · refine safe_served fun undisturbed => ?_
      rcases outcome with none | disturbed | ⟨-, same⟩
      · cases none
      · exact absurd undisturbed disturbed
      · cases same
        exact absurd (by decide) closed

theorem coherent (cfg : PublisherConfig) : Coherent env contract (Served cfg) where
  refl := Relies.refl
  trans _ _ _ _ := Relies.trans
  act e w w' inv acted := by
    simp only [env, act] at acted
    split_ifs at acted
    cases acted
    exact ⟨(inv.drop _).record _, fun i => relies_lost i _ w⟩
  again _ _ _ _ _ _ none := nomatch none

theorem orderly_new (connected : Bool) : Orderly (newReliablePublisher connected) := by
  refine ⟨rfl, ?_, ?_⟩
  · intro c same
    cases connected with
    | false => cases same
    | true =>
      cases same
      decide
  · intro c k _ owner
    cases owner

/-- In every interleaving of calls and losses, a call that was not disturbed returns
nil. -/
theorem publish_succeeds_undisturbed (cfg : PublisherConfig) (messages : Nat → Message)
    (connected : Bool) (as : List (Input Nat Choice Loss)) :
    Always env.step (fun s => ∀ i err, s.threads i = .ret err →
      Undisturbed cfg i s.world.log → err = none) (start cfg messages connected) as := by
  have orderly := orderly_new connected
  have started : AllSafe env contract (Served cfg) (start cfg messages connected) :=
    ⟨orderly, fun i => safe_publishWithRetry (messages i) orderly fun c => List.not_mem_nil⟩
  refine (always_allSafe (coherent cfg) started as).mono ?_
  intro s safe i err ended
  exact safe.ended (coherent cfg) ended

def plain : PublisherConfig := ⟨[], [], false⟩

/-- Calls 0 and 1 both redial; call 1 installs its connection and closes that of
call 0 after call 0 has read its channel. -/
def overtaken : List (Input Nat Choice Loss) :=
  [.turn 0 .proceed, .turn 1 .proceed,
    .turn 0 .proceed, .turn 0 .proceed, .turn 0 .proceed, .turn 0 .proceed,
    .turn 1 .proceed, .turn 1 .proceed, .turn 1 .proceed, .turn 1 .proceed,
    .turn 0 .proceed]

/-- No connection is lost, and call 0 fails. -/
theorem redial_invalidates_channel : ∃ s,
    overtaken.foldlM env.step (start plain (fun _ => ⟨[], str "orders", [], []⟩) false) = some s ∧
    s.world.log = [.redial 0 1, .installed 0 1, .redial 1 2, .installed 1 2, .closed 1] ∧
    s.threads 0 = .ret (some (errorf (str "publish after redial: %w") errClosed)) :=
  ⟨_, rfl, rfl, rfl⟩

end DxCommonGo.ReliablePublisherCalls
