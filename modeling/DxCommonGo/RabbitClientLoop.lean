import DxCommonGo.RabbitClientContract

/-! The turns of the reconnect loop, under what it relies on. -/

namespace DxCommonGo.RabbitClientLoop
open GoStrings DxErrors RelyGuarantee RabbitClient RabbitClientContract

variable {w w' : World}

section Loop

variable {configured : Int64} {γ : Type} {post : γ → World → Prop}

theorem loop_perform_bind (P : World → Prop) (mono : ∀ w w', P w → LoopRelies w w' → P w')
    {op : Op} {f : Reply op → ClientProg γ} (h : P w) (pre : ∀ w, P w → AtOp op w)
    (next : ∀ w x r w', Bounded w → P w → answer op x w = some (r, w') →
      (Bounded w' ∧ CloserRelies w w') ∧
        Safe (env configured) contract .loop post (f r) w') :
    Safe (env configured) contract .loop post (ask op >>= f) w := by
  refine safe_perform_bind P h (fun w w' _ held relies => mono w w' held relies)
    (fun w _ held => pre w held) ?_
  intro w x r w' inv held reply
  obtain ⟨⟨inv', relies⟩, safe⟩ := next w x r w' inv held reply
  exact ⟨loop_allows inv' relies, safe⟩

def Reconnected (err : Option GoError) (w : World) : Prop :=
  (err = none → Idle w) ∧ (err ≠ none → Redialling none w)

theorem safe_reconnected {err : Option GoError} (h : Reconnected err w) :
    Safe (env configured) contract .loop Reconnected (pure err) w :=
  safe_pure h fun _ _ _ held relies =>
    ⟨fun ok => (held.1 ok).mono relies, fun failed => (held.2 failed).mono relies⟩

theorem safe_abandon {c : Nat} (err : GoError) (h : Redialling (some c) w) :
    Safe (env configured) contract .loop Reconnected
      (ask (.connClose c) >>= fun _ => pure (some err)) w := by
  refine loop_perform_bind (Redialling (some c)) (fun _ _ => .mono) h (fun _ held => held.missed) ?_
  intro w x r w' inv held reply
  rcases answer_connClose reply with rfl | ⟨ended, rfl⟩
  · refine ⟨⟨inv.setStatus (by simp), closerRelies_setStatus (by simp)⟩,
      safe_reconnected ⟨by simp, fun _ => ⟨held.missed, held.installed, fun c' now => ?_⟩⟩⟩
    obtain ⟨other, before⟩ := setStatus_open (by simp) now
    exact absurd (Option.some.inj (held.only c' before)).symm other
  · refine ⟨⟨inv, .refl _⟩,
      safe_reconnected ⟨by simp, fun _ => ⟨held.missed, held.installed, fun c' now => ?_⟩⟩⟩
    cases held.only c' now
    exact absurd now ended

theorem safe_install {c : Nat} (h : Redialling (some c) w ∧ c < w.dialled) :
    Safe (env configured) contract .loop Reconnected
      (ask (.install c) >>= fun _ => pure none) w := by
  refine loop_perform_bind (fun w => Redialling (some c) w ∧ c < w.dialled)
    (fun _ _ held relies => ⟨held.1.mono relies, relies.dialled ▸ held.2⟩) h
    (fun _ held => held.1.missed) ?_
  intro w x r w' inv held reply
  cases x with
  | proceed =>
    simp only [answer] at reply
    split_ifs at reply with locked
    cases reply
    refine ⟨⟨⟨inv.opened, fun c' same => ?_⟩, ?_⟩, safe_reconnected ⟨fun _ => ?_, by simp⟩⟩
    · cases same
      exact held.2
    · exact ⟨le_refl _, rfl, rfl, id, fun late => by simp [late], fun now => absurd now locked,
        fun closing => by simp [closing], fun _ _ now => now⟩
    · exact ⟨held.1.missed, ⟨c, rfl⟩, fun c' now => held.1.only c' now⟩
  | fails | hears | wakes => cases reply

theorem safe_openChannel {c : Nat} (h : Redialling (some c) w ∧ c < w.dialled) :
    Safe (env configured) contract .loop Reconnected (do
      let failed : Option GoError ← ask (.openChannel c)
      match failed with
      | some err =>
        let _ ← ask (.connClose c)
        return some (errorf (str "open channel: %w") err)
      | none =>
        ask (.install c)
        return none) w := by
  refine loop_perform_bind (fun w => Redialling (some c) w ∧ c < w.dialled)
    (fun _ _ held relies => ⟨held.1.mono relies, relies.dialled ▸ held.2⟩) h
    (fun _ held => held.1.missed) ?_
  intro w x r w' inv held reply
  cases x with
  | proceed =>
    simp only [answer] at reply
    split_ifs at reply
    cases reply
    exact ⟨⟨inv, .refl w⟩, safe_install held⟩
  | fails err =>
    cases reply
    exact ⟨⟨inv, .refl w⟩, safe_abandon _ held.1⟩
  | hears | wakes => cases reply

theorem safe_connect (h : Redialling none w) :
    Safe (env configured) contract .loop Reconnected connect w := by
  refine loop_perform_bind (Redialling none) (fun _ _ => .mono) h (fun _ held => held.missed) ?_
  intro w x r w' inv held reply
  cases x with
  | proceed =>
    cases reply
    exact ⟨⟨inv.dialled, closerRelies_dialled w⟩,
      safe_openChannel ⟨held.dialled, Nat.lt_succ_self _⟩⟩
  | fails err =>
    cases reply
    exact ⟨⟨inv, .refl w⟩, safe_reconnected ⟨by simp, fun _ => held⟩⟩
  | hears | wakes => cases reply

theorem safe_reaches {stop : Stop} (h : Reaches .loop stop w) :
    Safe (env configured) contract .loop (Reaches .loop) (pure stop) w := by
  refine safe_pure h fun w w' _ held relies => ?_
  match stop with
  | .goOn .outer => exact Idle.mono held relies
  | .goOn (.inner _) => exact Redialling.mono held relies
  | .exited =>
    exact ⟨held.1.imp relies.done fun missed => relies.missed.trans missed, held.2.mono relies⟩

theorem safe_selectClose {n : Notify} (h : Waiting n w) :
    Safe (env configured) contract .loop (Reaches .loop) (do
      let signal : Signal ← ask (.selectClose n)
      match signal with
      | .done => return .exited
      | .closed => return .exited
      | .notified => return .goOn (.inner (reconnectDelay configured))) w := by
  refine loop_perform_bind (Waiting n) (fun _ _ => .mono) h (fun _ held => held) ?_
  intro w x r w' inv held reply
  cases x with
  | proceed | fails | wakes => cases reply
  | hears signal =>
    cases signal with
    | done =>
      simp only [answer] at reply
      split_ifs at reply with done
      cases reply
      exact ⟨⟨inv, .refl w⟩, safe_reaches ⟨.inl done, held.only⟩⟩
    | notified =>
      simp only [answer] at reply
      split_ifs at reply with told
      cases reply
      refine ⟨⟨inv, .refl w⟩, safe_reaches ⟨by simp [held.missed, told.1], ⟨_, held.conn⟩, ?_⟩⟩
      intro c now
      cases Option.some.inj (held.conn.symm.trans (held.only c now))
      simp [told.2] at now
    | closed =>
      simp only [answer] at reply
      split_ifs at reply with told
      cases reply
      -- The channel is closed because the registration came too late, or by `Close`.
      refine ⟨⟨inv, .refl w⟩, safe_reaches ⟨?_, held.only⟩⟩
      cases live : n.live with
      | false => exact .inr (by simp [held.missed, live])
      | true => exact .inl (held.closed (told.resolve_left (by simp [live])) live)

theorem safe_outer (h : Idle w) :
    Safe (env configured) contract .loop (Reaches .loop) (reconnectLoop configured .outer) w := by
  refine loop_perform_bind Idle (fun _ _ => .mono) h (fun _ held => held.missed) ?_
  intro w x r w' inv held reply
  obtain ⟨c, installed⟩ := held.installed
  obtain ⟨rfl, rfl⟩ := answer_register installed reply
  refine ⟨⟨⟨inv.opened, inv.installed⟩, ?_⟩, safe_selectClose ⟨installed, held.only, ?_, ?_⟩⟩
  · exact ⟨le_refl _, rfl, rfl, id, id, fun _ => rfl, fun _ _ => rfl, fun _ _ now => now⟩
  · simp [held.missed]
  · intro closed live
    simp [show w.status c = .closed from closed] at live

theorem safe_inner {delay : Int64} (h : Redialling none w) :
    Safe (env configured) contract .loop (Reaches .loop)
      (reconnectLoop configured (.inner delay)) w := by
  refine loop_perform_bind (Redialling none) (fun _ _ => .mono) h (fun _ held => held.missed) ?_
  intro w x r w' inv held reply
  cases x with
  | proceed | fails | hears => cases reply
  | wakes wake =>
    cases wake with
    | done =>
      simp only [answer] at reply
      split_ifs at reply with done
      cases reply
      refine ⟨⟨inv, .refl w⟩, safe_reaches ⟨.inl done, fun c now => ?_⟩⟩
      cases held.only c now
    | elapsed =>
      cases reply
      refine ⟨⟨inv, .refl w⟩, ?_⟩
      refine safe_bind LoopRelies.refl inv (safe_connect held) fun err w _ reconnected => ?_
      cases err with
      | none => exact safe_reaches (reconnected.1 rfl)
      | some err => exact safe_reaches (reconnected.2 (by simp))

end Loop

end DxCommonGo.RabbitClientLoop
