import DxCommonGo.RabbitClientLoop

/-! `Close` beside the reconnect loop. A loss between the installation of a connection and its
registration ends the loop; a connection installed after the critical section of `Close` is left
open. -/

namespace DxCommonGo.RabbitClientClose
open AmqpBroker (errClosed)
open GoStrings DxErrors Threads Runs RelyGuarantee
open RabbitClient RabbitClientContract RabbitClientLoop

variable {w w' : World}

section Closer

variable {configured : Int64} {γ : Type} {post : γ → World → Prop}

structure Holding (found : Option Nat) (w : World) : Prop where
  locked : w.locked = true
  closing : w.closing = true
  done : w.done = true
  conn : w.conn = found

variable {conn : Option Nat}

theorem Holding.mono (h : Holding conn w) (relies : CloserRelies w w') : Holding conn w' :=
  ⟨relies.locked.trans h.locked, relies.closing.trans h.closing, relies.done h.done,
    (relies.held h.locked).trans h.conn⟩

structure Shut (found : Option Nat) (w : World) : Prop extends Holding found w where
  bounded : Bounded w
  ended : ∀ c, found = some c → w.status c ≠ .open

theorem Shut.mono (h : Shut conn w) (inv : Bounded w') (relies : CloserRelies w w') :
    Shut conn w' := by
  refine ⟨h.toHolding.mono relies, inv, fun c same now => ?_⟩
  exact h.ended c same (relies.opened c (h.bounded.installed c (h.conn.trans same)) now)

theorem safe_closeConn (inv : Bounded w) (h : Holding conn w) :
    Safe (env configured) contract .closer (fun _ => Shut conn) (closeConn conn) w := by
  cases conn with
  | none => exact safe_pure ⟨h, inv, by simp⟩ fun _ _ inv held relies => held.mono inv relies
  | some c =>
    change Safe _ _ _ _ (ask (.connClose c) >>= pure) w
    refine safe_perform_bind (Holding (some c)) h (fun _ _ _ held relies => held.mono relies)
      (fun _ _ _ => trivial) ?_
    intro w x r w' inv held reply
    rcases answer_connClose reply with rfl | ⟨ended, rfl⟩
    · refine ⟨closer_allows (inv.setStatus (by simp))
        (loopRelies_setStatus (by simp) fun _ => held.done),
        safe_pure ⟨⟨held.locked, held.closing, held.done, held.conn⟩, inv.setStatus (by simp), ?_⟩
          fun _ _ inv held relies => held.mono inv relies⟩
      rintro c' ⟨⟩ now
      exact (setStatus_open (by simp) now).1 rfl
    · refine ⟨closer_allows inv (.refl _), safe_pure ⟨held, inv, ?_⟩
        fun _ _ inv held relies => held.mono inv relies⟩
      rintro c' ⟨⟩
      exact ended

theorem closed_stable {err : Option GoError} (inv : Bounded w')
    (h : Reaches .closer (.closed err) w) (relies : CloserRelies w w') :
    Reaches .closer (.closed err) w' := by
  obtain ⟨bounded, closing, ended⟩ := h
  refine ⟨inv, relies.closing.trans closing, fun punctual c same now => ?_⟩
  have before : w.late = false := by
    by_contra was
    simp [relies.late (by simpa using was)] at punctual
  rw [relies.conn closing punctual] at same
  exact ended before c same (relies.opened c (bounded.installed c same) now)

theorem safe_finishClose (inv : Bounded w) (h : Holding conn w) :
    Safe (env configured) contract .closer (Reaches .closer) (do
      let err ← closeConn conn
      ask .unlock
      return .closed err) w := by
  refine safe_bind CloserRelies.refl inv (safe_closeConn inv h) fun err w inv shut => ?_
  refine safe_perform_bind (Shut conn) shut (fun _ _ inv held relies => held.mono inv relies)
    (fun _ _ _ => trivial) ?_
  intro w x r w' inv held reply
  cases x with
  | proceed =>
    cases reply
    refine ⟨closer_allows ⟨inv.opened, inv.installed⟩
      ⟨rfl, rfl, rfl, id, fun _ now => now, fun _ now => .inl now⟩, ?_⟩
    refine safe_pure ⟨⟨inv.opened, inv.installed⟩, held.closing, fun _ c same => ?_⟩
      fun _ _ inv held relies => closed_stable inv held relies
    exact held.ended c (held.conn.symm.trans same)
  | fails | hears | wakes => cases reply

theorem safe_lock (h : w.done = true) :
    Safe (env configured) contract .closer (Reaches .closer) (do
      let fields : Option Nat × Option Nat ← ask .lock
      match fields.1 with
      | some channel =>
        let _ ← ask (.channelClose channel)
        let err ← closeConn fields.2
        ask .unlock
        return .closed err
      | none =>
        let err ← closeConn fields.2
        ask .unlock
        return .closed err) w := by
  refine safe_perform_bind (fun w => w.done = true) h (fun _ _ _ held relies => relies.done held)
    (fun _ _ _ => trivial) ?_
  intro w x r w' inv done reply
  cases x with
  | proceed =>
    simp only [env, answer] at reply
    split_ifs at reply with locked
    cases reply
    have inv' : Bounded { w with locked := true, closing := true } := ⟨inv.opened, inv.installed⟩
    have held : Holding w.conn { w with locked := true, closing := true } := ⟨rfl, rfl, done, rfl⟩
    refine ⟨closer_allows inv' ⟨rfl, rfl, rfl, id, fun _ now => now, fun _ now => .inl now⟩, ?_⟩
    dsimp only
    split
    · refine safe_perform_bind (Holding w.conn) held (fun _ _ _ held relies => held.mono relies)
        (fun _ _ _ => trivial) ?_
      intro w' x r w'' inv held reply
      cases x with
      | proceed | fails =>
        cases reply
        exact ⟨closer_allows inv (.refl _), safe_finishClose inv held⟩
      | hears | wakes => cases reply
    · exact safe_finishClose inv' held
  | fails | hears | wakes => cases reply

theorem safe_close (w : World) :
    Safe (env configured) contract .closer (Reaches .closer) close w := by
  refine safe_perform_bind_inv (fun _ _ => trivial) ?_
  intro w x r w' inv reply
  cases x with
  | proceed =>
    cases reply
    exact ⟨closer_allows ⟨inv.opened, inv.installed⟩
      ⟨rfl, rfl, rfl, fun _ => rfl, fun _ now => now, fun _ _ => .inr rfl⟩, safe_lock rfl⟩
  | fails | hears | wakes => cases reply

end Closer

theorem coherent (configured : Int64) : Coherent (env configured) contract Reaches where
  refl i := match i with
    | .loop => LoopRelies.refl
    | .closer => CloserRelies.refl
  trans i := match i with
    | .loop => fun _ _ _ => LoopRelies.trans
    | .closer => fun _ _ _ => CloserRelies.trans
  act e w w' inv acted := by
    simp only [env, act] at acted
    split_ifs at acted
    cases acted
    refine ⟨inv.setStatus (by simp), fun i => ?_⟩
    cases i with
    | loop => exact loopRelies_setStatus (by simp) (by simp)
    | closer => exact closerRelies_setStatus (by simp)
  again i stop p w inv reached resumed := by
    match i, stop with
    | .loop, .goOn .outer =>
      cases resumed
      exact safe_outer reached
    | .loop, .goOn (.inner _) =>
      cases resumed
      exact safe_inner reached
    | .loop, .exited | .loop, .closed _ => cases resumed
    | .closer, _ => cases resumed

theorem connected_open {c : Nat} (h : connected.status c = .open) : c = 0 := by
  by_contra other
  simp [connected, other] at h

theorem always_safe (configured : Int64) (as : List (Input Role Choice Loss)) :
    Always (env configured).step (AllSafe (env configured) contract Reaches) (start configured)
      as := by
  have inv : Bounded connected := by
    refine ⟨fun c now => ?_, ?_⟩
    · rw [connected_open now]
      decide
    · rintro c ⟨⟩
      decide
  have idle : Idle connected :=
    ⟨rfl, ⟨0, rfl⟩, fun c now => congrArg some (connected_open now).symm⟩
  have started : AllSafe (env configured) contract Reaches (start configured) := by
    refine ⟨inv, fun i => ?_⟩
    cases i with
    | loop => exact safe_outer idle
    | closer => exact safe_close connected
  exact always_allSafe (coherent configured) started as

/-- Once `Close` has returned and the loop has exited, no connection is open, if
none was installed after the critical section of `Close`. -/
theorem no_connection_left_open (configured : Int64) (as : List (Input Role Choice Loss)) :
    Always (env configured).step (fun s => ∀ err, s.threads .closer = .ret (.closed err) →
      s.threads .loop = .ret .exited → s.world.late = false →
      ∀ c, s.world.status c ≠ .open) (start configured) as := by
  refine (always_safe configured as).mono fun s safe err closed exited punctual c now => ?_
  obtain ⟨-, only⟩ := safe.ended (coherent configured) exited
  obtain ⟨-, -, ended⟩ := safe.ended (coherent configured) closed
  exact ended punctual c (only c now) now

def closeDuringRedial : List (Input Role Choice Loss) :=
  [.turn .loop .proceed, .event ⟨0⟩, .turn .loop (.hears .notified), .turn .loop .proceed,
    .turn .loop (.wakes .elapsed),
    .turn .closer .proceed, .turn .closer .proceed, .turn .closer .proceed, .turn .closer .proceed,
    .turn .closer .proceed,
    .turn .loop .proceed, .turn .loop .proceed, .turn .loop .proceed, .turn .loop .proceed,
    .turn .loop .proceed, .turn .loop (.hears .done)]

theorem connection_left_open : ∃ s,
    closeDuringRedial.foldlM (env 0).step (start 0) = some s ∧
    s.threads .closer = .ret (.closed (some errClosed)) ∧ s.threads .loop = .ret .exited ∧
    s.world.status 1 = .open :=
  ⟨_, rfl, rfl, rfl, rfl⟩

/-- The loop watches a connection whose loss it will be told of, waits to redial, or redials and
registers. -/
def Reconnecting (s : System Role Op Reply Stop World) : Prop :=
  match s.threads .loop with
  | .call (.selectClose n) _ => n.live = true ∧ s.world.status n.conn ≠ .closed
  | .call (.selectAfter _) _ => True
  | .call .dial _ | .call (.openChannel _) _ | .call (.connClose _) _ | .call (.install _) _ => True
  | .call .register _ => True
  | .ret (.goOn _) => True
  | _ => False

theorem waiting_iff {n : Notify} (h : Waiting n w) (running : w.done = false) :
    n.live = true ∧ w.status n.conn ≠ .closed ↔ w.missed = false := by
  rw [h.missed]
  cases live : n.live with
  | false => simp
  | true =>
    simp only [true_and, Bool.not_true, iff_true]
    intro closed
    simp [h.closed closed live] at running

/-- As long as `Close` has not been called, the loop is reconnecting if and only if
no registration has found its connection gone. -/
theorem reconnecting_iff (configured : Int64) (as : List (Input Role Choice Loss)) :
    Always (env configured).step (fun s => s.world.done = false →
      (Reconnecting s ↔ s.world.missed = false)) (start configured) as := by
  refine (always_safe configured as).mono fun s safe running => ?_
  have loop := safe.2 .loop
  unfold Reconnecting
  cases at_loop : s.threads .loop with
  | panic | goexit =>
    rw [at_loop] at loop
    exact loop.elim
  | ret stop =>
    have reached := safe.ended (coherent configured) at_loop
    match stop with
    | .goOn .outer => simpa using reached.missed
    | .goOn (.inner _) => simpa using reached.missed
    | .exited =>
      obtain ⟨ended | missed, -⟩ := reached
      · simp [running] at ended
      · simp [missed]
  | call op next =>
    have reached : AtOp op s.world := safe.reached (coherent configured) at_loop
    cases op with
    | selectClose n => exact waiting_iff reached running
    | channelClose | closeDone | lock | unlock => exact reached.elim
    | dial | openChannel | connClose | install | register | selectAfter =>
      exact iff_of_true trivial reached

/-- The first connection is lost before the loop registers on it: the loop takes the
closed channel for a shutdown and exits. -/
theorem loop_exits_on_early_loss : ∃ s,
    [Input.event ⟨0⟩, .turn .loop .proceed, .turn .loop (.hears .closed)].foldlM (env 0).step
      (start 0) = some s ∧
    s.world.done = false ∧ s.threads .loop = .ret .exited :=
  ⟨_, rfl, rfl, rfl⟩

end DxCommonGo.RabbitClientClose
