import DxCommonGo.RabbitClient

/-! What the reconnect loop and `Close` rely on in each other. Only the loop dials and installs
connections, so it knows which are open. -/

namespace DxCommonGo.RabbitClientContract
open GoStrings DxErrors RelyGuarantee RabbitClient

structure Bounded (w : World) : Prop where
  opened : ∀ c, w.status c = .open → c < w.dialled
  installed : ∀ c, w.conn = some c → c < w.dialled

/-- `Close` and the broker only end connections, and close one only after the client was told to
stop. -/
structure LoopRelies (w w' : World) : Prop where
  dialled : w'.dialled = w.dialled
  conn : w'.conn = w.conn
  missed : w'.missed = w.missed
  done : w.done = true → w'.done = true
  opened : ∀ c, w'.status c = .open → w.status c = .open
  closed : ∀ c, w'.status c = .closed → w.status c = .closed ∨ w'.done = true

/-- Connections are not reopened, nothing is installed while `Close` holds the lock, and what is
installed later is recorded. -/
structure CloserRelies (w w' : World) : Prop where
  dialled : w.dialled ≤ w'.dialled
  locked : w'.locked = w.locked
  closing : w'.closing = w.closing
  done : w.done = true → w'.done = true
  late : w.late = true → w'.late = true
  held : w.locked = true → w'.conn = w.conn
  conn : w.closing = true → w'.late = false → w'.conn = w.conn
  opened : ∀ c, c < w.dialled → w'.status c = .open → w.status c = .open

theorem LoopRelies.refl (w : World) : LoopRelies w w :=
  ⟨rfl, rfl, rfl, id, fun _ h => h, fun _ h => .inl h⟩

theorem LoopRelies.trans {u v w : World} (h : LoopRelies u v) (h' : LoopRelies v w) :
    LoopRelies u w where
  dialled := h'.dialled.trans h.dialled
  conn := h'.conn.trans h.conn
  missed := h'.missed.trans h.missed
  done told := h'.done (h.done told)
  opened c now := h.opened c (h'.opened c now)
  closed c now := by
    rcases h'.closed c now with before | told
    · exact (h.closed c before).imp_right h'.done
    · exact .inr told

theorem CloserRelies.refl (w : World) : CloserRelies w w :=
  ⟨le_refl _, rfl, rfl, id, id, fun _ => rfl, fun _ _ => rfl, fun _ _ h => h⟩

theorem CloserRelies.trans {u v w : World} (h : CloserRelies u v) (h' : CloserRelies v w) :
    CloserRelies u w where
  dialled := h.dialled.trans h'.dialled
  locked := h'.locked.trans h.locked
  closing := h'.closing.trans h.closing
  done told := h'.done (h.done told)
  late was := h'.late (h.late was)
  held locked := (h'.held (h.locked.trans locked)).trans (h.held locked)
  conn closing punctual := by
    have before : v.late = false := by
      by_contra was
      simp [h'.late (by simpa using was)] at punctual
    exact (h'.conn (h.closing.trans closing) punctual).trans (h.conn closing before)
  opened c known now := h.opened c known (h'.opened c (lt_of_lt_of_le known h.dialled) now)

def OnlyInstalled (w : World) : Prop := ∀ c, w.status c = .open → w.conn = some c

structure Idle (w : World) : Prop where
  missed : w.missed = false
  installed : ∃ c, w.conn = some c
  only : OnlyInstalled w

structure Waiting (n : Notify) (w : World) : Prop where
  conn : w.conn = some n.conn
  only : OnlyInstalled w
  missed : w.missed = !n.live
  closed : w.status n.conn = .closed → n.live = true → w.done = true

structure Redialling (c : Option Nat) (w : World) : Prop where
  missed : w.missed = false
  installed : ∃ c', w.conn = some c'
  only : ∀ c', w.status c' = .open → c = some c'

variable {w w' : World}

theorem OnlyInstalled.mono (h : OnlyInstalled w) (relies : LoopRelies w w') : OnlyInstalled w' :=
  fun c now => relies.conn.trans (h c (relies.opened c now))

theorem Idle.mono (h : Idle w) (relies : LoopRelies w w') : Idle w' := by
  obtain ⟨c, installed⟩ := h.installed
  exact ⟨relies.missed.trans h.missed, ⟨c, relies.conn.trans installed⟩, h.only.mono relies⟩

theorem Waiting.mono {n : Notify} (h : Waiting n w) (relies : LoopRelies w w') : Waiting n w' where
  conn := relies.conn.trans h.conn
  only := h.only.mono relies
  missed := relies.missed.trans h.missed
  closed now live := by
    rcases relies.closed _ now with before | told
    · exact relies.done (h.closed before live)
    · exact told

theorem Redialling.mono {c : Option Nat} (h : Redialling c w) (relies : LoopRelies w w') :
    Redialling c w' := by
  obtain ⟨c', installed⟩ := h.installed
  exact ⟨relies.missed.trans h.missed, ⟨c', relies.conn.trans installed⟩,
    fun c' now => h.only c' (relies.opened c' now)⟩

def AtOp : Op → World → Prop
  | .selectClose n, w => Waiting n w
  | .channelClose _, _ | .closeDone, _ | .lock, _ | .unlock, _ => False
  | _, w => w.missed = false

def contract : Contract Role Op World where
  inv := Bounded
  rely
    | .loop => LoopRelies
    | .closer => CloserRelies
  pre
    | .loop => AtOp
    | .closer => fun _ _ => True

theorem loop_allows (inv : Bounded w') (relies : CloserRelies w w') :
    contract.Allows .loop w w' := by
  refine ⟨inv, fun j other => ?_⟩
  cases j with
  | loop => exact absurd rfl other
  | closer => exact relies

theorem closer_allows (inv : Bounded w') (relies : LoopRelies w w') :
    contract.Allows .closer w w' := by
  refine ⟨inv, fun j other => ?_⟩
  cases j with
  | loop => exact relies
  | closer => exact absurd rfl other

/-- What a goroutine has left when it gets to the end of a turn or of itself. -/
def Reaches : Role → Stop → World → Prop
  | .loop, .goOn .outer, w => Idle w
  | .loop, .goOn (.inner _), w => Redialling none w
  | .loop, .exited, w => (w.done = true ∨ w.missed = true) ∧ OnlyInstalled w
  | .closer, .closed _, w =>
    Bounded w ∧ w.closing = true ∧ (w.late = false → ∀ c, w.conn = some c → w.status c ≠ .open)
  | _, _, _ => False

variable {c : Nat} {s : Status}

theorem setStatus_open {c' : Nat} (other : s ≠ .open) (h : (w.setStatus c s).status c' = .open) :
    c' ≠ c ∧ w.status c' = .open := by
  by_cases same : c' = c
  · subst same
    simp [World.setStatus, other] at h
  · exact ⟨same, by simpa [World.setStatus, same] using h⟩

theorem Bounded.setStatus (h : Bounded w) (other : s ≠ .open) : Bounded (w.setStatus c s) :=
  ⟨fun c' now => h.opened c' (setStatus_open other now).2, h.installed⟩

theorem closerRelies_setStatus (other : s ≠ .open) : CloserRelies w (w.setStatus c s) :=
  ⟨le_refl _, rfl, rfl, id, id, fun _ => rfl, fun _ _ => rfl,
    fun _ _ now => (setStatus_open other now).2⟩

theorem loopRelies_setStatus (other : s ≠ .open) (closed : s = .closed → w.done = true) :
    LoopRelies w (w.setStatus c s) := by
  refine ⟨rfl, rfl, rfl, id, fun _ now => (setStatus_open other now).2, fun c' now => ?_⟩
  by_cases same : c' = c
  · subst same
    simp only [World.setStatus, Function.update_self] at now
    exact .inr (closed now)
  · exact .inl (by simpa [World.setStatus, same] using now)

theorem answer_connClose {x : Choice} {r : Option GoError}
    (h : answer (.connClose c) x w = some (r, w')) :
    w' = w.setStatus c .closed ∨ w.status c ≠ .open ∧ w' = w := by
  cases x with
  | proceed =>
    simp only [answer] at h
    split_ifs at h with opened
    · cases h
      exact .inl rfl
    · cases h
      exact .inr ⟨opened, rfl⟩
  | fails | hears | wakes => cases h

theorem answer_register {x : Choice} {r : Option Notify} (installed : w.conn = some c)
    (h : answer .register x w = some (r, w')) :
    r = some ⟨c, decide (w.status c = .open)⟩ ∧
      w' = { w with missed := w.missed || !decide (w.status c = .open) } := by
  cases x with
  | proceed =>
    simp only [answer] at h
    split_ifs at h
    split at h
    · next none => simp [installed] at none
    · next c' same =>
      cases Option.some.inj (installed.symm.trans same)
      cases h
      exact ⟨rfl, rfl⟩
  | fails | hears | wakes => cases h

def dialled (w : World) : World :=
  { w.setStatus w.dialled .open with dialled := w.dialled + 1 }

theorem dialled_open (h : (dialled w).status c = .open) : c = w.dialled ∨ w.status c = .open := by
  by_cases same : c = w.dialled
  · exact .inl same
  · exact .inr (by simpa [dialled, World.setStatus, same] using h)

theorem Bounded.dialled (h : Bounded w) : Bounded (dialled w) := by
  refine ⟨fun c now => ?_, fun c same => Nat.lt_succ_of_lt (h.installed c same)⟩
  rcases dialled_open now with rfl | before
  · exact Nat.lt_succ_self _
  · exact Nat.lt_succ_of_lt (h.opened c before)

theorem closerRelies_dialled (w : World) : CloserRelies w (dialled w) where
  dialled := Nat.le_succ _
  locked := rfl
  closing := rfl
  done := id
  late := id
  held _ := rfl
  conn _ _ := rfl
  opened _ known now := (dialled_open now).resolve_left (Nat.ne_of_lt known)

theorem Redialling.dialled (h : Redialling none w) :
    Redialling (some w.dialled) (dialled w) := by
  refine ⟨h.missed, h.installed, fun c now => ?_⟩
  rcases dialled_open now with rfl | before
  · rfl
  · cases h.only c before

end DxCommonGo.RabbitClientContract
