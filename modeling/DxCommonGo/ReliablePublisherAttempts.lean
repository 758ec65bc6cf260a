import DxCommonGo.ReliablePublisherContract

/-! One attempt of `Publish`: what a call knows of the connection it publishes on. -/

namespace DxCommonGo.ReliablePublisherAttempts
open AmqpBroker (errClosed errClosedValue)
open DxErrors RelyGuarantee ReliablePublisher
open ReliablePublisherContract

def contract : Contract Nat Op World := ⟨Orderly, Relies, fun _ _ _ => True⟩

def Untouched (i : Nat) (w : World) : Prop := ∀ c, .installed i c ∉ w.log

structure Fresh (i c : Nat) (w : World) : Prop where
  known : c < w.dialled
  mine : w.owner c = some i
  redialled : .redial i c ∈ w.log
  untouched : Untouched i w
  standing : w.isOpen c = true ∨ Before (.redial i c) (.lost c) w.log

structure Ready (cfg : PublisherConfig) (i c : Nat) (w : World) : Prop where
  known : c < w.dialled
  mine : w.owner c = some i
  redialled : .redial i c ∈ w.log
  installed : .installed i c ∈ w.log
  standing : Undisturbed cfg i w.log → w.conn = some c ∧ w.isOpen c = true

variable {cfg : PublisherConfig} {i : Nat} {w w' : World}

theorem Untouched.mono (h : Untouched i w) (relies : Relies i w w') : Untouched i w' :=
  fun c installed => h c (relies.installs c installed)

theorem Fresh.mono {c : Nat} (h : Fresh i c w) (relies : Relies i w w') : Fresh i c w' := by
  refine ⟨h.known.trans_le relies.dialled, (relies.owner c h.known).trans h.mine,
    relies.log.subset h.redialled, h.untouched.mono relies, ?_⟩
  rcases h.standing with opened | lost
  · rcases relies.own c h.known h.mine opened with still | lost | ⟨j, c', -, replaced⟩
    · exact .inl still
    · exact .inr (lost _ h.redialled)
    · exact absurd (relies.installs c replaced.mem) (h.untouched c)
  · exact .inr (lost.mono relies.log)

theorem Ready.mono {c : Nat} (h : Ready cfg i c w) (relies : Relies i w w') :
    Ready cfg i c w' := by
  refine ⟨h.known.trans_le relies.dialled, (relies.owner c h.known).trans h.mine,
    relies.log.subset h.redialled, relies.log.subset h.installed, fun undisturbed => ?_⟩
  obtain ⟨conn, opened⟩ := h.standing (undisturbed.of_prefix relies.log)
  -- Another call can replace or close the connection only by installing one of its own.
  constructor
  · rcases relies.conn with same | ⟨j, c', other, replaced⟩
    · exact same.trans conn
    · exact absurd (replaced _ h.installed) (undisturbed.alone c j c' other)
  · rcases relies.own c h.known h.mine opened with still | lost | ⟨j, c', other, replaced⟩
    · exact still
    · exact absurd (lost _ h.redialled) (undisturbed.noLoss c)
    · exact absurd replaced (undisturbed.alone c j c' other)

/-- What a call knows before an attempt: nothing is installed by it before the first
one, its own connection before the second. -/
def Stands (cfg : PublisherConfig) (i : Nat) : Option Nat → World → Prop
  | none => Untouched i
  | some c => Ready cfg i c

theorem Stands.mono {own : Option Nat} (h : Stands cfg i own w) (relies : Relies i w w') :
    Stands cfg i own w' := by
  cases own with
  | none => exact Untouched.mono h relies
  | some c => exact Ready.mono h relies

/-- An attempt has succeeded, or the call was disturbed, or its first attempt has
found the channel closed. -/
def Attempted (cfg : PublisherConfig) (i : Nat) (own : Option Nat) (err : Option GoError)
    (w : World) : Prop :=
  Stands cfg i own w ∧
    (err = none ∨ ¬Undisturbed cfg i w.log ∨ own = none ∧ err = some errClosed)

theorem not_undisturbed_mono (h : ¬Undisturbed cfg i w.log) (relies : Relies i w w') :
    ¬Undisturbed cfg i w'.log := fun undisturbed => h (undisturbed.of_prefix relies.log)

section Attempt

variable {own : Option Nat}

theorem safe_attempted {err : Option GoError} (h : Attempted cfg i own err w) :
    Safe env contract i (Attempted cfg i own) (pure err) w :=
  safe_pure h fun _ _ _ held relies =>
    ⟨held.1.mono relies, held.2.imp_right (Or.imp_left fun h => not_undisturbed_mono h relies)⟩

theorem allows (inv : Orderly w') (relies : ∀ j, j ≠ i → Relies j w w') :
    contract.Allows i w w' := ⟨inv, relies⟩

def Awaits (cfg : PublisherConfig) (i : Nat) (own : Option Nat) (ch : Nat) (w : World) : Prop :=
  Stands cfg i own w ∧ .published i ch ∈ w.log ∧
    (w.isOpen ch = true ∨ Before (.published i ch) (.lost ch) w.log ∨
      Before (.published i ch) (.closed ch) w.log)

theorem Awaits.mono {ch : Nat} (h : Awaits cfg i own ch w) (relies : Relies i w w') :
    Awaits cfg i own ch w' := by
  obtain ⟨stands, published, standing⟩ := h
  refine ⟨stands.mono relies, relies.log.subset published, ?_⟩
  rcases standing with opened | ended
  · exact (relies.drops ch opened).imp_right (Or.imp (fun lost => lost _ published)
      fun closed => closed _ published)
  · exact .inr (ended.imp (fun lost => lost.mono relies.log) fun closed => closed.mono relies.log)

theorem safe_waitConfirmed (confirms : cfg.confirms = true) {ch : Nat}
    (h : Awaits cfg i own ch w) :
    Safe env contract i (Attempted cfg i own) (waitConfirmed ch) w := by
  refine safe_perform_bind (Awaits cfg i own ch) h (fun _ _ _ held relies => held.mono relies)
    (fun _ _ _ => trivial) ?_
  intro w x r w' inv held reply
  cases x with
  | proceed => cases reply
  | acks =>
    cases reply
    exact ⟨allows inv fun j _ => .refl j w, safe_attempted ⟨held.1, .inl rfl⟩⟩
  | nacks =>
    simp only [env, answer] at reply
    split_ifs at reply with opened
    cases reply
    refine ⟨allows inv fun j _ => .refl j w, safe_attempted ⟨held.1, .inr (.inl ?_)⟩⟩
    intro undisturbed
    rcases held.2.2 with still | lost | closed
    · exact opened still
    · exact (undisturbed.kept confirms ch).1 lost
    · exact (undisturbed.kept confirms ch).2 closed
  | expires err =>
    cases reply
    refine ⟨allows (inv.record _) fun j _ => relies_record (by simp),
      safe_attempted ⟨held.1.mono (relies_record (by simp)), .inr (.inl fun undisturbed => ?_)⟩⟩
    exact undisturbed.unexpired (List.mem_append_right _ (List.mem_singleton_self _))

/-- The channel that an attempt has read is, in the second one, the call's own. -/
def Reads (cfg : PublisherConfig) (i : Nat) (own current : Option Nat) (w : World) : Prop :=
  Stands cfg i own w ∧ ∀ c, own = some c → Undisturbed cfg i w.log → current = some c

theorem Reads.mono {current : Option Nat} (h : Reads cfg i own current w)
    (relies : Relies i w w') : Reads cfg i own current w' :=
  ⟨h.1.mono relies, fun c same undisturbed => h.2 c same (undisturbed.of_prefix relies.log)⟩

theorem Reads.attempted_closed {current : Option Nat} (h : Reads cfg i own current w)
    (closed : ∀ c, current = some c → w.isOpen c = false) :
    Attempted cfg i own (some errClosed) w := by
  refine ⟨h.1, .inr ?_⟩
  match own, h with
  | none, _ => exact .inr ⟨rfl, rfl⟩
  | some c, ⟨ready, current⟩ =>
    refine .inl fun undisturbed => ?_
    have opened := (Ready.standing ready undisturbed).2
    simp [closed c (current c rfl undisturbed)] at opened

theorem safe_publish {m : Message} {ch : Nat} (h : Reads cfg i own (some ch) w) :
    Safe env contract i (Attempted cfg i own) (do
      let refused : Option GoError ← ask (.publish ch m)
      match refused with
      | some err => return some err
      | none => if cfg.confirms then waitConfirmed ch else return none) w := by
  refine safe_perform_bind (Reads cfg i own (some ch)) h
    (fun _ _ _ held relies => held.mono relies) (fun _ _ _ => trivial) ?_
  intro w x r w' inv held reply
  cases x with
  | acks | nacks | expires => cases reply
  | proceed =>
    cases reply
    cases opened : w.isOpen ch with
    | false =>
      simp only [World.onChannel, opened, Bool.false_eq_true, if_false]
      refine ⟨allows inv fun j _ => .refl j w, safe_attempted (held.attempted_closed ?_)⟩
      rintro c ⟨⟩
      exact opened
    | true =>
      simp only [World.onChannel, opened, if_true]
      have relies : ∀ j, Relies j w (w.record (.published i ch)) :=
        fun j => relies_record (by simp)
      refine ⟨allows (inv.record _) fun j _ => relies j, ?_⟩
      have stands := held.1.mono (relies i)
      split_ifs with confirms
      · refine safe_waitConfirmed confirms ⟨stands, ?_, .inl opened⟩
        exact List.mem_append_right _ (List.mem_singleton_self _)
      · exact safe_attempted ⟨stands, .inl rfl⟩

theorem safe_publishOnce (m : Message) (h : Stands cfg i own w) :
    Safe env contract i (Attempted cfg i own) (publishOnce cfg m) w := by
  refine safe_perform_bind (Stands cfg i own) h (fun _ _ _ held relies => held.mono relies)
    (fun _ _ _ => trivial) ?_
  intro w x r w' inv held reply
  cases x with
  | acks | nacks | expires => cases reply
  | proceed =>
    cases reply
    refine ⟨allows inv fun j _ => .refl j w, ?_⟩
    have reads : Reads cfg i own w.ch w := by
      refine ⟨held, fun c same undisturbed => ?_⟩
      subst same
      exact inv.fields.trans (Ready.standing held undisturbed).1
    cases current : w.ch with
    | none =>
      rw [current] at reads
      exact safe_attempted (reads.attempted_closed (by simp))
    | some ch =>
      rw [current] at reads
      exact safe_publish reads

end Attempt

end DxCommonGo.ReliablePublisherAttempts
