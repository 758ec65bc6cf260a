import DxCommonGo.GoChannels
import DxCommonGo.GoStrings
import DxCommonGo.Runs

/-! `AuditWorker`: requests offer events to a bounded queue, one goroutine drains it, and `Stop`
closes it and waits. The state records what was queued and emitted, and the Sends that panicked. -/

namespace DxCommonGo.AuditWorker
open GoStrings GoChannels Runs

/-- A timestamp is in nanoseconds. -/
structure AuditEvent where
  requestID : GoString
  userID : GoString
  action : GoString
  resource : GoString
  resourceID : GoString := []
  method : GoString
  path : GoString
  statusCode : Nat
  timestamp : Int
  deriving DecidableEq

inductive Drain where
  | ranging
  | emitting (event : AuditEvent)
  | done
  deriving DecidableEq

inductive Stop where
  | uncalled
  | waiting
  | returned
  deriving DecidableEq

structure World where
  events : Channel AuditEvent
  drain : Drain := .ranging
  stop : Stop := .uncalled
  placed : List AuditEvent := []
  emitted : List AuditEvent := []
  panicked : List AuditEvent := []

def newAuditWorker (queueSize : Int) : World :=
  { events := make (if queueSize ≤ 0 then 256 else queueSize.toNat) }

/-- The steps of the goroutines. An error that Emit returns is at most logged. -/
inductive Action where
  | send (event : AuditEvent)
  | receive
  | emit
  | leave
  | close
  | wait
  deriving DecidableEq

def step (w : World) : Action → Option World
  | .send event =>
    match w.events.offer event with
    | .panics => some { w with panicked := w.panicked ++ [event] }
    | .dropped => some w
    | .sent c => some { w with events := c, placed := w.placed ++ [event] }
  | .receive =>
    match w.drain, w.events.receive with
    | .ranging, .got event c => some { w with events := c, drain := .emitting event }
    | _, _ => none
  | .emit =>
    match w.drain with
    | .emitting event => some { w with drain := .ranging, emitted := w.emitted ++ [event] }
    | _ => none
  | .leave =>
    match w.drain, w.events.receive with
    | .ranging, .ended => some { w with drain := .done }
    | _, _ => none
  | .close =>
    match w.stop, w.events.close with
    | .uncalled, some c => some { w with events := c, stop := .waiting }
    | _, _ => none
  | .wait => if w.stop = .waiting ∧ w.drain = .done then some { w with stop := .returned } else none

inductive Transition (w : World) : Action → World → Prop where
  | panics {event : AuditEvent} : w.events.closed = true →
      Transition w (.send event) { w with panicked := w.panicked ++ [event] }
  | dropped {event : AuditEvent} : w.events.closed = false → Transition w (.send event) w
  | sent {event : AuditEvent} {c : Channel AuditEvent} : w.events.closed = false →
      c.closed = false → c.buffer = w.events.buffer ++ [event] →
      Transition w (.send event) { w with events := c, placed := w.placed ++ [event] }
  | receive {event : AuditEvent} {c : Channel AuditEvent} : w.drain = .ranging →
      w.events.buffer = event :: c.buffer → c.closed = w.events.closed →
      Transition w .receive { w with events := c, drain := .emitting event }
  | emit {event : AuditEvent} : w.drain = .emitting event →
      Transition w .emit { w with drain := .ranging, emitted := w.emitted ++ [event] }
  | leave : w.drain = .ranging → w.events.buffer = [] → w.events.closed = true →
      Transition w .leave { w with drain := .done }
  | close {c : Channel AuditEvent} : w.stop = .uncalled → w.events.closed = false →
      c.closed = true → c.buffer = w.events.buffer →
      Transition w .close { w with events := c, stop := .waiting }
  | wait : w.stop = .waiting → w.drain = .done → Transition w .wait { w with stop := .returned }

variable {w : World}

theorem step_transition {w' : World} {a : Action} (h : step w a = some w') : Transition w a w' := by
  cases a with
  | send event =>
    simp only [step] at h
    split at h
    · next panics =>
      cases h
      exact .panics (offer_panics.mp panics)
    · next dropped =>
      cases h
      refine .dropped ?_
      rw [← Bool.not_eq_true, ← offer_panics, dropped]
      simp
    · next c sent =>
      cases h
      obtain ⟨here, there, buffer⟩ := offer_sent sent
      exact .sent here there buffer
  | receive =>
    simp only [step] at h
    split at h
    · next event c ranging got =>
      cases h
      obtain ⟨buffer, closed⟩ := receive_got got
      exact .receive ranging buffer closed
    · cases h
  | emit =>
    simp only [step] at h
    split at h
    · next event emitting =>
      cases h
      exact .emit emitting
    · cases h
  | leave =>
    simp only [step] at h
    split at h
    · next ranging ended =>
      cases h
      obtain ⟨empty, closed⟩ := receive_ended ended
      exact .leave ranging empty closed
    · cases h
  | close =>
    simp only [step] at h
    split at h
    · next c uncalled closing =>
      cases h
      obtain ⟨here, there, buffer⟩ := close_eq_some closing
      exact .close uncalled here there buffer
    · cases h
  | wait =>
    simp only [step] at h
    split_ifs at h with waited
    cases h
    exact .wait waited.1 waited.2

def Drain.held : Drain → List AuditEvent
  | .emitting event => [event]
  | _ => []

/-- Nothing that was queued is lost, repeated or overtaken, only `Stop` closes the queue, and the
drain goroutine leaves it empty. -/
structure Sound (w : World) : Prop where
  order : w.emitted ++ w.drain.held ++ w.events.buffer = w.placed
  closed : w.events.closed = true ↔ w.stop ≠ .uncalled
  done : w.drain = .done → w.events.closed = true ∧ w.events.buffer = []
  returned : w.stop = .returned → w.drain = .done

theorem sound_new (queueSize : Int) : Sound (newAuditWorker queueSize) where
  order := rfl
  closed := by simp [newAuditWorker, make]
  done h := by cases h
  returned h := by cases h

theorem Sound.step {w w' : World} {a : Action} (h : Sound w) (hstep : step w a = some w') :
    Sound w' := by
  cases step_transition hstep with
  | panics closed => exact ⟨h.order, h.closed, h.done, h.returned⟩
  | dropped opened => exact h
  | sent opened opened' buffer =>
    refine ⟨?_, ?_, fun done => ?_, h.returned⟩
    · rw [buffer, ← List.append_assoc, h.order]
    · rw [opened', ← h.closed, opened]
    · rw [(h.done done).1] at opened
      cases opened
  | receive ranging buffer same =>
    refine ⟨?_, ?_, fun done => ?_, fun returned => ?_⟩
    · rw [← h.order, ranging, buffer]
      simp [Drain.held]
    · rw [same]
      exact h.closed
    · cases done
    · rw [h.returned returned] at ranging
      cases ranging
  | emit emitting =>
    refine ⟨?_, h.closed, fun done => ?_, fun returned => ?_⟩
    · rw [← h.order, emitting]
      simp [Drain.held]
    · cases done
    · rw [h.returned returned] at emitting
      cases emitting
  | leave ranging empty closed =>
    refine ⟨?_, h.closed, fun _ => ⟨closed, empty⟩, fun _ => rfl⟩
    rw [← h.order, ranging]
    rfl
  | close uncalled opened closed buffer =>
    refine ⟨?_, ?_, fun done => ?_, fun returned => ?_⟩
    · rw [buffer]
      exact h.order
    · simp [closed]
    · rw [(h.done done).1] at opened
      cases opened
    · cases returned
  | wait waiting done =>
    refine ⟨h.order, ?_, h.done, fun _ => done⟩
    have closed : w.events.closed = true := h.closed.mpr (by simp [waiting])
    simp [closed]

def late : Bool → List Action → List AuditEvent
  | _, [] => []
  | true, .send event :: as => event :: late true as
  | false, .send _ :: as => late false as
  | _, .close :: as => late true as
  | closed, _ :: as => late closed as

theorem run_panicked {as : List Action} {w' : World} (run : as.foldlM step w = some w') :
    w'.panicked = w.panicked ++ late w.events.closed as := by
  induction as generalizing w with
  | nil =>
    cases run
    simp [late]
  | cons a as ih =>
    rw [List.foldlM_cons] at run
    obtain ⟨next, hstep, run⟩ := Option.bind_eq_some_iff.mp run
    rw [ih run]
    cases step_transition hstep with
    | panics closed => simp [closed, late]
    | dropped opened => simp [opened, late]
    | sent opened opened' buffer => simp [opened, opened', late]
    | receive ranging buffer same => simp [same, late]
    | emit emitting => simp [late]
    | leave ranging empty closed => simp [late]
    | close uncalled opened closed buffer => simp [closed, late]
    | wait waiting done => simp [late]

theorem late_eq_nil {closed : Bool} {as : List Action} :
    late closed as = [] ↔
      ∀ before event after, as = before ++ .send event :: after →
        closed = false ∧ .close ∉ before := by
  induction as generalizing closed with
  | nil => simp [late]
  | cons a as ih =>
    have split : (∀ before event after, a :: as = before ++ .send event :: after →
        closed = false ∧ .close ∉ before) ↔
        (∀ event, a = .send event → closed = false) ∧
          ∀ before event after, as = before ++ .send event :: after →
            closed = false ∧ a ≠ .close ∧ .close ∉ before := by
      constructor
      · intro h
        refine ⟨fun event same => (h [] event as (by rw [same]; rfl)).1, ?_⟩
        intro before event after same
        have behind := h (a :: before) event after (by rw [same]; rfl)
        simpa [eq_comm] using behind
      · rintro ⟨here, behind⟩ before event after same
        cases before with
        | nil =>
          cases same
          exact ⟨here event rfl, List.not_mem_nil⟩
        | cons b before =>
          cases same
          simpa [eq_comm] using behind before event after rfl
    rw [split]
    cases a with
    | send event => cases closed <;> simp [late, ih]
    | close => cases closed <;> simp [late, ih]
    | _ => cases closed <;> simp [late, ih]

def Action.drains : Action → Bool
  | .receive | .emit | .leave => true
  | _ => false

def DrainsTo (w w' : World) : Prop :=
  ∃ as : List Action, as.all Action.drains = true ∧ as.foldlM step w = some w'

theorem DrainsTo.cons {u v w : World} {a : Action} (drains : a.drains = true)
    (first : step u a = some v) (rest : DrainsTo v w) : DrainsTo u w := by
  obtain ⟨as, all, run⟩ := rest
  refine ⟨a :: as, by simp [drains, all], ?_⟩
  rw [List.foldlM_cons, first]
  exact run

theorem drain_queue (h : Sound w) (ranging : w.drain = .ranging) :
    ∃ w', DrainsTo w w' ∧ w'.emitted = w.placed ∧ w'.events.buffer = [] ∧
      w'.events.closed = w.events.closed ∧ w'.drain = .ranging ∧ w'.stop = w.stop := by
  induction queue : w.events.buffer generalizing w with
  | nil =>
    refine ⟨w, ⟨[], rfl, rfl⟩, ?_, queue, rfl, ranging, rfl⟩
    rw [← h.order, ranging, queue]
    simp [Drain.held]
  | cons event rest ih =>
    obtain ⟨c, got, buffer⟩ := exists_receive queue
    have closed := (receive_got got).2
    have received : step w .receive = some { w with events := c, drain := .emitting event } := by
      simp only [step, ranging, got]
    have emitted : step { w with events := c, drain := .emitting event } .emit =
        some { w with events := c, drain := .ranging, emitted := w.emitted ++ [event] } := rfl
    obtain ⟨w', rest, all, empty, same, back, stop⟩ :=
      ih ((h.step received).step emitted) rfl buffer
    exact ⟨w', .cons rfl received (.cons rfl emitted rest), all, empty, same.trans closed, back,
      stop⟩

theorem drain_all (h : Sound w) :
    ∃ w', DrainsTo w w' ∧ w'.emitted = w.placed ∧ w'.stop = w.stop ∧
      (w.events.closed = true → w'.drain = .done) := by
  have ranging : ∀ u : World, Sound u → u.drain = .ranging →
      ∃ w', DrainsTo u w' ∧ w'.emitted = u.placed ∧ w'.stop = u.stop ∧
        (u.events.closed = true → w'.drain = .done) := by
    intro u hu here
    obtain ⟨v, drains, all, empty, same, back, stop⟩ := drain_queue hu here
    cases closed : u.events.closed with
    | false => exact ⟨v, drains, all, stop, fun h => by cases h⟩
    | true =>
      have ended : v.events.receive = .ended := receive_eq_ended empty (same.trans closed)
      have left : step v .leave = some { v with drain := .done } := by
        simp only [step, back, ended]
      obtain ⟨as, owned, run⟩ := drains
      refine ⟨{ v with drain := .done }, ⟨as ++ [.leave], by simp [owned, Action.drains], ?_⟩,
        all, stop, fun _ => rfl⟩
      rw [List.foldlM_append, run]
      change ([.leave] : List Action).foldlM step v = _
      rw [List.foldlM_cons, left]
      rfl
  cases position : w.drain with
  | ranging => exact ranging w h position
  | emitting event =>
    have emitted : step w .emit =
        some { w with drain := .ranging, emitted := w.emitted ++ [event] } := by
      simp only [step, position]
    obtain ⟨w', rest, all, stop, ends⟩ := ranging _ (h.step emitted) rfl
    exact ⟨w', .cons rfl emitted rest, all, stop, ends⟩
  | done =>
    refine ⟨w, ⟨[], rfl, rfl⟩, ?_, rfl, fun _ => position⟩
    rw [← h.order, position, (h.done position).2]
    simp [Drain.held]

/-- No Send has panicked, and what was queued is emitted once and in order, all of it when `Stop`
has returned. The drain goroutine can emit the rest by itself, and let `Stop` return. -/
structure Delivers (w : World) : Prop where
  calm : w.panicked = []
  order : w.emitted ++ w.drain.held ++ w.events.buffer = w.placed
  stopped : w.stop = .returned → w.emitted = w.placed
  drains : ∃ w', DrainsTo w w' ∧ w'.emitted = w.placed ∧
    (w.stop = .waiting → ∃ v, step w' .wait = some v ∧ v.stop = .returned)

theorem Sound.delivers (h : Sound w) (calm : w.panicked = []) : Delivers w where
  calm := calm
  order := h.order
  stopped returned := by
    have done := h.returned returned
    rw [← h.order, done, (h.done done).2]
    simp [Drain.held]
  drains := by
    obtain ⟨w', drains, all, stop, ends⟩ := drain_all h
    refine ⟨w', drains, all, fun waiting => ⟨{ w' with stop := .returned }, ?_, rfl⟩⟩
    have closed : w.events.closed = true := h.closed.mpr (by simp [waiting])
    simp [AuditWorker.step, stop, waiting, ends closed]

/-- In every interleaving the worker delivers, exactly if no Send comes behind the close. -/
theorem delivers_iff {queueSize : Int} {as : List Action} {w : World}
    (run : as.foldlM step (newAuditWorker queueSize) = some w) :
    Delivers w ↔ ∀ before event after, as = before ++ .send event :: after → .close ∉ before := by
  have sound : Sound w :=
    (always_of_invariant (fun _ _ _ hstep h => h.step hstep) (sound_new queueSize) as).last run
  have panicked : w.panicked = late false as := run_panicked run
  have calm : w.panicked = [] ↔
      ∀ before event after, as = before ++ .send event :: after → .close ∉ before := by
    rw [panicked, late_eq_nil]
    simp
  exact ⟨fun h => calm.mp h.calm, fun h => sound.delivers (calm.mpr h)⟩

def readEvent (request : String) : AuditEvent where
  requestID := str request
  userID := str "u1"
  action := str "read"
  resource := str "dataset"
  method := str "GET"
  path := str "/datasets"
  statusCode := 200
  timestamp := 0

def shutdown : List Action :=
  [.send (readEvent "a"), .send (readEvent "b"), .receive, .close, .emit, .leave, .wait]

theorem shutdown_delivers :
    ∃ w, shutdown.foldlM step (newAuditWorker 1) = some w ∧ w.emitted = [readEvent "a"] ∧
      w.stop = .returned ∧ Delivers w := by
  have run : ∃ w, shutdown.foldlM step (newAuditWorker 1) = some w ∧
      w.emitted = [readEvent "a"] ∧ w.stop = .returned := ⟨_, rfl, rfl, rfl⟩
  obtain ⟨w, run, emitted, stop⟩ := run
  refine ⟨w, run, emitted, stop, (delivers_iff run).mpr fun before event after same => ?_⟩
  have quiet : late false shutdown = [] := rfl
  exact (late_eq_nil.mp quiet before event after same).2

/-- A request that is still running when the worker is stopped. -/
theorem late_send_panics :
    ∃ w, [.close, .send (readEvent "a")].foldlM step (newAuditWorker 0) = some w ∧
      w.panicked = [readEvent "a"] ∧ w.placed = [] :=
  ⟨_, rfl, rfl, rfl⟩

end DxCommonGo.AuditWorker
