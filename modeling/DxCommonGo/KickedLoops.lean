import DxCommonGo.Outbox
import DxCommonGo.RelyGuarantee
import DxCommonGo.Scheduler
import Mathlib.Logic.Relation

/-! Kicks of a dispatcher. `Run` waits on the channel that `Dispatcher.Kick` offers to; a runner
that drains through `Job` waits on the job's channel, which `Runner.Kick` alone fills. -/

namespace DxCommonGo.KickedLoops
open GoStrings Programs Threads Runs RelyGuarantee Scheduler

inductive Chan where
  | ticker
  | dispatcher
  | job (name : GoString)
  deriving DecidableEq

abbrev Body := SchedProg Chan Wake

abbrev Jobs := List (RegisteredJob Chan)

def runTurn : Body := do
  match ← call (.select .dispatcher) with
  | .done => return .done
  | wake =>
    call (.enter .start)
    let _ ← call .leave
    return wake

def nextRunTurn : Wake → Option Body
  | .done => none
  | _ => some runTurn

def jobOf (d : Outbox.Dispatcher) (name : GoString) : Job where
  name := name
  every := d.interval

def registered (d : Outbox.Dispatcher) (name : GoString) (singleton : Bool) :
    RegisteredJob Chan where
  job := jobOf d name
  singleton := singleton
  kick := .job name

/-- Each channel may hold one value. Of the drains their number is kept, and how many rows were
committed when the last one began. -/
structure World where
  pending : Chan → Bool := fun _ => false
  cancelled : Bool := false
  rows : Nat := 0
  begun : Nat := 0
  seen : Nat := 0

def World.offer (w : World) (c : Chan) : World :=
  { w with pending := Function.update w.pending c true }

def World.receive (w : World) (c : Chan) : Option World :=
  if w.pending c then some { w with pending := Function.update w.pending c false } else none

inductive Event where
  | commit
  | kick
  | runnerKick (name : GoString)
  | tick
  | cancel

def act (jobs : Jobs) : Event → World → World
  | .commit, w => { w with rows := w.rows + 1 }
  | .kick, w => w.offer .dispatcher
  | .runnerKick name, w => (kickChannel jobs name).elim w w.offer
  | .tick, w => w.offer .ticker
  | .cancel, w => { w with cancelled := true }

abbrev Oracle := (op : Op Chan) → Reply op

/-- A select takes a case that is ready. A drain returns nothing; the job of a dispatcher has no
jitter. -/
def answer (op : Op Chan) (x : Oracle) (w : World) : Option (Reply op × World) :=
  match op with
  | .select k =>
    match x (.select k) with
    | .done => if w.cancelled then some (.done, w) else none
    | .tick => (w.receive .ticker).map (.tick, ·)
    | .kick => (w.receive k).map (.kick, ·)
  | .enter _ => some ((), { w with begun := w.begun + 1, seen := w.rows })
  | .leave => some (.returned none, w)
  | op => some (x op, w)

abbrev LoopEnv := Env Unit (Op Chan) Reply Wake Oracle Event World

def loopEnv (jobs : Jobs) (again : Wake → Option Body) : LoopEnv where
  answer _ := answer
  act e w := some (act jobs e w)
  again _ := again

abbrev State := System Unit (Op Chan) Reply Wake World

def startWith (p : Body) : State := ⟨fun _ => p, {}⟩

def Blocked (env : LoopEnv) (s : State) : Prop :=
  ∀ x, env.step s (.turn () x) = none

/-- Whatever happens around it, the loop gets to `P` in turns of its own, and it does not wait for
anything before. -/
inductive Comes (env : LoopEnv) (P : World → Prop) :
    State → Prop where
  | intro {s : State}
      (awake : ∀ (es : List Event) (t : State), (es.map Input.event).foldlM env.step s = some t →
        ¬P t.world → ¬Blocked env t)
      (turns : ∀ (es : List Event) (t : State) (x : Oracle) (u : State),
        (es.map Input.event).foldlM env.step s = some t → ¬P t.world →
        env.step t (.turn () x) = some u → Comes env P u) : Comes env P s

/-- A drain has begun, after `n` others, that sees the first `m` rows; or the loop is to end. -/
def Served (n m : Nat) (w : World) : Prop := w.cancelled = true ∨ n < w.begun ∧ m ≤ w.seen

def Honours (env : LoopEnv) (s : State) : Prop :=
  ∀ s', env.step s (.event .kick) = some s' →
    Comes env (Served s.world.begun s.world.rows) s'

section Loops

/-- The replies that are possible while the context is not done. -/
def Feasible : (op : Op Chan) → Reply op → Prop
  | .select _, r => r ≠ .done
  | .leave, r => r = .returned none
  | _, _ => True

def Starts (again : Bool) : Body → Prop
  | .ret _ => again = true
  | .call (.enter _) _ => True
  | .call (.select _) _ => False
  | .call op next => ∀ r, Feasible op r → Starts again (next r)
  | _ => False

/-- Wherever the loop waits it listens to `k`, and what it receives makes a drain begin just if
`prompt`. -/
def Listens (k : Chan) (again prompt : Bool) : Body → Prop
  | .ret wake => wake ≠ .done
  | .call (.select k') next => k' = k ∧ ∀ wake, wake ≠ .done →
      Listens k again prompt (next wake) ∧ (Starts again (next wake) ↔ prompt = true)
  | .call op next => ∀ r, Feasible op r → Listens k again prompt (next r)
  | _ => False

def Plain : Op Chan → Prop
  | .select _ => False
  | .enter _ => False
  | _ => True

theorem op_cases (op : Op Chan) :
    (∃ k, op = .select k) ∨ (∃ ctx, op = .enter ctx) ∨ Plain op := by
  cases op <;> simp [Plain]

variable {k : Chan} {again prompt : Bool} {op : Op Chan} {next : Reply op → Body}
  {w w' : World} {r : Reply op}

theorem starts_plain (plain : Plain op) :
    Starts again (.call op next) ↔ ∀ r, Feasible op r → Starts again (next r) := by
  cases op <;> cases plain <;> rfl

theorem listens_plain (plain : Plain op) :
    Listens k again prompt (.call op next) ↔
      ∀ r, Feasible op r → Listens k again prompt (next r) := by
  cases op <;> cases plain <;> rfl

open Classical in
theorem exists_answer_plain (plain : Plain op) (feasible : Feasible op r) (x : Oracle) (w : World) :
    answer op (Function.update x op r) w = some (r, w) := by
  cases op with
  | select k => cases plain
  | enter ctx => cases plain
  | leave =>
    cases feasible
    rfl
  | _ => simp [answer]

end Loops

def choosing (wake : Wake) : Oracle
  | .jitter _ => true
  | .acquire _ => .ok 0
  | .tryLock _ _ _ => .ok true
  | .enter _ => ()
  | .leave => .returned none
  | .unlock _ _ _ => none
  | .release _ => ()
  | .count _ => ()
  | .select _ => wake

structure Loop (k : Chan) (again prompt : Bool) (next : Wake → Option Body) :
    Prop where
  goesOn : ∀ wake, wake ≠ .done → ∃ p, next wake = some p
  listens : ∀ wake p, next wake = some p → Listens k again prompt p
  starts : ∀ wake p, next wake = some p → again = true → Starts false p
  idle : ∀ wake p, next wake = some p → again = false → ¬Starts true p
  waits : ∀ wake p, next wake = some p → prompt = true →
    Starts false p ∨ ∃ cont, p = .call (.select k) cont

section Steps

variable {jobs : Jobs} {next : Wake → Option Body}

inductive Move (next : Wake → Option Body) :
    Body → World → State → Prop where
  | resumed {wake : Wake} {p : Body} {w : World} :
      next wake = some p → Move next (.ret wake) w ⟨fun _ => p, w⟩
  | ended {k : Chan} {cont : Wake → Body} {w : World} :
      w.cancelled = true → Move next (.call (.select k) cont) w ⟨fun _ => cont .done, w⟩
  | woken {k c : Chan} {cont : Wake → Body} {wake : Wake} {w : World} :
      wake ≠ .done → Move next (.call (.select k) cont) w
        ⟨fun _ => cont wake, { w with pending := Function.update w.pending c false }⟩
  | entered {ctx : Context} {cont : Unit → Body} {w : World} :
      Move next (.call (.enter ctx) cont) w
        ⟨fun _ => cont (), { w with begun := w.begun + 1, seen := w.rows }⟩
  | plain {op : Op Chan} {cont : Reply op → Body} {r : Reply op} {w : World} :
      Plain op → Feasible op r → Move next (.call op cont) w ⟨fun _ => cont r, w⟩

theorem receive_eq_some {w w' : World} {c : Chan} (h : w.receive c = some w') :
    w' = { w with pending := Function.update w.pending c false } := by
  unfold World.receive at h
  split at h
  · exact (Option.some.inj h).symm
  · cases h

theorem only (threads : Unit → Body) (i : Unit) (p : Body) :
    Function.update threads i p = fun _ => p := by
  funext j
  simp

theorem turn_move {s u : State} {i : Unit} {x : Oracle}
    (h : (loopEnv jobs next).step s (.turn i x) = some u) :
    Move next (s.threads ()) s.world u := by
  cases step_transition h with
  | resumed same resumes =>
    rw [only, show s.threads () = _ from same]
    exact .resumed resumes
  | @answered _ _ op cont r w same answered =>
    rw [only, show s.threads () = _ from same]
    cases op with
    | select k =>
      simp only [loopEnv, answer] at answered
      split at answered
      · split at answered
        · next cancelled =>
          cases answered
          exact .ended cancelled
        · cases answered
      all_goals
        obtain ⟨_, received, ⟨⟩⟩ := Option.map_eq_some_iff.mp answered
        rw [receive_eq_some received]
        exact .woken (by decide)
    | enter ctx =>
      cases answered
      exact .entered
    | _ =>
      cases answered
      exact .plain trivial (by trivial)

theorem act_spec (jobs : Jobs) (e : Event) (w : World) :
    (w.cancelled = true → (act jobs e w).cancelled = true) ∧ w.rows ≤ (act jobs e w).rows ∧
      (act jobs e w).begun = w.begun ∧ (act jobs e w).seen = w.seen ∧
      ∀ c, w.pending c = true → (act jobs e w).pending c = true := by
  have offer : ∀ c c', w.pending c = true → (w.offer c').pending c = true := by
    intro c c' pending
    by_cases same : c = c' <;> simp [World.offer, same, pending]
  cases e with
  | commit => exact ⟨id, Nat.le_succ _, rfl, rfl, fun _ => id⟩
  | kick => exact ⟨id, le_rfl, rfl, rfl, fun c => offer c _⟩
  | runnerKick name =>
    rw [act]
    cases kickChannel jobs name with
    | none => exact ⟨id, le_rfl, rfl, rfl, fun _ => id⟩
    | some k => exact ⟨id, le_rfl, rfl, rfl, fun c => offer c _⟩
  | tick => exact ⟨id, le_rfl, rfl, rfl, fun c => offer c _⟩
  | cancel => exact ⟨fun _ => rfl, le_rfl, rfl, rfl, fun _ => id⟩

theorem blocked_call {t : State} {op : Op Chan} {cont : Reply op → Body}
    (same : t.threads () = .call op cont) :
    Blocked (loopEnv jobs next) t ↔ ∀ x, answer op x t.world = none := by
  refine forall_congr' fun x => ?_
  rw [Env.step, same]
  exact Option.map_eq_none_iff

theorem comes_of_turns {P : World → Prop} (I : World → Prop)
    (stable : ∀ e w, I w → I (act jobs e w)) {p : Body} {w : World} (start : I w)
    (awake : ∀ w, I w → ¬P w → ¬Blocked (loopEnv jobs next) ⟨fun _ => p, w⟩)
    (turns : ∀ w u, I w → ¬P w → Move next p w u → Comes (loopEnv jobs next) P u) :
    Comes (loopEnv jobs next) P ⟨fun _ => p, w⟩ := by
  have around : ∀ (es : List Event) (t : State), (es.map Input.event).foldlM
      (loopEnv jobs next).step ⟨fun _ => p, w⟩ = some t → t.threads = (fun _ => p) ∧ I t.world := by
    intro es
    induction es generalizing w with
    | nil =>
      rintro t ⟨⟩
      exact ⟨rfl, start⟩
    | cons e es ih => exact ih (stable e w start)
  refine .intro (fun es t run => ?_) fun es t x u run outside step => ?_
  · obtain ⟨threads, w⟩ := t
    obtain ⟨rfl, kept⟩ := around es _ run
    exact awake w kept
  · obtain ⟨same, kept⟩ := around es t run
    have move := turn_move step
    rw [same] at move
    exact turns _ u kept outside move

end Steps

section Honoured

variable {jobs : Jobs} {k : Chan} {again prompt : Bool}
  {next : Wake → Option Body} {n m : Nat} {p : Body} {w : World}

def Since (n m : Nat) (w : World) : Prop := n ≤ w.begun ∧ m ≤ w.rows

def Pending (k : Chan) (w : World) : Prop := w.pending .ticker = true ∨ w.pending k = true

theorem since_act (e : Event) (w : World) (since : Since n m w) : Since n m (act jobs e w) := by
  obtain ⟨-, rows, begun, -⟩ := act_spec jobs e w
  exact ⟨since.1.trans begun.ge, since.2.trans rows⟩

theorem comes_of_served (served : Served n m w) :
    Comes (loopEnv jobs next) (Served n m) ⟨fun _ => p, w⟩ := by
  refine comes_of_turns (Served n m) ?_ served (fun w in' out => absurd in' out)
    fun w u in' out => absurd in' out
  intro e w served
  obtain ⟨cancelled, -, begun, seen, -⟩ := act_spec jobs e w
  rw [Served, begun, seen]
  exact served.imp_left cancelled

variable (loop : Loop k again prompt next)
include loop

theorem not_blocked (listens : Listens k again prompt p)
    (ready : ∀ cont, p = .call (.select k) cont → Pending k w) :
    ¬Blocked (loopEnv jobs next) ⟨fun _ => p, w⟩ := by
  intro blocked
  cases p with
  | ret wake =>
    obtain ⟨p, resumes⟩ := loop.goesOn wake listens
    simpa [Env.step, loopEnv, resumes] using blocked (choosing .kick)
  | panic => exact listens
  | goexit => exact listens
  | call op cont =>
    have waits := (blocked_call rfl).mp blocked
    cases op with
    | select k' =>
      obtain rfl := listens.1
      obtain pending | pending := ready cont rfl
      · simpa [answer, choosing, World.receive, pending] using waits (choosing .tick)
      · simpa [answer, choosing, World.receive, pending] using waits (choosing .kick)
    | _ => simpa [answer] using waits (choosing .kick)

/-- By induction on what is left of the turn; the one that follows it is left to `resumed`. -/
theorem comes_of_starts {b : Bool} (resumed : ∀ wake p w, b = true → next wake = some p →
      Since n m w → Comes (loopEnv jobs next) (Served n m) ⟨fun _ => p, w⟩)
    (listens : Listens k again prompt p) (starts : Starts b p) (since : Since n m w) :
    Comes (loopEnv jobs next) (Served n m) ⟨fun _ => p, w⟩ := by
  induction p generalizing w with
  | panic => cases listens
  | goexit => cases listens
  | ret wake =>
    refine comes_of_turns (Since n m) since_act since
      (fun w _ _ => not_blocked loop listens (by simp)) fun w u since _ move => ?_
    cases move with
    | resumed resumes => exact resumed _ _ w starts resumes since
  | call op cont ih =>
    refine comes_of_turns (Since n m) since_act since
      (fun w _ _ => not_blocked loop listens ?_) fun w u since _ move => ?_
    · rintro _ ⟨⟩
      cases starts
    · cases move with
      | ended => cases starts
      | woken => cases starts
      | entered => exact comes_of_served (.inr ⟨Nat.lt_succ_of_le since.1, since.2⟩)
      | plain plain feasible =>
        exact ih _ ((listens_plain plain).mp listens _ feasible)
          ((starts_plain plain).mp starts _ feasible) since

theorem comes_of_starts_now (listens : Listens k again prompt p) (starts : Starts false p)
    (since : Since n m w) : Comes (loopEnv jobs next) (Served n m) ⟨fun _ => p, w⟩ :=
  comes_of_starts loop (fun _ _ _ off => by cases off) listens starts since

theorem comes_of_starts_again (listens : Listens k again prompt p) (starts : Starts again p)
    (since : Since n m w) : Comes (loopEnv jobs next) (Served n m) ⟨fun _ => p, w⟩ := by
  refine comes_of_starts loop (fun wake p w on resumes since => ?_) listens starts since
  exact comes_of_starts_now loop (loop.listens _ _ resumes) (loop.starts _ _ resumes on) since

omit loop in
theorem pending_act (e : Event) (w : World) (h : Since n m w ∧ Pending k w) :
    Since n m (act jobs e w) ∧ Pending k (act jobs e w) := by
  obtain ⟨-, -, -, -, pending⟩ := act_spec jobs e w
  exact ⟨since_act e w h.1, h.2.imp (pending _) (pending _)⟩

theorem comes_select (prompts : prompt = true) {cont : Wake → Body}
    (listens : Listens k again prompt (.call (.select k) cont))
    (ready : Since n m w ∧ Pending k w) :
    Comes (loopEnv jobs next) (Served n m) ⟨fun _ => .call (.select k) cont, w⟩ := by
  refine comes_of_turns (fun w => Since n m w ∧ Pending k w) pending_act ready
    (fun w ready _ => not_blocked loop listens fun _ _ => ready.2) fun w u ready _ move => ?_
  cases move with
  | ended cancelled => exact comes_of_served (.inl cancelled)
  | woken woken =>
    obtain ⟨listens, starts⟩ := listens.2 _ woken
    exact comes_of_starts_again loop listens (starts.mpr prompts) ready.1
  | plain plain => cases plain

theorem comes_of_pending (prompts : prompt = true) (listens : Listens k again prompt p)
    (ready : Since n m w ∧ Pending k w) :
    Comes (loopEnv jobs next) (Served n m) ⟨fun _ => p, w⟩ := by
  induction p generalizing w with
  | panic => cases listens
  | goexit => cases listens
  | ret wake =>
    refine comes_of_turns (fun w => Since n m w ∧ Pending k w) pending_act ready
      (fun w ready _ => not_blocked loop listens (by simp)) fun w u ready _ move => ?_
    cases move with
    | resumed resumes =>
      obtain starts | ⟨cont, rfl⟩ := loop.waits _ _ resumes prompts
      · exact comes_of_starts_now loop (loop.listens _ _ resumes) starts ready.1
      · exact comes_select loop prompts (loop.listens _ _ resumes) ready
  | call op cont ih =>
    rcases op_cases op with ⟨k', rfl⟩ | other
    · obtain rfl := listens.1
      exact comes_select loop prompts listens ready
    refine comes_of_turns (fun w => Since n m w ∧ Pending k w) pending_act ready
      (fun w ready _ => not_blocked loop listens fun _ _ => ready.2) fun w u ready _ move => ?_
    cases move with
    | ended cancelled => exact comes_of_served (.inl cancelled)
    | woken => simp [Plain] at other
    | entered => exact comes_of_served (.inr ⟨Nat.lt_succ_of_le ready.1.1, ready.1.2⟩)
    | plain plain feasible => exact ih _ ((listens_plain plain).mp listens _ feasible) ready

end Honoured

section Ignored

variable {jobs : Jobs} {k : Chan} {again prompt : Bool}
  {next : Wake → Option Body} {P : World → Prop} {p : Body}
  {w : World}

def Passes (env : LoopEnv) (P : World → Prop)
    (s t : State) : Prop :=
  ¬P s.world ∧ ∃ x, env.step s (.turn () x) = some t

abbrev Path (jobs : Jobs) (next : Wake → Option Body)
    (P : World → Prop) (p : Body) (w : World) (p' : Body)
    (w' : World) : Prop :=
  Relation.ReflTransGen (Passes (loopEnv jobs next) P) ⟨fun _ => p, w⟩ ⟨fun _ => p', w'⟩

theorem Comes.along {env : LoopEnv} {s t : State}
    (h : Comes env P s) (path : Relation.ReflTransGen (Passes env P) s t) : Comes env P t := by
  induction path with
  | refl => exact h
  | tail _ passes ih =>
    obtain ⟨outside, x, step⟩ := passes
    cases ih with
    | intro awake turns => exact turns [] _ x _ rfl outside step

theorem path_call {op : Op Chan} {cont : Reply op → Body} {x : Oracle}
    {w' : World} {r : Reply op} (outside : ¬P w) (answered : answer op x w = some (r, w')) :
    Path jobs next P (.call op cont) w (cont r) w' :=
  .single ⟨outside, x, by simp [Env.step, loopEnv, answered, only]⟩

variable (loop : Loop k again prompt next)

theorem exists_waiting {b : Bool} (outside : ¬P w) (listens : Listens k again prompt p)
    (idle : ¬Starts b p) :
    ∃ p', Path jobs next P p w p' w ∧ Listens k again prompt p' ∧
      ((∃ cont, p' = .call (.select k) cont) ∨ b = false ∧ ∃ wake, p' = .ret wake) := by
  induction p with
  | ret wake => exact ⟨_, .refl, listens, .inr ⟨by simpa [Starts] using idle, wake, rfl⟩⟩
  | panic => cases listens
  | goexit => cases listens
  | call op cont ih =>
    rcases op_cases op with ⟨k', rfl⟩ | ⟨ctx, rfl⟩ | plain
    · obtain rfl := listens.1
      exact ⟨_, .refl, listens, .inl ⟨cont, rfl⟩⟩
    · exact absurd trivial idle
    · rw [starts_plain plain] at idle
      push Not at idle
      obtain ⟨r, feasible, idle⟩ := idle
      obtain ⟨p', path, rest⟩ := ih r ((listens_plain plain).mp listens r feasible) idle
      have answered := exists_answer_plain plain feasible (choosing .done) w
      exact ⟨p', (path_call outside answered).trans path, rest⟩

include loop

theorem exists_select (outside : ¬P w) (listens : Listens k again prompt p)
    (idle : ¬Starts again p) :
    ∃ cont, Path jobs next P p w (.call (.select k) cont) w ∧
      Listens k again prompt (.call (.select k) cont) := by
  obtain ⟨_, path, listens', ⟨cont, rfl⟩ | ⟨off, wake, rfl⟩⟩ :=
    exists_waiting outside listens idle
  · exact ⟨cont, path, listens'⟩
  · -- the turn that follows gets to its wait without a drain
    obtain ⟨q, resumes⟩ := loop.goesOn wake listens'
    obtain ⟨_, path', listens'', ⟨cont, rfl⟩ | ⟨⟨⟩, -⟩⟩ := exists_waiting outside
      (loop.listens _ _ resumes) (loop.idle _ _ resumes off)
    have turn : Path jobs next P (.ret wake) w q w :=
      .single ⟨outside, choosing .done, by simp [Env.step, loopEnv, resumes, only]⟩
    exact ⟨cont, (path.trans turn).trans path', listens''⟩

theorem exists_received (jobs : Jobs) (silent : prompt = false) {c : Chan}
    (outside : ¬P w) (listens : Listens k again prompt p) (idle : ¬Starts again p) (wake : Wake)
    (woken : wake ≠ .done)
    (answers : answer (.select k) (choosing wake) w = (w.receive c).map (wake, ·)) :
    ∃ p', Path jobs next P p w p' { w with pending := Function.update w.pending c false } ∧
      Listens k again prompt p' ∧ ¬Starts again p' := by
  cases pending : w.pending c with
  | false =>
    rw [← pending, Function.update_eq_self]
    exact ⟨p, .refl, listens, idle⟩
  | true =>
    obtain ⟨cont, path, -, listens⟩ := exists_select loop outside listens idle
    rw [World.receive, if_pos pending] at answers
    refine ⟨cont wake, path.trans (path_call outside answers), (listens wake woken).1, ?_⟩
    rw [(listens wake woken).2, silent]
    decide

/-- A loop that has nothing to start a drain for can get to its wait and find nothing there. -/
theorem not_comes {n m : Nat} (running : w.cancelled = false) (begun : w.begun = n)
    (listens : Listens k again prompt p) (idle : ¬Starts again p)
    (empty : prompt = true → ¬Pending k w) :
    ¬Comes (loopEnv jobs next) (Served n m) ⟨fun _ => p, w⟩ := by
  have outside : ¬Served n m w := by simp [Served, running, begun]
  obtain ⟨p', w', path, listens, idle, outside', running', empty'⟩ : ∃ p' w',
      Path jobs next (Served n m) p w p' w' ∧ Listens k again prompt p' ∧ ¬Starts again p' ∧
      ¬Served n m w' ∧ w'.cancelled = false ∧ ¬Pending k w' := by
    cases silent : prompt with
    | true => exact ⟨p, w, .refl, silent ▸ listens, idle, outside, running, empty silent⟩
    | false =>
      obtain ⟨q, path, listens, idle⟩ :=
        exists_received loop jobs silent outside listens idle .tick (by decide) rfl
      obtain ⟨q', path', listens, idle⟩ := exists_received (P := Served n m) loop jobs silent
        (w := { w with pending := Function.update w.pending .ticker false }) outside listens idle
        .kick (by decide) rfl
      refine ⟨q', _, path.trans path', silent ▸ listens, idle, outside, running, ?_⟩
      by_cases own : Chan.ticker = k <;> simp [Pending, own]
  obtain ⟨cont, path', -⟩ := exists_select loop outside' listens idle
  intro comes
  cases comes.along (path.trans path') with
  | intro awake _ =>
    refine awake [] _ rfl outside' ((blocked_call rfl).mpr fun x => ?_)
    simp only [Pending, not_or, Bool.not_eq_true] at empty'
    simp only [answer]
    split <;> simp [running', World.receive, empty']

end Ignored

section EntryPoints

theorem loop_run : Loop .dispatcher false true nextRunTurn where
  goesOn wake woken := by cases wake <;> first | exact ⟨_, rfl⟩ | cases woken rfl
  listens wake p h := by
    have listens : Listens .dispatcher false true runTurn := by
      refine ⟨rfl, fun wake woken => ?_⟩
      cases wake with
      | done => cases woken rfl
      | tick => exact ⟨fun _ _ _ _ => woken, fun _ => rfl, fun _ => trivial⟩
      | kick => exact ⟨fun _ _ _ _ => woken, fun _ => rfl, fun _ => trivial⟩
    cases wake <;> cases h <;> exact listens
  starts _ _ _ off := by cases off
  idle wake p h _ := by cases wake <;> cases h <;> exact id
  waits wake p h _ := by cases wake <;> cases h <;> exact .inr ⟨_, rfl⟩

variable (d : Outbox.Dispatcher) (name : GoString) (singleton : Bool)

theorem listens_turn :
    Listens (.job name) (!singleton) (!singleton) (turn (registered d name singleton)) := by
  have waits : Listens (.job name) (!singleton) (!singleton)
      (.call (.select (.job name)) .ret) := ⟨rfl, fun _ woken => ⟨woken, Iff.rfl⟩⟩
  cases singleton with
  | false =>
    rintro _ - _ ⟨⟩ _ - _ -
    exact waits
  | true =>
    rintro (err | conn) -
    · exact waits
    rintro (err | granted) -
    · exact fun _ _ => waits
    cases granted with
    | false => exact fun _ _ _ _ => waits
    | true =>
      rintro _ - _ ⟨⟩ _ - _ - _ - _ -
      exact waits

theorem loop_job :
    Loop (.job name) (!singleton) (!singleton) (nextTurn (registered d name singleton)) where
  goesOn wake woken := by cases wake <;> first | exact ⟨_, rfl⟩ | cases woken rfl
  listens wake p h := by cases wake <;> cases h <;> exact listens_turn d name singleton
  starts wake p h on := by
    cases singleton with
    | false => cases wake <;> cases h <;> trivial
    | true => cases on
  idle wake p h off starts := by
    cases singleton with
    | false => cases off
    | true =>
      -- no connection is to be had, so the turn is skipped
      cases wake <;> cases h <;> exact starts (.error (DxErrors.errorsNew [])) trivial
  waits wake p h on := by
    cases singleton with
    | false => cases wake <;> cases h <;> exact .inl trivial
    | true => cases on

def Attentive (k : Chan) (again prompt : Bool) (s : State) : Prop :=
  s.world.cancelled = true ∨ Listens k again prompt (s.threads ())

theorem attentive_step {jobs : Jobs} {k : Chan} {again prompt : Bool}
    {next : Wake → Option Body} (loop : Loop k again prompt next) {s t : State}
    {a : Input Unit Oracle Event} (h : (loopEnv jobs next).step s a = some t)
    (attentive : Attentive k again prompt s) : Attentive k again prompt t := by
  cases a with
  | event e =>
    cases h
    exact attentive.imp_left (act_spec jobs e _).1
  | turn i x =>
    have move := turn_move h
    unfold Attentive at attentive
    generalize s.threads () = p at attentive move
    cases move with
    | resumed resumes => exact .inr (loop.listens _ _ resumes)
    | ended cancelled => exact .inl cancelled
    | woken woken => exact attentive.imp_right fun listens => (listens.2 _ woken).1
    | entered => exact attentive.imp_right fun listens => listens () trivial
    | plain plain feasible =>
      exact attentive.imp_right fun listens => (listens_plain plain).mp listens _ feasible

theorem honours_iff {jobs : Jobs} {next : Wake → Option Body} {s : State} :
    Honours (loopEnv jobs next) s ↔
      Comes (loopEnv jobs next) (Served s.world.begun s.world.rows)
        ⟨fun _ => s.threads (), s.world.offer .dispatcher⟩ := by
  refine ⟨fun honours => honours _ rfl, fun comes s' kicked => ?_⟩
  cases kicked
  exact comes

def Prompt (s : State) : Prop :=
  s.world.cancelled = true ∨ Starts (!singleton) (s.threads ()) ∨
    singleton = false ∧ (s.world.pending .ticker = true ∨ s.world.pending (.job name) = true)

/-- Driven by `Run`, every kick is honoured. Driven by a runner, one is honoured just if a drain is
to begin anyway. -/
theorem kick_honoured_iff (jobs : Jobs) (s : State)
    (inputs : List (Input Unit Oracle Event)) :
    (inputs.foldlM (loopEnv jobs nextRunTurn).step (startWith runTurn) = some s →
      Honours (loopEnv jobs nextRunTurn) s) ∧
    (inputs.foldlM (loopEnv jobs (nextTurn (registered d name singleton))).step
        (startWith (runLoop (registered d name singleton))) = some s →
      (Honours (loopEnv jobs (nextTurn (registered d name singleton))) s ↔
        Prompt name singleton s)) := by
  constructor
  · intro run
    have attentive := (always_of_invariant (fun _ _ _ => attentive_step loop_run)
      (.inr (loop_run.listens .tick _ rfl)) inputs).last run
    rw [honours_iff]
    rcases attentive with cancelled | listens
    · exact comes_of_served (.inl cancelled)
    · refine comes_of_pending loop_run rfl listens ⟨⟨le_rfl, le_rfl⟩, .inr ?_⟩
      simp [World.offer]
  · intro run
    have loop := loop_job d name singleton
    have attentive := (always_of_invariant (fun _ _ _ => attentive_step loop)
      (.inr (loop.listens .tick _ rfl)) inputs).last run
    have pending : Pending (.job name) (s.world.offer .dispatcher) ↔
        Pending (.job name) s.world := by simp [Pending, World.offer]
    rw [honours_iff]
    constructor
    · intro comes
      by_contra late
      obtain ⟨running, idle, empty⟩ : _ ∧ _ ∧ _ := by simpa only [Prompt, not_or] using late
      have live : (s.world.offer .dispatcher).cancelled = false := Bool.not_eq_true _ ▸ running
      refine not_comes loop live rfl (attentive.resolve_left running) idle
        (fun prompts pend => ?_) comes
      exact empty ⟨by simpa using prompts, pending.mp pend⟩
    · intro prompt
      rcases attentive with cancelled | listens
      · exact comes_of_served (.inl cancelled)
      rcases prompt with cancelled | starts | ⟨rfl, pend⟩
      · exact comes_of_served (.inl cancelled)
      · exact comes_of_starts_again loop listens starts ⟨le_rfl, le_rfl⟩
      · exact comes_of_pending loop rfl listens ⟨⟨le_rfl, le_rfl⟩, pending.mpr pend⟩

end EntryPoints

def outboxJob : RegisteredJob Chan := registered {} (str "acl-outbox-dispatch") false

def firstDrain : List (Input Unit Oracle Event) := List.replicate 4 (.turn () (choosing .kick))

theorem kick_unheard : ∃ s t,
    (firstDrain ++ [Input.event Event.commit]).foldlM
      (loopEnv [outboxJob] (nextTurn outboxJob)).step (startWith (runLoop outboxJob)) = some s ∧
    (loopEnv [outboxJob] (nextTurn outboxJob)).step s (.event .kick) = some t ∧
    Blocked (loopEnv [outboxJob] (nextTurn outboxJob)) t ∧ t.world.seen < t.world.rows ∧
    ¬Honours (loopEnv [outboxJob] (nextTurn outboxJob)) s := by
  have blocked : Blocked (loopEnv [outboxJob] (nextTurn outboxJob))
      ⟨fun _ => .call (.select outboxJob.kick) .ret,
        { pending := Function.update (fun _ => false) .dispatcher true
          rows := 1
          begun := 1 }⟩ := by
    refine (blocked_call rfl).mpr fun x => ?_
    simp only [answer]
    split <;> simp [World.receive, outboxJob, registered]
  refine ⟨⟨fun _ => .call (.select outboxJob.kick) .ret, { rows := 1, begun := 1 }⟩, _, rfl, rfl,
    blocked, by decide, fun honours => ?_⟩
  cases honours _ rfl with
  | intro awake _ => exact awake [] _ rfl (by simp [Served, act, World.offer]) blocked

theorem kick_honoured_pending :
    Honours (loopEnv [] nextRunTurn) (startWith runTurn) ∧
    ∃ s, (firstDrain ++ [Input.event Event.tick]).foldlM
        (loopEnv [outboxJob] (nextTurn outboxJob)).step (startWith (runLoop outboxJob)) = some s ∧
      Honours (loopEnv [outboxJob] (nextTurn outboxJob)) s :=
  ⟨(kick_honoured_iff {} [] false [] _ []).1 rfl, _, rfl,
    ((kick_honoured_iff {} (str "acl-outbox-dispatch") false [outboxJob] _
      (firstDrain ++ [Input.event Event.tick])).2 rfl).mpr (.inr (.inr ⟨rfl, .inl rfl⟩))⟩

end DxCommonGo.KickedLoops
