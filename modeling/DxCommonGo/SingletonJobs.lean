import DxCommonGo.RelyGuarantee
import DxCommonGo.Scheduler
import DxCommonGo.SessionLocks

/-! Replicas that run singleton jobs on one database. The lock of a run belongs to the session of
its connection. -/

namespace DxCommonGo.SingletonJobs
open GoStrings DxErrors Programs Threads Runs RelyGuarantee Scheduler SessionLocks

variable {ι κ : Type} [DecidableEq ι]

inductive Step where
  | acquired (conn : Nat)
  | unconnected
  | granted (conn : Nat)
  | refused (conn : Nat)
  | unanswered (conn : Nat)
  | entered
  | left (ending : JobEnd)
  | unlocked (conn : Nat)
  | released (conn : Nat)

inductive Holder (ι : Type) where
  | run (i : ι)
  | service
  deriving DecidableEq

structure World (ι : Type) where
  holder : Nat → Option (Holder ι)
  locks : Locks Nat Int
  journal : ι → List Step

namespace World

def note (w : World ι) (i : ι) (step : Step) : World ι :=
  { w with journal := Function.update w.journal i (w.journal i ++ [step]) }

def hand (w : World ι) (conn : Nat) (holder : Option (Holder ι)) : World ι :=
  { w with holder := Function.update w.holder conn holder }

end World

/-- What is decided outside of a run. A statement that fails may have been carried out. -/
inductive Choice where
  | passes (goesOn : Bool)
  | connects (conn : Nat)
  | succeeds
  | fails (err : GoError) (carriedOut : Bool)
  | ends (ending : JobEnd)
  | wakes (wake : Wake)

inductive Event where
  | borrow (conn : Nat)
  | giveBack (conn : Nat)
  | close (conn : Nat)

def answer (i : ι) : (op : Op κ) → Choice → World ι → Option (Reply op × World ι)
  | .jitter _, .passes goesOn, w => some (goesOn, w)
  | .acquire _, .connects conn, w =>
    if w.holder conn = none then
      some (.ok conn, (w.hand conn (some (.run i))).note i (.acquired conn))
    else none
  | .acquire _, .fails err _, w => some (.error err, w.note i .unconnected)
  | .tryLock _ conn key, .succeeds, w =>
    let tried := tryLock conn key w.locks
    some (.ok tried.1,
      { w with locks := tried.2 }.note i (if tried.1 then .granted conn else .refused conn))
  | .tryLock _ conn key, .fails err carriedOut, w =>
    let locks := if carriedOut then (tryLock conn key w.locks).2 else w.locks
    some (.error err, { w with locks }.note i (.unanswered conn))
  | .enter _, _, w => some ((), w.note i .entered)
  | .leave, .ends ending, w => some (ending, w.note i (.left ending))
  | .unlock _ conn key, .succeeds, w =>
    some (none, { w with locks := unlock conn key w.locks }.note i (.unlocked conn))
  | .unlock _ conn key, .fails err carriedOut, w =>
    let locks := if carriedOut then unlock conn key w.locks else w.locks
    some (some err, { w with locks }.note i (.unlocked conn))
  | .release conn, _, w => some ((), (w.hand conn none).note i (.released conn))
  | .count _, _, w => some ((), w)
  | .select _, .wakes .done, w => some (.done, w)
  | .select _, .wakes wake, w =>
    some (wake, { w with journal := Function.update w.journal i [] })
  | _, _, _ => none

/-- The services use connections as well, and a session ends unless it is in the hands of a run
and holds the lock of its job. -/
def act (jobs : ι → RegisteredJob κ) : Event → World ι → Option (World ι)
  | .borrow conn, w =>
    if w.holder conn = none then some (w.hand conn (some .service)) else none
  | .giveBack conn, w =>
    if w.holder conn = some .service then some (w.hand conn none) else none
  | .close conn, w =>
    match w.holder conn with
    | some (.run i) =>
      if (w.locks (lockKey (jobs i).job.name)).any (fun owner => owner.1 = conn) then none
      else some { w with locks := close conn w.locks }
    | _ => some { w with locks := close conn w.locks }

def env (jobs : ι → RegisteredJob κ) : Env ι (Op κ) Reply Wake Choice Event (World ι) where
  answer := answer
  act := act jobs
  again i := nextTurn (jobs i)

def start (jobs : ι → RegisteredJob κ) : System ι (Op κ) Reply Wake (World ι) :=
  ⟨fun i => runLoop (jobs i), ⟨fun _ => none, fun _ => none, fun _ => []⟩⟩

/-- The courses that a run can take, of a singleton and of another job. One that got the lock has
unlocked it and returned its connection, once, whatever the ending of its body. -/
inductive Settled : Bool → List Step → Prop where
  | plain (ending : JobEnd) : Settled false [.entered, .left ending]
  | unconnected : Settled true [.unconnected]
  | unanswered (conn : Nat) : Settled true [.acquired conn, .unanswered conn, .released conn]
  | refused (conn : Nat) : Settled true [.acquired conn, .refused conn, .released conn]
  | guarded (conn : Nat) (ending : JobEnd) : Settled true
      [.acquired conn, .granted conn, .entered, .left ending, .unlocked conn, .released conn]

variable {locks : Locks Nat Int} {conn : Nat}

section Contract

variable (jobs : ι → RegisteredJob κ)

def key (i : ι) : Int := lockKey (jobs i).job.name

def Holds (w : World ι) (i : ι) (conn : Nat) : Prop := w.holder conn = some (.run i)

def Locked (w : World ι) (i : ι) (conn : Nat) : Prop :=
  Holds w i conn ∧ Owns w.locks conn (key jobs i)

/-- Others leave the connections of a run to it, and the lock that it has through them. -/
structure Rely (i : ι) (w w' : World ι) : Prop where
  journal : w'.journal i = w.journal i
  holds : ∀ conn, Holds w i conn → Holds w' i conn
  locked : ∀ conn, Locked jobs w i conn → Locked jobs w' i conn

def pre (i : ι) : Op κ → World ι → Prop
  | .leave, w => (jobs i).singleton = true → ∃ conn, Locked jobs w i conn
  | .select _, w => Settled (jobs i).singleton (w.journal i)
  | _, _ => True

def contract : Contract ι (Op κ) (World ι) where
  inv _ := True
  rely := Rely jobs
  pre := pre jobs

def post (i : ι) (wake : Wake) (w : World ι) : Prop :=
  if wake = .done then w.journal i ≠ [] → Settled (jobs i).singleton (w.journal i)
  else w.journal i = []

variable {conn : Nat} {i j : ι}

section

omit [DecidableEq ι]

theorem rely_refl (i : ι) (w : World ι) : Rely jobs i w w := ⟨rfl, fun _ h => h, fun _ h => h⟩

theorem rely_trans (i : ι) (u v w : World ι) (huv : Rely jobs i u v) (hvw : Rely jobs i v w) :
    Rely jobs i u w :=
  ⟨hvw.journal.trans huv.journal, fun conn h => hvw.holds conn (huv.holds conn h),
    fun conn h => hvw.locked conn (huv.locked conn h)⟩

variable {w : World ι}

theorem rely_of {w' : World ι} (journal : w'.journal i = w.journal i)
    (holds : ∀ conn, Holds w i conn → Holds w' i conn)
    (owns : ∀ conn k, Holds w i conn → Owns w.locks conn k → Owns w'.locks conn k) :
    Rely jobs i w w' :=
  ⟨journal, holds, fun conn h => ⟨holds conn h.1, owns conn _ h.1 h.2⟩⟩

theorem not_holds (other : j ≠ i) (h : Holds w i conn) : ¬Holds w j conn := by
  intro h'
  rw [Holds, h] at h'
  cases h'
  exact other rfl

theorem rely_hand (other : ¬Holds w j conn) (holder : Option (Holder ι)) :
    Rely jobs j w (w.hand conn holder) := by
  refine rely_of jobs rfl (fun c h => ?_) fun _ _ _ owned => owned
  have apart : c ≠ conn := by
    rintro rfl
    exact other h
  exact (Function.update_of_ne apart _ _).trans h

theorem rely_locks (other : j ≠ i) (held : Holds w i conn)
    (owns : ∀ c k, conn ≠ c → Owns w.locks c k → Owns locks c k) :
    Rely jobs j w { w with locks } := by
  refine rely_of jobs rfl (fun _ h => h) fun c k h owned => owns c k ?_ owned
  rintro rfl
  exact not_holds other held h

end

theorem rely_note (other : j ≠ i) {w w' : World ι} (h : Rely jobs j w w') (step : Step) :
    Rely jobs j w (w'.note i step) := by
  refine ⟨?_, h.holds, h.locked⟩
  rw [← h.journal]
  exact Function.update_of_ne other _ _

theorem rely_statement (other : j ≠ i) {w : World ι} (held : Holds w i conn)
    (owns : ∀ c k, conn ≠ c → Owns w.locks c k → Owns locks c k) (carriedOut : Bool) (step : Step) :
    Rely jobs j w ({ w with locks := if carriedOut then locks else w.locks }.note i step) := by
  refine rely_note jobs other ?_ step
  cases carriedOut with
  | true => exact rely_locks jobs other held owns
  | false => exact rely_refl jobs j w

end Contract

section Stages

variable (jobs : ι → RegisteredJob κ) (i : ι)

/-- Where a run is: what it has done, and the connections that it has, with the lock or not. -/
structure Stage (done : List Step) (holds locked : List Nat) (w : World ι) : Prop where
  journal : w.journal i = done
  holds : ∀ conn ∈ holds, Holds w i conn
  locked : ∀ conn ∈ locked, Locked jobs w i conn

variable {jobs i} {done : List Step} {holds locked : List Nat} {w : World ι}

section

omit [DecidableEq ι]

variable {w' : World ι}

theorem Stage.stable (h : Stage jobs i done holds locked w) (rely : Rely jobs i w w') :
    Stage jobs i done holds locked w' :=
  ⟨rely.journal.trans h.journal, fun conn mem => rely.holds conn (h.holds conn mem),
    fun conn mem => rely.locked conn (h.locked conn mem)⟩

theorem Stage.stable_exists {step : JobEnd → List Step}
    (h : ∃ ending, Stage jobs i (step ending) holds locked w) (rely : Rely jobs i w w') :
    ∃ ending, Stage jobs i (step ending) holds locked w' :=
  h.imp fun _ stage => stage.stable rely

theorem stage_idle (journal : w.journal i = done) : Stage jobs i done [] [] w :=
  ⟨journal, by simp, by simp⟩

def Tried (jobs : ι → RegisteredJob κ) (i : ι) :
    Except GoError (Option Nat) → World ι → Prop
  | .ok (some conn), w => Stage jobs i [.acquired conn, .granted conn] [] [conn] w
  | .ok none, w => Settled true (w.journal i)
  | .error _, w => Settled true (w.journal i)

theorem settled_stable {singleton : Bool} (h : Settled singleton (w.journal i))
    (rely : Rely jobs i w w') : Settled singleton (w'.journal i) := by
  rw [rely.journal]
  exact h

theorem Tried.stable {r : Except GoError (Option Nat)} (h : Tried jobs i r w)
    (rely : Rely jobs i w w') : Tried jobs i r w' := by
  match r, h with
  | .ok (some conn), h => exact Stage.stable h rely
  | .ok none, h => exact settled_stable h rely
  | .error err, h => exact settled_stable h rely

theorem post_stable {wake : Wake} (h : post jobs i wake w) (rely : Rely jobs i w w') :
    post jobs i wake w' := by
  rw [post, rely.journal]
  exact h

end

theorem Stage.note (h : Stage jobs i done holds locked w) (step : Step) :
    Stage jobs i (done ++ [step]) holds locked (w.note i step) := by
  refine ⟨?_, h.holds, h.locked⟩
  rw [← h.journal]
  exact Function.update_self ..

theorem stage_holding (journal : w.journal i = done) (held : Holds w i conn) (step : Step) :
    Stage jobs i (done ++ [step]) [conn] [] ({ w with locks }.note i step) := by
  have before : Stage jobs i done [conn] [] { w with locks } :=
    ⟨journal, List.forall_mem_singleton.mpr held, by simp⟩
  exact before.note step

theorem safe_call {α : Type} {post : α → World ι → Prop} {op : Op κ}
    {f : Reply op → SchedProg κ α} (h : Stage jobs i done holds locked w)
    (pre : ∀ w, Stage jobs i done holds locked w → pre jobs i op w)
    (next : ∀ w x r w', Stage jobs i done holds locked w → answer i op x w = some (r, w') →
      (∀ j, j ≠ i → Rely jobs j w w') ∧ Safe (env jobs) (contract jobs) i post (f r) w') :
    Safe (env jobs) (contract jobs) i post (call op >>= f) w := by
  refine safe_perform_bind (Stage jobs i done holds locked) h (fun _ _ _ h rely => h.stable rely)
    (fun w _ h => pre w h) fun w x r w' _ h answered => ?_
  obtain ⟨relied, safe⟩ := next w x r w' h answered
  exact ⟨⟨trivial, relied⟩, safe⟩

theorem safe_noted {α : Type} {post : α → World ι → Prop} {op : Op κ}
    {f : Reply op → SchedProg κ α} (h : Stage jobs i done holds locked w)
    (pre : ∀ w, Stage jobs i done holds locked w → SingletonJobs.pre jobs i op w)
    (step : Reply op → Step)
    (effect : ∀ x w r w', answer i op x w = some (r, w') → w' = w.note i (step r))
    (next : ∀ r w, Stage jobs i (done ++ [step r]) holds locked w →
      Safe (env jobs) (contract jobs) i post (f r) w) :
    Safe (env jobs) (contract jobs) i post (call op >>= f) w := by
  refine safe_call h pre fun w x r w' h answered => ?_
  rw [effect x w r w' answered]
  refine ⟨fun j other => ?_, next r _ (h.note (step r))⟩
  exact rely_note jobs other (rely_refl jobs j w) (step r)

theorem safe_count {α : Type} {post : α → World ι → Prop} {metric : Metric}
    {f : Unit → SchedProg κ α} (h : Stage jobs i done holds locked w)
    (next : ∀ w, Stage jobs i done holds locked w →
      Safe (env jobs) (contract jobs) i post (f ()) w) :
    Safe (env jobs) (contract jobs) i post (call (.count metric) >>= f) w := by
  refine safe_call h (fun _ _ => trivial) fun w x r w' h answered => ?_
  cases answered
  exact ⟨fun j _ => rely_refl jobs j w, next w h⟩

end Stages

section Programs

variable {jobs : ι → RegisteredJob κ} {i : ι} {done : List Step} {holds locked : List Nat}
  {w : World ι}

theorem safe_runProtected (h : Stage jobs i done holds locked w)
    (guarded : (jobs i).singleton = true → locked ≠ []) (ctx : Context) :
    Safe (env jobs) (contract jobs) i
      (fun _ w => ∃ ending, Stage jobs i (done ++ [.entered, .left ending]) holds locked w)
      (runProtected ctx) w := by
  refine safe_noted h (fun _ _ => trivial) (fun _ => .entered) ?_ fun _ w h => ?_
  · intro x w r w' answered
    cases answered
    rfl
  · refine safe_noted h ?_ .left ?_ fun ending w h => ?_
    · intro w h singleton
      obtain ⟨conn, rest, same⟩ := List.exists_cons_of_ne_nil (guarded singleton)
      exact ⟨conn, h.locked conn (same ▸ List.mem_cons_self)⟩
    · intro x w r w' answered
      cases x <;> cases answered
      rfl
    · have ended : ∃ ending, Stage jobs i (done ++ [.entered, .left ending]) holds locked w :=
        ⟨ending, by simpa using h⟩
      cases ending <;> exact safe_pure ended fun _ _ _ => Stage.stable_exists

theorem safe_measuredRun (h : Stage jobs i done holds locked w)
    (guarded : (jobs i).singleton = true → locked ≠ []) (ctx : Context) :
    Safe (env jobs) (contract jobs) i
      (fun _ w => ∃ ending, Stage jobs i (done ++ [.entered, .left ending]) holds locked w)
      (measuredRun ctx) w := by
  refine safe_bind (rely_refl jobs i) trivial (safe_runProtected h guarded ctx) fun r w _ h => ?_
  cases r with
  | none => exact safe_pure h fun _ _ _ => Stage.stable_exists
  | some err =>
    obtain ⟨ending, h⟩ := h
    refine safe_count h fun w h => safe_count h fun w h => ?_
    split_ifs
    · refine safe_count h fun w h => ?_
      exact safe_pure ⟨ending, h⟩ fun _ _ _ => Stage.stable_exists
    · exact safe_pure ⟨ending, h⟩ fun _ _ _ => Stage.stable_exists

theorem safe_release {α : Type} {post : α → World ι → Prop} {f : Unit → SchedProg κ α}
    (h : Stage jobs i done [conn] [] w) (next : ∀ w, w.journal i = done ++ [.released conn] →
      Safe (env jobs) (contract jobs) i post (f ()) w) :
    Safe (env jobs) (contract jobs) i post (call (.release conn) >>= f) w := by
  refine safe_call h (fun _ _ => trivial) fun w x r w' h answered => ?_
  cases answered
  refine ⟨fun j other => ?_, next _ ?_⟩
  · refine rely_note jobs other (rely_hand jobs (not_holds other ?_) none) _
    exact h.holds conn (List.mem_singleton_self conn)
  · rw [← h.journal]
    exact Function.update_self ..

theorem safe_tryLockOn (h : Stage jobs i [.acquired conn] [conn] [] w) (ctx : Context) :
    Safe (env jobs) (contract jobs) i (Tried jobs i) (tryLockOn ctx conn (key jobs i)) w := by
  refine safe_call h (fun _ _ => trivial) fun w x r w' h answered => ?_
  have held := h.holds conn (List.mem_singleton_self conn)
  have relied := fun j (other : j ≠ i) => rely_statement jobs other held
    fun _ _ apart => Owns.tryLock apart (k := key jobs i)
  cases x with
  | succeeds =>
    cases answered
    refine ⟨fun j other => relied j other true _, ?_⟩
    cases granted : (tryLock conn (key jobs i) w.locks).1 with
    | true =>
      refine safe_pure (a := Except.ok (some conn)) ?_ fun _ _ _ => Tried.stable
      refine ⟨(Stage.note h (.granted conn)).journal, by simp, ?_⟩
      intro c mem
      cases List.mem_singleton.mp mem
      exact ⟨held, owns_tryLock granted⟩
    | false =>
      refine safe_release (stage_holding h.journal held (.refused conn)) fun w finished => ?_
      refine safe_pure (a := Except.ok none) ?_ fun _ _ _ => Tried.stable
      rw [Tried, finished]
      exact .refused conn
  | fails err carriedOut =>
    cases answered
    refine ⟨fun j other => relied j other carriedOut _, ?_⟩
    refine safe_release (stage_holding h.journal held (.unanswered conn)) fun w finished => ?_
    refine safe_pure ?_ fun _ _ _ => Tried.stable
    change Settled _ _
    rw [finished]
    exact .unanswered conn
  | passes | connects | ends | wakes => cases answered

theorem safe_tryAdvisoryLock (empty : w.journal i = []) (ctx : Context) :
    Safe (env jobs) (contract jobs) i (Tried jobs i) (tryAdvisoryLock ctx (key jobs i)) w := by
  refine safe_call (stage_idle empty) (fun _ _ => trivial) fun w x r w' h answered => ?_
  cases x with
  | connects conn =>
    simp only [answer] at answered
    split_ifs at answered with free
    cases answered
    refine ⟨fun j other => ?_, ?_⟩
    · refine rely_note jobs other (rely_hand jobs ?_ _) _
      rw [Holds, free]
      intro h
      cases h
    · have empty : (w.hand conn (some (.run i))).journal i = [] := h.journal
      have held : Holds (w.hand conn (some (.run i))) i conn := Function.update_self ..
      exact safe_tryLockOn (stage_holding empty held (.acquired conn)) ctx
  | fails err carriedOut =>
    cases answered
    refine ⟨fun j other => rely_note jobs other (rely_refl jobs j w) _, ?_⟩
    refine safe_pure ?_ fun _ _ _ => Tried.stable
    have finished := (h.note .unconnected).journal
    change Settled _ _
    rw [finished]
    exact .unconnected
  | passes | succeeds | ends | wakes => cases answered

theorem safe_unlock (h : Stage jobs i done [] [conn] w) :
    Safe (env jobs) (contract jobs) i
      (fun _ w => w.journal i = done ++ [.unlocked conn, .released conn])
      (Scheduler.unlock conn (key jobs i)) w := by
  refine safe_call h (fun _ _ => trivial) fun w x r w' h answered => ?_
  have held := (h.locked conn (List.mem_singleton_self conn)).1
  have relied := fun j (other : j ≠ i) => rely_statement jobs other held
    fun _ _ apart => Owns.unlock apart (k := key jobs i)
  have rest : ∀ locks, Safe (env jobs) (contract jobs) i
      (fun _ w => w.journal i = done ++ [.unlocked conn, .released conn])
      (call (.release conn)) ({ w with locks }.note i (.unlocked conn)) := by
    intro locks
    refine safe_release (f := pure) (stage_holding h.journal held _) fun w finished => ?_
    refine safe_pure (by simpa using finished) fun w w' _ same rely => ?_
    exact rely.journal.trans same
  cases x with
  | succeeds =>
    cases answered
    exact ⟨fun j other => relied j other true _, rest _⟩
  | fails err carriedOut =>
    cases answered
    exact ⟨fun j other => relied j other carriedOut _, rest _⟩
  | passes | connects | ends | wakes => cases answered

theorem safe_guarded (empty : w.journal i = []) (ctx : Context) :
    Safe (env jobs) (contract jobs) i (fun _ w => Settled true (w.journal i)) (do
      match ← tryAdvisoryLock ctx (key jobs i) with
      | .error _ => return true
      | .ok none =>
        call (.count .skippedSingleton)
        return true
      | .ok (some conn) =>
        let goesOn ← measuredRun ctx
        Scheduler.unlock conn (key jobs i)
        return goesOn) w := by
  refine safe_bind (rely_refl jobs i) trivial (safe_tryAdvisoryLock empty ctx) fun r w _ h => ?_
  match r, h with
  | .error err, h => exact safe_pure h fun _ _ _ => settled_stable
  | .ok none, h =>
    refine safe_count (stage_idle rfl) fun w' later => safe_pure ?_ fun _ _ _ => settled_stable
    rw [later.journal]
    exact h
  | .ok (some conn), h =>
    refine safe_bind (rely_refl jobs i) trivial
      (safe_measuredRun h (fun _ => List.cons_ne_nil conn []) ctx) fun goesOn w _ h => ?_
    obtain ⟨ending, h⟩ := h
    refine safe_bind (rely_refl jobs i) trivial (safe_unlock h) fun _ w _ finished => ?_
    refine safe_pure ?_ fun _ _ _ => settled_stable
    rw [finished]
    exact .guarded conn ending

theorem safe_runOnce (empty : w.journal i = []) :
    Safe (env jobs) (contract jobs) i
      (fun _ w => Settled (jobs i).singleton (w.journal i)) (runOnce (jobs i)) w := by
  unfold runOnce
  dsimp only
  by_cases singleton : (jobs i).singleton = true
  · rw [if_pos singleton, singleton]
    exact safe_guarded empty _
  · rw [if_neg singleton]
    refine (safe_measuredRun (stage_idle empty) (fun yes => absurd yes singleton) _).weaken
      fun _ w finished => ?_
    obtain ⟨ending, h⟩ := finished
    rw [h.journal, show (jobs i).singleton = false by simpa using singleton]
    exact .plain ending

theorem safe_select {k : κ} (finished : Settled (jobs i).singleton (w.journal i)) :
    Safe (env jobs) (contract jobs) i (post jobs i) (call (.select k)) w := by
  refine safe_call (f := pure) (stage_idle rfl) (fun w' later => ?_) fun w' x r w'' later answered => ?_
  · change Settled _ _
    rw [later.journal]
    exact finished
  · match x, answered with
    | .wakes .done, answered =>
      cases answered
      refine ⟨fun j _ => rely_refl jobs j w', safe_pure ?_ fun _ _ _ => post_stable⟩
      intro _
      rw [later.journal]
      exact finished
    | .wakes .tick, answered | .wakes .kick, answered =>
      cases answered
      refine ⟨fun j other => ?_, safe_pure ?_ fun _ _ _ => post_stable⟩
      · exact ⟨Function.update_of_ne other _ _, fun _ h => h, fun _ h => h⟩
      · exact Function.update_self ..

theorem safe_turn (empty : w.journal i = []) :
    Safe (env jobs) (contract jobs) i (post jobs i) (turn (jobs i)) w := by
  refine safe_bind (rely_refl jobs i) trivial (safe_runOnce empty) fun goesOn w _ finished => ?_
  cases goesOn with
  | false => exact safe_pure (a := Wake.done) (fun _ => finished) fun _ _ _ => post_stable
  | true => exact safe_select finished

theorem safe_runLoop (empty : w.journal i = []) :
    Safe (env jobs) (contract jobs) i (post jobs i) (runLoop (jobs i)) w := by
  unfold runLoop
  split_ifs
  · refine safe_call (stage_idle empty) (fun _ _ => trivial) fun w x r w' later answered => ?_
    cases x with
    | passes goesOn =>
      cases answered
      refine ⟨fun j _ => rely_refl jobs j w, ?_⟩
      match r with
      | true => exact safe_turn later.journal
      | false =>
        exact safe_pure (a := Wake.done) (fun begun => absurd later.journal begun)
          fun _ _ _ => post_stable
    | connects | succeeds | fails | ends | wakes => cases answered
  · exact safe_turn empty

end Programs

section Runs

variable (jobs : ι → RegisteredJob κ)

theorem rely_act {e : Event} {w w' : World ι} (acted : act jobs e w = some w') (i : ι) :
    Rely jobs i w w' := by
  cases e with
  | borrow conn =>
    simp only [act] at acted
    split_ifs at acted with free
    cases acted
    exact rely_hand jobs (by simp [Holds, free]) _
  | giveBack conn =>
    simp only [act] at acted
    split_ifs at acted with service
    cases acted
    exact rely_hand jobs (by simp [Holds, service]) _
  | close conn =>
    have ends : w' = { w with locks := close conn w.locks } ∧ ¬Locked jobs w i conn := by
      simp only [act] at acted
      split at acted
      · next j held =>
        split_ifs at acted with owned
        cases acted
        refine ⟨rfl, ?_⟩
        rintro ⟨holds, n, lock⟩
        rw [Holds, held] at holds
        cases holds
        rw [key] at lock
        simp [lock] at owned
      · next other =>
        cases acted
        exact ⟨rfl, fun locked => other i locked.1⟩
    rw [ends.1]
    refine ⟨rfl, fun _ h => h, fun c h => ⟨h.1, h.2.close ?_⟩⟩
    rintro rfl
    exact ends.2 h

theorem coherent : Coherent (env jobs) (contract jobs) (post jobs) where
  refl := rely_refl jobs
  trans := rely_trans jobs
  act e w w' _ acted := ⟨trivial, rely_act jobs acted⟩
  again i wake p w _ finished again := by
    cases wake with
    | done => cases again
    | tick | kick =>
      cases again
      exact safe_turn finished

def InBody (s : System ι (Op κ) Reply Wake (World ι)) (i : ι) : Prop :=
  ∃ next, s.threads i = .call .leave next

def Over (s : System ι (Op κ) Reply Wake (World ι)) (i : ι) : Prop :=
  (∃ k next, s.threads i = .call (.select k) next) ∨
    s.threads i = .ret .done ∧ s.world.journal i ≠ []

structure Orderly (s : System ι (Op κ) Reply Wake (World ι)) : Prop where
  exclusive : ∀ i j, i ≠ j → (jobs i).singleton = true → (jobs j).singleton = true →
    (jobs i).job.name = (jobs j).job.name → ¬(InBody s i ∧ InBody s j)
  settled : ∀ i, Over s i → Settled (jobs i).singleton (s.world.journal i)

theorem orderly_of_safe {s : System ι (Op κ) Reply Wake (World ι)}
    (safe : AllSafe (env jobs) (contract jobs) (post jobs) s) : Orderly jobs s where
  exclusive := by
    rintro i j other hi hj same ⟨⟨next, bodyI⟩, ⟨next', bodyJ⟩⟩
    obtain ⟨conn, holdsI, ownsI⟩ := safe.reached (coherent jobs) bodyI hi
    obtain ⟨conn', holdsJ, ownsJ⟩ := safe.reached (coherent jobs) bodyJ hj
    have keys : key jobs j = key jobs i := by rw [key, key, same]
    rw [keys] at ownsJ
    cases ownsI.unique ownsJ
    exact not_holds other.symm holdsI holdsJ
  settled := by
    rintro i (⟨k, next, waiting⟩ | ⟨ended, begun⟩)
    · exact safe.reached (coherent jobs) waiting
    · exact safe.ended (coherent jobs) ended begun

/-- In every interleaving of the replicas' loops, the services and the sessions: two runs of one
singleton are never in their bodies at the same time, and each run that is over has undone what
it did. -/
theorem singletons_orderly (inputs : List (Input ι Choice Event)) :
    Always (env jobs).step (Orderly jobs) (start jobs) inputs := by
  have safe : AllSafe (env jobs) (contract jobs) (post jobs) (start jobs) :=
    ⟨trivial, fun _ => safe_runLoop rfl⟩
  exact (always_allSafe (coherent jobs) safe inputs).mono fun _ => orderly_of_safe jobs

end Runs

def replicas (_ : Bool) : RegisteredJob Unit := ⟨⟨str "sync", 10 ^ 9, 0, 0⟩, true, ()⟩

def panicking : List (Input Bool Choice Event) :=
  [.turn false (.connects 1), .turn true (.connects 2), .turn false .succeeds,
    .turn true .succeeds, .turn false .succeeds, .turn true .succeeds,
    .turn false (.ends (.panicked (str "nil map"))), .turn false .succeeds, .turn false .succeeds,
    .turn false .succeeds, .turn false .succeeds, .turn false .succeeds, .turn true .succeeds]

theorem singletons_orderly_panicking :
    Always (env replicas).step (Orderly replicas) (start replicas) panicking ∧
    (panicking.foldlM (env replicas).step (start replicas)).map
        (fun s => (s.world.journal false, s.world.journal true)) =
      some ([.acquired 1, .granted 1, .entered, .left (.panicked (str "nil map")), .unlocked 1,
        .released 1], [.acquired 2, .refused 2, .released 2]) :=
  ⟨singletons_orderly replicas panicking, rfl⟩

end DxCommonGo.SingletonJobs
