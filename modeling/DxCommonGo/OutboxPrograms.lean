import DxCommonGo.OutboxWorld
import Mathlib.Data.Option.Basic

/-! The dispatchers of the outbox as the programs they are: each runs `drain`, and the events of
the world answer the calls the programs are at. This system and the one of the phases take the
same steps. -/

namespace DxCommonGo.OutboxPrograms
open Programs Outbox OutboxTable OutboxWorld

abbrev Programs := Nat → OutboxProg (Option Bool)

/-- What an event that answers a call replies and leaves. -/
def answer (w : World) : Event → (c : Call) → Option (Reply c × World)
  | .fetch _ locked ids, .fetchUnsent limit =>
    if Claims limit locked ids w.table then
      some (.ok (rowsOf ids (bump ids w.table)), { w with table := bump ids w.table })
    else none
  | .fetchFails _ err locked ids, .fetchUnsent limit =>
    if ids = [] ∨ Claims limit locked ids w.table then
      some (.error err, { w with table := bump ids w.table })
    else none
  | .publish d, .publish row => some (none, w.record d row)
  | .publishFails _ err, .publish _ => some (some err, w)
  | .mark _ now, .markSent id => some (none, { w with table := stamp id now w.table })
  | .markFails _ err applied, .markSent id =>
    some (some err, { w with table := applied.elim w.table fun now => stamp id now w.table })
  | _, _ => none

/-- An event for the programs, in a world that does not know their phases. -/
def serve (ds : Nat → Dispatcher) (fuel : Nat) (s : World × Programs) (e : Event) :
    Option (World × Programs) :=
  match e with
  | .insert _ _ | .commit _ | .rollback _ | .kick _ => (step ds s.1 e).map fun w => (w, s.2)
  | .wake d byKick =>
    match s.2 d with
    | .ret _ =>
      let l := s.1.locals d
      if byKick = true → l.kick = true then
        some (s.1.setLocal d { l with began := idsOf s.1.table, kick := l.kick && !byKick },
          Function.update s.2 d (drain (ds d) fuel))
      else none
    | _ => none
  | .fetch d _ _ | .fetchFails d _ _ _ | .publish d | .publishFails d _ | .mark d _
  | .markFails d _ _ =>
    match s.2 d with
    | .call c next => (answer s.1 e c).map fun r => (r.2, Function.update s.2 d (next r.1))
    | _ => none
  | .crash d => some (s.1.setLocal d { kicked := (s.1.locals d).kicked },
      Function.update s.2 d (.ret (some true)))

def forget (w : World) : World :=
  { w with locals := fun d => { w.locals d with phase := .idle false } }

/-- The programs are where the phases say, with `m` fetches left at least. -/
structure Refines (ds : Nat → Dispatcher) (m : Nat) (w : World) (s : World × Programs) : Prop where
  world : s.1 = forget w
  programs : ∀ d, ∃ n, m ≤ n ∧ s.2 d = (w.phase d).remaining (ds d) n

variable {ds : Nat → Dispatcher} {m fuel : Nat} {w : World} {s : World × Programs}

theorem forget_table (w : World) : (forget w).table = w.table := rfl

theorem forget_setLocal (w : World) (d : Nat) (l : Local) :
    forget (w.setLocal d l) = (forget w).setLocal d { l with phase := .idle false } := by
  simp only [forget, World.setLocal, World.mk.injEq, true_and, and_true]
  funext d'
  by_cases same : d' = d
  · subst same
    simp
  · simp [same]

theorem forget_setPhase (w : World) (d : Nat) (p : Phase) : forget (w.setPhase d p) = forget w := by
  rw [World.setPhase, forget_setLocal]
  simp [forget, World.setLocal]

theorem Refines.setLocal (refines : Refines ds (m + 1) w s) {v v' : World} {d n : Nat} {l : Local}
    (locals : v.locals = w.locals) (world : v' = forget (v.setLocal d l)) (enough : m ≤ n) :
    Refines ds m (v.setLocal d l) (v', Function.update s.2 d (l.phase.remaining (ds d) n)) := by
  refine ⟨world, fun d' => ?_⟩
  by_cases same : d' = d
  · subst same
    exact ⟨n, enough, by simp⟩
  · obtain ⟨n, enough, program⟩ := refines.programs d'
    refine ⟨n, (Nat.le_succ m).trans enough, ?_⟩
    rw [setLocal_phase_of_ne v l same, World.phase, locals]
    exact (Function.update_of_ne same _ _).trans program

theorem Refines.setPhase (refines : Refines ds (m + 1) w s) {v v' : World} {d n : Nat} {p : Phase}
    (locals : v.locals = w.locals) (world : v' = forget v) (enough : m ≤ n) :
    Refines ds m (v.setPhase d p) (v', Function.update s.2 d (p.remaining (ds d) n)) :=
  refines.setLocal locals (world.trans (forget_setPhase v d p).symm) enough

theorem Refines.same (refines : Refines ds (m + 1) w s) {v v' : World}
    (phases : ∀ d, v.phase d = w.phase d) (world : v' = forget v) : Refines ds m v (v', s.2) := by
  refine ⟨world, fun d => ?_⟩
  obtain ⟨n, enough, program⟩ := refines.programs d
  exact ⟨n, (Nat.le_succ m).trans enough, phases d ▸ program⟩

/-- The program at a phase: its result, or the call it is at and what the replies lead to. -/
theorem Refines.program (refines : Refines ds (m + 1) w s) (d : Nat) :
    ∃ n, m ≤ n ∧ s.2 d = match w.phase d with
      | .idle failed => .ret (some failed)
      | .fetching =>
        .call (.fetchUnsent (ds d).batch) fun r => (Phase.afterFetch (ds d) r).remaining (ds d) n
      | .publishing row rest full =>
        .call (.publish row) fun r => (Phase.afterPublish row rest full r).remaining (ds d) n
      | .marking row rest full =>
        .call (.markSent row.id) fun r => (Phase.afterMark rest full r).remaining (ds d) n := by
  obtain ⟨n, enough, program⟩ := refines.programs d
  obtain ⟨n, rfl⟩ := Nat.exists_eq_add_of_le' (Nat.one_le_of_lt enough)
  rw [program]
  cases w.phase d with
  | idle failed => exact ⟨n, Nat.le_of_succ_le_succ enough, rfl⟩
  | fetching => exact ⟨n, Nat.le_of_succ_le_succ enough, remaining_fetching ..⟩
  | publishing row rest full =>
    exact ⟨n + 1, Nat.le_of_succ_le enough, remaining_publishing ..⟩
  | marking row rest full => exact ⟨n + 1, Nat.le_of_succ_le enough, remaining_marking ..⟩

/-- One event. Where the phase is not the one the event is for, the program is not at the
call either. -/
theorem serve_rel (refines : Refines ds (m + 1) w s) (le : m ≤ fuel) (e : Event) :
    Option.Rel (Refines ds m) (step ds w e) (serve ds fuel s e) := by
  have world := refines.world
  cases e with
  | insert tx row =>
    simp only [step, serve, world]
    change Option.Rel _ _ (Option.map _ (if w.ended tx = none ∧ row.attempts = 0 ∧
      w.isFresh row.id = true then _ else _))
    split
    · exact .some (refines.same (fun _ => rfl) rfl)
    · exact .none
  | commit tx | rollback tx =>
    simp only [step, serve, world]
    change Option.Rel _ _ (Option.map _ (if w.ended tx = none then _ else _))
    split
    · exact .some (refines.same (fun _ => rfl) rfl)
    · exact .none
  | kick d =>
    refine .some (refines.same (fun d' => ?_) ?_)
    · by_cases same : d' = d
      · subst same
        simp [World.phase]
      · exact setLocal_phase_of_ne w _ same
    · rw [world, forget_setLocal]
      rfl
  | wake d byKick =>
    obtain ⟨n, enough, program⟩ := refines.program d
    cases phase : w.phase d with
    | idle failed =>
      simp only [phase] at program
      simp only [step, serve, program, world]
      change Option.Rel _ (if isIdle (w.phase d) = true ∧ _ then _ else _)
        (if byKick = true → (w.locals d).kick = true then _ else _)
      simp only [phase, isIdle, true_and]
      split
      · exact .some (refines.setLocal (n := fuel) rfl (by rw [forget_setLocal]; rfl) le)
      · exact .none
    | _ =>
      simp only [phase] at program
      simp only [step, serve, program]
      change Option.Rel _ (if isIdle (w.phase d) = true ∧ _ then _ else _) _
      simp only [phase, isIdle, Bool.false_eq_true, false_and]
      exact .none
  | crash d =>
    exact .some (refines.setLocal (n := m) rfl (by rw [world, forget_setLocal]; rfl) le_rfl)
  | fetch d | fetchFails d | publish d | publishFails d | mark d | markFails d =>
    obtain ⟨n, enough, program⟩ := refines.program d
    cases phase : w.phase d
    all_goals
      simp only [phase] at program
      simp only [step, serve, answer, phase, program, world, forget_table, true_and,
        reduceCtorEq, false_and, ↓reduceIte]
      try split_ifs
      all_goals first | exact .none | exact .some (refines.setPhase rfl rfl enough)

theorem run_rel (events : List Event) (refines : Refines ds (m + events.length) w s)
    (le : m + events.length ≤ fuel) : Option.Rel (Refines ds m) (events.foldlM (step ds) w)
      (events.foldlM (serve ds fuel) s) := by
  induction events generalizing w s with
  | nil => exact .some refines
  | cons e events ih =>
    simp only [List.length_cons] at refines le
    have first : Option.Rel (Refines ds (m + events.length)) _ (serve ds fuel s e) :=
      serve_rel refines (Nat.le_of_succ_le le) e
    simp only [List.foldlM_cons]
    generalize step ds w e = one, serve ds fuel s e = other at first
    cases first with
    | none => exact .none
    | some after => exact ih after (by omega)

/-- Whatever happens, the programs of the source and the phases go on together: an event is
possible for both or for neither, and the worlds they reach agree. -/
theorem programs_phases (ds : Nat → Dispatcher) (events : List Event) (m : Nat) :
    Option.Rel (Refines ds m) (events.foldlM (step ds) {})
      (events.foldlM (serve ds (m + events.length)) ({}, fun _ => .ret (some false))) :=
  run_rel events ⟨rfl, fun _ => ⟨_, Nat.le_refl _, rfl⟩⟩ (Nat.le_refl _)

end DxCommonGo.OutboxPrograms
