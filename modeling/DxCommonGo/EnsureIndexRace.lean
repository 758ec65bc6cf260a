import DxCommonGo.EsCluster
import DxCommonGo.Runs
import DxCommonGo.Threads

/-! Replicas that call `EnsureIndex` at the same time for an index that is not there. The race
between the look and the creation is a machine of its own, which replicas and cluster follow. -/

namespace DxCommonGo.EnsureIndexRace
open GoStrings DxErrors Programs Threads Runs IndexLifecycle EsCluster

/-- A replica has sent nothing, was told that the index is missing, found it, created it, or was
refused to. -/
inductive Stage where
  | start | missed | found | created | refused
  deriving DecidableEq

structure Race (ι : Type) where
  stage : ι → Stage
  winner : Option ι

variable {ι : Type} [DecidableEq ι]

namespace Race

def go (r : Race ι) (i : ι) (stage : Stage) : Race ι :=
  { r with stage := Function.update r.stage i stage }

@[simp] theorem go_winner (r : Race ι) (i : ι) (stage : Stage) : (r.go i stage).winner = r.winner :=
  rfl

@[simp] theorem go_stage (r : Race ι) (i j : ι) (stage : Stage) :
    (r.go i stage).stage j = if j = i then stage else r.stage j := by
  by_cases same : j = i
  · subst same
    simp [go]
  · simp [go, same]

def step (r : Race ι) (i : ι) : Option (Race ι) :=
  match r.stage i, r.winner with
  | .start, none => some (r.go i .missed)
  | .start, some _ => some (r.go i .found)
  | .missed, none => some { r.go i .created with winner := some i }
  | .missed, some _ => some (r.go i .refused)
  | _, _ => none

def initial : Race ι := ⟨fun _ => .start, none⟩

structure Valid (r : Race ι) : Prop where
  missing : r.winner = none → ∀ i, r.stage i = .start ∨ r.stage i = .missed
  created : ∀ i, r.stage i = .created ↔ r.winner = some i

def Calm (r : Race ι) : Prop :=
  r.winner ≠ none ∧ ∀ i, r.stage i ≠ .missed ∧ r.stage i ≠ .refused

def Crossed (r : Race ι) : Prop :=
  (r.winner = none ∧ ∃ i j, i ≠ j ∧ r.stage i = .missed ∧ r.stage j = .missed) ∨
    r.winner ≠ none ∧ ∃ i, r.stage i = .missed ∨ r.stage i = .refused

omit [DecidableEq ι] in
theorem valid_initial : Valid (initial : Race ι) := ⟨fun _ _ => .inl rfl, by simp [initial]⟩

theorem step_cases {r t : Race ι} {i : ι} (h : r.step i = some t) :
    (r.stage i = .start ∧ r.winner = none ∧ t = r.go i .missed) ∨
    (r.stage i = .start ∧ r.winner ≠ none ∧ t = r.go i .found) ∨
    (r.stage i = .missed ∧ r.winner = none ∧ t = { r.go i .created with winner := some i }) ∨
    (r.stage i = .missed ∧ r.winner ≠ none ∧ t = r.go i .refused) := by
  unfold step at h
  split at h <;> simp_all

theorem Valid.step {r t : Race ι} {i : ι} (valid : Valid r) (h : r.step i = some t) : Valid t := by
  obtain ⟨stage, winner, rfl⟩ | ⟨stage, winner, rfl⟩ | ⟨stage, winner, rfl⟩ |
    ⟨stage, winner, rfl⟩ := step_cases h
  · refine ⟨fun _ j => ?_, fun j => ?_⟩
    · have := valid.missing winner j
      by_cases same : j = i <;> simp [same, this]
    · have := valid.created j
      by_cases same : j = i <;> simp_all
  · refine ⟨fun none => absurd none winner, fun j => ?_⟩
    have := valid.created j
    by_cases same : j = i <;> simp_all
  · refine ⟨fun none => (nomatch none), fun j => ?_⟩
    have := valid.created j
    by_cases same : j = i <;> simp_all [eq_comm]
  · refine ⟨fun none => absurd none winner, fun j => ?_⟩
    have := valid.created j
    by_cases same : j = i <;> simp_all

theorem Calm.step {r t : Race ι} {i : ι} (calm : Calm r) (h : r.step i = some t) : Calm t := by
  obtain ⟨stage, winner, rfl⟩ | ⟨stage, winner, rfl⟩ | ⟨stage, winner, rfl⟩ |
    ⟨stage, winner, rfl⟩ := step_cases h
  · exact absurd winner calm.1
  · refine ⟨winner, fun j => ?_⟩
    have := calm.2 j
    by_cases same : j = i <;> simp [same, this]
  · exact absurd winner calm.1
  · exact absurd stage (calm.2 i).1

theorem Crossed.step {r t : Race ι} {i : ι} (crossed : Crossed r) (h : r.step i = some t) :
    Crossed t := by
  obtain ⟨stage, winner, rfl⟩ | ⟨stage, winner, rfl⟩ | ⟨stage, winner, rfl⟩ |
    ⟨stage, winner, rfl⟩ := step_cases h
  · obtain ⟨-, j, k, apart, hj, hk⟩ := crossed.resolve_right fun c => c.1 winner
    refine .inl ⟨winner, j, k, apart, ?_, ?_⟩
    · by_cases same : j = i <;> simp [same, hj]
    · by_cases same : k = i <;> simp [same, hk]
  · obtain ⟨-, j, hj⟩ := crossed.resolve_left fun c => winner c.1
    refine .inr ⟨winner, j, ?_⟩
    have other : j ≠ i := by
      rintro rfl
      simp [stage] at hj
    simpa [other] using hj
  · -- One of the two that were told the index is missing has just created it.
    obtain ⟨-, j, k, apart, hj, hk⟩ := crossed.resolve_right fun c => c.1 winner
    by_cases same : j = i
    · exact .inr ⟨Option.some_ne_none i, k, .inl (by simp [same ▸ apart.symm, hk])⟩
    · exact .inr ⟨Option.some_ne_none i, j, .inl (by simp [same, hj])⟩
  · exact .inr ⟨winner, i, .inr (by simp)⟩

theorem calm_or_crossed {order : List ι} {u : Race ι}
    (run : order.foldlM Race.step initial = some u) :
    (Calm u ∧ ∃ i rest, order = i :: i :: rest) ∨
      (Crossed u ∧ ¬∃ i rest, order = i :: i :: rest) ∨ u.winner = none := by
  obtain _ | ⟨i, _ | ⟨j, rest⟩⟩ := order
  · cases run
    exact .inr (.inr rfl)
  · cases run
    exact .inr (.inr rfl)
  · rw [List.foldlM_cons] at run
    obtain ⟨first, one, after⟩ := Option.bind_eq_some_iff.mp run
    rw [List.foldlM_cons] at after
    obtain ⟨second, two, last⟩ := Option.bind_eq_some_iff.mp after
    cases one
    by_cases same : j = i
    · subst same
      have calm : Calm second := by
        rcases step_cases two with h | h | ⟨-, -, rfl⟩ | h
        · simp [initial] at h
        · simp [initial] at h
        · refine ⟨by simp, fun k => ?_⟩
          by_cases here : k = j <;> simp [here, initial]
        · simp [initial] at h
      have kept : Always Race.step Calm second rest :=
        always_of_invariant (fun _ _ _ hstep h => h.step hstep) calm rest
      exact .inl ⟨kept.last last, j, rest, rfl⟩
    · have crossed : Crossed second := by
        rcases step_cases two with ⟨-, winner, rfl⟩ | h | h | h
        · exact .inl ⟨winner, i, j, Ne.symm same, by simp [Ne.symm same], by simp⟩
        · simp [initial] at h
        · simp [initial, same] at h
        · simp [initial] at h
      have kept : Always Race.step Crossed second rest :=
        always_of_invariant (fun _ _ _ hstep h => h.step hstep) crossed rest
      refine .inr (.inl ⟨kept.last last, ?_⟩)
      rintro ⟨k, rest', split⟩
      simp only [List.cons.injEq] at split
      exact same (split.2.1.trans split.1.symm)

end Race

section Replicas

variable {β D : Type} [Inhabited β] (scripts : Scripts D) (index : GoString) (body : ι → Option β)

def program (body : Option β) : Stage → EsProg β (Except GoError Bool)
  | .start => ensureIndex index body
  | .missed => do
    match ← createIndex index body with
    | some err => pure (.error err)
    | none => pure (.ok true)
  | .found => .ret (.ok false)
  | .created => .ret (.ok true)
  | .refused => .ret (.error alreadyExists.error)

structure Follows (r : Race ι)
    (s : System ι (Request β) Reply (Except GoError Bool) (Cluster β D)) : Prop where
  threads : s.threads = fun i => program index (body i) (r.stage i)
  world : s.world.indices index = r.winner.map fun i => ⟨(body i).getD default, ∅⟩

variable {scripts index body} {r : Race ι}
  {s t : System ι (Request β) Reply (Except GoError Bool) (Cluster β D)}

theorem Follows.go (follows : Follows index body r s) (i : ι) (stage : Stage) :
    Follows index body (r.go i stage)
      ⟨Function.update s.threads i (program index (body i) stage), s.world⟩ := by
  refine ⟨?_, follows.world⟩
  funext j
  rw [follows.threads]
  by_cases same : j = i
  · subst same
    simp
  · simp [same]

theorem Follows.step {i : ι} (follows : Follows index body r s)
    (h : step (Cluster.serve scripts) s i = some t) :
    ∃ u, r.step i = some u ∧ Follows index body u t := by
  have here : s.threads i = program index (body i) (r.stage i) := by rw [follows.threads]
  have world := follows.world
  unfold Race.step
  cases stage : r.stage i with
  | start =>
    rw [stage] at here
    rw [step_of_call (here : s.threads i = .call (.getIndex index) _)] at h
    cases winner : r.winner with
    | none =>
      rw [winner] at world
      rw [Cluster.serve_getIndex_missing world] at h
      obtain rfl := Option.some.inj h
      exact ⟨_, rfl, follows.go i _⟩
    | some w =>
      rw [winner] at world
      rw [Cluster.serve_getIndex_found world] at h
      obtain rfl := Option.some.inj h
      exact ⟨_, rfl, follows.go i _⟩
  | missed =>
    rw [stage] at here
    rw [step_of_call (here : s.threads i = .call (.putIndex index _) _)] at h
    cases winner : r.winner with
    | none =>
      rw [winner] at world
      rw [Cluster.serve_putIndex_missing world] at h
      obtain rfl := Option.some.inj h
      refine ⟨_, rfl, ⟨(follows.go i .created).threads, ?_⟩⟩
      simp [Cluster.setIndex]
    | some w =>
      rw [winner] at world
      rw [Cluster.serve_putIndex_found world] at h
      obtain rfl := Option.some.inj h
      exact ⟨_, rfl, follows.go i _⟩
  | found | created | refused =>
    rw [stage] at here
    simp [Threads.step, here, program] at h

theorem Follows.run {order : List ι} (follows : Follows index body r s)
    (run : order.foldlM (Threads.step (Cluster.serve scripts)) s = some t) :
    ∃ u, order.foldlM Race.step r = some u ∧ Follows index body u t := by
  induction order generalizing r s with
  | nil =>
    cases run
    exact ⟨r, rfl, follows⟩
  | cons i order ih =>
    rw [List.foldlM_cons] at run
    obtain ⟨s', hstep, run⟩ := Option.bind_eq_some_iff.mp run
    obtain ⟨r', rstep, follows'⟩ := follows.step hstep
    obtain ⟨u, rest, ended⟩ := ih follows' run
    exact ⟨u, by rw [List.foldlM_cons, rstep]; exact rest, ended⟩

end Replicas

section Results

variable {β : Type} [Inhabited β] {index : GoString} {body : Option β} {stage : Stage}

theorem program_returned {result : Except GoError Bool}
    (h : program index body stage = .ret result) :
    (stage = .found ∧ result = .ok false) ∨ (stage = .created ∧ result = .ok true) ∨
      (stage = .refused ∧ result = .error alreadyExists.error) := by
  cases stage with
  | start =>
    change Prog.call _ _ = Prog.ret _ at h
    cases h
  | missed =>
    change Prog.call _ _ = Prog.ret _ at h
    cases h
  | found =>
    cases h
    exact .inl ⟨rfl, rfl⟩
  | created =>
    cases h
    exact .inr (.inl ⟨rfl, rfl⟩)
  | refused =>
    cases h
    exact .inr (.inr ⟨rfl, rfl⟩)

end Results

/-- Apart from errors: exactly one replica reports that it created the index, which is the one it
asked for. -/
def OneCreates {β D : Type} [Inhabited β] (index : GoString) (body : ι → Option β)
    (s : System ι (Request β) Reply (Except GoError Bool) (Cluster β D)) : Prop :=
  ∃ i, s.threads i = .ret (.ok true) ∧ (∀ j, s.threads j = .ret (.ok true) → j = i) ∧
    s.world.indices index = some ⟨(body i).getD default, ∅⟩

section Returned

variable {β D : Type} [Inhabited β] {index : GoString} {body : ι → Option β} {r : Race ι}
  {s : System ι (Request β) Reply (Except GoError Bool) (Cluster β D)}

omit [DecidableEq ι]

theorem Follows.thread (follows : Follows index body r s) (i : ι) :
    s.threads i = program index (body i) (r.stage i) := by
  rw [follows.threads]

theorem Follows.ended (follows : Follows index body r s) {i : ι}
    (returned : ∃ result, s.threads i = .ret result) :
    r.stage i = .found ∨ r.stage i = .created ∨ r.stage i = .refused := by
  obtain ⟨result, same⟩ := returned
  rw [follows.thread] at same
  rcases program_returned same with h | h | h <;> simp [h.1]

theorem Follows.oneCreates (follows : Follows index body r s) (valid : Race.Valid r) {i : ι}
    (winner : r.winner = some i) : OneCreates index body s := by
  refine ⟨i, ?_, fun j same => ?_, by rw [follows.world, winner]; rfl⟩
  · rw [follows.thread, (valid.created i).mpr winner]
    rfl
  · rw [follows.thread] at same
    rcases program_returned same with h | h | h
    · cases h.2
    · have won := (valid.created j).mp h.1
      rw [winner] at won
      exact (Option.some.inj won).symm
    · cases h.2

theorem Follows.ok_iff (follows : Follows index body r s) {i : ι}
    (returned : ∃ result, s.threads i = .ret result) :
    (∃ created, s.threads i = .ret (.ok created)) ↔ r.stage i ≠ .refused := by
  constructor
  · rintro ⟨created, same⟩ refused
    rw [follows.thread, refused] at same
    cases same
  · intro served
    rw [follows.thread]
    rcases follows.ended returned with h | h | h
    · exact ⟨false, by rw [h]; rfl⟩
    · exact ⟨true, by rw [h]; rfl⟩
    · exact absurd h served

end Returned

/-- When all replicas have returned, one of them has created the index, in every
interleaving. They all return without an error if and only if the first replica to send a
request sends the second one as well: every other one that looks for the index before it is
created is refused to create it. -/
theorem ensure_race_iff {n : Nat} {β D : Type} [Inhabited β] (scripts : Scripts D)
    (index : GoString) (body : Fin (n + 1) → Option β) {w : Cluster β D}
    (absent : w.indices index = none) {order : List (Fin (n + 1))}
    {s : System (Fin (n + 1)) (Request β) Reply (Except GoError Bool) (Cluster β D)}
    (run : order.foldlM (step (Cluster.serve scripts))
      ⟨fun i => ensureIndex index (body i), w⟩ = some s)
    (returned : ∀ i, ∃ result, s.threads i = .ret result) :
    OneCreates index body s ∧
      ((∀ i, ∃ created, s.threads i = .ret (.ok created)) ↔ ∃ i rest, order = i :: i :: rest) := by
  have start : Follows index body Race.initial ⟨fun i => ensureIndex index (body i), w⟩ :=
    ⟨rfl, absent⟩
  obtain ⟨u, raced, follows⟩ := start.run run
  have valid : Race.Valid u :=
    (always_of_invariant (fun _ _ _ hstep h => Race.Valid.step h hstep) Race.valid_initial
      order).last raced
  have won : u.winner ≠ none := by
    intro none
    have early := valid.missing none 0
    rcases follows.ended (returned 0) with h | h | h <;> simp [h] at early
  obtain ⟨i, winner⟩ := Option.ne_none_iff_exists'.mp won
  refine ⟨follows.oneCreates valid winner, ?_⟩
  rw [forall_congr' fun i => follows.ok_iff (returned i)]
  rcases Race.calm_or_crossed raced with ⟨calm, twice⟩ | ⟨crossed, once⟩ | none
  · exact ⟨fun _ => twice, fun _ i => (calm.2 i).2⟩
  · refine ⟨fun h => ?_, fun h => absurd h once⟩
    obtain ⟨-, i, missed | late⟩ := crossed.resolve_left fun c => won c.1
    · rcases follows.ended (returned i) with h' | h' | h' <;> rw [missed] at h' <;> cases h'
    · exact absurd late (h i)
  · exact absurd none won

def emptyCluster : Cluster Nat Nat := ⟨fun _ => none, fun _ => []⟩

/-- Two replicas that start with an interval between them. -/
theorem staggered_replicas :
    ∃ s, [0, 0, 1].foldlM (step (Cluster.serve fun _ _ d => d))
        ⟨fun i : Fin 2 => ensureIndex (str "items") (some i.val), emptyCluster⟩ = some s ∧
      OneCreates (str "items") (fun i : Fin 2 => some i.val) s ∧
      ∀ i, ∃ created, s.threads i = .ret (.ok created) := by
  refine ⟨_, rfl, ?_⟩
  have race := @ensure_race_iff 1 Nat Nat _ (fun _ _ d => d) (str "items")
    (fun i => some i.val) emptyCluster rfl [0, 0, 1] _ rfl fun
      | 0 => ⟨_, rfl⟩
      | 1 => ⟨_, rfl⟩
  exact ⟨race.1, race.2.mpr ⟨0, [1], rfl⟩⟩

/-- Two replicas that look for the index at the same time: the second one fails. -/
theorem simultaneous_replica_fails :
    ∃ s, [0, 1, 0, 1].foldlM (step (Cluster.serve fun _ _ d => d))
        ⟨fun i : Fin 2 => ensureIndex (str "items") (some i.val), emptyCluster⟩ = some s ∧
      s.threads 0 = .ret (.ok true) ∧
      s.threads 1 = .ret (.error (newValidation
        (str "resource_already_exists_exception: index already exists"))) :=
  ⟨_, rfl, rfl, rfl⟩

end DxCommonGo.EnsureIndexRace
