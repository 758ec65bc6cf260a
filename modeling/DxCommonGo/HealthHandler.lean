import DxCommonGo.NetHttp

/-! Package `health`. `Health` and `Ready` ask every checker, in whatever order the map is visited,
and fold what they hear into one answer. -/

namespace DxCommonGo.HealthHandler
open GoStrings GoMaps NetHttp

structure ServiceStatus where
  name : GoString
  status : GoString
  message : GoString := []
  duration : Int := 0
  deriving DecidableEq

structure HealthStatus where
  status : GoString
  timestamp : Int
  services : List ServiceStatus

structure ReadyResponse where
  ready : Bool
  services : GoMap GoString

def observe (status : GoString) (svc : ServiceStatus) : GoString :=
  if svc.status ≠ str "healthy" then
    if svc.status = str "unhealthy" then str "unhealthy" else str "degraded"
  else status

def statusServiceUnavailable : Status := ⟨503, by omega⟩

def Loop.health : Nat := 1

def Loop.ready : Nat := 2

section Handlers

-- what each registered checker returns
variable (checks : GoMap ServiceStatus)

def healthStatus (ord : RangeOrder) (now : Int) : HealthStatus :=
  let services := (range ord Loop.health checks).map Prod.snd
  ⟨services.foldl observe (str "healthy"), now, services⟩

def healthCode (status : GoString) : Status :=
  if status = str "unhealthy" then statusServiceUnavailable
  else if status = str "degraded" then statusOK
  else statusOK

def health (encode : HealthStatus → Bytes) (ord : RangeOrder) (now : Int) : List Call :=
  let status := healthStatus checks ord now
  writeJSON (healthCode status.status) (encode status)

def readyResponse (ord : RangeOrder) : ReadyResponse :=
  (range ord Loop.ready checks).foldl
    (fun r e => ⟨r.ready && e.2.status = str "healthy", r.services.insert e.1 e.2.status⟩) ⟨true, ∅⟩

def ready (encode : ReadyResponse → Bytes) (ord : RangeOrder) : List Call :=
  let r := readyResponse checks ord
  writeJSON (if !r.ready then statusServiceUnavailable else statusOK) (encode r)

end Handlers

/-- How bad a status is. What is none of the three texts counts as degraded. -/
inductive Severity where
  | healthy | degraded | unhealthy
  deriving DecidableEq

namespace Severity

def rank : Severity → Nat
  | .healthy => 0
  | .degraded => 1
  | .unhealthy => 2

theorem rank_injective : Function.Injective rank := by
  intro a b same
  cases a <;> cases b <;> first | rfl | cases same

instance : LinearOrder Severity := LinearOrder.lift' rank rank_injective

instance : OrderBot Severity where
  bot := .healthy
  bot_le a := Nat.zero_le a.rank

def ofText (s : GoString) : Severity :=
  if s = str "healthy" then .healthy else if s = str "unhealthy" then .unhealthy else .degraded

def text : Severity → GoString
  | .healthy => str "healthy"
  | .degraded => str "degraded"
  | .unhealthy => str "unhealthy"

end Severity

def ServiceStatus.severity (svc : ServiceStatus) : Severity := .ofText svc.status

def worst (svcs : List ServiceStatus) : Severity := (svcs.map ServiceStatus.severity).foldr max ⊥

section Fold

theorem observe_eq (status : GoString) (svc : ServiceStatus) :
    observe status svc = if svc.severity = .healthy then status else svc.severity.text := by
  unfold observe ServiceStatus.severity Severity.ofText
  split_ifs <;> simp_all [Severity.text]

theorem foldl_observe (status : GoString) (svcs : List ServiceStatus) :
    (∀ svc ∈ svcs, svc.severity = .healthy) ∧ svcs.foldl observe status = status ∨
      ∃ svc ∈ svcs, svc.severity ≠ .healthy ∧ svcs.foldl observe status = svc.severity.text := by
  induction svcs generalizing status with
  | nil => exact .inl ⟨by simp, rfl⟩
  | cons svc svcs ih =>
    rw [List.foldl_cons]
    rcases ih (observe status svc) with ⟨rest, kept⟩ | ⟨other, listed, sick, last⟩
    · rw [kept, observe_eq]
      split_ifs with here
      · exact .inl ⟨List.forall_mem_cons.mpr ⟨here, rest⟩, rfl⟩
      · exact .inr ⟨svc, List.mem_cons_self, here, rfl⟩
    · exact .inr ⟨other, List.mem_cons_of_mem _ listed, sick, last⟩

theorem worst_cons (svc : ServiceStatus) (svcs : List ServiceStatus) :
    worst (svc :: svcs) = max svc.severity (worst svcs) := rfl

theorem le_worst {svcs : List ServiceStatus} {svc : ServiceStatus} (h : svc ∈ svcs) :
    svc.severity ≤ worst svcs := by
  induction svcs with
  | nil => cases h
  | cons other svcs ih =>
    rw [worst_cons]
    rcases List.mem_cons.mp h with rfl | h
    · exact le_max_left _ _
    · exact (ih h).trans (le_max_right _ _)

theorem worst_mem (svcs : List ServiceStatus) :
    worst svcs = .healthy ∨ ∃ svc ∈ svcs, svc.severity = worst svcs := by
  induction svcs with
  | nil => exact .inl rfl
  | cons svc svcs ih =>
    rw [worst_cons]
    rcases max_choice svc.severity (worst svcs) with first | later
    · exact .inr ⟨svc, List.mem_cons_self, first.symm⟩
    · rw [later]
      rcases ih with none | ⟨other, listed, same⟩
      · exact .inl none
      · exact .inr ⟨other, List.mem_cons_of_mem _ listed, same⟩

end Fold

def Mixed (svcs : List ServiceStatus) : Prop :=
  (∃ svc ∈ svcs, svc.severity = .unhealthy) ∧ ∃ svc ∈ svcs, svc.severity = .degraded

def results (checks : GoMap ServiceStatus) : List ServiceStatus := (pairs checks).map Prod.snd

structure Reports (checks : GoMap ServiceStatus) (status : GoString) (code : Status) : Prop where
  status : status = (worst (results checks)).text
  code : code = statusServiceUnavailable ↔ ∃ svc ∈ results checks, svc.severity = .unhealthy

section Answers

variable {checks : GoMap ServiceStatus}

theorem mem_services (ord : RangeOrder) (site : Nat) (svc : ServiceStatus) :
    svc ∈ (range ord site checks).map Prod.snd ↔ svc ∈ results checks :=
  ((range_perm ord site checks).map Prod.snd).mem_iff

theorem healthCode_eq (a : Severity) :
    healthCode a.text = statusServiceUnavailable ↔ a = .unhealthy := by
  cases a <;> decide

theorem unhealthy_iff_worst (svcs : List ServiceStatus) :
    (∃ svc ∈ svcs, svc.severity = .unhealthy) ↔ worst svcs = .unhealthy := by
  constructor
  · rintro ⟨svc, listed, sick⟩
    have bound := le_worst listed
    rw [sick] at bound
    cases h : worst svcs with
    | unhealthy => rfl
    | _ =>
      rw [h] at bound
      exact absurd bound (by decide)
  · intro sick
    rcases worst_mem svcs with well | ⟨svc, listed, same⟩
    · rw [well] at sick
      cases sick
    · exact ⟨svc, listed, same.trans sick⟩

theorem status_eq_worst (unmixed : ¬Mixed (results checks)) (ord : RangeOrder) (now : Int) :
    (healthStatus checks ord now).status = (worst (results checks)).text := by
  rcases foldl_observe (str "healthy") ((range ord Loop.health checks).map Prod.snd) with
    ⟨well, kept⟩ | ⟨svc, listed, sick, last⟩
  · have none : worst (results checks) = .healthy := by
      rcases worst_mem (results checks) with none | ⟨svc, listed, same⟩
      · exact none
      · rw [← same]
        exact well svc ((mem_services ord _ svc).mpr listed)
    rw [none]
    exact kept
  · rw [mem_services] at listed
    have same : svc.severity = worst (results checks) := by
      have bound := le_worst listed
      cases here : svc.severity with
      | healthy => exact absurd here sick
      | unhealthy => exact ((unhealthy_iff_worst _).mp ⟨svc, listed, here⟩).symm
      | degraded =>
        rw [here] at bound
        cases there : worst (results checks) with
        | healthy =>
          rw [there] at bound
          exact absurd bound (by decide)
        | degraded => rfl
        | unhealthy =>
          exact absurd ⟨(unhealthy_iff_worst _).mpr there, svc, listed, here⟩ unmixed
    rw [← same]
    exact last

theorem not_mixed_of_reports (now : Int)
    (h : ∀ ord, Reports checks (healthStatus checks ord now).status
      (healthCode (healthStatus checks ord now).status)) : ¬Mixed (results checks) := by
  rintro ⟨sick, svc, listed, degraded⟩
  obtain ⟨e, he, rfl⟩ := List.mem_map.mp listed
  obtain ⟨ord, last⟩ := exists_last he
  obtain ⟨rest, visited⟩ := last Loop.health
  have seen : (healthStatus checks ord now).status = str "degraded" := by
    simp only [healthStatus, visited, List.map_append, List.map_cons, List.map_nil,
      List.foldl_append, List.foldl_cons, List.foldl_nil, observe_eq, degraded]
    rfl
  have reported := (h ord).status
  rw [seen, (unhealthy_iff_worst _).mp sick] at reported
  exact absurd reported (by decide)

theorem status_healthy_iff (ord : RangeOrder) (now : Int) :
    (healthStatus checks ord now).status = str "healthy" ↔
      ∀ svc ∈ results checks, svc.severity = .healthy := by
  simp only [← mem_services ord Loop.health]
  rcases foldl_observe (str "healthy") ((range ord Loop.health checks).map Prod.snd) with
    ⟨well, kept⟩ | ⟨svc, listed, sick, last⟩
  · exact iff_of_true kept well
  · refine iff_of_false (fun same => ?_) fun well => sick (well svc listed)
    have text : svc.severity.text = str "healthy" := last.symm.trans same
    revert sick text
    cases svc.severity <;> decide

theorem readyResponse_ready (ord : RangeOrder) :
    (readyResponse checks ord).ready = true ↔
      ∀ svc ∈ results checks, svc.severity = .healthy := by
  have healthy (svc : ServiceStatus) : svc.severity = .healthy ↔ svc.status = str "healthy" := by
    unfold ServiceStatus.severity Severity.ofText
    split_ifs <;> simp_all
  have loop : ∀ (es : List (GoString × ServiceStatus)) (r : ReadyResponse),
      (es.foldl (fun r e => ReadyResponse.mk (r.ready && e.2.status = str "healthy")
        (r.services.insert e.1 e.2.status)) r).ready = true ↔
        r.ready = true ∧ ∀ e ∈ es, e.2.status = str "healthy" := by
    intro es
    induction es with
    | nil => simp
    | cons e es ih =>
      intro r
      rw [List.foldl_cons, ih, List.forall_mem_cons, Bool.and_eq_true, decide_eq_true_eq, and_assoc]
  rw [readyResponse, loop]
  simp only [true_and, ← mem_services ord Loop.ready, List.forall_mem_map, healthy]

end Answers

/-- `Health` reports the worst status in every order exactly if no unhealthy service
stands beside a degraded one; `Ready` is ready in any order exactly if `Health` reports
healthy in any order. -/
theorem health_worst_iff (checks : GoMap ServiceStatus) (now : Int)
    (encode : HealthStatus → Bytes) (encodeReady : ReadyResponse → Bytes) :
    ((∀ ord, Reports checks (healthStatus checks ord now).status
        (respond ∅ (health checks encode ord now)).status) ↔ ¬Mixed (results checks)) ∧
      ∀ ord ord', ((readyResponse checks ord').ready = true ↔
          (healthStatus checks ord now).status = str "healthy") ∧
        ((respond ∅ (ready checks encodeReady ord')).status = statusOK ↔
          (healthStatus checks ord now).status = str "healthy") := by
  have answered (ord : RangeOrder) : (respond ∅ (health checks encode ord now)).status =
      healthCode (healthStatus checks ord now).status := by
    refine status_writeJSON ?_ ∅ _
    unfold healthCode
    split_ifs <;> rfl
  refine ⟨⟨fun h => ?_, fun unmixed ord => ?_⟩, fun ord ord' => ?_⟩
  · simp only [answered] at h
    exact not_mixed_of_reports now h
  · rw [answered, status_eq_worst unmixed]
    exact ⟨rfl, (healthCode_eq _).trans (unhealthy_iff_worst _).symm⟩
  · have same := (@readyResponse_ready checks ord').trans (status_healthy_iff ord now).symm
    refine ⟨same, ?_⟩
    have readiness : (respond ∅ (ready checks encodeReady ord')).status =
        if !(readyResponse checks ord').ready then statusServiceUnavailable else statusOK := by
      refine status_writeJSON ?_ ∅ _
      split_ifs <;> rfl
    rw [← same, readiness]
    cases (readyResponse checks ord').ready <;> decide

def pairOf (a b : String) : GoMap ServiceStatus :=
  ofPairs [(str "db", ⟨str "db", str a, [], 0⟩), (str "cache", ⟨str "cache", str b, [], 0⟩)]

/-- The database is down and the cache is slow: visited in this order, the two are
reported as degraded, with status 200. -/
theorem unhealthy_overwritten :
    (healthStatus (pairOf "unhealthy" "degraded") .listed 0).status = str "degraded" ∧
      (respond ∅ (health (pairOf "unhealthy" "degraded") (fun _ => []) .listed 0)).status =
        statusOK ∧
      worst (results (pairOf "unhealthy" "degraded")) = .unhealthy := by
  decide +kernel

end DxCommonGo.HealthHandler
