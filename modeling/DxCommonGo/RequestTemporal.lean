import DxCommonGo.RequestParams

/-! Temporal queries. `Build` checks some combinations of the bare parameters, and rendering skips
an unknown relation: an incomplete query is often left out without an error. -/

namespace DxCommonGo.RequestTemporal
open GoStrings GoMaps GoErrors NetUrl QueryModel QueryFilters PaginatedRequest
open RequestParams

/-- The three parameters of a temporal query and the column they constrain. The
bare parameters have one only if there is a default time field. -/
structure Group where
  column : Option GoString
  time : GoString
  endtime : GoString
  timerel : GoString

def bareGroup (b : Builder) : Group where
  column := if b.defaultTimeField = [] then none else some b.defaultTimeField
  time := str "time"
  endtime := str "endtime"
  timerel := str "timerel"

def fieldGroup (field : GoString) : Group where
  column := some field
  time := field ++ str "_time"
  endtime := field ++ str "_endtime"
  timerel := field ++ str "_timerel"

def groups (b : Builder) : List Group := bareGroup b :: b.allowedTimeFields.keys.map fieldGroup

variable {c : Condition}

namespace Group

def Sent (g : Group) (raw : GoString) : Prop :=
  ∃ pair ∈ split raw 38, (pairParts pair).2 ≠ [] ∧
    (Names pair g.time ∨ Names pair g.endtime ∨ Names pair g.timerel)

def Complete (g : Group) (q : Values) : Prop :=
  g.column.isSome ∧ Values.get q g.time ≠ [] ∧
    (Values.get q g.timerel = str "after" ∨ Values.get q g.timerel = str "before" ∨
      Values.get q g.timerel = str "between" ∧ Values.get q g.endtime ≠ [])

/-- What a complete group asks for: the column after the time, before it, or
between the time and the end time. -/
def condition (g : Group) (q : Values) : Option Condition :=
  g.column.bind fun column =>
    let time := Values.get q g.time
    let endtime := Values.get q g.endtime
    let timerel := Values.get q g.timerel
    if time = [] then none
    else if timerel = str "after" then some (gt column (.str time))
    else if timerel = str "before" then some (lt column (.str time))
    else if timerel = str "between" ∧ endtime ≠ [] then
      some (between column (.str time) (.str endtime))
    else none

theorem condition_isSome_iff (g : Group) (q : Values) : (g.condition q).isSome ↔ g.Complete q := by
  unfold condition Complete
  cases g.column with
  | none => simp
  | some column =>
    simp only [Option.bind_some, Option.isSome_some, true_and]
    split_ifs with empty after before between
    · simp [empty]
    · simp [empty, after]
    · simp [empty, before]
    · simp [empty, between]
    · simpa [empty, after, before] using between

theorem temporalCondition_of_condition {g : Group} {q : Values} {column : GoString}
    (hcolumn : g.column = some column) (h : g.condition q = some c) :
    Values.get q g.time ≠ [] ∧ Values.get q g.timerel ≠ [] ∧
      temporalCondition ⟨column, Values.get q g.timerel, .str (Values.get q g.time),
        .str (Values.get q g.endtime)⟩ = some c := by
  simp only [condition, hcolumn, Option.bind_some] at h
  split_ifs at h with empty after before complete
  · refine ⟨empty, by simp [after, str], ?_⟩
    rw [← h, after]
    rfl
  · refine ⟨empty, by simp [before, str], ?_⟩
    rw [← h, before]
    rfl
  · refine ⟨empty, by simp [complete.1, str], ?_⟩
    rw [← h, complete.1]
    rfl

end Group

theorem defaultTemporal_of_condition {b : Builder} {q : Values} {ts : List TemporalFilter}
    (h : b.defaultTemporal q = .ok ts) (hc : (bareGroup b).condition q = some c) :
    ∃ t ∈ ts, temporalCondition t = some c := by
  by_cases unset : b.defaultTimeField = []
  · simp [Group.condition, bareGroup, unset] at hc
  · have hcolumn : (bareGroup b).column = some b.defaultTimeField := by simp [bareGroup, unset]
    obtain ⟨time, timerel, rendered⟩ := Group.temporalCondition_of_condition hcolumn hc
    simp only [bareGroup] at time timerel rendered
    simp only [Builder.defaultTemporal, unset, time, timerel, ↓reduceIte, and_false, ne_eq,
      not_false_eq_true] at h
    cases h
    exact ⟨_, List.mem_singleton_self _, rendered⟩

theorem fieldTemporal_of_condition {q : Values} {field : GoString}
    (hc : (fieldGroup field).condition q = some c) :
    ∃ t, Builder.fieldTemporal q field = some t ∧ temporalCondition t = some c := by
  obtain ⟨-, timerel, rendered⟩ := Group.temporalCondition_of_condition rfl hc
  refine ⟨_, ?_, rendered⟩
  exact if_neg timerel

theorem condition_mem {lower : GoString → GoString} {ord : RangeOrder} {b : Builder} {p : Request}
    (h : b.build lower ord = .ok p) (ord' : RangeOrder) {g : Group} (hg : g ∈ groups b)
    (hc : g.condition (parseQuery b.rawQuery) = some c) : c ∈ p.conditions ord' := by
  obtain ⟨-, htemporal, -, -⟩ := Builder.build_eq_ok h
  obtain ⟨out, hout, hall⟩ := map_eq_ok.mp htemporal
  have extracted : ∃ t ∈ p.temporal, temporalCondition t = some c := by
    rw [← hall]
    rcases List.mem_cons.mp hg with rfl | hg
    · obtain ⟨t, ht, rendered⟩ := defaultTemporal_of_condition hout hc
      exact ⟨t, List.mem_append_left _ ht, rendered⟩
    · obtain ⟨field, hfield, rfl⟩ := List.mem_map.mp hg
      obtain ⟨t, ht, rendered⟩ := fieldTemporal_of_condition hc
      obtain ⟨e, he, rfl⟩ := List.mem_map.mp (mem_range_keys.mpr (AList.mem_keys.mpr hfield))
      exact ⟨t, List.mem_append_right _ (List.mem_filterMap.mpr ⟨e, he, ht⟩), rendered⟩
  exact Request.mem_conditions.mpr (.inr (.inr extracted))

/-- Every temporal query of a built request is applied exactly when each one that was
sent is complete. -/
theorem build_temporal_iff {lower : GoString → GoString} {ord : RangeOrder} {b : Builder}
    {p : Request} (h : b.build lower ord = .ok p) (ord' : RangeOrder) :
    (∀ g ∈ groups b, g.Sent b.rawQuery →
      ∃ c ∈ p.conditions ord', g.condition (parseQuery b.rawQuery) = some c) ↔
    ∀ g ∈ groups b, g.Sent b.rawQuery → g.Complete (parseQuery b.rawQuery) := by
  constructor
  · intro applied g hg sent
    obtain ⟨c, -, hc⟩ := applied g hg sent
    exact (g.condition_isSome_iff _).mp (by simp [hc])
  · intro complete g hg sent
    obtain ⟨c, hc⟩ := Option.isSome_iff_exists.mp
      ((g.condition_isSome_iff _).mpr (complete g hg sent))
    exact ⟨c, condition_mem h ord' hg hc, hc⟩

def eventsBuilder (raw : GoString) : Builder where
  rawQuery := raw
  defaultTimeField := str "created_at"
  allowedTimeFields := toSet [str "seen"]

def completeQuery : GoString :=
  str "timerel=after&time=5&seen_timerel=between&seen_time=1&seen_endtime=9"

theorem build_temporal_complete : ∃ p,
    (eventsBuilder completeQuery).build id .listed = .ok p ∧
    ∀ g ∈ groups (eventsBuilder completeQuery), g.Sent completeQuery →
      ∃ c ∈ p.conditions .backwards, g.condition (parseQuery completeQuery) = some c := by
  obtain ⟨p, hp⟩ : ∃ p, (eventsBuilder completeQuery).build id .listed = .ok p := ⟨_, rfl⟩
  refine ⟨p, hp, (build_temporal_iff hp .backwards).mpr fun g hg _ => ?_⟩
  rcases List.mem_cons.mp hg with rfl | hg
  · exact ⟨rfl, by decide, .inl (by decide)⟩
  · rcases List.mem_singleton.mp hg with rfl
    exact ⟨rfl, by decide, .inr (.inr ⟨by decide, by decide⟩)⟩

/-- A time without a relation, an unknown relation and a relation without a time: the
first two are left out, the third compares with the empty text. -/
theorem incomplete_accepted :
    (∃ p, (eventsBuilder (str "seen_time=5")).build id .listed = .ok p ∧
      (fieldGroup (str "seen")).Sent (str "seen_time=5") ∧ p.conditions .listed = []) ∧
    (∃ p, (eventsBuilder (str "time=5&timerel=during")).build id .listed = .ok p ∧
      (bareGroup (eventsBuilder [])).Sent (str "time=5&timerel=during") ∧
      p.conditions .listed = []) ∧
    ∃ p, (eventsBuilder (str "seen_timerel=after")).build id .listed = .ok p ∧
      (fieldGroup (str "seen")).Sent (str "seen_timerel=after") ∧
      p.conditions .listed = [gt (str "seen") (.str [])] := by
  refine ⟨⟨_, rfl, ⟨str "seen_time=5", ?_⟩, rfl⟩, ⟨_, rfl, ⟨str "time=5", ?_⟩, rfl⟩,
    _, rfl, ⟨str "seen_timerel=after", ?_⟩, rfl⟩
  · decide
  · decide
  · decide

end DxCommonGo.RequestTemporal
