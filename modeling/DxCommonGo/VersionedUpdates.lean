import DxCommonGo.DaoWrites
import DxCommonGo.Runs
import DxCommonGo.TableServer
import DxCommonGo.Threads

/-! Optimistic locking. Clients call `updateVersioned` on one row, in any interleaving; a call
changes the row only at the version it expects and moves the version on. -/

namespace DxCommonGo.VersionedUpdates
open GoStrings GoMaps QueryModel QueryBuilder PgxPool BaseDao
open QueryMeaning Runs Threads TableSemantics TableServer

structure Call where
  dao : BaseDAO
  ord : RangeOrder
  set : GoMap Value
  conditions : List Condition
  expected : Int

def Call.program {T : Type} (v : GoString) (c : Call) : GoProg T (Result T) :=
  c.dao.updateVersioned c.ord c.set c.conditions v c.expected

def Call.update (v : GoString) (c : Call) : UpdateQuery where
  table := c.dao.tableName
  set := c.set
  increment := [v]
  conditions := c.conditions ++ [QueryModel.eq v (.int c.expected)]
  returning := [str "*"]

variable {ι D T ω : Type}

def Call.write (E : Engine D) (v : GoString) (c : Call) : Write D :=
  updateWrite E c.ord (c.update v)

def applied (E : Engine D) (v : GoString) (calls : ι → Call) (row : Row D) (wins : List ι) :
    Row D :=
  wins.foldl (fun r i => updated E ((calls i).update v) r) row

/-- The server carries out the statement of every call; the calls leave the
version to `updateVersioned`, and no other row satisfies their conditions. -/
structure Versioned (B : Backend D T ω) (v : GoString) (calls : ι → Call)
    (others : List (Row D)) : Prop where
  returns : ∀ i, B.Returns ((calls i).write B.engine v)
  unset : ∀ i, v ∉ (calls i).set
  pinned : ∀ i, Pins B.engine.toDatabase (calls i).conditions others

theorem updated_version {E : Engine D} {v : GoString} {c : Call} (unset : v ∉ c.set) {row : Row D}
    {n : Int} (version : row v = some (E.encode (.int n))) :
    updated E (c.update v) row v = some (E.encode (.int (n + 1))) := by
  have absent : c.set.lookup v = none := AList.lookup_eq_none.mpr unset
  simp [updated, Call.update, absent, version, E.succ_int]

theorem satisfies_guarded {E : Engine D} {v : GoString} (c : Call) {row : Row D} {n : Int}
    (version : row v = some (E.encode (.int n))) :
    satisfies E.toDatabase (c.write E v).conditions row =
      (satisfies E.toDatabase c.conditions row && decide (c.expected = n)) := by
  change satisfies E.toDatabase (c.conditions ++ [QueryModel.eq v (.int c.expected)]) row = _
  rw [satisfies_append]
  congr 1
  rw [Bool.eq_iff_iff, satisfies_eq (by simp), decide_eq_true_eq, version]
  constructor
  · exact fun same => (E.int_injective n c.expected (Option.some.inj same)).symm
  · rintro rfl
    rfl

theorem pins_guarded {E : Engine D} {v : GoString} {c : Call} {others : List (Row D)}
    (h : Pins E.toDatabase c.conditions others) :
    Pins E.toDatabase (c.write E v).conditions others := by
  intro r hr
  change satisfies E.toDatabase (c.conditions ++ [QueryModel.eq v (.int c.expected)]) r = false
  rw [satisfies_append, h r hr, Bool.false_and]

def Finds (E : Engine D) (c : Call) (row : Row D) (n : Int) : Bool :=
  satisfies E.toDatabase c.conditions row && decide (c.expected = n)

section Calls

variable {B : Backend D T ω} {v : GoString} {calls : ι → Call} {pre post : List (Row D)}

theorem call_step (h : Versioned B v calls (pre ++ post)) (i : ι) {w : World ω} {row : Row D}
    {n : Int} (hrows : B.rows w.server = pre ++ row :: post)
    (version : row v = some (B.engine.encode (.int n))) :
    ∃ op next, (calls i).program v = .call op next ∧
      (Finds B.engine (calls i) row n = true →
        next (handler B.server op w).1 =
          .ret (.ok (B.scan (updated B.engine ((calls i).update v) row))) ∧
        B.rows (handler B.server op w).2.server =
          pre ++ updated B.engine ((calls i).update v) row :: post) ∧
      (Finds B.engine (calls i) row n = false →
        next (handler B.server op w).1 = .ret (.error errStaleVersion) ∧
        B.rows (handler B.server op w).2.server = pre ++ row :: post) := by
  obtain ⟨out, w', outputs, answered, after⟩ := handler_returns (calls i).dao.db w (h.returns i)
  have pinned := pins_guarded (v := v) (h.pinned i)
  have guarded := satisfies_guarded (calls i) version
  rw [hrows, Write.matched, filter_pinned pinned, guarded] at outputs
  rw [hrows, Write.after_pinned pinned, guarded] at after
  refine ⟨.query (calls i).dao.db (render ((calls i).write B.engine v).built.1)
    ((calls i).write B.engine v).built.2, _, rfl, ?_, ?_⟩
  · intro finds
    rw [Finds] at finds
    rw [finds] at outputs after
    have single := List.perm_singleton.mp outputs
    subst single
    rw [answered]
    exact ⟨rfl, after⟩
  · intro misses
    rw [Finds] at misses
    rw [misses] at outputs after
    have empty := List.perm_nil.mp outputs
    subst empty
    rw [answered]
    exact ⟨rfl, after⟩

/-- The calls in `wins` have succeeded, in this order: they expected the versions from the first one
on, the row is what they made of it, and every other call is still to come or has found the row
stale. -/
structure Serial (B : Backend D T ω) (v : GoString) (calls : ι → Call) (pre post : List (Row D))
    (row : Row D) (n : Int) (wins : List ι) (s : System ι Op (Reply T) (Result T) (World ω)) :
    Prop where
  rows : B.rows s.world.server = pre ++ applied B.engine v calls row wins :: post
  version : applied B.engine v calls row wins v = some (B.engine.encode (.int (n + wins.length)))
  inOrder : wins.map (fun i => (calls i).expected) =
    (List.range wins.length).map fun k : Nat => n + (k : Int)
  won : ∀ i ∈ wins, ∃ before, before ++ [i] <+: wins ∧
    s.threads i = .ret (.ok (B.scan (applied B.engine v calls row (before ++ [i]))))
  others : ∀ i, i ∉ wins →
    s.threads i = (calls i).program v ∨ s.threads i = .ret (.error errStaleVersion)

variable {row : Row D} {n : Int} {wins : List ι} {w : World ω}

theorem Serial.unique {s : System ι Op (Reply T) (Result T) (World ω)}
    (h : Serial B v calls pre post row n wins s) :
    ∀ i ∈ wins, ∀ j ∈ wins, (calls i).expected = (calls j).expected → i = j := by
  have distinct : (wins.map fun i => (calls i).expected).Nodup := by
    rw [h.inOrder]
    refine List.nodup_range.map ?_
    intro k k' same
    simpa using same
  exact fun i hi j hj same => List.inj_on_of_nodup_map distinct hi hj same

theorem applied_concat (E : Engine D) (row : Row D) (wins : List ι) (i : ι) :
    applied E v calls row (wins ++ [i]) =
      updated E ((calls i).update v) (applied E v calls row wins) := by
  rw [applied, List.foldl_append]
  rfl

variable [DecidableEq ι] {s : System ι Op (Reply T) (Result T) (World ω)} {i : ι}

theorem Serial.win (h : Serial B v calls pre post row n wins s) (fresh : i ∉ wins)
    (unset : v ∉ (calls i).set) {w' : World ω}
    (finds : Finds B.engine (calls i) (applied B.engine v calls row wins) (n + wins.length) = true)
    (hrows : B.rows w'.server = pre ++ applied B.engine v calls row (wins ++ [i]) :: post) :
    Serial B v calls pre post row n (wins ++ [i])
      ⟨Function.update s.threads i
        (.ret (.ok (B.scan (applied B.engine v calls row (wins ++ [i]))))), w'⟩ := by
  have expected : (calls i).expected = n + wins.length := by
    rw [Finds, Bool.and_eq_true, decide_eq_true_eq] at finds
    exact finds.2
  refine ⟨hrows, ?_, ?_, ?_, ?_⟩
  · have moved : n + (wins.length : Int) + 1 = n + ((wins ++ [i]).length : Int) := by
      simp only [List.length_append, List.length_singleton]
      omega
    rw [applied_concat, updated_version unset h.version, moved]
  · rw [List.map_append, h.inOrder, List.length_append, List.length_singleton, List.range_succ,
      List.map_append, List.map_singleton, List.map_singleton, expected]
  · intro j hj
    rcases List.mem_append.mp hj with hj | hj
    · obtain ⟨before, hprefix, hthread⟩ := h.won j hj
      have other : j ≠ i := fun same => fresh (same ▸ hj)
      refine ⟨before, hprefix.trans (List.prefix_append wins [i]), ?_⟩
      simpa only [Function.update_of_ne other] using hthread
    · rw [List.mem_singleton] at hj
      subst hj
      exact ⟨wins, List.prefix_rfl, Function.update_self j _ s.threads⟩
  · intro j hj
    rw [List.mem_append, List.mem_singleton, not_or] at hj
    simpa only [Function.update_of_ne hj.2] using h.others j hj.1

theorem Serial.stale (h : Serial B v calls pre post row n wins s) (fresh : i ∉ wins) {w' : World ω}
    (hrows : B.rows w'.server = pre ++ applied B.engine v calls row wins :: post) :
    Serial B v calls pre post row n wins
      ⟨Function.update s.threads i (.ret (.error errStaleVersion)), w'⟩ := by
  refine ⟨hrows, h.version, h.inOrder, ?_, ?_⟩
  · intro j hj
    have other : j ≠ i := fun same => fresh (same ▸ hj)
    simpa only [Function.update_of_ne other] using h.won j hj
  · intro j hj
    by_cases same : j = i
    · subst same
      exact .inr (Function.update_self j _ s.threads)
    · simpa only [Function.update_of_ne same] using h.others j hj

def Settles (B : Backend D T ω) (s : System ι Op (Reply T) (Result T) (World ω)) (i : ι)
    (t : System ι Op (Reply T) (Result T) (World ω)) : Prop :=
  (∃ x, t.threads i = .ret (.ok x)) ∨
  t.threads i = .ret (.error errStaleVersion) ∧ B.rows t.world.server = B.rows s.world.server

theorem Serial.step (versioned : Versioned B v calls (pre ++ post))
    (h : Serial B v calls pre post row n wins s)
    {t : System ι Op (Reply T) (Result T) (World ω)}
    (hstep : Threads.step (handler B.server) s i = some t) :
    (∃ wins', Serial B v calls pre post row n wins' t) ∧ Settles B s i t := by
  obtain ⟨op, next, hthread, rfl⟩ := step_eq_some hstep
  have fresh : i ∉ wins := by
    intro hi
    obtain ⟨before, -, done⟩ := h.won i hi
    rw [hthread] at done
    cases done
  have pending : (calls i).program v = .call op next := by
    rcases h.others i fresh with pending | done
    · rw [← pending, hthread]
    · rw [hthread] at done
      cases done
  obtain ⟨op', next', hprogram, won, lost⟩ := call_step versioned i h.rows h.version
  rw [pending] at hprogram
  cases hprogram
  cases finds : Finds B.engine (calls i) (applied B.engine v calls row wins) (n + wins.length) with
  | true =>
    obtain ⟨returned, hrows⟩ := won finds
    rw [← applied_concat] at returned hrows
    rw [returned]
    refine ⟨⟨wins ++ [i], h.win fresh (versioned.unset i) finds hrows⟩, .inl ?_⟩
    exact ⟨B.scan (applied B.engine v calls row (wins ++ [i])), Function.update_self i _ s.threads⟩
  | false =>
    obtain ⟨returned, hrows⟩ := lost finds
    rw [returned]
    refine ⟨⟨wins, h.stale fresh hrows⟩, .inr ⟨Function.update_self i _ s.threads, ?_⟩⟩
    rw [hrows, h.rows]

end Calls

def item : Row Value :=
  rowOf [str "id", str "name", str "version"]
    [some (.str (str "7")), some (.str (str "old")), some (.int 1)]

end DxCommonGo.VersionedUpdates
