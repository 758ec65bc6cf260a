import DxCommonGo.MigrationPhases
import DxCommonGo.RelyGuarantee

/-! `MigrateIndex` while its requests can fail: a request is answered, not carried out, or carried
out with the response lost; a copy can be cut off and go on. A search can see every state in
between. -/

namespace DxCommonGo.IndexMigration
open GoStrings GoMaps DxErrors Programs Threads Runs RelyGuarantee EsClient IndexLifecycle
open EsCluster MigrationPhases

variable {β D : Type}

structure Copy where
  src : GoString
  dst : GoString
  script : Option GoString

structure World (β D : Type) where
  cluster : Cluster β D
  copying : List Copy := []

inductive Fate where
  | answered
  | refused (failure : Failure)
  | lost (failure : Failure)
  | cut (failure : Failure) (ids : List GoString)

def World.progress [Inhabited β] (scripts : Scripts D) (w : World β D) (copy : Copy)
    (ids : List GoString) : World β D :=
  let entries := (pairs (w.cluster.docs copy.src)).filter fun e => ids.contains e.1
  if (w.cluster.indices copy.src).isNone then w
  else { w with cluster := w.cluster.copy scripts entries copy.dst copy.script }

def isCopy : Request β → Bool
  | .reindex _ _ _ => true
  | _ => false

def answer [Inhabited β] (scripts : Scripts D) :
    (r : Request β) → Fate → World β D → Option (Reply r × World β D)
  | r, .answered, w =>
    some ((w.cluster.serve scripts r).1, { w with cluster := (w.cluster.serve scripts r).2 })
  | _, .refused failure, w => some (.error failure, w)
  | r, .lost failure, w =>
    some (.error failure, { w with cluster := (w.cluster.serve scripts r).2 })
  | .reindex src dst script, .cut failure ids, w =>
    some (.error failure, { w.progress scripts ⟨src, dst, script⟩ ids with
      copying := w.copying ++ [⟨src, dst, script⟩] })
  | _, .cut _ _, _ => none

def env [Inhabited β] (scripts : Scripts D) :
    Env Unit (Request β) Reply (Option GoError) Fate (Nat × GoString) (World β D) where
  answer _ := answer scripts
  act e w := (w.copying[e.1]?).map fun copy => w.progress scripts copy [e.2]
  again _ _ := none

variable (ord : RangeOrder) {done : List GoString}

section Safety

variable (m : Migration β D)

/-- A search is exact, and a copy in the background is seen by nobody. While there is none, nothing
changes between two requests. -/
def contract : Contract Unit (Request β) (World β D) where
  inv w := m.Exact w.cluster ∧
    (w.copying ≠ [] → m.Unswapped w.cluster ∧ ∀ copy ∈ w.copying, copy.dst = m.newIndex)
  rely _ w w' := w.copying = [] → w' = w
  pre _ _ _ := True

variable {m} {c : Cluster β D}

theorem inv_of_exact (exact : m.Exact c) : (contract m).inv ⟨c, []⟩ :=
  ⟨exact, fun some => absurd rfl some⟩

theorem allows_of_exact {w : World β D} (exact : m.Exact c) : (contract m).Allows () w ⟨c, []⟩ :=
  ⟨inv_of_exact exact, fun j ne => absurd (Subsingleton.elim j ()) ne⟩

variable [Inhabited β]

theorem unswapped_progress {w : World β D} (h : m.Unswapped w.cluster) {copy : Copy}
    (hidden : copy.dst = m.newIndex) (ids : List GoString) :
    m.Unswapped (w.progress m.scripts copy ids).cluster := by
  unfold World.progress
  split_ifs
  · exact h
  · rw [hidden]
    exact h.setIndex _

theorem coherent : Coherent (env m.scripts) (contract m) fun _ _ _ => True where
  refl _ _ _ := rfl
  trans _ u v w h h' none := by
    have same := h none
    subst same
    exact h' none
  act e w w' inv acted := by
    obtain ⟨copy, pending, rfl⟩ := Option.map_eq_some_iff.mp acted
    have member : copy ∈ w.copying := List.mem_of_getElem? pending
    have busy : w.copying ≠ [] := List.ne_nil_of_mem member
    obtain ⟨unswapped, hidden⟩ := inv.2 busy
    have kept := unswapped_progress unswapped (hidden copy member) [e.2]
    have copying : (w.progress m.scripts copy [e.2]).copying = w.copying := by
      unfold World.progress
      split_ifs <;> rfl
    refine ⟨⟨kept.exact, fun _ => ⟨kept, by rwa [copying]⟩⟩, fun _ none => absurd none busy⟩
  again _ _ _ _ _ _ again := nomatch again

theorem safe_request {γ : Type} {post : γ → World β D → Prop} {r : Request β}
    {f : Reply r → EsProg β γ} (plain : isCopy r = false)
    (before : m.Exact c) (after : m.Exact (c.serve m.scripts r).2)
    (answered : Safe (env m.scripts) (contract m) () post (f (c.serve m.scripts r).1)
      ⟨(c.serve m.scripts r).2, []⟩)
    (refused : ∀ failure, Safe (env m.scripts) (contract m) () post (f (.error failure)) ⟨c, []⟩)
    (lost : ∀ failure, Safe (env m.scripts) (contract m) () post (f (.error failure))
      ⟨(c.serve m.scripts r).2, []⟩) :
    Safe (env m.scripts) (contract m) () post (perform r >>= f) ⟨c, []⟩ := by
  intro w' _ same
  obtain rfl := same rfl
  refine ⟨trivial, fun x reply w'' h => ?_⟩
  cases x with
  | answered =>
    cases h
    exact ⟨allows_of_exact after, answered⟩
  | refused failure =>
    cases h
    exact ⟨allows_of_exact before, refused failure⟩
  | lost failure =>
    cases h
    exact ⟨allows_of_exact after, lost failure⟩
  | cut failure ids =>
    cases r with
    | reindex src dst script => cases plain
    | _ => cases h

theorem safe_error {γ : Type} {post : Option γ → World β D → Prop} (err : γ) (w : World β D)
    (ok : ∀ w, post (some err) w) :
    Safe (env m.scripts) (contract m) () post (pure (some err)) w := fun w' _ _ => ok w'

def Leaves (P : Cluster β D → Prop) (result : Option GoError) (w : World β D) : Prop :=
  result = none → ∃ c, w = ⟨c, []⟩ ∧ P c

theorem safe_leaves {P : Cluster β D → Prop} (h : P c) :
    Safe (env m.scripts) (contract m) () (Leaves P) (pure none) ⟨c, []⟩ :=
  fun _ _ same _ => ⟨c, same rfl, h⟩

theorem safe_reindex {γ : Type} {post : Option γ → World β D → Prop} {old : GoString}
    {g : Option GoError → EsProg β (Option γ)} (h : m.Copying done c)
    (listed : ∀ index ∈ done, index ∈ m.olds) (mem : old ∈ m.olds) (left : old ∉ done)
    (next : ∀ c, m.Copying (done ++ [old]) c →
      Safe (env m.scripts) (contract m) () post (g none) ⟨c, []⟩)
    (failed : ∀ err w, Safe (env m.scripts) (contract m) () post (g (some err)) w) :
    Safe (env m.scripts) (contract m) () post
      (reindex old m.newIndex m.opts.script >>= g) ⟨c, []⟩ := by
  obtain ⟨c', served, copying, -⟩ := h.serve_reindex listed mem left
  intro w' _ same
  obtain rfl := same rfl
  refine ⟨trivial, fun x reply w'' answered => ?_⟩
  change answer m.scripts (.reindex old m.newIndex m.script) x ⟨c, []⟩ = _ at answered
  cases x with
  | answered =>
    rw [answer, served] at answered
    cases answered
    exact ⟨allows_of_exact copying.exact, next c' copying⟩
  | refused failure =>
    cases answered
    exact ⟨allows_of_exact h.exact, failed _ _⟩
  | lost failure =>
    rw [answer, served] at answered
    cases answered
    exact ⟨allows_of_exact copying.exact, failed _ _⟩
  | cut failure ids =>
    cases answered
    have kept : m.Unswapped
        (World.progress m.scripts ⟨c, []⟩ ⟨old, m.newIndex, m.script⟩ ids).cluster :=
      unswapped_progress h.toUnswapped rfl ids
    refine ⟨⟨⟨kept.exact, fun _ => ⟨kept, ?_⟩⟩, fun j ne => absurd (Subsingleton.elim j ()) ne⟩,
      failed _ _⟩
    simp

omit [Inhabited β] in
theorem forEachOld_cons {old : GoString} (other : old ≠ m.newIndex) (format : GoString)
    (call : GoString → EsProg β (Option GoError)) (olds : List GoString) :
    forEachOld m.newIndex format call (old :: olds) =
      call old >>= unlessFailed (errorf format) (forEachOld m.newIndex format call olds) := by
  rw [forEachOld, if_neg other]

variable (format : GoString)

theorem safe_reindexAll {todo : List GoString} (distinct : (done ++ todo).Nodup)
    (listed : ∀ index ∈ done ++ todo, index ∈ m.olds) (h : m.Copying done c) :
    Safe (env m.scripts) (contract m) () (Leaves (m.Copying (done ++ todo)))
      (forEachOld m.newIndex format (fun old => reindex old m.newIndex m.opts.script) todo)
      ⟨c, []⟩ := by
  induction todo generalizing done c with
  | nil =>
    rw [List.append_nil]
    exact safe_leaves h
  | cons old todo ih =>
    have mem : old ∈ m.olds := listed old (by simp)
    have left : old ∉ done := fun inside =>
      (List.nodup_append.mp distinct).2.2 old inside old List.mem_cons_self rfl
    rw [forEachOld_cons (Migration.ne_newIndex mem), List.append_cons]
    rw [List.append_cons] at distinct listed
    refine safe_reindex h (fun index inside => listed index (by simp [inside])) mem left
      (fun c copying => ih distinct listed copying) fun err w => ?_
    exact safe_error _ w fun _ none => nomatch none

theorem safe_swappedAll (request : GoString → Request β)
    (plain : ∀ old, isCopy (request old) = false)
    (keeps : ∀ old, old ≠ m.newIndex → ∀ c, m.Swapped c →
      m.Swapped (c.serve m.scripts (request old)).2) (todo : List GoString) (h : m.Swapped c) :
    Safe (env m.scripts) (contract m) () (Leaves m.Swapped)
      (forEachOld m.newIndex format (fun old => send (request old)) todo) ⟨c, []⟩ := by
  induction todo generalizing c with
  | nil => exact safe_leaves h
  | cons old todo ih =>
    by_cases same : old = m.newIndex
    · rw [forEachOld, if_pos same]
      exact ih h
    · rw [forEachOld_cons same]
      have after := keeps old same c h
      have ended : ∀ err w, Safe (env m.scripts) (contract m) () (Leaves m.Swapped)
          (pure (some (errorf format err))) w :=
        fun err w => safe_error _ w fun _ none => nomatch none
      refine safe_request (plain old) h.exact after.exact ?_ (fun failure => ended _ _)
        fun failure => ended _ _
      cases (c.serve m.scripts (request old)).1 with
      | ok => exact ih after
      | error failure => exact ended _ _

variable {first : GoString}

theorem safe_swapAll (rest : List GoString) (other : first ≠ m.newIndex) (h : m.Copying m.olds c)
    (others : ∀ old ∈ m.olds, old ≠ first → m.cluster.docs old = ∅) :
    Safe (env m.scripts) (contract m) () (Leaves m.Swapped)
      (forEachOld m.newIndex format (fun old => swapAlias m.aliasName old m.newIndex)
        (first :: rest)) ⟨c, []⟩ := by
  have ended : ∀ err w, Safe (env m.scripts) (contract m) () (Leaves m.Swapped)
      (pure (some (errorf format err))) w :=
    fun err w => safe_error _ w fun _ none => nomatch none
  rw [forEachOld_cons other]
  obtain served | ⟨c', served, swapped⟩ := h.swap others
  · refine safe_request rfl h.exact ?_ ?_ (fun _ => ended _ _)
      fun _ => ended _ _
    · rw [served]
      exact h.exact
    · rw [served]
      exact ended _ _
  · refine safe_request rfl h.exact ?_ ?_ (fun _ => ended _ _)
      fun _ => ended _ _
    · rw [served]
      exact swapped.exact
    · rw [served]
      exact safe_swappedAll format _ (fun _ => rfl)
        (fun old _ c h => h.swap old) rest swapped

def Early (m : Migration β D) (w : World β D) : Prop := ∃ c, w = ⟨c, []⟩ ∧ m.Copying [] c

theorem safe_early {γ : Type} (result : γ) (h : m.Copying [] c) :
    Safe (env m.scripts) (contract m) () (fun _ => Early m) (pure result) ⟨c, []⟩ :=
  fun _ _ same => ⟨c, same rfl, h⟩

theorem safe_indexExists (h : m.Copying [] c) :
    Safe (env m.scripts) (contract m) () (fun _ => Early m) (indexExists m.newIndex) ⟨c, []⟩ := by
  have same : (c.serve m.scripts (.getIndex m.newIndex)).2 = c := by
    rw [Cluster.serve]
    split_ifs <;> rfl
  have ended : ∀ err : GoError, Safe (env m.scripts) (contract m) () (fun _ => Early m)
      (if isNotFound err then pure (.ok false) else pure (.error err) :
        EsProg β (Except GoError Bool)) ⟨c, []⟩ := by
    intro err
    split_ifs
    · exact safe_early _ h
    · exact safe_early _ h
  refine safe_request rfl h.exact ?_ ?_ (fun _ => ended _) fun _ => ?_
  · rw [same]
    exact h.exact
  · rw [same]
    cases (c.serve m.scripts (.getIndex m.newIndex)).1 with
    | ok => exact safe_early _ h
    | error failure => exact ended _
  · rw [same]
    exact ended _

theorem safe_createIndex (body : Option β) (h : m.Copying [] c) :
    Safe (env m.scripts) (contract m) () (fun _ => Early m) (createIndex m.newIndex body)
      ⟨c, []⟩ := by
  have after := h.putIndex (body.getD default)
  exact safe_request rfl h.exact after.exact (safe_early _ after) (fun _ => safe_early _ h)
    fun _ => safe_early _ after

theorem safe_ensureIndex (body : Option β) (h : m.Copying [] c) :
    Safe (env m.scripts) (contract m) () (fun _ => Early m) (ensureIndex m.newIndex body)
      ⟨c, []⟩ := by
  refine safe_bind (fun _ _ => rfl) (inv_of_exact h.exact) (safe_indexExists h) ?_
  rintro exists_ w _ ⟨c, rfl, h⟩
  match exists_ with
  | .error err => exact safe_early _ h
  | .ok true => exact safe_early _ h
  | .ok false =>
    refine safe_bind (fun _ _ => rfl) (inv_of_exact h.exact) (safe_createIndex body h) ?_
    rintro failed w _ ⟨c, rfl, h⟩
    cases failed with
    | some err => exact safe_early _ h
    | none => exact safe_early _ h

theorem safe_aliasIndices :
    Safe (env m.scripts) (contract m) ()
      (fun result w => w = ⟨m.cluster, []⟩ ∧
        ∀ olds, result = .ok olds → olds = [] ∨ olds = sortStrings m.olds)
      (aliasIndices ord m.aliasName) ⟨m.cluster, []⟩ := by
  obtain ⟨resp, served, sorted⟩ := Migration.serve_getAlias (m := m) ord
  have failed : ∀ failure : Failure, Safe (env m.scripts) (contract m) ()
      (fun result w => w = ⟨m.cluster, []⟩ ∧
        ∀ olds, result = .ok olds → olds = [] ∨ olds = sortStrings m.olds)
      (if isNotFound failure.error then pure (.ok []) else pure (.error failure.error) :
        EsProg β (Except GoError (List GoString))) ⟨m.cluster, []⟩ := by
    intro failure
    split_ifs
    · exact fun _ _ same => ⟨same rfl, fun olds h => .inl (Except.ok.inj h).symm⟩
    · exact fun _ _ same => ⟨same rfl, fun olds h => nomatch h⟩
  refine safe_request rfl Migration.Unswapped.start.exact ?_ ?_ failed fun failure => ?_
  · rw [served]
    exact Migration.Unswapped.start.exact
  · rw [served]
    exact fun _ _ same => ⟨same rfl, fun olds h => .inr ((Except.ok.inj h).symm.trans sorted)⟩
  · rw [served]
    exact failed failure

theorem safe_any (result : Option GoError) (w : World β D) :
    Safe (env m.scripts) (contract m) () (fun _ _ => True) (pure result) w := fun _ _ _ => trivial

theorem safe_provision (h : m.Copying [] c) :
    Safe (env m.scripts) (contract m) () (fun _ _ => True)
      (ensureAlias m.newIndex m.aliasName >>= unlessFailed (errorf format) (pure none))
      ⟨c, []⟩ := by
  refine safe_request rfl h.exact h.putAlias ?_ (fun _ => safe_any _ _) fun _ => safe_any _ _
  cases (c.serve m.scripts (.putAlias m.newIndex m.aliasName)).1 with
  | ok => exact safe_any _ _
  | error failure => exact safe_any _ _

theorem safe_swapDelete (swapping deleting : GoString) (rest : List GoString)
    (other : first ≠ m.newIndex) (h : m.Copying m.olds c)
    (others : ∀ old ∈ m.olds, old ≠ first → m.cluster.docs old = ∅) :
    Safe (env m.scripts) (contract m) () (fun _ _ => True)
      (forEachOld m.newIndex swapping (fun old => swapAlias m.aliasName old m.newIndex)
          (first :: rest) >>=
        unlessFailed id (if m.opts.deleteOld then
          forEachOld m.newIndex deleting (fun old => deleteIndex old) (first :: rest)
          else pure none)) ⟨c, []⟩ := by
  refine safe_bind (fun _ _ => rfl) (inv_of_exact h.exact)
    (safe_swapAll swapping rest other h others) ?_
  intro swapped w inv left
  cases swapped with
  | some err => exact safe_any _ _
  | none =>
    obtain ⟨c, rfl, h⟩ := left rfl
    rw [unlessFailed]
    split_ifs
    · have all := safe_swappedAll deleting (fun old => .deleteIndex old) (fun _ => rfl)
        (fun old ne c h => h.delete ne) (first :: rest) h
      exact all.weaken fun _ _ _ => trivial
    · exact safe_any _ _

/-- The migration is exact at every moment if only the first of the old indices has any
documents. -/
theorem safe_migrateIndex (body : Option β) {rest : List GoString}
    (sorted : sortStrings m.olds = first :: rest) (named : m.aliasName ≠ m.newIndex)
    (others : ∀ old ∈ rest, m.cluster.docs old = ∅) :
    Safe (env m.scripts) (contract m) () (fun _ _ => True)
      (migrateIndex ord m.aliasName m.newIndex body m.opts) ⟨m.cluster, []⟩ := by
  have listed : ∀ old, old ∈ first :: rest ↔ old ∈ m.olds := by
    intro old
    rw [← sorted, mem_sortStrings]
  have distinct : (first :: rest).Nodup := sorted ▸ Migration.sorted_nodup
  have refl : ∀ w : World β D, (contract m).rely () w w := fun _ _ => rfl
  rw [migrateIndex, if_neg named]
  refine safe_bind refl (inv_of_exact Migration.Unswapped.start.exact) (safe_aliasIndices ord) ?_
  rintro result w - ⟨rfl, olds⟩
  cases result with
  | error err => exact safe_any _ _
  | ok names =>
    refine safe_bind refl (inv_of_exact Migration.Unswapped.start.exact)
      (safe_ensureIndex body .start) ?_
    rintro ensured w - ⟨c, rfl, early⟩
    cases ensured with
    | error err => exact safe_any _ _
    | ok created =>
      obtain rfl | same := olds names rfl
      · exact safe_provision _ early
      · rw [sorted] at same
        subst same
        rw [if_neg (by simp)]
        have copying : Safe (env m.scripts) (contract m) () (Leaves (m.Copying (first :: rest)))
            (forEachOld m.newIndex (str "elastic: migrate %s: reindex %s → %s: %w")
              (fun old => reindex old m.newIndex m.opts.script) (first :: rest)) ⟨c, []⟩ :=
          safe_reindexAll _ distinct (fun old mem => (listed old).mp mem) early
        refine safe_bind refl (inv_of_exact early.exact) copying ?_
        intro copied w inv left
        cases copied with
        | some err => exact safe_any _ _
        | none =>
          obtain ⟨c, rfl, h⟩ := left rfl
          have full : m.Copying m.olds c := ⟨h.toUnswapped, h.copied.congr listed⟩
          exact safe_swapDelete _ _ rest
            (Migration.ne_newIndex ((listed first).mp List.mem_cons_self)) full
            fun old mem ne => others old (List.mem_of_ne_of_mem ne ((listed old).mpr mem))

end Safety

section Answered

variable [Inhabited β] {m : Migration β D} {c : Cluster β D}
  {xs : List Fate}

theorem alone_aliasIndices (g : Except GoError (List GoString) → EsProg β (Option GoError)) :
    (env m.scripts).alone () (aliasIndices ord m.aliasName >>= g) (.answered :: xs)
        ⟨m.cluster, []⟩ =
      (env m.scripts).alone () (g (.ok (sortStrings m.olds))) xs ⟨m.cluster, []⟩ := by
  obtain ⟨resp, served, sorted⟩ := Migration.serve_getAlias (m := m) ord
  change Option.bind (answer m.scripts (.getAlias m.aliasName) .answered ⟨m.cluster, []⟩) _ = _
  rw [answer, served, ← sorted]
  rfl

theorem alone_ensureIndex (body : Option β) :
    ∃ ys c created, m.Copying [] c ∧ ∀ (g : Except GoError Bool → EsProg β (Option GoError)) xs,
      (env m.scripts).alone () (ensureIndex m.newIndex body >>= g) (ys ++ xs) ⟨m.cluster, []⟩ =
        (env m.scripts).alone () (g (.ok created)) xs ⟨c, []⟩ := by
  cases there : m.cluster.indices m.newIndex with
  | some index =>
    refine ⟨[.answered], m.cluster, false, .start, fun g xs => ?_⟩
    change Option.bind (answer m.scripts (.getIndex m.newIndex) .answered ⟨m.cluster, []⟩) _ = _
    rw [answer, Cluster.serve_getIndex_found there]
    rfl
  | none =>
    have early := (Migration.Copying.start (m := m)).putIndex (body.getD default)
    rw [Cluster.serve_putIndex_missing there] at early
    refine ⟨[.answered, .answered], _, true, early, fun g xs => ?_⟩
    change Option.bind (answer m.scripts (.getIndex m.newIndex) .answered ⟨m.cluster, []⟩) _ = _
    rw [answer, Cluster.serve_getIndex_missing there]
    change Option.bind (answer m.scripts (.putIndex m.newIndex (body.getD default)) .answered
      ⟨m.cluster, []⟩) (fun r => (env m.scripts).alone () (_ >>= g) xs r.2) = _
    rw [answer, Cluster.serve_putIndex_missing there]
    rfl

theorem alone_reindexAll (format : GoString) {todo : List GoString}
    (distinct : (done ++ todo).Nodup) (listed : ∀ index ∈ done ++ todo, index ∈ m.olds)
    (h : m.Copying done c) (there : todo = [] → (c.indices m.newIndex).isSome = true) :
    ∃ ys c', m.Copying (done ++ todo) c' ∧ (c'.indices m.newIndex).isSome = true ∧
      ∀ (g : Option GoError → EsProg β (Option GoError)) xs,
        (env m.scripts).alone () (forEachOld m.newIndex format
          (fun old => reindex old m.newIndex m.opts.script) todo >>= g) (ys ++ xs) ⟨c, []⟩ =
        (env m.scripts).alone () (g none) xs ⟨c', []⟩ := by
  induction todo generalizing done c with
  | nil => exact ⟨[], c, by simpa using h, there rfl, fun _ _ => rfl⟩
  | cons old todo ih =>
    have mem : old ∈ m.olds := listed old (by simp)
    have left : old ∉ done := fun inside =>
      (List.nodup_append.mp distinct).2.2 old inside old List.mem_cons_self rfl
    rw [forEachOld_cons (Migration.ne_newIndex mem)]
    rw [List.append_cons] at distinct listed ⊢
    obtain ⟨c', served, copying, some⟩ :=
      h.serve_reindex (fun index inside => listed index (by simp [inside])) mem left
    obtain ⟨ys, c'', full, exists_, run⟩ := ih distinct listed copying fun _ => some
    refine ⟨.answered :: ys, c'', full, exists_, fun g xs => ?_⟩
    change Option.bind (answer m.scripts (.reindex old m.newIndex m.script) .answered ⟨c, []⟩) _ = _
    rw [answer, served]
    exact run g xs

theorem exists_swapped_once (body : Option β) {first : GoString} {rest : List GoString}
    (sorted : sortStrings m.olds = first :: rest) (named : m.aliasName ≠ m.newIndex) :
    ∃ xs p c, (env m.scripts).alone () (migrateIndex ord m.aliasName m.newIndex body m.opts) xs
        ⟨m.cluster, []⟩ = some (p, ⟨c, []⟩) ∧
      c.aliases m.aliasName = (m.olds.erase first).insert m.newIndex ∧ m.Copied m.olds c ∧
      ∀ old ∈ m.olds, c.docs old = m.cluster.docs old := by
  have listed : ∀ old, old ∈ first :: rest ↔ old ∈ m.olds := by
    intro old
    rw [← sorted, mem_sortStrings]
  have distinct : (first :: rest).Nodup := sorted ▸ Migration.sorted_nodup
  have mem : first ∈ m.olds := (listed first).mp List.mem_cons_self
  obtain ⟨ys, c, created, early, ensured⟩ := alone_ensureIndex (m := m) body
  obtain ⟨zs, c', full, there, copied⟩ := alone_reindexAll
    (str "elastic: migrate %s: reindex %s → %s: %w") distinct
    (fun old mem => (listed old).mp mem) early nofun
  have swapped : c'.serve m.scripts (.updateAliases m.aliasName first m.newIndex) =
      (.ok (), c'.setAlias m.aliasName ((m.olds.erase first).insert m.newIndex)) := by
    have pointed : (c'.aliases m.aliasName).contains first = true := by
      rw [full.aliases]
      simpa using mem
    have some : (c'.indices m.newIndex).isNone = false := by simpa using there
    rw [Cluster.serve, some, pointed, full.aliases]
    rfl
  have run : ∃ p, (env m.scripts).alone ()
      (migrateIndex ord m.aliasName m.newIndex body m.opts)
      (.answered :: (ys ++ (zs ++ [.answered]))) ⟨m.cluster, []⟩ =
        some (p, ⟨c'.setAlias m.aliasName ((m.olds.erase first).insert m.newIndex), []⟩) := by
    rw [migrateIndex, if_neg named, alone_aliasIndices, sorted]
    dsimp only
    rw [ensured]
    dsimp only
    rw [if_neg (by simp), copied, unlessFailed,
      forEachOld_cons (Migration.ne_newIndex mem)]
    change ∃ p, Option.bind (answer m.scripts (.updateAliases m.aliasName first m.newIndex)
      .answered ⟨c', []⟩) _ = some (p, _)
    rw [answer, swapped]
    exact ⟨_, alone_nil ..⟩
  obtain ⟨p, run⟩ := run
  exact ⟨_, p, _, run, Cluster.aliases_setAlias_self .., full.copied.congr listed,
    fun old mem => full.docs mem⟩

end Answered

/-- At every moment of a migration, whatever becomes of its requests and wherever it stops,
a search is exact: if and only if the migration is refused for its names, or the old indices
apart from the first in order have no documents. -/
theorem migration_exact_iff [Inhabited β] (m : Migration β D) (ord : RangeOrder)
    (body : Option β) :
    (∀ inputs, Always (env m.scripts).step (fun s => m.Exact s.world.cluster)
      ⟨fun _ => migrateIndex ord m.aliasName m.newIndex body m.opts, ⟨m.cluster, []⟩⟩ inputs) ↔
    m.aliasName = m.newIndex ∨
      ∀ old ∈ (sortStrings m.olds).tail, m.cluster.docs old = ∅ := by
  obtain ⟨first, rest, sorted⟩ := Migration.exists_first (m := m)
  rw [sorted, List.tail_cons]
  constructor
  · refine fun exact => or_iff_not_imp_left.mpr fun named old mem => ?_
    obtain ⟨xs, p, c, alone, aliases, copied, kept⟩ := exists_swapped_once ord body sorted named
    have final := (exact (xs.map (Input.turn ()))).last (foldlM_alone alone)
    have distinct : (first :: rest).Nodup := sorted ▸ Migration.sorted_nodup
    have listed : old ∈ m.olds := by
      rw [← mem_sortStrings, sorted]
      exact List.mem_cons_of_mem first mem
    have later : old ≠ first := fun same => (List.nodup_cons.mp distinct).1 (same ▸ mem)
    have pointed : old ∈ c.aliases m.aliasName := by
      rw [aliases]
      exact List.mem_insert_of_mem ((List.mem_erase_of_ne later).mpr listed)
    have new : m.newIndex ∈ c.aliases m.aliasName := by
      rw [aliases]
      exact List.mem_insert_self
    -- A document of this index is found there and in the new one.
    refine AList.ext (List.eq_nil_iff_forall_not_mem.mpr fun e found => ?_)
    have held : (m.cluster.docs old).lookup e.1 = some e.2 := AList.mem_lookup_iff.mpr found
    have copy := (copied e.1 _).mpr ⟨old, listed, e.2, held, rfl⟩
    rw [final.separate pointed new (Migration.ne_newIndex listed)
      ((kept old listed).symm ▸ held)] at copy
    cases copy
  · intro condition inputs
    have safe : Safe (env m.scripts) (contract m) () (fun _ _ => True)
        (migrateIndex ord m.aliasName m.newIndex body m.opts) ⟨m.cluster, []⟩ := by
      by_cases named : m.aliasName = m.newIndex
      · rw [migrateIndex, if_pos named]
        exact safe_error _ _ fun _ => trivial
      · exact safe_migrateIndex ord body sorted named (condition.resolve_left named)
    have start : AllSafe (env m.scripts) (contract m) (fun _ _ _ => True)
        ⟨fun _ => migrateIndex ord m.aliasName m.newIndex body m.opts, ⟨m.cluster, []⟩⟩ :=
      ⟨inv_of_exact Migration.Unswapped.start.exact, fun _ => safe⟩
    exact (always_allSafe coherent start inputs).mono fun s safe => safe.1.1

def splitAlias : Migration Unit Nat where
  scripts _ _ d := d + 1
  cluster :=
    { indices name :=
        if name = str "v1" then some ⟨(), insertAll ∅ [(str "a", 10)]⟩
        else if name = str "v2" then some ⟨(), insertAll ∅ [(str "b", 20)]⟩
        else none
      aliases name := if name = str "items" then [str "v1", str "v2"] else [] }
  aliasName := str "items"
  newIndex := str "v3"
  opts := {}
  pointed := by decide
  distinct := by decide
  exist := by decide
  ids := by decide
  fresh := by decide
  empty := rfl

/-- Between the two swaps, with every request answered, the document of the second index is
found twice. -/
theorem swap_shows_twice :
    ∃ s, (List.replicate 6 (Input.turn () Fate.answered)).foldlM (env splitAlias.scripts).step
        ⟨fun _ => migrateIndex .listed (str "items") (str "v3") none {},
          ⟨splitAlias.cluster, []⟩⟩ = some s ∧
      (s.world.cluster.search (str "items")).map Prod.fst = [str "b", str "a", str "b"] :=
  ⟨_, rfl, by decide⟩

end DxCommonGo.IndexMigration
