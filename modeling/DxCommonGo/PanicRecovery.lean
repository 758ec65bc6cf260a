import DxCommonGo.MiddlewareStack

/-! What becomes of a panic of the handler behind a stack of middlewares. `Recovery` only catches
what happens on its own goroutine, inside the innermost `Timeout`. -/

namespace DxCommonGo.PanicRecovery
open GoStrings GoMaps DxErrors NetHttp StreamCodings Compression ErrorResponses MiddlewareStack
open TimeoutMiddleware (TimeoutWriter lastStatus)

def statuses (calls : List Call) : List Status :=
  calls.filterMap fun
    | .writeHeader status => some status
    | _ => none

section Statuses

variable {σ : Type} (G : Coding UInt8 σ)

theorem statuses_append (calls calls' : List Call) :
    statuses (calls ++ calls') = statuses calls ++ statuses calls' := List.filterMap_append

theorem statuses_map_change (cs : List HeaderChange) : statuses (cs.map .change) = [] := by
  simp [statuses, List.filterMap_map]

theorem statuses_map_write (out : List Bytes) : statuses (out.map .write) = [] := by
  simp [statuses, List.filterMap_map]

theorem statuses_unflushed (calls : List Call) : statuses (unflushed calls) = statuses calls := by
  induction calls with
  | nil => rfl
  | cons call calls ih =>
    cases call <;> simp_all [statuses, unflushed]

theorem statuses_gzip (gw : σ) (script : List Call) :
    statuses (gzipResponseWriter G gw script) = statuses script := by
  induction script generalizing gw with
  | nil => exact statuses_map_write _
  | cons call script ih =>
    cases call with
    | change c => exact ih gw
    | writeHeader status => exact congrArg (status :: ·) (ih gw)
    | flush => exact ih gw
    | write b =>
      rw [gzipResponseWriter, statuses_append, statuses_map_write, ih]
      rfl

theorem statuses_compression (acceptEncoding : GoString) (script : List Call) :
    statuses (Compression.compression G acceptEncoding script) = statuses script := by
  unfold Compression.compression
  split_ifs
  · rfl
  · rw [statuses_append, statuses_map_change, statuses_gzip]
    rfl

theorem statuses_step (compress : GoString → Bool) (rww : ResponseWriterWrapper σ) (call : Call) :
    statuses (rww.step G compress call).1 = statuses [call] := by
  have forwarded : ∀ (u : ResponseWriterWrapper σ) (b : Bytes),
      statuses (u.forward G b).1 = [] := by
    intro u b
    unfold ResponseWriterWrapper.forward
    split
    · exact statuses_map_write _
    · rfl
  cases call with
  | change c => rfl
  | writeHeader status => rfl
  | write b =>
    unfold ResponseWriterWrapper.step
    dsimp only
    split_ifs
    · rw [statuses_append, statuses_map_change, forwarded]
      rfl
    · rw [forwarded]
      rfl
  | flush =>
    unfold ResponseWriterWrapper.step
    dsimp only
    split
    · rw [statuses_append, statuses_map_write]
      rfl
    · rfl

theorem statuses_cons (call : Call) (calls : List Call) :
    statuses (call :: calls) = statuses [call] ++ statuses calls := statuses_append [call] calls

theorem statuses_run (compress : GoString → Bool) (rww : ResponseWriterWrapper σ)
    (script : List Call) : statuses (rww.run G compress script) = statuses script := by
  induction script generalizing rww with
  | nil => exact statuses_map_write _
  | cons call script ih =>
    rw [ResponseWriterWrapper.run, statuses_append, statuses_step, ih, ← statuses_cons]

end Statuses

def Opens (status : Status) (calls : List Call) : Prop :=
  ∃ (cs : List HeaderChange) (rest : List Call),
    calls = cs.map .change ++ .writeHeader status :: rest

namespace Opens

variable {σ : Type} {status : Status} {calls : List Call}

theorem changes (h : Opens status calls) (cs : List HeaderChange) :
    Opens status (cs.map .change ++ calls) := by
  obtain ⟨ds, rest, rfl⟩ := h
  exact ⟨cs ++ ds, rest, by rw [List.map_append, List.append_assoc]⟩

theorem unflushed (h : Opens status calls) : Opens status (Compression.unflushed calls) := by
  obtain ⟨cs, rest, rfl⟩ := h
  refine ⟨cs, Compression.unflushed rest, ?_⟩
  have kept : Compression.unflushed (cs.map .change) = cs.map .change := by
    rw [Compression.unflushed, List.filter_eq_self]
    simp
  rw [Compression.unflushed, List.filter_append]
  exact congrArg₂ (· ++ ·) kept rfl

theorem gzip (h : Opens status calls) (G : Coding UInt8 σ) (gw : σ) :
    Opens status (gzipResponseWriter G gw calls) := by
  obtain ⟨cs, rest, rfl⟩ := h
  refine ⟨cs, gzipResponseWriter G gw rest, ?_⟩
  induction cs with
  | nil => rfl
  | cons c cs ih => exact congrArg (.change c :: ·) ih

theorem compression (h : Opens status calls) (G : Coding UInt8 σ) (acceptEncoding : GoString) :
    Opens status (Compression.compression G acceptEncoding calls) := by
  unfold Compression.compression
  split_ifs
  · exact h
  · exact (h.gzip G G.new).changes gzipHeaders

theorem selectiveCompression (h : Opens status calls) (G : Coding UInt8 σ) (ord : RangeOrder)
    (types : List GoString) (acceptEncoding : GoString) (outer : Header) :
    Opens status (Compression.selectiveCompression G ord types acceptEncoding outer calls) := by
  unfold Compression.selectiveCompression
  split_ifs
  · exact h
  · obtain ⟨cs, rest, rfl⟩ := h
    generalize shouldCompress ord (typesToCompress types) = compress
    have run : ∀ rww : ResponseWriterWrapper σ, ∃ rww' : ResponseWriterWrapper σ,
        rww.run G compress (cs.map .change ++ .writeHeader status :: rest) =
          cs.map .change ++ .writeHeader status :: rww'.run G compress rest := by
      induction cs with
      | nil => exact fun rww => ⟨rww, rfl⟩
      | cons c cs ih =>
        intro rww
        obtain ⟨rww', same⟩ := ih { rww with header := c.apply rww.header }
        exact ⟨rww', congrArg (List.cons (Call.change c)) same⟩
    obtain ⟨rww', same⟩ := run { header := outer }
    exact ⟨cs, _, same⟩

theorem flush (last : (statuses calls).getLast? = some status) (ord : RangeOrder) :
    Opens status ((TimeoutWriter.run {} calls).flush ord) := by
  have code : lastStatus calls = some status := last
  rw [TimeoutMiddleware.run_eq _ rfl, TimeoutWriter.flush, if_neg Bool.false_ne_true, code,
    List.append_assoc]
  exact ⟨_, _, rfl⟩

theorem status_respond (h : Opens status calls) (final : status.informational = false)
    (outer : Header) : (respond outer calls).status = status := by
  obtain ⟨cs, rest, rfl⟩ := h
  rw [respond_eq, (changes_first cs _).1]
  simp [fixed, final]

end Opens

theorem statuses_flush {calls : List Call} {status : Status}
    (last : (statuses calls).getLast? = some status) (ord : RangeOrder) :
    statuses ((TimeoutWriter.run {} calls).flush ord) = [status] := by
  have code : lastStatus calls = some status := last
  rw [TimeoutMiddleware.run_eq _ rfl, TimeoutWriter.flush, if_neg Bool.false_ne_true, code,
    statuses_append, statuses_append, statuses_map_change]
  split_ifs <;> rfl

section Stack

variable {σ : Type} {env : Env σ} {r : Request} {m : Middleware} {ms : List Middleware}

theorem statuses_wrap (here : m ≠ .timeout) (h : Header) (late : Bool) {o : Outcome}
    (calm : o.panics = false) : statuses (m.wrap env r h late o).calls = statuses o.calls := by
  cases m with
  | timeout => exact absurd rfl here
  | recovery => simp [Middleware.wrap, calm]
  | logger | audit => exact statuses_unflushed o.calls
  | compression => exact statuses_compression env.gzip r.acceptEncoding o.calls
  | selectiveCompression types =>
    simp only [Middleware.wrap, calm, Bool.false_and, Bool.false_eq_true, if_false]
    unfold Compression.selectiveCompression
    split_ifs
    · rfl
    · exact statuses_run env.gzip _ _ o.calls
  | _ => rfl

theorem opens_wrap (here : m ≠ .timeout) (h : Header) (late : Bool) {o : Outcome}
    (calm : o.panics = false) {status : Status} (opens : Opens status o.calls) :
    Opens status (m.wrap env r h late o).calls := by
  cases m with
  | timeout => exact absurd rfl here
  | recovery => simpa [Middleware.wrap, calm] using opens
  | logger | audit => exact opens.unflushed
  | compression => exact opens.compression env.gzip r.acceptEncoding
  | selectiveCompression types =>
    simp only [Middleware.wrap, calm, Bool.false_and, Bool.false_eq_true, if_false]
    exact opens.selectiveCompression env.gzip env.ord types r.acceptEncoding h
  | _ => exact opens

theorem serve_cons {cs : List HeaderChange} (passes : m.entry env r = .ok cs) (late : Nat → Bool)
    (ms : List Middleware) (h : Header) (handler : Outcome) :
    serve env r late (m :: ms) h handler =
      let outcome := m.wrap env r (applyAll cs h) (late 0)
        (serve env r (fun depth => late (depth + 1)) ms (m.enter r (applyAll cs h)) handler)
      { outcome with calls := cs.map .change ++ outcome.calls } := by
  rw [serve, passes]

theorem panics_wrap (m : Middleware) (h : Header) (late : Bool) (o : Outcome) :
    (m.wrap env r h late o).panics = true ↔
      o.panics = true ∧ m ≠ .recovery ∧ m ≠ .timeout := by
  cases m with
  | recovery => cases panics : o.panics <;> simp [Middleware.wrap, panics]
  | selectiveCompression types =>
    simp only [Middleware.wrap]
    split_ifs <;> simp
  | _ => simp [Middleware.wrap]

theorem crashed_wrap (m : Middleware) (h : Header) (late : Bool) (o : Outcome) :
    (m.wrap env r h late o).crashed = true ↔
      o.crashed = true ∨ m = .timeout ∧ o.panics = true := by
  cases m with
  | recovery => cases panics : o.panics <;> simp [Middleware.wrap, panics]
  | selectiveCompression types =>
    simp only [Middleware.wrap]
    split_ifs <;> simp
  | _ => simp [Middleware.wrap]

def Guarded (ms : List Middleware) : Prop :=
  ∃ before after, ms = before ++ .recovery :: after ∧ .timeout ∉ after

theorem guarded_cons : Guarded (m :: ms) ↔ m = .recovery ∧ .timeout ∉ ms ∨ Guarded ms := by
  constructor
  · rintro ⟨before, after, same, free⟩
    cases before with
    | nil =>
      cases same
      exact .inl ⟨rfl, free⟩
    | cons b before =>
      cases same
      exact .inr ⟨before, after, rfl, free⟩
  · rintro (⟨rfl, free⟩ | ⟨before, after, rfl, free⟩)
    · exact ⟨[], ms, rfl, free⟩
    · exact ⟨m :: before, after, rfl, free⟩

theorem Guarded.recovery_mem (h : Guarded ms) : .recovery ∈ ms := by
  obtain ⟨before, after, rfl, -⟩ := h
  exact List.mem_append_right _ List.mem_cons_self

theorem guarded_of_mem (h : .recovery ∈ ms) (free : .timeout ∉ ms) : Guarded ms := by
  obtain ⟨before, after, rfl⟩ := List.append_of_mem h
  exact ⟨before, after, rfl, fun inside => free (List.mem_append_right _
    (List.mem_cons_of_mem _ inside))⟩

def Reached (env : Env σ) (r : Request) (ms : List Middleware) : Prop :=
  ∀ m ∈ ms, ∃ cs, m.entry env r = .ok cs

/-- Where a panic of the handler ends: on its own goroutine if there is neither a
`Recovery` nor a `Timeout`, and outside of the process if the innermost `Timeout` finds it
unrecovered. -/
theorem serve_ending (reached : Reached env r ms) (late : Nat → Bool) (h : Header)
    (script : List Call) :
    ((serve env r late ms h { calls := script, panics := true }).panics = true ↔
      .recovery ∉ ms ∧ .timeout ∉ ms) ∧
    ((serve env r late ms h { calls := script, panics := true }).crashed = true ↔
      .timeout ∈ ms ∧ ¬Guarded ms) := by
  induction ms generalizing late h with
  | nil => simp [serve]
  | cons m ms ih =>
    obtain ⟨⟨cs, passes⟩, rest⟩ := List.forall_mem_cons.mp reached
    obtain ⟨panics, crashed⟩ :=
      ih rest (fun depth => late (depth + 1)) (m.enter r (applyAll cs h))
    rw [serve_cons passes]
    simp only [panics_wrap, crashed_wrap, panics, crashed, guarded_cons, List.mem_cons, not_or]
    constructor
    · tauto
    · by_cases inside : Middleware.timeout ∈ ms
      · cases m <;> simp [inside]
      · have same : Guarded ms ↔ .recovery ∈ ms :=
          ⟨Guarded.recovery_mem, fun mem => guarded_of_mem mem inside⟩
        cases m <;> simp [inside, same]

theorem last_writeError (calls : List Call) (err : BaseDxError) :
    (statuses (calls ++ writeError env.encode err)).getLast? = some (statusOf err.code) := by
  rw [statuses_append]
  exact List.getLast?_concat

/-- In time, what a recovered panic sends ends with status 500, and from the innermost
`Timeout` on outwards it starts with it. -/
theorem serve_recovered (reached : Reached env r ms) (guarded : Guarded ms) (h : Header)
    (script : List Call) :
    let calls := (serve env r (fun _ => false) ms h { calls := script, panics := true }).calls
    (statuses calls).getLast? = some (statusOf .internal) ∧
      (.timeout ∈ ms → Opens (statusOf .internal) calls) := by
  induction ms generalizing h with
  | nil => cases guarded.recovery_mem
  | cons m ms ih =>
    obtain ⟨⟨cs, passes⟩, rest⟩ := List.forall_mem_cons.mp reached
    obtain ⟨panics, -⟩ := serve_ending rest (fun _ => false) (m.enter r (applyAll cs h)) script
    rw [serve_cons passes]
    dsimp only
    rw [statuses_append, statuses_map_change, List.nil_append]
    by_cases inner : Guarded ms
    · obtain ⟨last, opens⟩ := ih rest inner (m.enter r (applyAll cs h))
      have calm := Bool.eq_false_iff.mpr fun p => (panics.mp p).1 inner.recovery_mem
      by_cases moved : m = .timeout
      · subst moved
        exact ⟨by rw [Middleware.wrap, if_neg Bool.false_ne_true, statuses_flush last]; rfl,
          fun _ => (Opens.flush last env.ord).changes cs⟩
      · refine ⟨by rw [statuses_wrap moved _ _ calm, last], fun inside => ?_⟩
        have deeper := (List.mem_cons.mp inside).resolve_left (Ne.symm moved)
        exact (opens_wrap moved _ _ calm (opens deeper)).changes cs
    · obtain ⟨rfl, free⟩ := (guarded_cons.mp guarded).resolve_right inner
      have panicked := panics.mpr ⟨fun mem => inner (guarded_of_mem mem free), free⟩
      refine ⟨?_, fun inside => ?_⟩
      · rw [Middleware.wrap, if_pos panicked]
        exact last_writeError _ _
      · simp [free] at inside

/-- Whenever the handler panics, the process survives, and unless a deadline came first the client
receives status 500. -/
def Contained (env : Env σ) (r : Request) (ms : List Middleware) : Prop :=
  ∀ (late : Nat → Bool) (script : List Call),
    let o := serve env r late ms ∅ { calls := script, panics := true }
    o.crashed = false ∧
      (late = (fun _ => false) →
        ∃ response, o.response = some response ∧ response.status = statusOf .internal)

/-- A stack with a `Recovery` outside of a `Timeout` contains the panics of its handler if
and only if there is another `Recovery` inside of every `Timeout`. -/
theorem contained_iff {before after : List Middleware}
    (reached : Reached env r (before ++ .recovery :: after)) (outside : .timeout ∈ after) :
    Contained env r (before ++ .recovery :: after) ↔ Guarded (before ++ .recovery :: after) := by
  have moved : Middleware.timeout ∈ before ++ .recovery :: after :=
    List.mem_append_right _ (List.mem_cons_of_mem _ outside)
  constructor
  · intro contained
    by_contra unguarded
    have crashed := (serve_ending reached (fun _ => false) ∅ []).2.mpr ⟨moved, unguarded⟩
    rw [(contained _ _).1] at crashed
    cases crashed
  · intro guarded late script
    obtain ⟨panics, crashed⟩ := serve_ending reached late ∅ script
    have survives := Bool.eq_false_iff.mpr fun c => (crashed.mp c).2 guarded
    have calm := Bool.eq_false_iff.mpr fun p => (panics.mp p).2 moved
    refine ⟨survives, ?_⟩
    rintro rfl
    refine ⟨_, by rw [Outcome.response, survives, calm]; rfl, ?_⟩
    exact ((serve_recovered reached guarded ∅ script).2 moved).status_respond
      (statusOf_final _) ∅

end Stack

def plain : Env Bool where
  gzip := framing [0x1f, 0x8b, 8] 0
  encode := DxErrorResponse.detail
  ord := .listed

/-- A second `Recovery` inside of the `Timeout` is enough. -/
theorem inner_recovery_contained :
    Contained plain { method := str "GET" } [.recovery, .timeout, .recovery] := by
  have contained := @contained_iff _ plain { method := str "GET" } [] [.timeout, .recovery]
    (by simp [Reached, Middleware.entry]) List.mem_cons_self
  exact contained.mpr ⟨[.recovery, .timeout], [], rfl, List.not_mem_nil⟩

/-- With `Recovery` around `Timeout` alone a panic of the handler ends the process. -/
theorem panic_behind_timeout_crashes :
    (serve plain { method := str "GET" } (fun _ => false) [.recovery, .timeout] ∅
      { calls := [], panics := true }).crashed = true := by
  rfl

end DxCommonGo.PanicRecovery
