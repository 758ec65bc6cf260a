import DxCommonGo.NetHttp

/-! `Timeout` for a handler that finishes in time: its buffer is replayed to the real writer, with
the last status and each header added to those that were there. The branch of the deadline is not
modelled. -/

namespace DxCommonGo.TimeoutMiddleware
open GoStrings GoMaps NetHttp

/-- `timeoutWriter`. The code is zero, here none, until WriteHeader is called, and a nil
header map reads as an empty one. -/
structure TimeoutWriter where
  buf : Bytes := []
  code : Option Status := none
  headers : Header := ∅
  timedOut : Bool := false

namespace TimeoutWriter

def step (tw : TimeoutWriter) : Call → TimeoutWriter
  | .change c => { tw with headers := c.apply tw.headers }
  | .writeHeader status => if tw.timedOut then tw else { tw with code := some status }
  | .write bytes => if tw.timedOut then tw else { tw with buf := tw.buf ++ bytes }
  | .flush => tw

def run (tw : TimeoutWriter) (calls : List Call) : TimeoutWriter := calls.foldl step tw

def addHeaders (ord : RangeOrder) (h : Header) : List HeaderChange :=
  (range ord 1 h).flatMap fun e => e.2.map fun v => .add e.1 v

def flush (ord : RangeOrder) (tw : TimeoutWriter) : List Call :=
  if tw.timedOut then []
  else
    (addHeaders ord tw.headers).map .change ++ tw.code.toList.map .writeHeader ++
      if tw.buf.isEmpty then [] else [.write tw.buf]

end TimeoutWriter

def timeout (ord : RangeOrder) (outer : Header) (script : List Call) : Response :=
  let tw : TimeoutWriter := {}
  respond outer ((tw.run script).flush ord)

def lastStatus (script : List Call) : Option Status :=
  (script.filterMap fun
    | .writeHeader status => some status
    | _ => none).getLast?

def left (cs : List HeaderChange) (k : GoString) : List GoString := (applyAll cs ∅).values k

def merged (outer : Header) (script : List Call) : Fields := fun k =>
  outer.values k ++ left (changes script) k

section Replay

theorem run_eq (tw : TimeoutWriter) (live : tw.timedOut = false) (script : List Call) :
    tw.run script =
      { buf := tw.buf ++ written script, code := (lastStatus script).or tw.code
        headers := applyAll (changes script) tw.headers } := by
  induction script using List.reverseRecOn with
  | nil =>
    cases tw
    cases live
    simp [TimeoutWriter.run, written, lastStatus, applyAll, changes]
  | append_singleton script call ih =>
    have last : tw.run (script ++ [call]) = (tw.run script).step call := List.foldl_append
    rw [last, ih]
    cases call <;>
      simp [TimeoutWriter.step, written, lastStatus, applyAll, changes, List.filterMap_append]

theorem canonical_of_mem (cs : List HeaderChange) {k : GoString} (h : k ∈ applyAll cs ∅) :
    canonicalKey k = k := by
  induction cs using List.reverseRecOn with
  | nil => cases h
  | append_singleton cs c ih =>
    have last : applyAll (cs ++ [c]) ∅ = c.apply (applyAll cs ∅) := List.foldl_append
    rw [last] at h
    cases c with
    | set key value | add key value =>
      rw [HeaderChange.apply, AList.mem_insert] at h
      rcases h with rfl | h
      · exact canonicalKey_idem key
      · exact ih h
    | del key =>
      rw [HeaderChange.apply, AList.mem_erase] at h
      exact ih h.2

theorem values_addEntry (key : GoString) (vs : List GoString) (h : Header) (k : GoString) :
    (applyAll (vs.map (.add key)) h).values k =
      h.values k ++ if k = canonicalKey key then vs else [] := by
  induction vs generalizing h with
  | nil => simp [applyAll]
  | cons v vs ih =>
    have first : applyAll ((v :: vs).map (.add key)) h =
        applyAll (vs.map (.add key)) (HeaderChange.apply (.add key v) h) := rfl
    rw [first, ih, HeaderChange.values_apply]
    simp only [HeaderChange.key, HeaderChange.replaces, HeaderChange.leaves, Bool.false_eq_true,
      if_false]
    split_ifs
    · rw [List.append_assoc]
      rfl
    · rfl

theorem values_addEntries {es : List (GoString × List GoString)}
    (canonical : ∀ e ∈ es, canonicalKey e.1 = e.1) (nodup : (es.map Prod.fst).Nodup) (h : Header)
    (k : GoString) :
    (applyAll (es.flatMap fun e => e.2.map (.add e.1)) h).values k =
      h.values k ++ (es.lookup k).getD [] := by
  induction es generalizing h with
  | nil => simp [applyAll]
  | cons e es ih =>
    rw [List.map_cons, List.nodup_cons] at nodup
    have first : applyAll ((e :: es).flatMap fun e => e.2.map (.add e.1)) h =
        applyAll (es.flatMap fun e => e.2.map (.add e.1)) (applyAll (e.2.map (.add e.1)) h) := by
      rw [List.flatMap_cons, applyAll, List.foldl_append]
      rfl
    rw [first, ih (fun e' he' => canonical e' (List.mem_cons_of_mem e he')) nodup.2,
      values_addEntry, canonical e List.mem_cons_self, List.lookup_cons]
    by_cases here : k = e.1
    · have later : es.lookup k = none := by
        rw [List.lookup_eq_none_iff]
        intro p hp
        rw [bne_iff_ne]
        rintro rfl
        exact nodup.1 (here ▸ List.mem_map_of_mem hp)
      simp [here, here ▸ later]
    · rw [if_neg here, List.append_nil, beq_false_of_ne here]

theorem values_addHeaders (ord : RangeOrder) (cs : List HeaderChange) (outer : Header)
    (k : GoString) :
    (applyAll (TimeoutWriter.addHeaders ord (applyAll cs ∅)) outer).values k =
      outer.values k ++ left cs k := by
  have canonical : ∀ e ∈ range ord 1 (applyAll cs ∅), canonicalKey e.1 = e.1 := by
    intro e he
    exact canonical_of_mem cs (mem_range_keys.mp (List.mem_map_of_mem he))
  rw [TimeoutWriter.addHeaders, values_addEntries canonical (range_keys_nodup ord 1 _),
    lookup_range]
  rfl

end Replay

section Compare

variable (ord : RangeOrder) (outer : Header) (script : List Call)

theorem timeout_eq :
    timeout ord outer script =
      ⟨((lastStatus script).toList.filter Status.informational).map
          fun s => (s, interimFields (merged outer script)),
        ((lastStatus script).filter fun s => !s.informational).getD statusOK,
        merged outer script, written script⟩ := by
  have header : (applyAll (TimeoutWriter.addHeaders ord (applyAll (changes script) ∅))
      outer).values = merged outer script :=
    funext (values_addHeaders ord (changes script) outer)
  rw [timeout, run_eq _ rfl, TimeoutWriter.flush, if_neg Bool.false_ne_true, List.append_assoc,
    respond_eq]
  obtain ⟨sent, interim, body⟩ := changes_first
    (TimeoutWriter.addHeaders ord (applyAll (changes script) ∅))
    (((lastStatus script).or none).toList.map .writeHeader ++
      if ([] ++ written script).isEmpty then [] else [.write ([] ++ written script)])
  rw [sent, interim, body]
  cases lastStatus script with
  | none => cases bytes : written script <;> simp [fixed, interims, NetHttp.written, header]
  | some status =>
    cases informs : status.informational <;> cases bytes : written script <;>
      simp [fixed, interims, NetHttp.written, header, informs, Option.filter]

/-- The responses through `Timeout` and without it are the same exactly if the last
status is the one that counts, the informational responses are the one it sends, and
under every header name the old values followed by all that the script leaves there are
what the changes before the first write make of it. -/
theorem timeout_transparent_iff :
    timeout ord outer script = respond outer script ↔
      ((lastStatus script).filter fun s => !s.informational).getD statusOK = (fixed script).1 ∧
      ((lastStatus script).toList.filter Status.informational).map
          (fun s => (s, interimFields (merged outer script))) = interims outer script ∧
      ∀ k, outer.values k ++ left (changes script) k =
        (if replaced k (fixed script).2 then [] else outer.values k) ++
          left (fixed script).2 k := by
  have header : merged outer script = (applyAll (fixed script).2 outer).values ↔
      ∀ k, outer.values k ++ left (changes script) k =
        (if replaced k (fixed script).2 then [] else outer.values k) ++
          left (fixed script).2 k := by
    rw [funext_iff]
    refine forall_congr' fun k => ?_
    rw [values_applyAll (fixed script).2]
    exact Iff.rfl
  rw [timeout_eq, respond_eq, Response.mk.injEq, header]
  tauto

end Compare

def earlyHints : Status := ⟨103, by omega⟩

def framed : Header := applyAll [.set (str "X-Frame-Options") (str "DENY")] ∅

def frameOptions : GoString := str "X-Frame-Options"

def plainScript : List Call :=
  [.change (.set (str "Content-Type") (str "text/plain")), .writeHeader notFound,
    .write (str "gone")]

theorem timeout_transparent_plain :
    timeout .listed framed plainScript = respond framed plainScript := by
  refine (timeout_transparent_iff .listed framed plainScript).mpr ⟨rfl, rfl, fun k => ?_⟩
  have changed : (fixed plainScript).2 = changes plainScript := rfl
  rw [changed]
  by_cases own : k = str "Content-Type"
  · subst own
    decide
  · have kept : replaced k (changes plainScript) = false := by
      have name : canonicalKey (str "Content-Type") = str "Content-Type" := by decide
      simp [replaced, plainScript, changes, HeaderChange.key, name, own]
    rw [kept]
    rfl

/-- A second status counts, early hints are dropped, a header that is replaced is sent
twice, a header that is deleted is sent, and so is one that is set behind the body. -/
theorem timeout_differs :
    ((respond ∅ [.writeHeader statusOK, .writeHeader notFound]).status = statusOK ∧
      (timeout .listed ∅ [.writeHeader statusOK, .writeHeader notFound]).status = notFound) ∧
    ((respond ∅ [.writeHeader earlyHints, .writeHeader notFound]).interim.map Prod.fst =
        [earlyHints] ∧
      (timeout .listed ∅ [.writeHeader earlyHints, .writeHeader notFound]).interim.map Prod.fst =
        []) ∧
    ((respond framed [.change (.set frameOptions (str "SAMEORIGIN"))]).header frameOptions =
        [str "SAMEORIGIN"] ∧
      (timeout .listed framed [.change (.set frameOptions (str "SAMEORIGIN"))]).header
        frameOptions = [str "DENY", str "SAMEORIGIN"]) ∧
    ((respond framed [.change (.del frameOptions)]).header frameOptions = [] ∧
      (timeout .listed framed [.change (.del frameOptions)]).header frameOptions =
        [str "DENY"]) ∧
    ((respond ∅ [.write (str "a"), .change (.add (str "Etag") (str "1"))]).header (str "Etag") =
        [] ∧
      (timeout .listed ∅ [.write (str "a"), .change (.add (str "Etag") (str "1"))]).header
        (str "Etag") = [str "1"]) := by
  decide +kernel

end DxCommonGo.TimeoutMiddleware
