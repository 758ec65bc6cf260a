import DxCommonGo.AnonymousDocs
import DxCommonGo.JsonText

/-! The payloads of the bulk API as text: a line for every action, and below it one with the
document, except for a delete. A reader gets the operations back, with what is not UTF-8 in a name
replaced. -/

namespace DxCommonGo.BulkPayloads
open GoStrings GoMaps DxErrors GoUtf8 GoJson Programs RetryLoop EsClient
open BulkIndexing AnonymousDocs

/-- What is taken of `encoding/json`: a value that it can write is written on one line, and read
back from it. -/
structure Codec where
  write : Json → GoString
  read : GoString → Option Json
  read_write : ∀ {j}, JsonText.valid j = true → read (write j) = some j
  one_line : ∀ {j}, JsonText.valid j = true → 10 ∉ write j

abbrev Document := { j : Json // JsonText.valid j = true }

def updateOp (id : GoString) (part : Except GoError Document) : BulkOp Document :=
  ⟨.update, id, part⟩

def deleteOp (id : GoString) : BulkOp Document := ⟨.delete, id, .ok ⟨.null, rfl⟩⟩

section Writing

variable (codec : Codec)

/-- The keys of a map are written in their order. -/
def actionLine (action index id : GoString) : Json :=
  .object [(coerce action,
    .object [(str "_id", .string (coerce id)), (str "_index", .string (coerce index))])]

def line (j : Json) : GoString := codec.write j ++ str "\n"

def writeOp (index : GoString) (body : GoString) (op : BulkOp Document) : Except GoError GoString :=
  let body := body ++ line codec (actionLine (actionName op.action) index op.id)
  match op.action, op.doc with
  | .index, .ok doc => .ok (body ++ line codec doc.1)
  | .index, .error err => .error (errorf (str "elastic: marshal bulk doc %s: %w") err)
  | .update, .ok doc => .ok (body ++ line codec (.object [(str "doc", doc.1)]))
  | .update, .error err => .error (errorf (str "elastic: marshal bulk update %s: %w") err)
  | .delete, _ => .ok body
  | .unknown _, _ => .error (errorsNew (str "elastic: unknown bulk action %q for %s"))

def writeDoc (index : GoString) (sb : GoString) (e : GoString × Except GoError Document) :
    Except GoError GoString :=
  match e.2 with
  | .error err => .error (errorf (str "elastic: marshal bulk doc %s: %w") err)
  | .ok doc =>
    .ok (sb ++ line codec (actionLine (str "index") index e.1) ++ line codec doc.1)

end Writing

section Programs

/-- A response by what is decoded from it: the items, or the flag that one of them failed. -/
structure Response where
  items : Raw
  errors : Except GoError Bool

inductive Request where
  | ctxErr
  | backoff (baseDelay : Int) (attempt : Nat)
  | sleep (delay : Int)
  | doNDJSON (path payload : GoString)

abbrev Reply : Request → Type
  | .ctxErr => Option GoError
  | .backoff _ _ => Int
  | .sleep _ => Option GoError
  | .doNDJSON _ _ => Outcome Response

abbrev SendProg (α : Type) := Prog Request Reply α

def hooks (policy : Retry.Policy) : Hooks Request Reply GoError Int where
  retryable := Retry.defaultRetryable
  ctxErr := perform Request.ctxErr
  backoff attempt := perform (Request.backoff policy.baseDelay attempt)
  onRetry _ _ _ := pure ()
  sleep delay := perform (Request.sleep delay)

def send (payload : GoString) : SendProg (Except GoError Response) := do
  let outcome ← perform (Request.doNDJSON (str "/_bulk") payload)
  pure (doNDJSON outcome)

def bulkDo (codec : Codec) (ord : RangeOrder) (index : GoString) (ops : List (BulkOp Document))
    (maxAttempts : Int) : SendProg (Except GoError BulkStats) := do
  if ops.isEmpty then return .ok {}
  match ops.foldlM (writeOp codec index) [] with
  | .error err => return .error err
  | .ok payload =>
    let policy : Retry.Policy := { maxAttempts := maxAttemptsOf maxAttempts }
    match ← loop (hooks policy) (send payload) (policy.attempts - 1) 1 with
    | .error err =>
      return .error (errorf (str "elastic: bulk failed after %d attempts: %w") err)
    | .ok raw => return parseBulkResponse ord raw.items

def itemFailures : Except GoError Response → Option GoError
  | .error err => some err
  | .ok resp =>
    match resp.errors with
    | .error err => some (errorf (str "elastic: decode bulk response: %w") err)
    | .ok true => some (errorsNew (str "elastic: bulk request reported item failures"))
    | .ok false => none

def bulkIndex (codec : Codec) (ord : RangeOrder) (site : Nat) (index : GoString)
    (docs : GoMap (Except GoError Document)) : SendProg (Option GoError) := do
  if docs.entries.isEmpty then return none
  match (range ord site docs).foldlM (writeDoc codec index) [] with
  | .error err => return some err
  | .ok payload => return itemFailures (← send payload)

def payloads (requests : List Request) : List GoString :=
  requests.filterMap fun
    | .doNDJSON _ payload => some payload
    | _ => none

end Programs

section Reading

def lines (payload : GoString) : Option (List GoString) :=
  if ((split payload 10).getLastD []).isEmpty then some (split payload 10).dropLast else none

def text : Option Json → Option GoString
  | some (.string s) => some s
  | _ => none

def readOps : List Json → Option (List (Edit Json))
  | [] => some []
  | .object [(action, .object fields)] :: rest => do
    let index ← text (fields.lookup (str "_index"))
    let id ← text (fields.lookup (str "_id"))
    if action = str "delete" then
      return ⟨index, id, .delete⟩ :: (← readOps rest)
    else
      match rest with
      | [] => none
      | source :: rest =>
        if action = str "index" then return ⟨index, id, .index source⟩ :: (← readOps rest)
        else if action = str "update" then
          match source with
          | .object [(key, part)] =>
            if key = str "doc" then return ⟨index, id, .update part⟩ :: (← readOps rest) else none
          | _ => none
        else none
  | _ => none

def decode (codec : Codec) (payload : GoString) : Option (List (Edit Json)) := do
  readOps (← (← lines payload).mapM codec.read)

end Reading

section Lines

theorem split_lines {ls : List GoString} (h : ∀ l ∈ ls, 10 ∉ l) :
    split (ls.flatMap (· ++ str "\n")) 10 = ls ++ [[]] := by
  induction ls with
  | nil => rfl
  | cons l ls ih =>
    rw [List.forall_mem_cons] at h
    have first : split l 10 = [l] := by
      simpa [join] using split_join (List.cons_ne_nil l []) (List.forall_mem_singleton.mpr h.1)
    have text : (l :: ls).flatMap (· ++ str "\n") = l ++ 10 :: ls.flatMap (· ++ str "\n") := by
      simp [show str "\n" = [10] from rfl]
    rw [text, split_append_cons, first, ih h.2]
    rfl

theorem lines_written {ls : List GoString} (h : ∀ l ∈ ls, 10 ∉ l) :
    lines (ls.flatMap (· ++ str "\n")) = some ls := by
  rw [lines, split_lines h]
  simp

end Lines

section Edits

variable (codec : Codec) (index : GoString)

def Change.json : Change Document → Change Json
  | .index doc => .index doc.1
  | .update part => .update part.1
  | .delete => .delete

def Edit.json (e : Edit Document) : Edit Json := ⟨e.index, e.id, Change.json e.change⟩

def sources (e : Edit Document) : List Json :=
  match e.change with
  | .index doc => [actionLine (str "index") e.index e.id, doc.1]
  | .update part => [actionLine (str "update") e.index e.id, .object [(str "doc", part.1)]]
  | .delete => [actionLine (str "delete") e.index e.id]

theorem actionLine_coerce (action id : GoString) :
    actionLine action (coerce index) (coerce id) = actionLine action index id := by
  rw [actionLine, coerce_coerce, coerce_coerce]
  rfl

theorem writeOp_eq (body : GoString) (op : BulkOp Document) :
    writeOp codec index body op =
      (BulkOp.edit index op).map fun e => body ++ (sources e).flatMap (line codec) := by
  obtain ⟨action, id, doc⟩ := op
  cases action <;> cases doc <;>
    simp [writeOp, BulkOp.edit, sources, actionLine_coerce, actionName, Except.map]

theorem writeDoc_eq (sb : GoString) (e : GoString × Except GoError Document) :
    writeDoc codec index sb e = writeOp codec index sb (indexOp e.1 e.2) := by
  obtain ⟨id, doc⟩ := e
  cases doc <;> rfl

theorem foldlM_writeOp (body : GoString) (ops : List (BulkOp Document)) :
    ops.foldlM (writeOp codec index) body =
      (ops.mapM (BulkOp.edit index)).map fun es =>
        body ++ (es.flatMap sources).flatMap (line codec) := by
  induction ops generalizing body with
  | nil => simp [pure, Except.pure, Except.map]
  | cons op ops ih =>
    rw [List.foldlM_cons, List.mapM_cons, writeOp_eq]
    cases BulkOp.edit index op with
    | error err => rfl
    | ok e =>
      change ops.foldlM (writeOp codec index) (body ++ (sources e).flatMap (line codec)) = _
      rw [ih]
      cases ops.mapM (BulkOp.edit index) with
      | error err => rfl
      | ok es =>
        simp [Except.map, bind, Except.bind, pure, Except.pure]

theorem validString_names {op : BulkOp Document} {e : Edit Document}
    (edit : BulkOp.edit index op = .ok e) :
    validString e.index = true ∧ validString e.id = true := by
  unfold BulkOp.edit at edit
  split at edit <;> cases edit <;> exact ⟨validString_coerce _, validString_coerce _⟩

theorem valid_actionLine (action id : GoString) :
    JsonText.valid (actionLine action index id) = true := by
  simp [actionLine, JsonText.valid, JsonText.validFields, validString_coerce,
    show validString (str "_id") = true from rfl, show validString (str "_index") = true from rfl]

theorem valid_sources (e : Edit Document) : ∀ j ∈ sources e, JsonText.valid j = true := by
  obtain ⟨index, id, doc | part | _⟩ := e
  · simpa [sources, valid_actionLine] using doc.2
  · simpa [sources, valid_actionLine, JsonText.valid, JsonText.validFields,
      show validString (str "doc") = true from rfl] using part.2
  · simp [sources, valid_actionLine]

theorem actionLine_valid {action i n : GoString} (ascii : coerce action = action)
    (index : validString i = true) (id : validString n = true) :
    actionLine action i n =
      .object [(action, .object [(str "_id", .string n), (str "_index", .string i)])] := by
  rw [actionLine, ascii, coerce_eq_self_iff.mpr index, coerce_eq_self_iff.mpr id]

theorem readOps_sources {e : Edit Document} (index : validString e.index = true)
    (id : validString e.id = true) (rest : List Json) :
    readOps (sources e ++ rest) = (readOps rest).map (Edit.json e :: ·) := by
  obtain ⟨i, n, doc | part | _⟩ := e
  · have action : actionLine (str "index") i n = _ := actionLine_valid rfl index id
    simp only [sources, action, List.cons_append, List.nil_append]
    change (readOps rest).bind _ = _
    cases readOps rest <;> rfl
  · have action : actionLine (str "update") i n = _ := actionLine_valid rfl index id
    simp only [sources, action, List.cons_append, List.nil_append]
    change (readOps rest).bind _ = _
    cases readOps rest <;> rfl
  · have action : actionLine (str "delete") i n = _ := actionLine_valid rfl index id
    simp only [sources, action, List.cons_append, List.nil_append]
    rw [readOps]
    change (readOps rest).bind _ = _
    cases readOps rest <;> rfl

theorem readOps_flatMap {es : List (Edit Document)}
    (h : ∀ e ∈ es, validString e.index = true ∧ validString e.id = true) :
    readOps (es.flatMap sources) = some (es.map Edit.json) := by
  induction es with
  | nil => rfl
  | cons e es ih =>
    rw [List.forall_mem_cons] at h
    rw [List.flatMap_cons, readOps_sources h.1.1 h.1.2, ih h.2]
    rfl

theorem mapM_read {js : List Json} (valid : ∀ j ∈ js, JsonText.valid j = true) :
    (js.map codec.write).mapM codec.read = some js := by
  induction js with
  | nil => rfl
  | cons j js ih =>
    rw [List.forall_mem_cons] at valid
    rw [List.map_cons, List.mapM_cons, codec.read_write valid.1, ih valid.2]
    rfl

theorem decode_written {es : List (Edit Document)}
    (h : ∀ e ∈ es, validString e.index = true ∧ validString e.id = true) :
    decode codec ((es.flatMap sources).flatMap (line codec)) = some (es.map Edit.json) := by
  have valid : ∀ j ∈ es.flatMap sources, JsonText.valid j = true := by
    intro j mem
    obtain ⟨e, -, mem⟩ := List.mem_flatMap.mp mem
    exact valid_sources e j mem
  have ended : (es.flatMap sources).flatMap (line codec) =
      ((es.flatMap sources).map codec.write).flatMap (· ++ str "\n") := by
    rw [List.flatMap_map]
    rfl
  have free : ∀ l ∈ (es.flatMap sources).map codec.write, 10 ∉ l := by
    intro l mem
    obtain ⟨j, here, rfl⟩ := List.mem_map.mp mem
    exact codec.one_line (valid j here)
  have values := mapM_read codec valid
  rw [decode, ended, lines_written free]
  simp only [Option.bind_eq_bind, Option.bind_some, values]
  exact readOps_flatMap h

end Edits

inductive Operation where
  | index (id : GoString) (doc : Document)
  | update (id : GoString) (part : Document)
  | delete (id : GoString)

namespace Operation

def id : Operation → GoString
  | .index id _ => id
  | .update id _ => id
  | .delete id => id

def op : Operation → BulkOp Document
  | .index id doc => indexOp id (.ok doc)
  | .update id part => updateOp id (.ok part)
  | .delete id => deleteOp id

def change : Operation → Change Json
  | .index _ doc => .index doc.1
  | .update _ part => .update part.1
  | .delete _ => .delete

def edit (index : GoString) (o : Operation) : Edit Json := ⟨index, o.id, o.change⟩

end Operation

section Payload

variable (codec : Codec) (index : GoString)

theorem edit_op (o : Operation) :
    ∃ e, BulkOp.edit index o.op = .ok e ∧ Edit.json e = ⟨coerce index, coerce o.id, o.change⟩ := by
  cases o <;> exact ⟨_, rfl, rfl⟩

theorem mapM_edit (ops : List Operation) :
    ∃ es, (ops.map Operation.op).mapM (BulkOp.edit index) = .ok es ∧
      (∀ e ∈ es, validString e.index = true ∧ validString e.id = true) ∧
      es.map Edit.json = ops.map fun o => ⟨coerce index, coerce o.id, o.change⟩ := by
  induction ops with
  | nil => exact ⟨[], rfl, List.forall_mem_nil _, rfl⟩
  | cons o ops ih =>
    obtain ⟨e, first, arrived⟩ := edit_op index o
    obtain ⟨es, others, names, rest⟩ := ih
    refine ⟨e :: es, ?_, ?_, ?_⟩
    · rw [List.map_cons, List.mapM_cons, first, others]
      rfl
    · exact List.forall_mem_cons.mpr ⟨validString_names index first, names⟩
    · rw [List.map_cons, List.map_cons, arrived, rest]

theorem payload_of_ops (ops : List Operation) :
    ∃ payload, (ops.map Operation.op).foldlM (writeOp codec index) [] = .ok payload ∧
      decode codec payload = some (ops.map fun o => ⟨coerce index, coerce o.id, o.change⟩) := by
  obtain ⟨es, made, names, arrived⟩ := mapM_edit index ops
  refine ⟨(es.flatMap sources).flatMap (line codec), ?_, ?_⟩
  · rw [foldlM_writeOp, made]
    rfl
  · rw [← arrived]
    exact decode_written codec names

theorem payload_of_valid {index : GoString} (hindex : validString index = true)
    {ops : List Operation} (ids : ∀ o ∈ ops, validString o.id = true) :
    ∃ payload, (ops.map Operation.op).foldlM (writeOp codec index) [] = .ok payload ∧
      decode codec payload = some (ops.map (Operation.edit index)) := by
  obtain ⟨payload, written, decoded⟩ := payload_of_ops codec index ops
  refine ⟨payload, written, decoded.trans (congrArg some (List.map_congr_left fun o mem => ?_))⟩
  rw [coerce_eq_self_iff.mpr hindex, coerce_eq_self_iff.mpr (ids o mem)]
  rfl

end Payload

section Sent

variable {ω : Type} {h : Handler Request Reply ω} {payload : GoString}

theorem performs_retry (payload : GoString) (policy : Retry.Policy) (left attempt : Nat) :
    Performs (fun r => ∀ p ∈ payloads [r], p = payload)
      (loop (hooks policy) (send payload) left attempt) := by
  have quiet : ∀ r : Request, payloads [r] = [] → ∀ p ∈ payloads [r], p = payload := by
    intro r empty p mem
    rw [empty] at mem
    cases mem
  refine performs_loop ?_ ?_ ?_ ?_ ?_ left attempt
  · exact ⟨quiet .ctxErr rfl, fun _ => trivial⟩
  · refine performs_perform_bind ?_ fun _ => trivial
    intro p mem
    exact List.mem_singleton.mp mem
  · exact fun n => ⟨quiet (.backoff _ n) rfl, fun _ => trivial⟩
  · exact fun _ _ _ => trivial
  · exact fun delay => ⟨quiet (.sleep delay) rfl, fun _ => trivial⟩

theorem mem_payloads {p : GoString} {requests : List Request} :
    p ∈ payloads requests ↔ ∃ r ∈ requests, p ∈ payloads [r] := by
  simp [payloads]

variable (codec : Codec) (ord : RangeOrder) {index : GoString} {ops : List (BulkOp Document)}
  (maxAttempts : Int) (written : ops.foldlM (writeOp codec index) [] = .ok payload)

include written

theorem performs_bulkDo :
    Performs (fun r => ∀ p ∈ payloads [r], p = payload)
      (bulkDo codec ord index ops maxAttempts) := by
  unfold bulkDo
  split_ifs
  · trivial
  · rw [written]
    refine performs_bind (performs_retry payload _ _ _) fun answer => ?_
    cases answer <;> trivial

theorem bulkDo_sends (nonempty : ops.isEmpty = false) (w : ω) (live : (h .ctxErr w).1 = none) :
    payload ∈ payloads (trace h (bulkDo codec ord index ops maxAttempts) w) := by
  have first : ∀ {α : Type} (failed) (k : Except GoError Response → SendProg α) policy,
      ∃ rest, trace h (attemptThen (hooks policy) (send payload) failed >>= k) w =
        .ctxErr :: .doNDJSON (str "/_bulk") payload :: rest := by
    intro α failed k policy
    have asked : run h (hooks policy).ctxErr w = (.returned none, (h .ctxErr w).2) := by
      rw [← live]
      rfl
    rw [attemptThen, Prog.bind_bind, trace_bind asked]
    exact ⟨_, rfl⟩
  unfold bulkDo
  rw [nonempty, if_neg Bool.false_ne_true, written]
  dsimp only
  obtain ⟨failed, same⟩ := loop_eq_attemptThen
    (hooks { maxAttempts := maxAttemptsOf maxAttempts }) (send payload)
    (Retry.Policy.attempts { maxAttempts := maxAttemptsOf maxAttempts } - 1) 1
  rw [same]
  obtain ⟨rest, begun⟩ := first failed _ _
  rw [begun]
  exact List.mem_cons_self

omit written in
theorem bulkIndex_sends {docs : GoMap (Except GoError Document)} {site : Nat}
    (nonempty : docs.entries.isEmpty = false)
    (written : ((range ord site docs).map fun e => indexOp e.1 e.2).foldlM (writeOp codec index)
      [] = .ok payload) (w : ω) :
    payloads (trace h (bulkIndex codec ord site index docs) w) = [payload] := by
  have same : (range ord site docs).foldlM (writeDoc codec index) [] = .ok payload := by
    rw [← written, List.foldlM_map]
    simp only [← writeDoc_eq]
  unfold bulkIndex
  rw [nonempty, if_neg Bool.false_ne_true, same]
  rfl

end Sent

theorem exists_perm_of_map {α β : Type} {f : α → β} {l : List α} {l' : List β}
    (perm : (l.map f).Perm l') : ∃ m, l.Perm m ∧ m.map f = l' := by
  have both : Relation.Comp (List.Forall₂ fun a b => f a = b) List.Perm l l' :=
    ⟨l.map f, List.forall₂_map_right_iff.mpr (List.forall₂_same.mpr fun _ _ => rfl), perm⟩
  rw [List.forall₂_comp_perm_eq_perm_comp_forall₂] at both
  obtain ⟨m, perm, same⟩ := both
  refine ⟨m, perm, ?_⟩
  rw [← List.forall₂_eq_eq_eq]
  exact List.forall₂_map_left_iff.mpr same

/-- What is read from the payloads of `BulkDo` are the operations, and from the one of `BulkIndex`
the same operations in some order. -/
theorem payloads_decode (codec : Codec) {index : GoString} (hindex : validString index = true)
    {ops : List Operation} (ids : ∀ o ∈ ops, validString o.id = true) {ω : Type}
    (h : Handler Request Reply ω) (w : ω) (ord : RangeOrder) (maxAttempts : Int) :
    (∀ p ∈ payloads (trace h (bulkDo codec ord index (ops.map Operation.op) maxAttempts) w),
      decode codec p = some (ops.map (Operation.edit index))) ∧
    (ops ≠ [] → (h .ctxErr w).1 = none →
      payloads (trace h (bulkDo codec ord index (ops.map Operation.op) maxAttempts) w) ≠ []) ∧
    ∀ (docs : GoMap (Except GoError Document)) (site : Nat), ops ≠ [] →
      (ops.map Operation.op).Perm ((pairs docs).map fun e => indexOp e.1 e.2) →
      ∃ p es, payloads (trace h (bulkIndex codec ord site index docs) w) = [p] ∧
        decode codec p = some es ∧ es.Perm (ops.map (Operation.edit index)) := by
  obtain ⟨payload, written, decoded⟩ := payload_of_valid codec hindex ids
  refine ⟨?_, ?_, ?_⟩
  · intro p mem
    obtain ⟨r, performed, here⟩ := mem_payloads.mp mem
    rw [(performs_bulkDo codec ord maxAttempts written).trace_mem h w r performed p here]
    exact decoded
  · intro nonempty live unsent
    have sent := bulkDo_sends codec ord maxAttempts written (by simpa using nonempty) w live
    rw [unsent] at sent
    cases sent
  · intro docs site nonempty same
    have order : (ops.map Operation.op).Perm
        ((range ord site docs).map fun e => indexOp e.1 e.2) :=
      same.trans ((range_perm ord site docs).map _).symm
    obtain ⟨others, perm, entries⟩ := exists_perm_of_map order
    obtain ⟨payload, written, decoded⟩ := payload_of_valid codec hindex
      fun o mem => ids o (perm.mem_iff.mpr mem)
    rw [entries] at written
    refine ⟨payload, others.map (Operation.edit index), ?_, decoded, (perm.map _).symm⟩
    refine bulkIndex_sends codec ord ?_ written w
    have length := same.length_eq
    rw [List.length_map, List.length_map, pairs, List.length_map] at length
    rw [List.isEmpty_eq_false_iff, ← List.length_pos_iff, ← length]
    exact List.length_pos_iff.mpr nonempty

def jsonCodec : Codec where
  write := JsonText.write
  read := JsonText.read
  read_write := JsonText.read_write
  one_line := fun {j} h => JsonText.newline_not_mem_write j h

def accepting : Handler Request Reply Unit
  | .ctxErr, w => (none, w)
  | .backoff _ _, w => ((0 : Int), w)
  | .sleep _, w => (none, w)
  | .doNDJSON _ _, w => (Except.ok ⟨.ok [], .ok false⟩, w)

def batch : List Operation :=
  [.index (str "a\n\"b\"") ⟨.object [(str "title", .string (str "\x7b\x7d"))], by decide⟩,
    .delete (str "c"), .update (str "ü") ⟨.number (str "1.5"), by decide⟩]

theorem payloads_decode_batch :
    (∀ o ∈ batch, validString o.id = true) ∧
      (∀ p ∈ payloads (trace accepting
          (bulkDo jsonCodec .listed (str "books") (batch.map Operation.op) 0) ()),
        decode jsonCodec p = some (batch.map (Operation.edit (str "books")))) ∧
      payloads (trace accepting
        (bulkDo jsonCodec .listed (str "books") (batch.map Operation.op) 0) ()) ≠ [] := by
  have ids : ∀ o ∈ batch, validString o.id = true := by decide
  obtain ⟨decoded, sent, -⟩ :=
    @payloads_decode jsonCodec (str "books") rfl batch ids Unit accepting () .listed 0
  exact ⟨ids, decoded, sent (List.cons_ne_nil _ _) rfl⟩

/-- A byte that is not UTF-8 is read back as U+FFFD. -/
theorem invalid_id_replaced :
    ∃ p ∈ payloads (trace accepting
        (bulkDo jsonCodec .listed (str "books") [deleteOp [0xff]] 0) ()),
      decode jsonCodec p = some [⟨str "books", str "\ufffd", .delete⟩] ∧
      decode jsonCodec p ≠ some [⟨str "books", [0xff], .delete⟩] := by
  obtain ⟨p, written, decoded⟩ := payload_of_ops jsonCodec (str "books") [.delete [0xff]]
  have sent := bulkDo_sends (h := accepting) jsonCodec .listed 0 written rfl () rfl
  refine ⟨p, sent, decoded, ?_⟩
  rw [decoded]
  intro same
  have ids := congrArg (Option.map (List.map BulkIndexing.Edit.id)) same
  exact absurd ids (by decide)

end DxCommonGo.BulkPayloads
