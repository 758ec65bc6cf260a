import DxCommonGo.RetryTransport
import Mathlib.Order.Bounds.Basic

/-! A round trip of `retryTransport` under a live context and without a breaker: the calls of the
base transport, the result, and the response bodies that are closed. -/

namespace DxCommonGo.TransportRuns
open GoStrings DxErrors Programs Retry RetryTransport

/-- What a round trip meets under a live context: the results of the base transport with the bytes
read of each body, what `GetBody` returns, the breaker, the delays and the clock. -/
structure Course where
  result : Nat → Except GoError Response
  read : Nat → Nat
  getBody : Nat → Except GoError Body
  admits : Nat → Option GoError
  delay : Nat → Int
  time : Nat → Int

def answer : Except GoError Response → Answer
  | .ok resp => (some resp, none)
  | .error err => (none, some err)

def handed (log : List Op) : List (List UInt8 × Option GoError) :=
  log.filterMap fun op =>
    match op with
    | .roundTrip req => some req.body.content
    | _ => none

def closed (log : List Op) : List Response :=
  log.filterMap fun op =>
    match op with
    | .close resp => some resp
    | _ => none

def Course.reply (c : Course) (log : List Op) : (op : Op) → Reply op
  | .closeBody => ()
  | .ctxErr => none
  | .getBody => c.getBody log.length
  | .beforeCall => c.admits log.length
  | .afterCall _ => ()
  | .roundTrip _ =>
    (answer (c.result ((handed log).length + 1)), c.read ((handed log).length + 1))
  | .backoff attempt => c.delay attempt
  | .now => c.time log.length
  | .discard _ => ()
  | .close _ => ()
  | .onRetry _ _ _ _ _ => ()
  | .sleep _ => none

def Course.handler (c : Course) : Handler Op Reply (List Op) := fun op log =>
  (c.reply log op, log ++ [op])

/-- A request whose body is absent or can be read to its end, or which has a `GetBody` that
returns the complete body each time. -/
def Replayable (c : Course) (req : Request) : Prop :=
  req.body.content.2 = none ∧
    match req.getBody with
    | none => True
    | some (.buffered body) => body = req.body.content.1
    | some .caller => ∀ n, ∃ body, c.getBody n = .ok body ∧ body.content = req.body.content

def cap (cfg : HttpConfig) (req : Request) : Nat :=
  if cfg.retryMethods.contains req.method then cfg.policy.attempts else 1

def Accepted (cfg : HttpConfig) (c : Course) (i : Nat) : Prop :=
  ∃ resp, c.result i = .ok resp ∧ cfg.retryOnStatus resp.statusCode = false

def Course.closable (c : Course) (i : Nat) : Option Response :=
  (c.result i).toOption.filter Response.hasBody

section Logs

variable (log log' : List Op)

theorem handed_append : handed (log ++ log') = handed log ++ handed log' := List.filterMap_append ..

theorem closed_append : closed (log ++ log') = closed log ++ closed log' := List.filterMap_append ..

end Logs

section Loop

variable {parseTime : GoString → Option Int} {cfg : HttpConfig} {c : Course} {req : Request}
  {log : List Op} {a left : Nat} {whole : List UInt8}

/-- The request is handed over with the whole body in this attempt and in all that are left. -/
inductive Steady (c : Course) (whole : List UInt8) : Nat → Request → Prop
  | once {req : Request} (unset : req.getBody = none)
    (content : req.body.content = (whole, none)) : Steady c whole 0 req
  | bodyless {left : Nat} {req : Request} (unset : req.getBody = none)
    (absent : req.body.isReader = false) (empty : whole = []) : Steady c whole left req
  | buffered {left : Nat} {req : Request} (set : req.getBody = some (.buffered whole)) :
    Steady c whole left req
  | caller {left : Nat} {req : Request} (set : req.getBody = some .caller)
    (replays : ∀ n, ∃ body, c.getBody n = .ok body ∧ body.content = (whole, none)) :
    Steady c whole left req

theorem content_of_not_reader {body : Body} (absent : body.isReader = false) :
    body.content = ([], none) := by
  cases body with
  | nil | noBody => rfl
  | reader rest fault => cases absent

theorem isReader_drop (n : Nat) (body : Body) : (body.drop n).isReader = body.isReader := by
  cases body <;> rfl

theorem run_resetBody (steady : Steady c whole left req) (log : List Op) :
    ∃ req' log', run c.handler (resetBody req) log = (.returned (.ok req'), log') ∧
      req'.body.content = (whole, none) ∧ handed log' = handed log ∧ closed log' = closed log ∧
      ∀ n, 0 < left → Steady c whole (left - 1) { req' with body := req'.body.drop n } := by
  cases steady with
  | once unset content =>
    refine ⟨req, log, by rw [resetBody, unset]; rfl, content, rfl, rfl, fun n pos => ?_⟩
    exact absurd pos (lt_irrefl 0)
  | bodyless unset absent empty =>
    refine ⟨req, log, by rw [resetBody, unset]; rfl, ?_, rfl, rfl, fun n _ => ?_⟩
    · rw [content_of_not_reader absent, empty]
    · exact .bodyless unset ((isReader_drop n req.body).trans absent) empty
  | buffered set =>
    refine ⟨{ req with body := .reader whole none }, log, ?_, rfl, rfl, rfl,
      fun n _ => .buffered set⟩
    rw [resetBody, set]
    rfl
  | caller set replays =>
    obtain ⟨body, replied, content⟩ := replays log.length
    have got : run c.handler (perform Op.getBody) log =
        (.returned (.ok body), log ++ [.getBody]) := by
      rw [← replied]
      rfl
    have ran : run c.handler (resetBody req) log =
        (.returned (.ok { req with body := body }), log ++ [.getBody]) := by
      rw [resetBody, set]
      dsimp only
      rw [run_bind, got]
      rfl
    refine ⟨_, _, ran, content, ?_, ?_, fun n _ => .caller set replays⟩
    · exact (handed_append ..).trans (List.append_nil _)
    · exact (closed_append ..).trans (List.append_nil _)

theorem run_tryOnce (plain : cfg.breaker = false) (steady : Steady c whole left req)
    (log : List Op) (failed : Answer → Request → HttpProg Answer) :
    ∃ req' log', handed log' = handed log ++ [(whole, none)] ∧ closed log' = closed log ∧
      (0 < left → Steady c whole (left - 1) req') ∧
      run c.handler (tryOnce cfg req failed) log =
        run c.handler (if settled cfg (answer (c.result ((handed log).length + 1))) then
          pure ((answer (c.result ((handed log).length + 1))).1, none)
          else failed (answer (c.result ((handed log).length + 1))) req') log' := by
  have asked : handed (log ++ [.ctxErr]) = handed log ∧ closed (log ++ [.ctxErr]) = closed log :=
    ⟨(handed_append ..).trans (List.append_nil _), (closed_append ..).trans (List.append_nil _)⟩
  obtain ⟨req', log', reset, content, same, same', again⟩ :=
    run_resetBody steady (log ++ [.ctxErr])
  rw [asked.1] at same
  rw [asked.2] at same'
  refine ⟨{ req' with body := req'.body.drop (c.read ((handed log).length + 1)) },
    log' ++ [.roundTrip req'], ?_, ?_, again _, ?_⟩
  · rw [handed_append, same, ← content]
    rfl
  · rw [closed_append, same']
    exact List.append_nil _
  · have tried : run c.handler (attempt cfg req') log' =
        (.returned (answer (c.result ((handed log).length + 1)),
          { req' with body := req'.body.drop (c.read ((handed log).length + 1)) }),
          log' ++ [.roundTrip req']) := by
      rw [attempt, if_pos plain, ← same]
      rfl
    rw [tryOnce]
    change run c.handler (resetBody req >>= _) (log ++ [.ctxErr]) = _
    rw [run_bind, reset]
    change run c.handler (attempt cfg req' >>= _) log' = _
    rw [run_bind, tried]
    rfl

theorem settled_answer {i : Nat} : settled cfg (answer (c.result i)) = true ↔ Accepted cfg c i := by
  unfold Accepted
  cases c.result i with
  | error err => simp [settled, answer]
  | ok resp => simp [settled, answer]

theorem fst_answer (result : Except GoError Response) : (answer result).1 = result.toOption := by
  cases result <;> rfl

theorem run_drain (resp : Response) (log : List Op) :
    ∃ log', run c.handler (drain resp) log = (.returned (), log') ∧ handed log' = handed log ∧
      closed log' = closed log ++ (Option.filter Response.hasBody resp).toList := by
  rw [drain, Option.filter_some]
  cases has : resp.hasBody with
  | false => exact ⟨log, rfl, rfl, (List.append_nil _).symm⟩
  | true =>
    refine ⟨log ++ [.discard resp] ++ [.close resp], rfl, ?_, ?_⟩
    · simp only [handed_append]
      simp [handed]
    · simp only [closed_append]
      simp [closed]

theorem run_dispose (resp : Option Response) (delay : Int) (log : List Op) :
    ∃ found log', run c.handler (dispose parseTime resp delay) log = (.returned found, log') ∧
      handed log' = handed log ∧
      closed log' = closed log ++ (resp.filter Response.hasBody).toList := by
  cases resp with
  | none => exact ⟨_, log, rfl, rfl, (List.append_nil _).symm⟩
  | some resp =>
    obtain ⟨log', drained, same, shut⟩ := @run_drain c resp (log ++ [.now])
    refine ⟨(resp.statusCode, max delay (retryAfter parseTime resp (c.time log.length))), log', ?_,
      same.trans ?_, shut.trans ?_⟩
    · rw [dispose]
      change run c.handler (drain resp >>= _) (log ++ [.now]) = _
      rw [run_bind, drained]
      rfl
    · exact (handed_append ..).trans (List.append_nil _)
    · rw [closed_append]
      simp [closed]

theorem run_pause (attempt : Nat) (req : Request) (answer : Answer) (log : List Op) :
    ∃ log', run c.handler (pause parseTime cfg attempt req answer) log = (.returned none, log') ∧
      handed log' = handed log ∧
      closed log' = closed log ++ (answer.1.filter Response.hasBody).toList := by
  obtain ⟨found, log', disposed, same, shut⟩ := @run_dispose parseTime c answer.1
    (c.delay (attempt + 1)) (log ++ [.backoff (attempt + 1)])
  rw [handed_append] at same
  rw [closed_append] at shut
  have ran : ∃ told, run c.handler (pause parseTime cfg attempt req answer) log =
      (.returned none, log' ++ told) ∧ handed told = [] ∧ closed told = [] := by
    rw [pause]
    change ∃ told, run c.handler (dispose parseTime answer.1 (c.delay (attempt + 1)) >>= _)
      (log ++ [.backoff (attempt + 1)]) = _ ∧ _
    rw [run_bind, disposed]
    cases hooked : cfg.onRetry with
    | false => exact ⟨[.sleep found.2], rfl, rfl, rfl⟩
    | true =>
      exact ⟨[.onRetry attempt req answer.2 found.1 found.2] ++ [.sleep found.2],
        by rw [← List.append_assoc]; rfl, rfl, rfl⟩
  obtain ⟨told, ran, none, none'⟩ := ran
  refine ⟨_, ran, ?_, ?_⟩
  · rw [handed_append, none, List.append_nil, same]
    exact List.append_nil _
  · rw [closed_append, none', List.append_nil, shut]
    simp [closed]

/-- With `a` attempts made, the rest of the run makes attempts up to the first one that is
accepted or the last. -/
structure Ends (cfg : HttpConfig) (c : Course) (whole : List UInt8) (limit a : Nat) (log : List Op)
    (ran : Ending Answer × List Op) (n : Nat) : Prop where
  lt : a < n
  stops : n = limit ∨ Accepted cfg c n
  first : ∀ i, a < i → i < n → ¬(i = limit ∨ Accepted cfg c i)
  returned : ran.1 = .returned (answer (c.result n))
  handed : handed ran.2 = handed log ++ List.replicate (n - a) (whole, none)
  closed : closed ran.2 = closed log ++ (List.range' (a + 1) (n - 1 - a)).filterMap c.closable

theorem ends_here {ran : Ending Answer × List Op} {log' : List Op} {limit : Nat}
    (stops : a + 1 = limit ∨ Accepted cfg c (a + 1))
    (done : ran = (.returned (answer (c.result (a + 1))), log'))
    (given : handed log' = handed log ++ [(whole, none)]) (shut : closed log' = closed log) :
    Ends cfg c whole limit a log ran (a + 1) := by
  subst done
  refine ⟨Nat.lt_succ_self a, stops, fun i lt lt' => by omega, rfl, ?_, ?_⟩
  · rw [Nat.add_sub_cancel_left]
    exact given
  · rw [Nat.add_sub_cancel, Nat.sub_self]
    exact shut.trans (List.append_nil _).symm

theorem ends_cons {ran : Ending Answer × List Op} {log' : List Op} {limit n : Nat}
    (rest : Ends cfg c whole limit (a + 1) log' ran n)
    (rejected : ¬(a + 1 = limit ∨ Accepted cfg c (a + 1)))
    (given : handed log' = handed log ++ [(whole, none)])
    (shut : closed log' = closed log ++ (c.closable (a + 1)).toList) :
    Ends cfg c whole limit a log ran n := by
  have lt := rest.lt
  have later : n - a = n - (a + 1) + 1 := by omega
  have between : n - 1 - a = n - 1 - (a + 1) + 1 := by omega
  refine ⟨by omega, rest.stops, fun i lt lt' => ?_, rest.returned, ?_, ?_⟩
  · by_cases here : i = a + 1
    · subst here
      exact rejected
    · exact rest.first i (by omega) lt'
  · rw [later, List.replicate_succ, List.append_cons, ← given]
    exact rest.handed
  · rw [between, List.range'_succ, List.filterMap_eq_flatMap_toList, List.flatMap_cons,
      ← List.filterMap_eq_flatMap_toList, ← List.append_assoc, ← shut]
    exact rest.closed

theorem exists_ends (plain : cfg.breaker = false) (steady : Steady c whole left req)
    (made : (handed log).length = a) :
    ∃ n, Ends cfg c whole (a + 1 + left) a log
      (run c.handler (attemptFrom parseTime cfg left (a + 1) req) log) n := by
  induction left generalizing a log req with
  | zero =>
    obtain ⟨req', log', given, shut, -, ran⟩ := run_tryOnce plain steady log
      fun answer _ => giveUp answer
    refine ⟨a + 1, ends_here (.inl rfl) (ran.trans ?_) given shut⟩
    rw [made]
    cases c.result (a + 1) with
    | error err => rfl
    | ok resp => split_ifs <;> rfl
  | succ left ih =>
    obtain ⟨req', log', given, shut, again, ran⟩ := run_tryOnce plain steady log
      (pauseThen parseTime cfg (a + 1) (attemptFrom parseTime cfg left (a + 2)))
    rw [made] at ran
    rw [attemptFrom, ran]
    by_cases accepted : Accepted cfg c (a + 1)
    · refine ⟨a + 1, ends_here (.inr accepted) ?_ given shut⟩
      rw [if_pos (settled_answer.mpr accepted)]
      obtain ⟨resp, found, -⟩ := accepted
      rw [found]
      rfl
    · rw [if_neg (mt settled_answer.mp accepted), pauseThen]
      obtain ⟨log'', paused, given', shut'⟩ := @run_pause parseTime cfg c (a + 1) req'
        (answer (c.result (a + 1))) log'
      rw [run_bind, paused]
      have made' : (handed log'').length = a + 1 := by
        rw [given', given, List.length_append, made]
        rfl
      obtain ⟨n, rest⟩ := ih (again (Nat.succ_pos left)) made'
      have limit : a + 1 + 1 + left = a + 1 + (left + 1) := by omega
      rw [limit] at rest
      refine ⟨n, ends_cons rest ?_ (given'.trans given) ?_⟩
      · rintro (last | found)
        · omega
        · exact accepted found
      · rw [shut', shut, fst_answer, ← Course.closable]

theorem run_bufferBody (readable : req.body.content.2 = none) :
    run c.handler (bufferBody req) log = (.returned ({ req with
      body := .reader req.body.content.1 none
      contentLength := req.body.content.1.length
      getBody := some (.buffered req.body.content.1) }, none), log ++ [.closeBody]) := by
  have same : req.body.content = (req.body.content.1, none) := Prod.ext rfl readable
  rw [bufferBody, same]
  rfl

theorem run_prepare (replayable : Replayable c req) :
    ∃ req' log', run c.handler (prepare cfg req) [] =
        (.returned (req', cfg.retryMethods.contains req.method), log') ∧
      handed log' = [] ∧ closed log' = [] ∧
      Steady c req.body.content.1 (cap cfg req - 1) req' := by
  obtain ⟨readable, replays⟩ := replayable
  have content : req.body.content = (req.body.content.1, none) := Prod.ext rfl readable
  cases given : req.getBody with
  | some getBody =>
    rw [given] at replays
    refine ⟨req, [], ?_, rfl, rfl, ?_⟩
    · rw [prepare, given, Option.isNone_some, Bool.and_false]
      rfl
    · cases getBody with
      | buffered body =>
        cases replays
        exact .buffered given
      | caller =>
        rw [content] at replays
        exact .caller given replays
  | none =>
    cases reader : req.body.isReader with
    | false =>
      refine ⟨req, [], ?_, rfl, rfl, .bodyless given reader ?_⟩
      · rw [prepare, reader, Bool.and_false, Bool.false_and]
        rfl
      · rw [content_of_not_reader reader]
    | true =>
      cases opted : cfg.retryMethods.contains req.method with
      | false =>
        refine ⟨req, [], ?_, rfl, rfl, ?_⟩
        · rw [prepare, opted, Bool.false_and, Bool.false_and]
          rfl
        · rw [cap, opted]
          exact .once given content
      | true =>
        let req' : Request := { req with
          body := .reader req.body.content.1 none
          contentLength := req.body.content.1.length
          getBody := some (.buffered req.body.content.1) }
        refine ⟨req', [.closeBody], ?_, rfl, rfl, .buffered rfl⟩
        rw [prepare, opted, reader, given]
        change run c.handler (bufferBody req >>= _) [] = _
        rw [run_bind, run_bufferBody readable]
        rfl

end Loop

theorem cap_pos (cfg : HttpConfig) (req : Request) : 0 < cap cfg req := by
  obtain ⟨n, attempts⟩ := attempts_pos cfg.policy
  unfold cap
  split_ifs
  · omega
  · exact one_pos

/-- The base transport is called up to the first response with a status that is not to be
retried, or as often as the method allows, each time with the whole body. The last result is
returned, and of the others every response body is closed once. -/
theorem roundTrip_run (parseTime : GoString → Option Int) (cfg : HttpConfig)
    (plain : cfg.breaker = false) (c : Course) (req : Request) (replayable : Replayable c req) :
    ∃ n log, IsLeast {i | 0 < i ∧ (i = cap cfg req ∨ Accepted cfg c i)} n ∧
      run c.handler (roundTrip parseTime cfg req) [] =
        (.returned (answer (c.result n)), log) ∧
      handed log = List.replicate n (req.body.content.1, none) ∧
      closed log = (List.range' 1 (n - 1)).filterMap c.closable := by
  obtain ⟨req', log, prepared, none, none', steady⟩ := @run_prepare cfg c req replayable
  obtain ⟨n, ends⟩ := @exists_ends parseTime cfg c req' log 0 _ _ plain steady (by rw [none]; rfl)
  have limit : 0 + 1 + (cap cfg req - 1) = cap cfg req := by
    have pos := cap_pos cfg req
    omega
  rw [limit] at ends
  have ran : run c.handler (roundTrip parseTime cfg req) [] =
      run c.handler (attemptFrom parseTime cfg (cap cfg req - 1) 1 req') log := by
    rw [roundTrip, run_bind, prepared]
    rfl
  refine ⟨n, _, ⟨⟨ends.lt, ends.stops⟩, fun i ⟨pos, stops⟩ => ?_⟩,
    ran.trans (Prod.ext ends.returned rfl), ?_, ?_⟩
  · by_contra less
    exact ends.first i pos (not_le.mp less) stops
  · rw [ends.handed, none]
    rfl
  · rw [ends.closed, none']
    rfl

/-- A body that can only be read once, and a base transport that fails, answers 503, and
answers 200, each time after it has read some of the body. -/
def flaky : Course where
  result i := if i = 1 then .error (errorsNew (str "EOF"))
    else .ok ⟨i, if i = 2 then 503 else 200, [], true⟩
  read _ := 2
  getBody _ := .error (errorsNew (str "unused"))
  admits _ := none
  delay _ := 0
  time _ := 0

def postConfig : HttpConfig where
  policy := {}
  retryMethods := [str "POST"]
  retryOnStatus code := code = 503

theorem flaky_roundTrip :
    let req : Request := ⟨str "POST", .reader (str "payload") none, none, -1⟩
    ∃ n log, IsLeast {i | 0 < i ∧ (i = cap postConfig req ∨ Accepted postConfig flaky i)} n ∧
      run flaky.handler (roundTrip (fun _ => none) postConfig req) [] =
        (.returned (answer (flaky.result n)), log) ∧
      handed log = List.replicate n (str "payload", none) ∧
      closed log = (List.range' 1 (n - 1)).filterMap flaky.closable :=
  roundTrip_run (fun _ => none) postConfig rfl flaky _ ⟨rfl, trivial⟩

example : closed (run flaky.handler (roundTrip (fun _ => none) postConfig
    ⟨str "POST", .reader (str "payload") none, none, -1⟩) []).2 = [⟨2, 503, [], true⟩] := rfl

end DxCommonGo.TransportRuns
