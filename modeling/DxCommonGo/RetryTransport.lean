import DxCommonGo.Retry
import DxCommonGo.Transcripts

/-! `retryTransport` of package `resilience`: a round trip that is made again after an error or a
retryable status, with the body rewound and every dropped response closed. `http.ParseTime` is a
parameter. -/

namespace DxCommonGo.RetryTransport
open GoStrings DxErrors Programs Retry Transcripts

/-- The body of a request: a reader is what is still to be read and the error at its end, if
there is one. -/
inductive Body where
  | nil
  | noBody
  | reader (rest : List UInt8) (fault : Option GoError)

def Body.content : Body → List UInt8 × Option GoError
  | .nil | .noBody => ([], none)
  | .reader rest fault => (rest, fault)

def Body.drop (n : Nat) : Body → Body
  | .nil => .nil
  | .noBody => .noBody
  | .reader rest fault => .reader (rest.drop n) fault

inductive GetBody where
  | caller
  | buffered (body : List UInt8)

structure Request where
  method : GoString
  body : Body
  getBody : Option GetBody
  contentLength : Int

structure Response where
  id : Nat
  statusCode : Int
  retryAfter : GoString := []
  hasBody : Bool := true

structure HttpConfig where
  policy : Policy
  breaker : Bool := false
  retryMethods : List GoString
  retryOnStatus : Int → Bool
  onRetry : Bool := false

abbrev Answer := Option Response × Option GoError

/-- The base transport also tells how much of the body it has read. -/
inductive Op where
  | closeBody
  | ctxErr
  | getBody
  | beforeCall
  | afterCall (err : Option GoError)
  | roundTrip (req : Request)
  | backoff (attempt : Nat)
  | now
  | discard (resp : Response)
  | close (resp : Response)
  | onRetry (attempt : Nat) (req : Request) (err : Option GoError) (status delay : Int)
  | sleep (delay : Int)

abbrev Reply : Op → Type
  | .closeBody => Unit
  | .ctxErr => Option GoError
  | .getBody => Except GoError Body
  | .beforeCall => Option GoError
  | .afterCall _ => Unit
  | .roundTrip _ => Answer × Nat
  | .backoff _ => Int
  | .now => Int
  | .discard _ => Unit
  | .close _ => Unit
  | .onRetry _ _ _ _ _ => Unit
  | .sleep _ => Option GoError

abbrev HttpProg (α : Type) := Prog Op Reply α

/-- The body is read and closed, also if it cannot be read to its end. -/
def bufferBody (req : Request) : HttpProg (Request × Option GoError) := do
  match req.body.content with
  | (_, some err) =>
    perform Op.closeBody
    return ({ req with body := .reader [] (some err) }, some err)
  | (body, none) =>
    perform Op.closeBody
    return ({ req with
      body := .reader body none
      contentLength := body.length
      getBody := some (.buffered body) }, none)

def resetBody (req : Request) : HttpProg (Except GoError Request) :=
  match req.getBody with
  | none => return .ok req
  | some (.buffered body) => return .ok { req with body := .reader body none }
  | some .caller => do
    match ← perform Op.getBody with
    | .error err => return .error err
    | .ok body => return .ok { req with body := body }

def drain (resp : Response) : HttpProg Unit := do
  if resp.hasBody = false then return
  perform (Op.discard resp)
  perform (Op.close resp)

def subTime (t u : Int) : Int := max (-2 ^ 63) (min (2 ^ 63 - 1) (t - u))

def retryAfter (parseTime : GoString → Option Int) (resp : Response) (now : Int) : Int :=
  if resp.retryAfter = [] then 0
  else
    match atoi resp.retryAfter with
    | some secs => if secs < 0 then 0 else (Int64.ofInt (secs * 10 ^ 9)).toInt
    | none =>
      match parseTime resp.retryAfter with
      | some t => if 0 < subTime t now then subTime t now else 0
      | none => 0

def baseRoundTrip (req : Request) : HttpProg (Answer × Request) := do
  let (answer, read) ← perform (Op.roundTrip req)
  return (answer, { req with body := req.body.drop read })

/-- What the breaker is told of an answer. A response is missing only along with an error. -/
def breakerError (cfg : HttpConfig) : Answer → HttpProg (Option GoError)
  | (_, some err) => return some err
  | (none, none) => .panic
  | (some resp, none) =>
    if cfg.retryOnStatus resp.statusCode then
      return some (errorsNew (str "resilience: upstream status %d"))
    else return none

theorem breakerError_cases (cfg : HttpConfig) (answer : Answer) :
    breakerError cfg answer = .panic ∨ ∃ err, breakerError cfg answer = pure err := by
  rcases answer with ⟨_ | resp, _ | err⟩
  · exact .inl rfl
  · exact .inr ⟨_, rfl⟩
  · right
    dsimp only [breakerError]
    split_ifs
    · exact ⟨_, rfl⟩
    · exact ⟨_, rfl⟩
  · exact .inr ⟨_, rfl⟩

def attempt (cfg : HttpConfig) (req : Request) : HttpProg (Answer × Request) := do
  if cfg.breaker = false then baseRoundTrip req
  else
    match ← perform Op.beforeCall with
    | some err => return ((none, some err), req)
    | none =>
      let (answer, req) ← baseRoundTrip req
      let err ← breakerError cfg answer
      perform (Op.afterCall err)
      if answer.1.isSome then return ((answer.1, none), req) else return ((none, err), req)

def settled (cfg : HttpConfig) (answer : Answer) : Bool :=
  answer.2.isNone && answer.1.all fun resp => !cfg.retryOnStatus resp.statusCode

def tryOnce (cfg : HttpConfig) (req : Request) (failed : Answer → Request → HttpProg Answer) :
    HttpProg Answer := do
  match ← perform Op.ctxErr with
  | some err => return (none, some err)
  | none =>
    match ← resetBody req with
    | .error err => return (none, some err)
    | .ok req =>
      let (answer, req) ← attempt cfg req
      if settled cfg answer then return (answer.1, none) else failed answer req

/-- What is known of the response before the wait: its status, the delay, and that it is
done with. -/
def dispose (parseTime : GoString → Option Int) (resp : Option Response) (delay : Int) :
    HttpProg (Int × Int) := do
  match resp with
  | none => return (0, delay)
  | some resp =>
    let now ← perform Op.now
    drain resp
    return (resp.statusCode, max delay (retryAfter parseTime resp now))

def pause (parseTime : GoString → Option Int) (cfg : HttpConfig) (attempt : Nat) (req : Request)
    (answer : Answer) : HttpProg (Option GoError) := do
  let delay ← perform (Op.backoff (attempt + 1))
  let (status, delay) ← dispose parseTime answer.1 delay
  if cfg.onRetry then perform (Op.onRetry attempt req answer.2 status delay)
  perform (Op.sleep delay)

def pauseThen (parseTime : GoString → Option Int) (cfg : HttpConfig) (attempt : Nat)
    (next : Request → HttpProg Answer) (answer : Answer) (req : Request) : HttpProg Answer := do
  match ← pause parseTime cfg attempt req answer with
  | some werr => return (none, some werr)
  | none => next req

def giveUp (answer : Answer) : HttpProg Answer :=
  if answer.2.isSome then return (none, answer.2) else return (answer.1, none)

def attemptFrom (parseTime : GoString → Option Int) (cfg : HttpConfig) :
    Nat → Nat → Request → HttpProg Answer
  | 0, _, req => tryOnce cfg req fun answer _ => giveUp answer
  | left + 1, attempt, req => tryOnce cfg req
    (pauseThen parseTime cfg attempt (attemptFrom parseTime cfg left (attempt + 1)))

def Body.isReader : Body → Bool
  | .reader _ _ => true
  | _ => false

def prepare (cfg : HttpConfig) (req : Request) : HttpProg (Request × Bool) := do
  let retryable := cfg.retryMethods.contains req.method
  if retryable && req.body.isReader && req.getBody.isNone then
    let (req, err) ← bufferBody req
    return (req, err.isNone)
  else return (req, retryable)

def roundTrip (parseTime : GoString → Option Int) (cfg : HttpConfig) (req : Request) :
    HttpProg Answer := do
  let (req, retryable) ← prepare cfg req
  let attempts := if retryable then cfg.policy.attempts else 1
  attemptFrom parseTime cfg (attempts - 1) 1 req

section Uses

def Op.isPause : Op → Bool
  | .backoff _ | .now | .discard _ | .close _ | .onRetry _ _ _ _ _ | .sleep _ => true
  | _ => false

theorem uses_prepare (cfg : HttpConfig) (req : Request) :
    Uses (· = .closeBody) (prepare cfg req) := by
  unfold prepare
  dsimp only
  split_ifs
  · refine uses_bind ?_ fun _ => trivial
    unfold bufferBody
    split <;> exact uses_perform_bind rfl fun _ => trivial
  · trivial

theorem uses_resetBody (req : Request) : Uses (· = .getBody) (resetBody req) := by
  unfold resetBody
  split
  · trivial
  · trivial
  · refine uses_perform_bind rfl fun body => ?_
    cases body <;> trivial

theorem uses_drain (resp : Response) :
    Uses (fun op => op = .discard resp ∨ op = .close resp) (drain resp) := by
  unfold drain
  split_ifs
  · trivial
  · exact uses_perform_bind (.inl rfl) fun _ => ⟨.inr rfl, fun _ => trivial⟩

theorem uses_pause (parseTime : GoString → Option Int) (cfg : HttpConfig) (attempt : Nat)
    (req : Request) (answer : Answer) :
    Uses (fun op => op.isPause = true) (pause parseTime cfg attempt req answer) := by
  unfold pause
  refine uses_perform_bind rfl fun delay => ?_
  have disposed : Uses (fun op => op.isPause = true) (dispose parseTime answer.1 delay) := by
    cases answer.1 with
    | none => trivial
    | some resp =>
      refine uses_perform_bind rfl fun now => ?_
      refine uses_bind ((uses_drain resp).mono ?_) fun _ => trivial
      rintro op (rfl | rfl)
      · rfl
      · rfl
  refine uses_bind disposed fun found => ?_
  dsimp only
  split_ifs
  · exact uses_perform_bind rfl fun _ => ⟨rfl, fun _ => trivial⟩
  · exact ⟨rfl, fun _ => trivial⟩

end Uses

end DxCommonGo.RetryTransport
