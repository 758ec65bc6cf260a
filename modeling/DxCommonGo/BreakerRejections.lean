import DxCommonGo.GrpcInterceptor
import DxCommonGo.RetryTransport

/-! What follows when the breaker rejects an attempt of an outbound call. The gRPC interceptor
returns the rejection; the HTTP transport takes it for an error like any other and asks again. -/

namespace DxCommonGo.BreakerRejections
open GoStrings GoErrors DxErrors Programs Retry RetryTransport Transcripts
open CircuitBreaker (errOpen)

def begun (past : List (Event Op Reply)) : Nat :=
  past.countP fun e =>
    match e.1 with
    | .ctxErr => true
    | _ => false

/-- The attempts a request may have: one, unless the method is retried and the body can be
sent again. -/
def allowed (cfg : HttpConfig) (req : Request) : Nat :=
  if cfg.retryMethods.contains req.method && (req.getBody.isSome || req.body.content.2.isNone)
  then cfg.policy.attempts else 1

/-- After a rejection of the last attempt its error is returned, and after that of another one
the transport waits. -/
def AtRejection (last : Nat) (past : List (Event Op Reply)) :
    Event Op Reply → HttpProg Answer → Prop
  | ⟨.beforeCall, some err⟩, rest =>
    if begun past = last then rest = .ret (none, some err)
    else ∃ attempt next, rest = .call (.backoff attempt) next
  | _, _ => True

def Rejects (last : Nat) (past : List (Event Op Reply)) (p : HttpProg Answer) : Prop :=
  Throughout (AtRejection last) (fun _ _ => True) past p

section Transport

variable {parseTime : GoString → Option Int} {cfg : HttpConfig} {last : Nat}
  {past : List (Event Op Reply)}

theorem begun_append (past : List (Event Op Reply)) (e : Event Op Reply) :
    begun (past ++ [e]) = begun past + begun [e] := List.countP_append

theorem rejects_bind {α : Type} {S : Op → Prop} {p : HttpProg α} (uses : Uses S p)
    (apart : ∀ op, S op → op ≠ .ctxErr ∧ op ≠ .beforeCall) {f : α → HttpProg Answer}
    (next : ∀ past' a, begun past' = begun past → Rejects last past' (f a)) :
    Rejects last past (p >>= f) := by
  refine throughout_bind (uses.throughout ?_ begun ?_ past) next
  · intro past op r rest h
    obtain ⟨-, other⟩ := apart op h
    cases op <;> trivial
  · intro past op r h
    obtain ⟨other, -⟩ := apart op h
    rw [begun_append]
    cases op <;> first | rfl | exact absurd rfl other

theorem uses_baseRoundTrip (req : Request) :
    Uses (fun op => op ≠ .ctxErr ∧ op ≠ .beforeCall) (baseRoundTrip req) :=
  uses_perform_bind ⟨nofun, nofun⟩ fun _ => trivial

theorem uses_afterCall (answer : Answer) (req : Request) :
    Uses (fun op => op ≠ .ctxErr ∧ op ≠ .beforeCall) (do
      let err ← breakerError cfg answer
      perform (Op.afterCall err)
      if answer.1.isSome then pure ((answer.1, none), req) else pure ((none, err), req)) := by
  obtain panics | ⟨err, told⟩ := breakerError_cases cfg answer
  · rw [panics]
    trivial
  · rw [told]
    refine uses_perform_bind ⟨nofun, nofun⟩ fun _ => ?_
    split_ifs <;> trivial

theorem rejects_attempt {req : Request} {f : Answer × Request → HttpProg Answer}
    (here : ∀ err, AtRejection last past ⟨.beforeCall, some err⟩ (f ((none, some err), req)))
    (next : ∀ past' tried, begun past' = begun past → Rejects last past' (f tried)) :
    Rejects last past (attempt cfg req >>= f) := by
  unfold attempt
  split_ifs
  · exact rejects_bind (uses_baseRoundTrip req) (fun _ h => h) next
  · rw [Prog.bind_bind]
    refine throughout_perform_bind ?_ fun admitted => ?_
    · rintro (_ | err)
      · trivial
      · exact here err
    · have same : begun (past ++ [⟨.beforeCall, admitted⟩]) = begun past := begun_append _ _
      cases admitted with
      | some err => exact next _ _ same
      | none =>
        refine rejects_bind (uses_bind (uses_baseRoundTrip req) fun tried =>
          uses_afterCall tried.1 tried.2) (fun _ h => h) fun past' tried kept => ?_
        exact next past' tried (kept.trans same)

theorem rejects_tryOnce {failed : Answer → Request → HttpProg Answer} {req : Request} {k : Nat}
    (count : begun past + 1 = k)
    (here : ∀ past err req, begun past = k →
      AtRejection last past ⟨.beforeCall, some err⟩ (failed (none, some err) req))
    (next : ∀ past answer req, begun past = k → Rejects last past (failed answer req)) :
    Rejects last past (tryOnce cfg req failed) := by
  unfold tryOnce
  refine throughout_perform_bind (fun _ => trivial) fun live => ?_
  have begins : begun (past ++ [⟨.ctxErr, live⟩]) = k := (begun_append _ _).trans count
  cases live with
  | some err => trivial
  | none =>
    refine rejects_bind (uses_resetBody req) ?_ fun past' reset same => ?_
    · rintro op rfl
      exact ⟨nofun, nofun⟩
    · cases reset with
      | error err => trivial
      | ok req' =>
        refine rejects_attempt (fun err => here past' err req' (same.trans begins))
          fun past'' tried same' => ?_
        unfold Rejects
        dsimp only
        split_ifs
        · trivial
        · exact next past'' tried.1 tried.2 (same'.trans (same.trans begins))

theorem rejects_attemptFrom {left k : Nat} (req : Request) (count : begun past + 1 = k)
    (cap : last = k + left) :
    Rejects last past (attemptFrom parseTime cfg left k req) := by
  induction left generalizing past k req with
  | zero =>
    refine rejects_tryOnce count ?_ fun past answer req _ => ?_
    · intro past err req begins
      rw [AtRejection, if_pos (begins.trans cap.symm)]
      rfl
    · unfold giveUp
      split_ifs <;> trivial
  | succ left ih =>
    refine rejects_tryOnce count ?_ fun past answer req begins => ?_
    · intro past err req begins
      rw [AtRejection, if_neg (by omega)]
      exact ⟨k + 1, _, rfl⟩
    · refine rejects_bind (uses_pause parseTime cfg k req answer) ?_ fun past' woken same => ?_
      · intro op pauses
        cases op <;> simp [Op.isPause] at pauses ⊢
      · cases woken with
        | some err => trivial
        | none => exact ih req (by rw [same, begins]) (by omega)

theorem rejects_prepare {req : Request} {f : Request × Bool → HttpProg Answer}
    (next : ∀ past' req' retryable, begun past' = begun past →
      (if retryable then cfg.policy.attempts else 1) = allowed cfg req →
      Rejects last past' (f (req', retryable))) :
    Rejects last past (prepare cfg req >>= f) := by
  unfold prepare
  dsimp only
  split_ifs with buffers
  · obtain ⟨⟨opted, reader⟩, unset⟩ : (cfg.retryMethods.contains req.method = true ∧
        req.body.isReader = true) ∧ req.getBody.isNone = true := by
      simpa only [Bool.and_eq_true] using buffers
    have missing : req.getBody.isSome = false := by simpa using unset
    rw [Prog.bind_bind]
    unfold bufferBody
    split
    all_goals
      next content =>
      rw [Prog.bind_bind]
      refine throughout_perform_bind (fun _ => trivial) fun _ => ?_
      refine next _ _ _ (begun_append _ _) ?_
      rw [allowed, opted, missing, content]
      rfl
  · refine next past req _ rfl ?_
    rw [allowed]
    cases opted : cfg.retryMethods.contains req.method with
    | false => rfl
    | true =>
      have replays : (req.getBody.isSome || req.body.content.2.isNone) = true := by
        cases set : req.getBody with
        | some getBody => rfl
        | none =>
          cases body : req.body with
          | nil | noBody => rfl
          | reader rest fault =>
            rw [opted, set, body] at buffers
            exact absurd rfl buffers
      rw [replays]
      rfl

theorem rejects_roundTrip (req : Request) :
    Rejects (allowed cfg req) [] (roundTrip parseTime cfg req) := by
  refine rejects_prepare fun past req' retryable none cap => ?_
  obtain ⟨n, positive⟩ := attempts_pos cfg.policy
  refine rejects_attemptFrom req' (by rw [none]; rfl) ?_
  rw [← cap]
  cases retryable with
  | false => rfl
  | true =>
    rw [if_pos rfl]
    omega

end Transport

/-- A rejection by the breaker is returned at once by the gRPC interceptor, and by the HTTP
transport exactly if the rejected attempt was the last one it would have made. -/
theorem rejection_ends_iff {ω ω' : Type} (parseTime : GoString → Option Int) (cfg : HttpConfig)
    (req : Request) (h : Handler Op Reply ω) (w : ω)
    (carried : GoString → GoString → Option GrpcInterceptor.Code) (grpc : GrpcInterceptor.Config)
    (default : grpc.isRetryable = GrpcInterceptor.defaultRetryableCodes) (method : GoString)
    (g : Handler GrpcInterceptor.Op GrpcInterceptor.Reply ω') (v : ω') :
    (∀ pre post, transcript h (roundTrip parseTime cfg req) w =
        pre ++ ⟨.beforeCall, some errOpen⟩ :: post →
      ((post = [] ∧ ∃ err, (run h (roundTrip parseTime cfg req) w).1 = .returned (none, some err) ∧
          errorsIs err (.sentinel .breakerOpen) = true) ↔
        begun pre = allowed cfg req)) ∧
    ∀ pre post, transcript g (GrpcInterceptor.unaryClientInterceptor carried grpc method) v =
        pre ++ ⟨.beforeCall, some errOpen⟩ :: post →
      post = [] ∧ ∃ err,
        (run g (GrpcInterceptor.unaryClientInterceptor carried grpc method) v).1 =
          .returned (.error err) ∧
        errorsIs err (.sentinel .breakerOpen) = true := by
  constructor
  · intro pre post rejected
    obtain ⟨rest, w', follows, after, same⟩ :=
      (@rejects_roundTrip parseTime cfg req).at_event rejected
    simp only [AtRejection, List.nil_append] at follows
    split_ifs at follows with final
    · rw [follows] at after same
      exact iff_of_true ⟨after.symm, errOpen, congrArg Prod.fst same.symm, rfl⟩ final
    · obtain ⟨attempt, next, waits⟩ := follows
      refine iff_of_false ?_ final
      rintro ⟨none, -⟩
      rw [waits, none] at after
      cases after
  · intro pre post rejected
    obtain ⟨none, returned⟩ := GrpcInterceptor.rejection_ends carried default method g v rejected
    exact ⟨none, errOpen, returned, rfl⟩

def behindBreaker : Handler Op Reply CircuitBreaker.Breaker := fun op b =>
  match op with
  | .closeBody => ((), b)
  | .ctxErr => (none, b)
  | .getBody => (.ok .nil, b)
  | .beforeCall => CircuitBreaker.beforeCall .default 0 b
  | .afterCall err => ((), CircuitBreaker.afterCall .default 0 err b)
  | .roundTrip _ => (((none, some (errorsNew (str "connection refused"))), 0), b)
  | .backoff _ => ((10 ^ 8 : Int), b)
  | .now => ((0 : Int), b)
  | .discard _ => ((), b)
  | .close _ => ((), b)
  | .onRetry _ _ _ _ _ => ((), b)
  | .sleep _ => (none, b)

def grpcBehindBreaker : Handler GrpcInterceptor.Op GrpcInterceptor.Reply CircuitBreaker.Breaker :=
  fun op b =>
    match op with
    | .ctxErr => (none, b)
    | .beforeCall => CircuitBreaker.beforeCall .default 0 b
    | .afterCall err => ((), CircuitBreaker.afterCall .default 0 err b)
    | .invoke _ => (some (errorsNew (str "connection refused")), b)
    | .backoff _ => ((10 ^ 8 : Int), b)
    | .onRetry _ _ _ => ((), b)
    | .sleep _ => (none, b)

def tripped : CircuitBreaker.Breaker := ⟨.open, 5, 0, false, []⟩

def guarded : HttpConfig where
  policy := { maxAttempts := 2 }
  breaker := true
  retryMethods := [str "GET"]
  retryOnStatus code := code = 503

def fetch : Request := ⟨str "GET", .nil, none, 0⟩

/-- The transport waits after the first rejection, and asks the breaker again. -/
theorem guarded_retries_rejection :
    transcript behindBreaker (roundTrip (fun _ => none) guarded fetch) tripped =
      [⟨.ctxErr, none⟩] ++ ⟨.beforeCall, some errOpen⟩ ::
        [⟨.backoff 2, (10 ^ 8 : Int)⟩, ⟨.sleep (10 ^ 8), none⟩, ⟨.ctxErr, none⟩,
          ⟨.beforeCall, some errOpen⟩] := rfl

theorem rejection_ends_guarded :
    (([] : List (Event Op Reply)) = [] ∧ ∃ err,
        (run behindBreaker (roundTrip (fun _ => none) guarded fetch) tripped).1 =
          .returned (none, some err) ∧ errorsIs err (.sentinel .breakerOpen) = true) ∧
    (([] : List (Event GrpcInterceptor.Op GrpcInterceptor.Reply)) = [] ∧ ∃ err,
      (run grpcBehindBreaker (GrpcInterceptor.unaryClientInterceptor (fun _ _ => none)
          { breaker := true } (str "/dx.Catalogue/Get")) tripped).1 = .returned (.error err) ∧
        errorsIs err (.sentinel .breakerOpen) = true) := by
  obtain ⟨http, grpc⟩ := rejection_ends_iff (fun _ => none) guarded fetch behindBreaker tripped
    (fun _ _ => none) { breaker := true } rfl (str "/dx.Catalogue/Get") grpcBehindBreaker tripped
  have last : transcript behindBreaker (roundTrip (fun _ => none) guarded fetch) tripped =
      [⟨.ctxErr, none⟩, ⟨.beforeCall, some errOpen⟩, ⟨.backoff 2, (10 ^ 8 : Int)⟩,
        ⟨.sleep (10 ^ 8), none⟩, ⟨.ctxErr, none⟩] ++ [⟨.beforeCall, some errOpen⟩] := rfl
  exact ⟨(http _ [] last).mpr rfl, grpc [⟨.ctxErr, none⟩] [] rfl⟩

end DxCommonGo.BreakerRejections
