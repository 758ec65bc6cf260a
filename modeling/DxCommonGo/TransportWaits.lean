import DxCommonGo.GoInts
import DxCommonGo.TransportRuns
import DxCommonGo.Transcripts

/-! The waits of `retryTransport`: the backoff of the policy, or the Retry-After header if that is
longer. Its seconds are multiplied into 64-bit nanoseconds, and a product that wraps is shorter. -/

namespace DxCommonGo.TransportWaits
open GoStrings DxErrors Programs RetryTransport Transcripts
open TransportRuns (Course)

structure Seen where
  response : Option Response := none
  backoff : Int := 0
  clock : Int := 0

def Seen.note (s : Seen) : Event Op Reply → Seen
  | ⟨.ctxErr, _⟩ => { s with response := none }
  | ⟨.roundTrip _, r⟩ => { s with response := r.1.1 }
  | ⟨.backoff _, delay⟩ => { s with backoff := delay }
  | ⟨.now, now⟩ => { s with clock := now }
  | _ => s

def seen (past : List (Event Op Reply)) : Seen := past.foldl Seen.note {}

@[simp] theorem seen_append (past : List (Event Op Reply)) (e : Event Op Reply) :
    seen (past ++ [e]) = (seen past).note e := List.foldl_concat ..

def Seen.wait (parseTime : GoString → Option Int) (s : Seen) : Int :=
  match s.response with
  | none => s.backoff
  | some resp => max s.backoff (retryAfter parseTime resp s.clock)

def WaitOk (parseTime : GoString → Option Int) (past : List (Event Op Reply)) :
    Event Op Reply → Prop
  | ⟨.sleep delay, _⟩ => delay = (seen past).wait parseTime
  | _ => True

def Waits {α : Type} (parseTime : GoString → Option Int) (Q : Seen → α → Prop)
    (past : List (Event Op Reply)) (p : HttpProg α) : Prop :=
  Throughout (fun past e _ => WaitOk parseTime past e) (fun past a => Q (seen past) a) past p

section Programs

variable {parseTime : GoString → Option Int} {cfg : HttpConfig} {past : List (Event Op Reply)}

theorem waits_bind {α β : Type} {R : Seen → α → Prop} {Q : Seen → β → Prop} {p : HttpProg α}
    {f : α → HttpProg β} (first : Waits parseTime R past p)
    (next : ∀ past a, R (seen past) a → Waits parseTime Q past (f a)) :
    Waits parseTime Q past (p >>= f) := throughout_bind first next

theorem waits_perform {α : Type} {Q : Seen → α → Prop} {op : Op} {f : Reply op → HttpProg α}
    (here : ∀ r, WaitOk parseTime past ⟨op, r⟩)
    (later : ∀ r, Waits parseTime Q (past ++ [⟨op, r⟩]) (f r)) :
    Waits parseTime Q past (perform op >>= f) := throughout_perform_bind here later

theorem waits_of_uses {α : Type} {S : Op → Prop} {p : HttpProg α} (uses : Uses S p)
    (silent : ∀ op, S op → ∀ past r,
      WaitOk parseTime past ⟨op, r⟩ ∧ seen (past ++ [⟨op, r⟩]) = seen past) :
    Waits parseTime (fun s _ => s = seen past) past p :=
  uses.throughout (fun past op r _ h => (silent op h past r).1) seen
    (fun past op r h => (silent op h past r).2) past

variable (req : Request)

theorem waits_prepare : Waits parseTime (fun s _ => s = seen past) past (prepare cfg req) := by
  refine waits_of_uses (uses_prepare cfg req) ?_
  rintro op rfl past r
  exact ⟨trivial, seen_append _ _⟩

theorem waits_resetBody : Waits parseTime (fun s _ => s = seen past) past (resetBody req) := by
  refine waits_of_uses (uses_resetBody req) ?_
  rintro op rfl past r
  exact ⟨trivial, seen_append _ _⟩

theorem waits_drain (resp : Response) :
    Waits parseTime (fun s _ => s = seen past) past (drain resp) := by
  refine waits_of_uses (uses_drain resp) ?_
  rintro op (rfl | rfl) past r
  · exact ⟨trivial, seen_append _ _⟩
  · exact ⟨trivial, seen_append _ _⟩

theorem waits_baseRoundTrip :
    Waits parseTime (fun s tried => s.response = tried.1.1) past (baseRoundTrip req) :=
  fun r => ⟨trivial, congrArg Seen.response (seen_append _ ⟨.roundTrip req, r⟩)⟩

theorem waits_afterCall {answer : Answer} (held : (seen past).response = answer.1) :
    Waits parseTime (fun s tried => s.response = tried.1.1) past (do
      let err ← breakerError cfg answer
      perform (Op.afterCall err)
      if answer.1.isSome then return ((answer.1, none), req) else return ((none, err), req)) := by
  obtain panics | ⟨err, told⟩ := breakerError_cases cfg answer
  · rw [panics]
    trivial
  · rw [told]
    refine fun _ => ⟨trivial, ?_⟩
    have kept : (seen (past ++ [⟨.afterCall err, ()⟩])).response = answer.1 :=
      (congrArg Seen.response (seen_append _ _)).trans held
    obtain ⟨resp, _⟩ := answer
    cases resp with
    | none => exact kept
    | some resp => exact kept

theorem waits_attempt (fresh : (seen past).response = none) :
    Waits parseTime (fun s tried => s.response = tried.1.1) past (attempt cfg req) := by
  unfold attempt
  split_ifs
  · exact waits_baseRoundTrip req
  · intro admitted
    refine ⟨trivial, ?_⟩
    cases admitted with
    | some err => exact (congrArg Seen.response (seen_append _ _)).trans fresh
    | none => exact waits_bind (waits_baseRoundTrip req) fun past tried => waits_afterCall tried.2

theorem waits_dispose (resp : Option Response) {delay : Int}
    (backed : (seen past).backoff = delay) (held : (seen past).response = resp) :
    Waits parseTime (fun s found => found.2 = s.wait parseTime) past
      (dispose parseTime resp delay) := by
  cases resp with
  | none =>
    change delay = (seen past).wait parseTime
    rw [Seen.wait, held, backed]
  | some resp =>
    refine waits_perform (fun _ => trivial) fun now => ?_
    have after : (seen (past ++ [⟨.now, now⟩])).wait parseTime =
        max delay (retryAfter parseTime resp now) := by
      rw [seen_append, Seen.wait, Seen.note, held, backed]
    refine waits_bind (waits_drain resp) fun past' _ same => ?_
    change max delay (retryAfter parseTime resp now) = (seen past').wait parseTime
    rw [same, after]

theorem waits_pause (attempt : Nat) (req : Request) (answer : Answer)
    (held : (seen past).response = answer.1) :
    Waits parseTime (fun _ _ => True) past (pause parseTime cfg attempt req answer) := by
  unfold pause
  refine waits_perform (fun _ => trivial) fun delay => ?_
  have backed : (seen (past ++ [⟨.backoff (attempt + 1), delay⟩])).backoff = delay :=
    congrArg Seen.backoff (seen_append _ _)
  have held' : (seen (past ++ [⟨.backoff (attempt + 1), delay⟩])).response = answer.1 :=
    (congrArg Seen.response (seen_append _ _)).trans held
  refine waits_bind (waits_dispose answer.1 backed held') fun past' found enough => ?_
  unfold Waits
  dsimp only
  split_ifs
  · refine fun _ => ⟨trivial, fun _ => ⟨?_, trivial⟩⟩
    change found.2 = (seen (past' ++ [⟨.onRetry attempt req answer.2 found.1 found.2, ()⟩])).wait _
    rw [seen_append]
    exact enough
  · exact fun _ => ⟨enough, trivial⟩

theorem waits_tryOnce {failed : Answer → Request → HttpProg Answer}
    (next : ∀ past answer req, (seen past).response = answer.1 →
      Waits parseTime (fun _ _ => True) past (failed answer req)) :
    Waits parseTime (fun _ _ => True) past (tryOnce cfg req failed) := by
  unfold tryOnce
  refine waits_perform (fun _ => trivial) fun live => ?_
  cases live with
  | some err => trivial
  | none =>
    refine waits_bind (waits_resetBody req) fun past' reset same => ?_
    cases reset with
    | error err => trivial
    | ok req' =>
      have fresh : (seen past').response = none := by
        rw [same, seen_append]
        rfl
      refine waits_bind (waits_attempt req' fresh) fun past'' tried held => ?_
      unfold Waits
      dsimp only
      split_ifs
      · trivial
      · exact next past'' tried.1 tried.2 held

theorem waits_attemptFrom (left attempt : Nat) (req : Request) :
    Waits parseTime (fun _ _ => True) past (attemptFrom parseTime cfg left attempt req) := by
  induction left generalizing past attempt req with
  | zero =>
    refine waits_tryOnce req fun past answer req _ => ?_
    unfold giveUp
    split_ifs <;> trivial
  | succ left ih =>
    refine waits_tryOnce req fun past answer req held => ?_
    refine waits_bind (waits_pause attempt req answer held) fun past woken _ => ?_
    cases woken with
    | some err => trivial
    | none => exact ih (attempt + 1) req

theorem waits_roundTrip (req : Request) :
    Waits parseTime (fun _ _ => True) past (roundTrip parseTime cfg req) :=
  waits_bind (waits_prepare req) fun _ prepared _ => waits_attemptFrom _ 1 prepared.1

end Programs

section Header

variable {parseTime : GoString → Option Int} {resp : Response} {n : Int} {now : Int}

theorem retryAfter_seconds (header : atoi resp.retryAfter = some n) (nonneg : 0 ≤ n) :
    retryAfter parseTime resp now = (n * 10 ^ 9).bmod (2 ^ 64) := by
  have some_text : resp.retryAfter ≠ [] := by
    intro empty
    rw [empty] at header
    cases header
  rw [retryAfter, if_neg some_text, header]
  dsimp only
  rw [if_neg (not_lt.mpr nonneg), Int64.toInt_ofInt]
  rfl

end Header

/-- Before each new attempt of each round trip, after a response that asks for `n` seconds: the
wait is as long as that and as the backoff exactly if the nanoseconds fit into 63 bits. -/
theorem wait_seconds_iff {ω : Type} (parseTime : GoString → Option Int) (cfg : HttpConfig)
    (req : Request) (h : Handler Op Reply ω) (w : ω) {pre post : List (Event Op Reply)}
    {delay : Int} {woken : Option GoError}
    (waits : transcript h (roundTrip parseTime cfg req) w = pre ++ ⟨.sleep delay, woken⟩ :: post)
    {resp : Response} (response : (seen pre).response = some resp)
    (duration : (seen pre).backoff < 2 ^ 63) {n : Int} (header : atoi resp.retryAfter = some n)
    (nonneg : 0 ≤ n) :
    (n * 10 ^ 9 ≤ delay ∧ (seen pre).backoff ≤ delay) ↔ n * 10 ^ 9 < 2 ^ 63 := by
  obtain ⟨_, _, enough, -, -⟩ := (@waits_roundTrip parseTime cfg [] req).at_event waits
  have delay_eq : delay = max (seen pre).backoff ((n * 10 ^ 9).bmod (2 ^ 64)) := by
    rw [← @retryAfter_seconds parseTime resp n (seen pre).clock header nonneg]
    have exact_wait : delay = (seen pre).wait parseTime := enough
    rw [exact_wait, Seen.wait, response]
  rw [delay_eq, and_iff_left (le_max_left _ _)]
  exact GoInts.le_max_bmod_iff duration (by omega)

def throttled (header : GoString) : Course where
  result i := .ok ⟨i, if i = 1 then 503 else 200, if i = 1 then header else [], true⟩
  read _ := 0
  getBody _ := .error (errorsNew (str "unused"))
  admits _ := none
  delay _ := 10 ^ 8
  time _ := 0

def getConfig : HttpConfig where
  policy := {}
  retryMethods := [str "GET"]
  retryOnStatus code := code = 503

def getRequest : Request := ⟨str "GET", .nil, none, 0⟩

def firstAttempt (header : GoString) : List (Event Op Reply) :=
  let resp : Response := ⟨1, 503, header, true⟩
  [⟨.ctxErr, none⟩, ⟨.roundTrip getRequest, ((some resp, none), 0)⟩, ⟨.backoff 2, (10 ^ 8 : Int)⟩,
    ⟨.now, (0 : Int)⟩, ⟨.discard resp, ()⟩, ⟨.close resp, ()⟩]

def secondAttempt : List (Event Op Reply) :=
  [⟨.ctxErr, none⟩, ⟨.roundTrip getRequest, ((some ⟨2, 200, [], true⟩, none), 0)⟩]

theorem throttled_transcript (header : GoString) :
    transcript (throttled header).handler (roundTrip (fun _ => none) getConfig getRequest) [] =
      firstAttempt header ++ ⟨.sleep (max (10 ^ 8)
        (retryAfter (fun _ => none) ⟨1, 503, header, true⟩ 0)), none⟩ :: secondAttempt := rfl

theorem throttled_seconds {header : GoString} {n wait : Int} (seconds : atoi header = some n)
    (nonneg : 0 ≤ n) (longest : max (10 ^ 8) ((n * 10 ^ 9).bmod (2 ^ 64)) = wait) :
    transcript (throttled header).handler (roundTrip (fun _ => none) getConfig getRequest) [] =
      firstAttempt header ++ ⟨.sleep wait, none⟩ :: secondAttempt := by
  rw [throttled_transcript, retryAfter_seconds seconds nonneg, longest]

theorem wait_seconds_iff_five :
    (5 * 10 ^ 9 ≤ (5 * 10 ^ 9 : Int) ∧ (seen (firstAttempt (str "5"))).backoff ≤ 5 * 10 ^ 9) ↔
      (5 * 10 ^ 9 : Int) < 2 ^ 63 := by
  have seconds : atoi (str "5") = some 5 := by decide +kernel
  exact wait_seconds_iff (fun _ => none) getConfig getRequest (throttled (str "5")).handler []
    (throttled_seconds seconds (by decide) (by decide +kernel)) rfl (by decide +kernel) seconds
    (by decide)

/-- A header of more than 292 years is answered with a wait for a tenth of a second. -/
theorem wait_seconds_wrap :
    transcript (throttled (str "9223372037")).handler
        (roundTrip (fun _ => none) getConfig getRequest) [] =
      firstAttempt (str "9223372037") ++ ⟨.sleep (10 ^ 8), none⟩ :: secondAttempt ∧
    atoi (str "9223372037") = some 9223372037 ∧ (10 ^ 8 : Int) < 9223372037 * 10 ^ 9 := by
  have seconds : atoi (str "9223372037") = some 9223372037 := by decide +kernel
  exact ⟨throttled_seconds seconds (by decide) (by decide +kernel), seconds, by decide⟩

end DxCommonGo.TransportWaits
