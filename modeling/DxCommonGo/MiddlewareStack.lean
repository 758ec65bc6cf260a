import DxCommonGo.Compression
import DxCommonGo.ErrorResponses
import DxCommonGo.TimeoutMiddleware

/-! The middlewares of package `middleware` around a handler. Each turns the calls of what it wraps
into its own. `Timeout` runs it on a goroutine of its own, whose panic ends the process. -/

namespace DxCommonGo.MiddlewareStack
open GoStrings GoMaps DxErrors NetHttp StreamCodings Compression ErrorResponses
open TimeoutMiddleware (TimeoutWriter)

structure Request where
  method : GoString
  origin : GoString := []
  acceptEncoding : GoString := []

structure CORSConfig where
  allowedOrigins : List GoString
  allowedMethods : List GoString
  allowedHeaders : List GoString
  maxAge : Int

def corsHeaders (cfg : CORSConfig) (origin : GoString) : List HeaderChange :=
  let allowedOrigin := (cfg.allowedOrigins.find? fun o => o = str "*" || o = origin).getD []
  (if allowedOrigin ≠ [] then
    .set (str "Access-Control-Allow-Origin") allowedOrigin ::
      if allowedOrigin ≠ str "*" then [.add (str "Vary") (str "Origin")] else []
  else []) ++
  [.set (str "Access-Control-Allow-Methods") (join (str ", ") cfg.allowedMethods),
    .set (str "Access-Control-Allow-Headers") (join (str ", ") cfg.allowedHeaders)] ++
  if 0 < cfg.maxAge then [.set (str "Access-Control-Max-Age") (itoa cfg.maxAge)] else []

/-- The header changes of a rate limiter that lets a request pass; the limiter by endpoint
does not announce a reset. -/
def rateLimitHeaders (requestsPerSecond remaining : Int) (reset : Option Int) :
    List HeaderChange :=
  [.set (str "X-RateLimit-Limit") (itoa requestsPerSecond),
    .set (str "X-RateLimit-Remaining") (itoa remaining)] ++
  reset.toList.map fun t => .set (str "X-RateLimit-Reset") (itoa t)

/-- A middleware, with what it decides or draws for the request: the id, whether the limiter allows
it, what is wrong with the upload. -/
inductive Middleware where
  | recovery
  | timeout
  | logger
  | audit
  | requestID (id : GoString)
  | cors (cfg : CORSConfig)
  | compression
  | selectiveCompression (contentTypesToCompress : List GoString)
  | rateLimit (allowed : Bool) (requestsPerSecond remaining : Int) (reset : Option Int)
  | maxUploadSize
  | validateMultipartUpload (rejected : Option BaseDxError)

def noContent : Status := ⟨204, by omega⟩

/-- What was done with a writer. A panic has either left the goroutine that runs this, or
has ended the process from another one. -/
structure Outcome where
  calls : List Call
  panics : Bool := false
  crashed : Bool := false

variable {σ : Type}

/-- What the environment provides: the gzip coding, the JSON encoder, and the order in
which a map is visited. -/
structure Env (σ : Type) where
  gzip : Coding UInt8 σ
  encode : Encoder
  ord : RangeOrder

namespace Middleware

variable (env : Env σ) (r : Request)

/-- The answer of a middleware that does not call the next handler, or the changes it makes
to the headers before it does. -/
def entry : Middleware → Except (List Call) (List HeaderChange)
  | .requestID id => .ok [.set (str "X-Request-ID") id]
  | .cors cfg =>
    if r.method = str "OPTIONS" then
      .error ((corsHeaders cfg r.origin).map .change ++ [.writeHeader noContent])
    else .ok (corsHeaders cfg r.origin)
  | .rateLimit allowed requestsPerSecond remaining reset =>
    if !allowed then
      .error (writeError env.encode ⟨.tooManyRequests, str "rate limit exceeded: " ++
        itoa requestsPerSecond ++ str " requests per second", []⟩)
    else .ok (rateLimitHeaders requestsPerSecond remaining reset)
  | .validateMultipartUpload (some err) => .error (writeError env.encode err)
  | _ => .ok []

def enter (h : Header) : Middleware → Header
  | .timeout => ∅
  | .compression =>
    if contains r.acceptEncoding (str "gzip") then applyAll gzipHeaders h else h
  | _ => h

end Middleware

def unclosed (G : Coding UInt8 σ) (compress : GoString → Bool) :
    ResponseWriterWrapper σ → List Call → List Call
  | _, [] => []
  | rww, call :: script =>
    (rww.step G compress call).1 ++ unclosed G compress (rww.step G compress call).2 script

/-- What a middleware makes of what the next handler did. `late` says that the deadline of a
`Timeout` came first. The Close of `Compression` also happens on a panic. -/
def Middleware.wrap (env : Env σ) (r : Request) (h : Header) (late : Bool) (o : Outcome) :
    Middleware → Outcome
  | .recovery =>
    if o.panics then
      { o with
        calls := o.calls ++
          writeError env.encode ⟨.internal, str "internal server error", []⟩
        panics := false }
    else o
  | .timeout =>
    { calls :=
        if late then writeError env.encode ⟨.serviceUnavailable, str "request timeout", []⟩
        else (TimeoutWriter.run {} o.calls).flush env.ord
      panics := false
      crashed := o.crashed || o.panics }
  | .logger | .audit => { o with calls := unflushed o.calls }
  | .compression => { o with calls := Compression.compression env.gzip r.acceptEncoding o.calls }
  | .selectiveCompression types =>
    let wrapper : ResponseWriterWrapper σ := { header := h }
    let compress := shouldCompress env.ord (typesToCompress types)
    if o.panics && contains r.acceptEncoding (str "gzip") then
      { o with calls := unclosed env.gzip compress wrapper o.calls }
    else
      { o with calls :=
          Compression.selectiveCompression env.gzip env.ord types r.acceptEncoding h o.calls }
  | _ => o

/-- A stack of middlewares, the outermost first, around a handler. The deadlines are told
apart by their depth. -/
def serve (env : Env σ) (r : Request) :
    (late : Nat → Bool) → List Middleware → Header → Outcome → Outcome
  | _, [], _, handler => handler
  | late, m :: ms, h, handler =>
    match m.entry env r with
    | .error calls => { calls }
    | .ok cs =>
      let inner := serve env r (fun depth => late (depth + 1)) ms
        (m.enter r (applyAll cs h)) handler
      let outcome := m.wrap env r (applyAll cs h) (late 0) inner
      { outcome with calls := cs.map .change ++ outcome.calls }

/-- What the client receives. The server recovers a panic that comes out of the stack and
drops the connection. -/
def Outcome.response (o : Outcome) : Option Response :=
  if o.crashed || o.panics then none else some (respond ∅ o.calls)

end DxCommonGo.MiddlewareStack
