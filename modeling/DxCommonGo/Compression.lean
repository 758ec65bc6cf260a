import DxCommonGo.NetHttp
import DxCommonGo.StreamCodings

/-! `Compression` and `SelectiveCompression` in front of the writer of `net/http`. Each turns the
calls of the handler into calls of its own; the coding of package `gzip` is a parameter. -/

namespace DxCommonGo.Compression
open GoStrings GoMaps NetHttp StreamCodings

def contains (s sub : GoString) : Bool := s.tails.any sub.isPrefixOf

def contentEncoding : GoString := str "Content-Encoding"

def contentLength : GoString := str "Content-Length"

def contentType : GoString := str "Content-Type"

def gzipHeaders : List HeaderChange := [.set contentEncoding (str "gzip"), .del contentLength]

variable {σ : Type}

section Writers

variable (G : Coding UInt8 σ)

/-- The calls of a handler, up to the deferred Close. There is no Flush method, so a handler finds
no `http.Flusher`. -/
def gzipResponseWriter : σ → List Call → List Call
  | gw, [] => (G.close gw).map .write
  | gw, .write b :: script =>
    (G.step gw (.write b)).1.map .write ++ gzipResponseWriter (G.step gw (.write b)).2 script
  | gw, .flush :: script => gzipResponseWriter gw script
  | gw, .change c :: script => .change c :: gzipResponseWriter gw script
  | gw, .writeHeader status :: script => .writeHeader status :: gzipResponseWriter gw script

def compression (acceptEncoding : GoString) (script : List Call) : List Call :=
  if !contains acceptEncoding (str "gzip") then script
  else gzipHeaders.map .change ++ gzipResponseWriter G G.new script

def defaultTypes : List GoString :=
  [str "application/json", str "text/html", str "text/plain", str "text/css",
    str "application/javascript"]

def typesToCompress (contentTypesToCompress : List GoString) : GoMap Bool :=
  let types := insertAll ∅ (contentTypesToCompress.map fun ct => (ct, true))
  if types.keys.length = 0 then insertAll types (defaultTypes.map fun ct => (ct, true)) else types

structure ResponseWriterWrapper (σ : Type) where
  header : Header
  written : Bool := false
  gw : Option σ := none

def shouldCompress (ord : RangeOrder) (types : GoMap Bool) (contentType : GoString) : Bool :=
  (range ord 1 types).any fun e => contains contentType e.1

namespace ResponseWriterWrapper

def forward (rww : ResponseWriterWrapper σ) (b : Bytes) : List Call × ResponseWriterWrapper σ :=
  match rww.gw with
  | some gw => ((G.step gw (.write b)).1.map .write, { rww with gw := (G.step gw (.write b)).2 })
  | none => ([.write b], rww)

def step (compress : GoString → Bool) (rww : ResponseWriterWrapper σ) :
    Call → List Call × ResponseWriterWrapper σ
  | .change c => ([.change c], { rww with header := c.apply rww.header })
  | .writeHeader status => ([.writeHeader status], rww)
  | .write b =>
    if !rww.written && compress (rww.header.get contentType) then
      let started := { rww with
        header := applyAll gzipHeaders rww.header, written := true, gw := some G.new }
      let out := started.forward G b
      (gzipHeaders.map .change ++ out.1, out.2)
    else { rww with written := true }.forward G b
  | .flush =>
    match rww.gw with
    | some gw =>
      ((G.step gw .flush).1.map .write ++ [.flush], { rww with gw := (G.step gw .flush).2 })
    | none => ([.flush], rww)

def run (compress : GoString → Bool) : ResponseWriterWrapper σ → List Call → List Call
  | rww, [] => (rww.gw.elim [] G.close).map .write
  | rww, call :: script =>
    (rww.step G compress call).1 ++ run compress (rww.step G compress call).2 script

end ResponseWriterWrapper

def selectiveCompression (ord : RangeOrder) (contentTypesToCompress : List GoString)
    (acceptEncoding : GoString) (outer : Header) (script : List Call) : List Call :=
  if !contains acceptEncoding (str "gzip") then script
  else ({ header := outer } : ResponseWriterWrapper σ).run G
    (shouldCompress ord (typesToCompress contentTypesToCompress)) script

end Writers

structure Client (σ : Type) where
  gzip : Coding UInt8 σ
  other : List GoString → Bytes → Option Bytes

def Client.decodeAs (C : Client σ) (codings : List GoString) (body : Bytes) : Option Bytes :=
  if codings = [] then some body
  else if codings = [str "gzip"] then C.gzip.decode body
  else C.other codings body

/-- The headers fit the bytes they are sent with: these decode to the content, and every
Content-Length is their number. -/
structure Truthful (C : Client σ) (header : Fields) (body content : Bytes) : Prop where
  encoding : C.decodeAs (header contentEncoding) body = some content
  length : ∀ v ∈ header contentLength, atoi v = some (body.length : Int)

/-- The response has the status it has without the middleware, and fits what the handler
has written. -/
structure Faithful (C : Client σ) (outer : Header) (script : List Call) (r : Response) : Prop where
  status : r.status = (respond outer script).status
  truthful : Truthful C r.header r.body (written script)

def unflushed (script : List Call) : List Call := script.filter (· ≠ .flush)

def writeOps (script : List Call) : List (StreamOp UInt8) :=
  script.filterMap fun
    | .write b => some (.write b)
    | _ => none

section Gzip

variable (G : Coding UInt8 σ)

theorem written_gzip (gw : σ) (script : List Call) :
    written (gzipResponseWriter G gw script) = (G.output gw (writeOps script)).flatten := by
  induction script generalizing gw with
  | nil => exact written_map_write _
  | cons call script ih =>
    cases call with
    | change c => exact ih gw
    | writeHeader status => exact ih gw
    | flush => exact ih gw
    | write b =>
      rw [gzipResponseWriter, written_append, written_map_write, ih]
      exact (List.flatten_append).symm

theorem fixed_gzip (script : List Call) :
    fixed (gzipResponseWriter G G.new script) = fixed (unflushed script) := by
  induction script with
  | nil =>
    have closing := fixed_writes G.closes []
    rw [List.append_nil] at closing
    exact closing
  | cons call script ih =>
    cases call with
    | change c => simp [gzipResponseWriter, unflushed, fixed, ih]
    | writeHeader status =>
      rw [gzipResponseWriter, fixed, ih]
      simp [unflushed, fixed]
    | flush => simp [gzipResponseWriter, unflushed, ih]
    | write b =>
      rw [gzipResponseWriter, fixed_writes (G.starts _)]
      simp [unflushed, fixed]

theorem content_writeOps (script : List Call) : content (writeOps script) = written script := by
  induction script with
  | nil => rfl
  | cons call script ih =>
    cases call with
    | write b => exact congrArg (b ++ ·) ih
    | _ => exact ih

end Gzip

def typeAtWrite : Header → List Call → Option GoString
  | _, [] => none
  | h, .change c :: script => typeAtWrite (c.apply h) script
  | h, .write _ :: _ => some (h.get contentType)
  | h, .writeHeader _ :: script => typeAtWrite h script
  | h, .flush :: script => typeAtWrite h script

def fixedEarly : List Call → Bool
  | [] => false
  | .change _ :: script => fixedEarly script
  | .write _ :: _ => false
  | .writeHeader status :: script => if status.informational then fixedEarly script else true
  | .flush :: _ => true

def streamOps (script : List Call) : List (StreamOp UInt8) :=
  script.filterMap fun
    | .write b => some (.write b)
    | .flush => some .flush
    | _ => none

def gzipOps : List Call → List (StreamOp UInt8)
  | [] => []
  | .write b :: script => .write b :: streamOps script
  | _ :: script => gzipOps script

theorem content_gzipOps (script : List Call) : content (gzipOps script) = written script := by
  have later : ∀ script, content (streamOps script) = written script := by
    intro script
    induction script with
    | nil => rfl
    | cons call script ih =>
      cases call with
      | write b => exact congrArg (b ++ ·) ih
      | _ => exact ih
  induction script with
  | nil => rfl
  | cons call script ih =>
    cases call with
    | write b => exact congrArg (b ++ ·) (later script)
    | _ => exact ih

section Selective

variable (G : Coding UInt8 σ) (compress : GoString → Bool)

open ResponseWriterWrapper (run step forward)

theorem written_streaming (h : Header) (gw : σ) (script : List Call) :
    written (run G compress ⟨h, true, some gw⟩ script) =
      (G.output gw (streamOps script)).flatten := by
  induction script generalizing h gw with
  | nil => exact written_map_write _
  | cons call script ih =>
    cases call with
    | change c => exact ih (c.apply h) gw
    | writeHeader status => exact ih h gw
    | write b =>
      simp only [run, step, forward, Bool.not_true, Bool.false_and, Bool.false_eq_true, if_false]
      rw [written_append, written_map_write, ih]
      exact List.flatten_append.symm
    | flush =>
      simp only [run, step]
      rw [written_append, written_append, written_map_write, ih]
      simp [written, streamOps, Encoder.output]

theorem run_plain (h : Header) (script : List Call) :
    run G compress ⟨h, true, none⟩ script = script := by
  induction script generalizing h with
  | nil => rfl
  | cons call script ih =>
    cases call with
    | change c => exact congrArg (.change c :: ·) (ih (c.apply h))
    | writeHeader status => exact congrArg (.writeHeader status :: ·) (ih h)
    | write b => exact congrArg (.write b :: ·) (ih h)
    | flush => exact congrArg (.flush :: ·) (ih h)

theorem run_uncompressed {h : Header} {script : List Call}
    (other : (typeAtWrite h script).any compress = false) :
    ({ header := h } : ResponseWriterWrapper σ).run G compress script = script := by
  induction script generalizing h with
  | nil => rfl
  | cons call script ih =>
    cases call with
    | change c => exact congrArg (.change c :: ·) (ih other)
    | writeHeader status => exact congrArg (.writeHeader status :: ·) (ih other)
    | flush => exact congrArg (.flush :: ·) (ih other)
    | write b =>
      have decided : compress (h.get contentType) = false := other
      simp only [run, step, forward, decided, Bool.and_false, Bool.false_eq_true, if_false]
      exact congrArg (.write b :: ·) (run_plain G compress h script)

theorem run_compressed {h : Header} {script : List Call}
    (typed : (typeAtWrite h script).any compress = true) :
    written (run G compress { header := h } script) = G.stream (gzipOps script) ∧
      fixed (run G compress { header := h } script) = ((fixed script).1,
        if fixedEarly script then (fixed script).2 else (fixed script).2 ++ gzipHeaders) := by
  induction script generalizing h with
  | nil => cases typed
  | cons call script ih =>
    cases call with
    | change c =>
      obtain ⟨body, sent⟩ := @ih (c.apply h) typed
      refine ⟨body, ?_⟩
      have first : run G compress { header := h } (.change c :: script) =
          .change c :: run G compress { header := c.apply h } script := rfl
      rw [first, fixed, sent]
      cases early : fixedEarly script <;> simp [fixed, fixedEarly, early]
    | writeHeader status =>
      obtain ⟨body, sent⟩ := @ih h typed
      refine ⟨body, ?_⟩
      have first : run G compress { header := h } (.writeHeader status :: script) =
          .writeHeader status :: run G compress { header := h } script := rfl
      rw [first, fixed, fixed, fixedEarly]
      split
      · exact sent
      · rfl
    | flush => exact ⟨(@ih h typed).1, rfl⟩
    | write b =>
      have decided : compress (h.get contentType) = true := typed
      have first : run G compress { header := h } (.write b :: script) =
          gzipHeaders.map .change ++ ((G.step G.new (.write b)).1.map .write ++
            run G compress ⟨applyAll gzipHeaders h, true, some (G.step G.new (.write b)).2⟩
              script) := by
        simp [run, step, forward, decided]
      rw [first, written_append, written_append, written_map_write, written_streaming]
      constructor
      · exact List.flatten_append.symm
      · have started := fixed_writes (G.starts (.write b))
        simp [gzipHeaders, fixed, fixedEarly, started]

end Selective

theorem values_gzipHeaders (h : Header) :
    (applyAll gzipHeaders h).values contentEncoding = [str "gzip"] ∧
      (applyAll gzipHeaders h).values contentLength = [] := by
  have encoding : replaced contentEncoding gzipHeaders = true := by decide
  have length : replaced contentLength gzipHeaders = true := by decide
  constructor
  · rw [values_applyAll, encoding, if_pos rfl, List.nil_append]
    decide
  · rw [values_applyAll, length, if_pos rfl, List.nil_append]
    decide

section Faithful

variable (C : Client σ) (outer : Header) (script : List Call)

theorem faithful_compression {acceptEncoding : GoString}
    (accepts : contains acceptEncoding (str "gzip") = true) :
    Faithful C outer script (respond outer (compression C.gzip acceptEncoding script)) ↔
      (fixed (unflushed script)).1 = (fixed script).1 ∧
      Truthful C (applyAll (gzipHeaders ++ (fixed (unflushed script)).2) outer).values
        (C.gzip.stream (writeOps script)) (written script) := by
  have sent : fixed (compression C.gzip acceptEncoding script) =
      ((fixed (unflushed script)).1, gzipHeaders ++ (fixed (unflushed script)).2) := by
    rw [compression, accepts, ← fixed_gzip C.gzip]
    rfl
  have body : written (compression C.gzip acceptEncoding script) =
      C.gzip.stream (writeOps script) := by
    rw [compression, accepts]
    exact written_gzip C.gzip C.gzip.new script
  rw [respond_eq, sent, body]
  refine ⟨fun h => ⟨?_, h.truthful⟩, fun h => ⟨?_, h.2⟩⟩
  · have status := h.status
    rwa [respond_eq] at status
  · rw [respond_eq]
    exact h.1

theorem truthful_stream {header : Fields} (ops : List (StreamOp UInt8))
    (encoding : header contentEncoding = [str "gzip"]) (length : header contentLength = []) :
    Truthful C header (C.gzip.stream ops) (content ops) := by
  refine ⟨?_, ?_⟩
  · rw [encoding]
    exact C.gzip.decodes ops
  · rw [length]
    simp

theorem truthful_gzip (cs : List HeaderChange) :
    Truthful C (applyAll (cs ++ gzipHeaders) outer).values (C.gzip.stream (gzipOps script))
      (written script) := by
  have last : applyAll (cs ++ gzipHeaders) outer = applyAll gzipHeaders (applyAll cs outer) :=
    List.foldl_append
  obtain ⟨encoding, length⟩ := values_gzipHeaders (applyAll cs outer)
  rw [last, ← content_gzipOps]
  exact truthful_stream C (gzipOps script) encoding length

theorem faithful_selective (compress : GoString → Bool) :
    Faithful C outer script (respond outer
        (({ header := outer } : ResponseWriterWrapper σ).run C.gzip compress script)) ↔
      (typeAtWrite outer script).any compress = true ∧ fixedEarly script = false ∨
      Truthful C (applyAll (fixed script).2 outer).values
        (if (typeAtWrite outer script).any compress then C.gzip.stream (gzipOps script)
          else written script) (written script) := by
  cases typed : (typeAtWrite outer script).any compress with
  | false =>
    rw [run_uncompressed C.gzip compress typed, respond_eq]
    simp only [Bool.false_eq_true, false_and, if_false, false_or]
    refine ⟨fun h => h.truthful, fun h => ⟨?_, h⟩⟩
    rw [respond_eq]
  | true =>
    obtain ⟨body, sent⟩ := run_compressed C.gzip compress typed
    rw [respond_eq, body, sent]
    have status : (fixed script).1 = (respond outer script).status := by rw [respond_eq]
    cases early : fixedEarly script with
    | false => exact iff_of_true ⟨status, truthful_gzip C outer script _⟩ (.inl ⟨rfl, rfl⟩)
    | true =>
      simp only [Bool.true_eq_false, and_false, false_or, if_true]
      exact ⟨fun h => h.truthful, fun h => ⟨status, h⟩⟩

end Faithful

/-- The two middlewares in front of a script, for a request that accepts gzip. What goes
through `Compression` is faithful exactly if the status does not hang on a Flush and the
headers at the freeze still describe the stream. What goes through `SelectiveCompression`
is faithful exactly if it compresses and nothing was fixed before the first Write, or if
the headers as the handler left them happen to describe the bytes that are sent. -/
theorem compression_faithful_iff (C : Client σ) (ord : RangeOrder) (types : List GoString)
    (outer : Header) (script : List Call) {acceptEncoding : GoString}
    (accepts : contains acceptEncoding (str "gzip") = true) :
    (Faithful C outer script (respond outer (compression C.gzip acceptEncoding script)) ↔
      (fixed (unflushed script)).1 = (fixed script).1 ∧
      Truthful C (applyAll (gzipHeaders ++ (fixed (unflushed script)).2) outer).values
        (C.gzip.stream (writeOps script)) (written script)) ∧
    let compresses := (typeAtWrite outer script).any (shouldCompress ord (typesToCompress types))
    (Faithful C outer script
        (respond outer (selectiveCompression C.gzip ord types acceptEncoding outer script)) ↔
      compresses = true ∧ fixedEarly script = false ∨
      Truthful C (applyAll (fixed script).2 outer).values
        (if compresses then C.gzip.stream (gzipOps script) else written script)
        (written script)) := by
  refine ⟨faithful_compression C outer script accepts, ?_⟩
  rw [selectiveCompression, accepts]
  exact faithful_selective C outer script _

def framingClient : Client Bool where
  gzip := framing [0x1f, 0x8b, 8] 0
  other _ _ := none

def jsonScript (calls : List Call) : List Call :=
  .change (.set contentType (str "application/json; charset=utf-8")) :: calls

theorem compression_faithful_json :
    Faithful framingClient ∅ (jsonScript [.write (str "\x7b\x7d"), .flush])
        (respond ∅ (compression framingClient.gzip (str "br, gzip")
          (jsonScript [.write (str "\x7b\x7d"), .flush]))) ∧
      Faithful framingClient ∅ (jsonScript [.write (str "\x7b\x7d"), .flush])
        (respond ∅ (selectiveCompression framingClient.gzip .listed [] (str "br, gzip") ∅
          (jsonScript [.write (str "\x7b\x7d"), .flush]))) := by
  have faithful := compression_faithful_iff framingClient .listed [] ∅
    (jsonScript [.write (str "\x7b\x7d"), .flush]) (by decide : contains (str "br, gzip") _ = true)
  refine ⟨faithful.1.mpr ⟨rfl, ?_⟩, faithful.2.mpr (.inl ⟨by decide +kernel, rfl⟩)⟩
  rw [← content_writeOps]
  exact truthful_stream framingClient _ (by decide) (by decide)

def announced (calls : List Call) : List Call :=
  jsonScript (.change (.set contentLength (str "2")) :: calls)

/-- A status before the body: the stream is sent without its Content-Encoding and with the
length of the plain text. An announced length behind `Compression`: it is sent with the
stream. A Flush before the status: `Compression` loses it. -/
theorem compression_unfaithful :
    (∃ r, respond ∅ (selectiveCompression framingClient.gzip .listed [] (str "gzip") ∅
        (announced [.writeHeader statusOK, .write (str "\x7b\x7d")])) = r ∧
      r.body = framingClient.gzip.stream [.write (str "\x7b\x7d")] ∧
      r.header contentEncoding = [] ∧ r.header contentLength = [str "2"] ∧
      framingClient.decodeAs [] r.body ≠ some (str "\x7b\x7d")) ∧
    (∃ r, respond ∅ (compression framingClient.gzip (str "gzip")
        (announced [.write (str "\x7b\x7d")])) = r ∧
      r.header contentLength = [str "2"] ∧ r.body.length = 6) ∧
    (respond ∅ [.flush, .writeHeader notFound]).status = statusOK ∧
    (respond ∅ (compression framingClient.gzip (str "gzip")
      [.flush, .writeHeader notFound])).status = notFound := by
  refine ⟨⟨_, rfl, ?_⟩, ⟨_, rfl, ?_⟩, ?_⟩
  · decide +kernel
  · decide +kernel
  · decide +kernel

end DxCommonGo.Compression
