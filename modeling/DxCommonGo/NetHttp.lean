import DxCommonGo.GoMaps
import Mathlib.Data.List.Induction

/-! The response side of package `net/http`, as a handler sees it. The first WriteHeader, Write or
Flush fixes status and headers; an informational status is sent at once. What a server adds or takes
away of its own is left out. -/

namespace DxCommonGo.NetHttp
open GoStrings GoMaps

def isTokenByte (b : UInt8) : Bool :=
  isDigit b || (65 ≤ b && b ≤ 90) || (97 ≤ b && b ≤ 122) ||
    (str "!#$%&'*+-.^_`|~").contains b

def upperByte (b : UInt8) : UInt8 := if 97 ≤ b && b ≤ 122 then b - 32 else b

def titleCase : Bool → GoString → GoString
  | _, [] => []
  | upper, b :: s =>
    let c := if upper then upperByte b else lowerByte b
    c :: titleCase (c = 45) s

/-- `CanonicalMIMEHeaderKey`; what is no token stays as it is. -/
def canonicalKey (s : GoString) : GoString := if s.all isTokenByte then titleCase true s else s

theorem forall_byte {p : UInt8 → Bool} (h : (List.range 256).all fun n => p (UInt8.ofNat n)) :
    ∀ b, p b = true := by
  intro b
  rw [List.all_eq_true] at h
  have own := h b.toNat (List.mem_range.mpr b.toNat_lt)
  rwa [UInt8.ofNat_toNat] at own

theorem upperByte_idem (b : UInt8) : upperByte (upperByte b) = upperByte b :=
  beq_iff_eq.mp (forall_byte (p := fun b => upperByte (upperByte b) == upperByte b)
    (by decide +kernel) b)

theorem lowerByte_idem (b : UInt8) : lowerByte (lowerByte b) = lowerByte b :=
  beq_iff_eq.mp (forall_byte (p := fun b => lowerByte (lowerByte b) == lowerByte b)
    (by decide +kernel) b)

theorem isTokenByte_case (b : UInt8) (h : isTokenByte b = true) :
    isTokenByte (upperByte b) = true ∧ isTokenByte (lowerByte b) = true := by
  have cases := forall_byte
    (p := fun b => !isTokenByte b || (isTokenByte (upperByte b) && isTokenByte (lowerByte b)))
    (by decide +kernel) b
  simpa [h] using cases

theorem titleCase_idem (upper : Bool) (s : GoString) :
    titleCase upper (titleCase upper s) = titleCase upper s := by
  induction s generalizing upper with
  | nil => rfl
  | cons b s ih =>
    cases upper with
    | true => simp only [titleCase, if_true, upperByte_idem, ih]
    | false => simp only [titleCase, Bool.false_eq_true, if_false, lowerByte_idem, ih]

theorem titleCase_token {s : GoString} (upper : Bool) (h : s.all isTokenByte = true) :
    (titleCase upper s).all isTokenByte = true := by
  induction s generalizing upper with
  | nil => rfl
  | cons b s ih =>
    rw [List.all_cons, Bool.and_eq_true] at h
    rw [titleCase, List.all_cons, ih _ h.2, Bool.and_true]
    cases upper with
    | true => exact (isTokenByte_case b h.1).1
    | false => exact (isTokenByte_case b h.1).2

theorem canonicalKey_idem (s : GoString) : canonicalKey (canonicalKey s) = canonicalKey s := by
  unfold canonicalKey
  split_ifs with token token'
  · exact titleCase_idem true s
  · exact absurd (titleCase_token true token) token'
  · rfl

example : canonicalKey (str "content-LENGTH") = str "Content-Length" := by decide

abbrev Header := GoMap (List GoString)

def Header.values (h : Header) (key : GoString) : List GoString := (h.lookup key).getD []

def Header.get (h : Header) (key : GoString) : GoString := (h.values (canonicalKey key)).headD []

inductive HeaderChange where
  | set (key value : GoString)
  | add (key value : GoString)
  | del (key : GoString)
  deriving DecidableEq

namespace HeaderChange

def key : HeaderChange → GoString
  | .set key _ | .add key _ | .del key => canonicalKey key

def replaces : HeaderChange → Bool
  | .set _ _ | .del _ => true
  | .add _ _ => false

def apply : HeaderChange → Header → Header
  | .set key value, h => h.insert (canonicalKey key) [value]
  | .add key value, h => h.insert (canonicalKey key) (h.values (canonicalKey key) ++ [value])
  | .del key, h => h.erase (canonicalKey key)

def leaves : HeaderChange → List GoString
  | .set _ value | .add _ value => [value]
  | .del _ => []

theorem values_apply (c : HeaderChange) (h : Header) (k : GoString) :
    (c.apply h).values k =
      if k = c.key then (if c.replaces then [] else h.values k) ++ c.leaves else h.values k := by
  by_cases here : k = c.key
  · rw [if_pos here, here]
    cases c <;> simp [apply, key, replaces, leaves, Header.values]
  · rw [if_neg here]
    cases c <;> simp only [key] at here <;>
      simp [apply, Header.values, AList.lookup_insert_ne here, AList.lookup_erase_ne here]

end HeaderChange

def applyAll (cs : List HeaderChange) (h : Header) : Header := cs.foldl (fun h c => c.apply h) h

def replaced (k : GoString) (cs : List HeaderChange) : Bool :=
  cs.any fun c => c.replaces && k == c.key

theorem values_applyAll (cs : List HeaderChange) (h : Header) (k : GoString) :
    (applyAll cs h).values k =
      (if replaced k cs then [] else h.values k) ++ (applyAll cs ∅).values k := by
  induction cs using List.reverseRecOn with
  | nil => simp [applyAll, replaced, Header.values]
  | append_singleton cs c ih =>
    have last : ∀ h, applyAll (cs ++ [c]) h = c.apply (applyAll cs h) := by
      intro h
      rw [applyAll, List.foldl_append]
      rfl
    have any : replaced k (cs ++ [c]) = (replaced k cs || (c.replaces && k == c.key)) := by
      simp [replaced]
    rw [last, last, HeaderChange.values_apply, HeaderChange.values_apply, any]
    by_cases here : k = c.key
    · rw [if_pos here, if_pos here, beq_iff_eq.mpr here, Bool.and_true]
      cases c.replaces with
      | true => simp
      | false =>
        simp only [Bool.or_false, Bool.false_eq_true, if_false]
        rw [ih, List.append_assoc]
    · rw [if_neg here, if_neg here, beq_false_of_ne here, Bool.and_false, Bool.or_false, ih]

/-- A status code; WriteHeader panics on others. -/
structure Status where
  code : Nat
  valid : 100 ≤ code ∧ code ≤ 999
  deriving DecidableEq

/-- 101 ends the response like a final status. -/
def Status.informational (s : Status) : Bool := s.code < 200 && s.code ≠ 101

def statusOK : Status := ⟨200, by omega⟩

def notFound : Status := ⟨404, by omega⟩

abbrev Bytes := List UInt8

inductive Call where
  | change (c : HeaderChange)
  | writeHeader (status : Status)
  | write (bytes : Bytes)
  | flush
  deriving DecidableEq

abbrev Fields := GoString → List GoString

structure Response where
  interim : List (Status × Fields)
  status : Status
  header : Fields
  body : Bytes

def interimFields (fields : Fields) : Fields := fun k =>
  if k = str "Content-Length" || k = str "Transfer-Encoding" then [] else fields k

/-- A response that is being written; the status and the headers are there once they
are fixed. -/
structure Writer where
  header : Header
  interim : List (Status × Fields) := []
  sent : Option (Status × Fields) := none
  body : Bytes := []

namespace Writer

def fix (status : Status) (w : Writer) : Writer :=
  { w with sent := some (w.sent.getD (status, w.header.values)) }

def inform (status : Status) (w : Writer) : Writer :=
  if w.sent.isSome then w
  else { w with interim := w.interim ++ [(status, interimFields w.header.values)] }

def step (w : Writer) : Call → Writer
  | .change c => { w with header := c.apply w.header }
  | .writeHeader status => if status.informational then w.inform status else w.fix status
  | .write bytes => { w.fix statusOK with body := w.body ++ bytes }
  | .flush => w.fix statusOK

def run (w : Writer) (calls : List Call) : Writer := calls.foldl step w

def finish (w : Writer) : Response :=
  let sent := w.sent.getD (statusOK, w.header.values)
  ⟨w.interim, sent.1, sent.2, w.body⟩

end Writer

def respond (outer : Header) (script : List Call) : Response :=
  (Writer.run { header := outer } script).finish

def fixed : List Call → Status × List HeaderChange
  | [] => (statusOK, [])
  | .change c :: calls => ((fixed calls).1, c :: (fixed calls).2)
  | .writeHeader status :: calls => if status.informational then fixed calls else (status, [])
  | .write _ :: _ => (statusOK, [])
  | .flush :: _ => (statusOK, [])

def interims : Header → List Call → List (Status × Fields)
  | _, [] => []
  | h, .change c :: calls => interims (c.apply h) calls
  | h, .writeHeader status :: calls =>
    if status.informational then (status, interimFields h.values) :: interims h calls else []
  | _, .write _ :: _ => []
  | _, .flush :: _ => []

def written (calls : List Call) : Bytes :=
  calls.flatMap fun
    | .write bytes => bytes
    | _ => []

def changes (calls : List Call) : List HeaderChange :=
  calls.filterMap fun
    | .change c => some c
    | _ => none

theorem run_sent {w : Writer} {sent : Status × Fields} (h : w.sent = some sent)
    (calls : List Call) :
    (w.run calls).finish = ⟨w.interim, sent.1, sent.2, w.body ++ written calls⟩ := by
  induction calls generalizing w with
  | nil => simp [Writer.run, Writer.finish, written, h]
  | cons call calls ih =>
    have kept : (w.step call).sent = some sent ∧ (w.step call).interim = w.interim ∧
        (w.step call).body ++ written calls = w.body ++ written (call :: calls) := by
      cases call with
      | writeHeader status =>
        cases informs : status.informational <;>
          simp [Writer.step, Writer.fix, Writer.inform, written, informs, h]
      | _ => simp [Writer.step, Writer.fix, written, h]
    obtain ⟨sent', interim, body⟩ := kept
    rw [← interim, ← body]
    exact ih sent'

theorem respond_eq (outer : Header) (script : List Call) :
    respond outer script =
      ⟨interims outer script, (fixed script).1, (applyAll (fixed script).2 outer).values,
        written script⟩ := by
  have from_interim : ∀ (h : Header) (before : List (Status × Fields)),
      (Writer.run { header := h, interim := before } script).finish =
        ⟨before ++ interims h script, (fixed script).1, (applyAll (fixed script).2 h).values,
          written script⟩ := by
    induction script with
    | nil =>
      intro h before
      simp [Writer.run, Writer.finish, interims, fixed, applyAll, written]
    | cons call script ih =>
      intro h before
      have rest : Writer.run { header := h, interim := before } (call :: script) =
          Writer.run (Writer.step { header := h, interim := before } call) script := rfl
      rw [rest]
      cases call with
      | change c => exact ih (c.apply h) before
      | writeHeader status =>
        cases informs : status.informational with
        | true =>
          simp only [Writer.step, Writer.inform, informs, if_true, Option.isSome_none,
            Bool.false_eq_true, if_false, ih, interims, fixed]
          simp [written]
        | false =>
          rw [Writer.step, informs, if_neg Bool.false_ne_true, run_sent rfl]
          simp [Writer.fix, interims, fixed, informs, applyAll, written]
      | write bytes =>
        rw [Writer.step, run_sent rfl]
        simp [Writer.fix, interims, fixed, applyAll, written]
      | flush =>
        rw [Writer.step, run_sent rfl]
        simp [Writer.fix, interims, fixed, applyAll, written]
  exact from_interim outer []

def writeJSON (status : Status) (body : Bytes) : List Call :=
  [.change (.set (str "Content-Type") (str "application/json")), .writeHeader status, .write body]

section Scripts

theorem written_append (calls calls' : List Call) :
    written (calls ++ calls') = written calls ++ written calls' := List.flatMap_append

theorem written_map_write (out : List Bytes) : written (out.map .write) = out.flatten := by
  induction out with
  | nil => rfl
  | cons b out ih =>
    rw [List.map_cons, List.flatten_cons, ← ih]
    rfl

theorem fixed_writes {out : List Bytes} (h : out ≠ []) (calls : List Call) :
    fixed (out.map .write ++ calls) = (statusOK, []) := by
  cases out with
  | nil => exact absurd rfl h
  | cons b out => rfl

theorem status_writeJSON {status : Status} (final : status.informational = false) (outer : Header)
    (body : Bytes) : (respond outer (writeJSON status body)).status = status := by
  rw [respond_eq]
  simp [writeJSON, fixed, final]

theorem changes_first (cs : List HeaderChange) (calls : List Call) :
    fixed (cs.map .change ++ calls) = ((fixed calls).1, cs ++ (fixed calls).2) ∧
      (∀ h, interims h (cs.map .change ++ calls) = interims (applyAll cs h) calls) ∧
      written (cs.map .change ++ calls) = written calls := by
  induction cs with
  | nil => exact ⟨rfl, fun _ => rfl, rfl⟩
  | cons c cs ih =>
    obtain ⟨sent, interim, body⟩ := ih
    refine ⟨?_, fun h => interim (c.apply h), body⟩
    rw [List.map_cons, List.cons_append, fixed, sent]
    rfl

end Scripts

end DxCommonGo.NetHttp
