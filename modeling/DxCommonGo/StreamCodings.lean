import Mathlib.Data.List.Basic

/-! Content codings that are written as a stream: an encoder emits pieces and keeps the rest, with a
header first, and a decoder recovers what was written once the stream is closed. -/

namespace DxCommonGo.StreamCodings

variable {α σ : Type}

inductive StreamOp (α : Type) where
  | write (data : List α)
  | flush

def content (ops : List (StreamOp α)) : List α :=
  ops.flatMap fun
    | .write data => data
    | .flush => []

structure Encoder (α σ : Type) where
  new : σ
  step : σ → StreamOp α → List (List α) × σ
  close : σ → List (List α)

def Encoder.output (E : Encoder α σ) : σ → List (StreamOp α) → List (List α)
  | s, [] => E.close s
  | s, op :: ops => (E.step s op).1 ++ E.output (E.step s op).2 ops

structure Coding (α σ : Type) extends Encoder α σ where
  decode : List α → Option (List α)
  starts : ∀ op, (step new op).1 ≠ []
  closes : close new ≠ []
  decodes : ∀ ops, decode (toEncoder.output new ops).flatten = some (content ops)

def Coding.stream (C : Coding α σ) (ops : List (StreamOp α)) : List α :=
  (C.output C.new ops).flatten

def framing (header : List α) (mark : α) : Coding α Bool where
  new := false
  step started op :=
    let data := content [op]
    (if started then [data] else [header, data], true)
  close started := if started then [[mark]] else [header, [mark]]
  decode bytes := some (bytes.drop header.length).dropLast
  starts op := by simp
  closes := by simp
  decodes ops := by
    have running : ∀ (E : Encoder α Bool) (ops : List (StreamOp α)),
        (∀ op, E.step true op = ([content [op]], true)) → E.close true = [[mark]] →
        (E.output true ops).flatten = content ops ++ [mark] := by
      intro E ops steps closing
      induction ops with
      | nil =>
        rw [Encoder.output, closing]
        rfl
      | cons op ops ih =>
        rw [Encoder.output, steps, List.flatten_append, ih]
        simp [content]
    cases ops with
    | nil => simp [Encoder.output, content]
    | cons op ops =>
      rw [Encoder.output, List.flatten_append, running _ ops (fun op => rfl) rfl]
      simp [content]

end DxCommonGo.StreamCodings
