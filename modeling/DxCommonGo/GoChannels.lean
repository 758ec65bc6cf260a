import Mathlib.Data.List.Basic

/-! Buffered Go channels: a queue of bounded length that can be closed once. A send on a closed
channel panics; a receiver gets what is queued, then the end if it is closed. -/

namespace DxCommonGo.GoChannels

structure Channel (α : Type) where
  capacity : Nat
  buffer : List α
  closed : Bool
  fits : buffer.length ≤ capacity

variable {α : Type}

def make (capacity : Nat) : Channel α := ⟨capacity, [], false, Nat.zero_le _⟩

inductive Offered (α : Type) where
  | panics
  | dropped
  | sent (c : Channel α)

def Channel.offer (c : Channel α) (a : α) : Offered α :=
  if c.closed then .panics
  else if room : c.buffer.length < c.capacity then
    .sent { c with buffer := c.buffer ++ [a], fits := by rw [List.length_append]; exact room }
  else .dropped

inductive Received (α : Type) where
  | waits
  | ended
  | got (a : α) (c : Channel α)

def Channel.receive : Channel α → Received α
  | ⟨capacity, a :: buffer, closed, fits⟩ =>
    .got a ⟨capacity, buffer, closed, Nat.le_of_succ_le fits⟩
  | ⟨_, [], true, _⟩ => .ended
  | ⟨_, [], false, _⟩ => .waits

def Channel.close (c : Channel α) : Option (Channel α) :=
  if c.closed then none else some { c with closed := true }

section Rules

variable {c c' : Channel α} {a : α}

theorem offer_sent (h : c.offer a = .sent c') :
    c.closed = false ∧ c'.closed = false ∧ c'.buffer = c.buffer ++ [a] := by
  unfold Channel.offer at h
  split_ifs at h with closed room
  cases h
  exact ⟨by simpa using closed, by simpa using closed, rfl⟩

theorem offer_panics : c.offer a = .panics ↔ c.closed = true := by
  unfold Channel.offer
  split_ifs with closed room <;> simp [closed]

theorem receive_got (h : c.receive = .got a c') :
    c.buffer = a :: c'.buffer ∧ c'.closed = c.closed := by
  obtain ⟨capacity, buffer, closed, fits⟩ := c
  cases buffer with
  | nil => cases closed <;> cases h
  | cons b buffer =>
    cases h
    exact ⟨rfl, rfl⟩

theorem receive_ended (h : c.receive = .ended) : c.buffer = [] ∧ c.closed = true := by
  obtain ⟨capacity, buffer, closed, fits⟩ := c
  cases buffer with
  | nil =>
    cases closed with
    | true => exact ⟨rfl, rfl⟩
    | false => cases h
  | cons b buffer => cases h

theorem exists_receive {rest : List α} (h : c.buffer = a :: rest) :
    ∃ c', c.receive = .got a c' ∧ c'.buffer = rest := by
  obtain ⟨capacity, buffer, closed, fits⟩ := c
  cases h
  exact ⟨_, rfl, rfl⟩

theorem receive_eq_ended (empty : c.buffer = []) (closed : c.closed = true) :
    c.receive = .ended := by
  obtain ⟨capacity, buffer, closed', fits⟩ := c
  cases empty
  cases closed
  rfl

theorem close_eq_some (h : c.close = some c') :
    c.closed = false ∧ c'.closed = true ∧ c'.buffer = c.buffer := by
  unfold Channel.close at h
  split_ifs at h with closed
  cases h
  exact ⟨by simpa using closed, rfl, rfl⟩

end Rules

end DxCommonGo.GoChannels
