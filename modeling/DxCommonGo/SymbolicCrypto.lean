import Mathlib.Data.Set.Basic

/-! Messages as terms and the attacker who builds and takes apart what is known. A key is a number,
private and public alike. Text, nonces and public keys are free to everybody. -/

namespace DxCommonGo.SymbolicCrypto

inductive Term where
  | atom (bytes : List UInt8)
  | nonce (n : Nat)
  | secret (n : Nat)
  | pub (n : Nat)
  | keyId (n : Nat)
  | shared (a b : Nat)
  | kdf (secret info : Term)
  | cipher (key nonce plaintext : Term)
  | sign (n : Nat) (message : Term)
  | pair (a b : Term)
  | encode (t : Term)
  deriving DecidableEq

namespace Term

def dh (a b : Nat) : Term := if a ≤ b then shared a b else shared b a

theorem dh_cancel {a b c : Nat} (h : dh a b = dh c a) : b = c := by
  unfold dh at h
  split at h <;> split at h <;> cases h <;> omega

end Term

open Term

inductive Derives (known : Set Term) : Term → Prop where
  | known {t : Term} : t ∈ known → Derives known t
  | atom (bytes : List UInt8) : Derives known (.atom bytes)
  | nonce (n : Nat) : Derives known (.nonce n)
  | pub (n : Nat) : Derives known (.pub n)
  | keyId (n : Nat) : Derives known (.keyId n)
  | agree {a : Nat} (b : Nat) : Derives known (.secret a) → Derives known (dh a b)
  | kdf {a b : Term} : Derives known a → Derives known b → Derives known (.kdf a b)
  | encrypt {key n t : Term} : Derives known key → Derives known n → Derives known t →
      Derives known (.cipher key n t)
  | decrypt {key n t : Term} : Derives known (.cipher key n t) → Derives known key →
      Derives known t
  | sign {n : Nat} {m : Term} : Derives known (.secret n) → Derives known m →
      Derives known (.sign n m)
  | signed {n : Nat} {m : Term} : Derives known (.sign n m) → Derives known m
  | pair {a b : Term} : Derives known a → Derives known b → Derives known (.pair a b)
  | left {a b : Term} : Derives known (.pair a b) → Derives known a
  | right {a b : Term} : Derives known (.pair a b) → Derives known b
  | encode {t : Term} : Derives known t → Derives known (.encode t)
  | decode {t : Term} : Derives known (.encode t) → Derives known t

/-- The private key of the signer occurs nowhere in a term, and every signature by it is on
one of the given messages. -/
def Unforged (signer : Nat) (messages : Set Term) : Term → Prop
  | .atom _ => True
  | .nonce _ => True
  | .secret n => n ≠ signer
  | .pub _ => True
  | .keyId _ => True
  | .shared _ _ => True
  | .kdf a b => Unforged signer messages a ∧ Unforged signer messages b
  | .cipher key n t =>
    Unforged signer messages key ∧ Unforged signer messages n ∧ Unforged signer messages t
  | .sign n m => (n = signer → m ∈ messages) ∧ Unforged signer messages m
  | .pair a b => Unforged signer messages a ∧ Unforged signer messages b
  | .encode t => Unforged signer messages t

variable {signer : Nat} {messages : Set Term}

theorem unforged_dh (a b : Nat) : Unforged signer messages (dh a b) := by
  unfold dh
  split <;> trivial

theorem Unforged.mono {more : Set Term} (sub : messages ⊆ more) {t : Term}
    (h : Unforged signer messages t) : Unforged signer more t := by
  induction t with
  | atom | nonce | pub | keyId | shared => trivial
  | secret => exact h
  | kdf a b iha ihb => exact ⟨iha h.1, ihb h.2⟩
  | cipher key n t ihk ihn iht => exact ⟨ihk h.1, ihn h.2.1, iht h.2.2⟩
  | sign n m ih => exact ⟨fun own => sub (h.1 own), ih h.2⟩
  | pair a b iha ihb => exact ⟨iha h.1, ihb h.2⟩
  | encode t ih => exact ih h

/-- Nothing forged can be derived from what is not. -/
theorem Derives.unforged {known : Set Term} (h : ∀ t ∈ known, Unforged signer messages t)
    {t : Term} (derived : Derives known t) : Unforged signer messages t := by
  induction derived with
  | known member => exact h _ member
  | atom | nonce | pub | keyId => trivial
  | agree b _ _ => exact unforged_dh _ b
  | kdf _ _ iha ihb => exact ⟨iha, ihb⟩
  | encrypt _ _ _ ihk ihn iht => exact ⟨ihk, ihn, iht⟩
  | decrypt _ _ ihc _ => exact ihc.2.2
  -- The attacker signs with other keys only: this one's private key is not derivable.
  | sign _ _ ihs ihm => exact ⟨fun own => absurd own ihs, ihm⟩
  | signed _ ih => exact ih.2
  | pair _ _ iha ihb => exact ⟨iha, ihb⟩
  | left _ ih => exact ih.1
  | right _ ih => exact ih.2
  | encode _ ih => exact ih
  | decode _ ih => exact ih

end DxCommonGo.SymbolicCrypto
