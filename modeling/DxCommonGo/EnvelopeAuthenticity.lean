import DxCommonGo.Envelope
import DxCommonGo.SymbolicCrypto

/-! The envelope against an attacker, with ideal cryptography. The attacker knows every private key
but the sender's, and every token the sender made. -/

namespace DxCommonGo.EnvelopeAuthenticity
open GoStrings DxErrors Envelope SymbolicCrypto

def refused {α : Type} : Except GoError α := .error (errorsNew [])

def idealGCM (key : Term) : Aead Term where
  nonceSize := 12
  sealWith nonce plaintext := .ok (.cipher key nonce plaintext)
  openWith nonce ct :=
    match ct with
    | .cipher k n plaintext =>
      if k = key ∧ n = nonce then .ok plaintext else .error (.error (errorsNew []))
    | _ => .error (.error (errorsNew []))

/-- A structure is the tuple of its fields; a signature verifies if it is the one made with
the private key on the message. -/
def ideal : Suite Term Nat Nat where
  text := .atom
  quote _ := []
  publicKey := id
  publicECDH := .ok
  privateECDH := .ok
  ecdh a b := .ok (Term.dh a b)
  pointBytes := .pub
  newPublicKey
    | .pub n => .ok n
    | _ => refused
  hkdf secret info := .ok (.kdf secret info)
  newCipher := .ok
  cipherNewGCM key := .ok (idealGCM key)
  encode := .encode
  decode
    | .encode t => .ok t
    | _ => refused
  marshalSealed v := .ok (.pair v.enc (.pair v.epk (.pair v.iv (.pair v.ct v.rid))))
  unmarshalSealed
    | .pair enc (.pair epk (.pair iv (.pair ct rid))) => .ok ⟨enc, epk, iv, ct, rid⟩
    | _ => refused
  marshalOuter v := .ok (.pair v.alg (.pair v.sid (.pair v.payload v.sig)))
  unmarshalOuter
    | .pair alg (.pair sid (.pair payload sig)) => .ok ⟨alg, sid, payload, sig⟩
    | _ => refused
  keyID n := .ok (.keyId n)
  signES256 _ priv msg := .ok (.sign priv msg)
  verifyES256 pub msg sig := decide (sig = .sign pub msg)

structure Call where
  plaintext : Term
  recipient : Nat
  ephemeral : Nat
  nonce : Nat

def Call.rand (call : Call) : Rand Term Nat where
  ephemeral := .ok call.ephemeral
  nonce _ := .ok (.nonce call.nonce)
  coins := .atom []

def Call.run (sender : Nat) (call : Call) : Except Failure Term :=
  sealToken ideal call.rand call.plaintext (some call.recipient) (some sender)

def Knowledge (sender : Nat) (calls : List Call) : Set Term :=
  { t | (∃ n, n ≠ sender ∧ t = .secret n) ∨ ∃ call ∈ calls, call.run sender = .ok t }

/-- The sender's key is used for `Seal` alone. The calls, newest first, are on plaintexts that could
be had when they were made: neither the key nor a new signature by it is ever handed to `Seal`. -/
inductive Honest (sender : Nat) : List Call → Prop where
  | nil : Honest sender []
  | cons {call : Call} {calls : List Call} :
      Derives (Knowledge sender calls) call.plaintext → Honest sender calls →
        Honest sender (call :: calls)

variable {sender : Nat}

section Tokens

def Call.key (call : Call) : Term :=
  .kdf (Term.dh call.ephemeral call.recipient) (.atom kdfInfo)

def Call.inner (call : Call) : Sealed Term where
  enc := .atom encAlg
  epk := .encode (.pub call.ephemeral)
  iv := .encode (.nonce call.nonce)
  ct := .encode (.cipher call.key (.nonce call.nonce) call.plaintext)
  rid := .keyId call.recipient

def Call.payload (call : Call) : Term :=
  .encode (.pair call.inner.enc (.pair call.inner.epk (.pair call.inner.iv
    (.pair call.inner.ct call.inner.rid))))

def Call.token (sender : Nat) (call : Call) : Term :=
  .encode (.pair (.atom algSign) (.pair (.keyId sender) (.pair call.payload
    (.encode (.sign sender call.payload)))))

theorem Call.run_eq (sender : Nat) (call : Call) : call.run sender = .ok (call.token sender) := rfl

def Payloads (calls : List Call) : Set Term := { m | ∃ call ∈ calls, m = call.payload }

theorem unforged_payload {messages : Set Term} {call : Call}
    (h : Unforged sender messages call.plaintext) : Unforged sender messages call.payload :=
  ⟨trivial, trivial, trivial, ⟨⟨unforged_dh _ _, trivial⟩, trivial, h⟩, trivial⟩

theorem unforged_token {messages : Set Term} {call : Call}
    (h : Unforged sender messages call.plaintext) (signed : call.payload ∈ messages) :
    Unforged sender messages (call.token sender) :=
  ⟨trivial, trivial, unforged_payload h, fun _ => signed, unforged_payload h⟩

theorem knowledge_unforged {calls : List Call} (honest : Honest sender calls) :
    ∀ t ∈ Knowledge sender calls, Unforged sender (Payloads calls) t := by
  induction honest with
  | nil =>
    rintro t (⟨n, other, rfl⟩ | ⟨call, member, -⟩)
    · exact other
    · cases member
  | @cons call calls derived _ ih =>
    have grows : Payloads calls ⊆ Payloads (call :: calls) := by
      rintro m ⟨earlier, member, rfl⟩
      exact ⟨earlier, List.mem_cons_of_mem call member, rfl⟩
    have plaintext := (derived.unforged ih).mono grows
    rintro t (⟨n, other, rfl⟩ | ⟨made, member, token⟩)
    · exact other
    · rcases List.mem_cons.mp member with rfl | member
      · rw [Call.run_eq] at token
        cases token
        exact unforged_token plaintext ⟨made, List.mem_cons_self, rfl⟩
      · exact (ih t (.inr ⟨made, member, token⟩)).mono grows

end Tokens

section Opening

theorem decode_eq {t u : Term} (h : ideal.decode t = .ok u) : t = .encode u := by
  cases t with
  | encode => cases h; rfl
  | _ => cases h

variable {env : Outer Term}

theorem unmarshalOuter_eq {t : Term} (h : ideal.unmarshalOuter t = .ok env) :
    t = .pair env.alg (.pair env.sid (.pair env.payload env.sig)) := by
  simp only [ideal] at h
  split at h
  · cases h
    rfl
  · cases h

theorem payload_signed {recipient : Nat} {calls : List Call} {token : Term} {inner : Sealed Term}
    {gcm : Aead Term} {nonce ct : Term} (unforged : Unforged sender (Payloads calls) token)
    (h : Decrypts ideal token recipient sender env inner gcm nonce ct) :
    ∃ call ∈ calls, env.payload = call.payload := by
  obtain ⟨envJSON, decoded, outer⟩ := h.outer
  obtain ⟨sig, sigDecoded, verified⟩ := h.signed
  have verified : sig = .sign sender env.payload := of_decide_eq_true verified
  subst verified
  rw [decode_eq decoded, unmarshalOuter_eq outer, decode_eq sigDecoded] at unforged
  exact unforged.2.2.2.1 rfl

theorem opened_call {call : Call} {recipient : Nat} {token : Term} {inner : Sealed Term}
    {gcm : Aead Term} {nonce ct p : Term}
    (h : Decrypts ideal token recipient sender env inner gcm nonce ct)
    (payload : env.payload = call.payload) (opened : gcm.openWith nonce ct = .ok p) :
    call.plaintext = p ∧ call.recipient = recipient := by
  obtain ⟨innerJSON, decoded, unmarshalled⟩ := h.payload
  rw [payload] at decoded
  cases decoded
  cases unmarshalled
  obtain ⟨epkBytes, epk, epkDecoded, parsed, agreed⟩ := h.agreed
  cases epkDecoded
  cases parsed
  obtain ⟨usable, shared, key, block, usableEq, sharedEq, keyEq, blockEq, gcmEq⟩ := agreed
  cases usableEq
  cases sharedEq
  cases keyEq
  cases blockEq
  cases gcmEq
  cases h.iv
  cases h.cipher
  simp only [idealGCM] at opened
  split at opened
  case isTrue same =>
    cases opened
    have agreement : Term.dh call.ephemeral call.recipient = Term.dh recipient call.ephemeral :=
      (Term.kdf.inj same.1).1
    exact ⟨rfl, Term.dh_cancel agreement⟩
  case isFalse => cases opened

/-- A token that the attacker can build opens, as the sender's, only to a plaintext that the
sender sealed for this recipient. -/
theorem open_authentic (sender recipient : Nat) (calls : List Call)
    (honest : Honest sender calls) (token plaintext : Term)
    (built : Derives (Knowledge sender calls) token)
    (opened : openToken ideal token (some recipient) (some sender) = .ok plaintext) :
    ∃ call ∈ calls, call.plaintext = plaintext ∧ call.recipient = recipient := by
  obtain ⟨env, inner, gcm, nonce, ct, decrypts, cipher⟩ := openToken_ok opened
  have unforged := built.unforged (knowledge_unforged honest)
  obtain ⟨call, member, payload⟩ := payload_signed unforged decrypts
  exact ⟨call, member, opened_call decrypts payload cipher⟩

def greeting : Call := ⟨.atom (str "hello"), 2, 3, 4⟩

theorem open_authentic_greeting :
    ∃ token, Honest 1 [greeting] ∧ Derives (Knowledge 1 [greeting]) token ∧
      openToken ideal token (some 2) (some 1) = .ok (.atom (str "hello")) ∧
      ∃ call ∈ [greeting], call.plaintext = .atom (str "hello") ∧ call.recipient = 2 :=
  have honest : Honest 1 [greeting] := .cons (.atom _) .nil
  have built : Derives (Knowledge 1 [greeting]) (greeting.token 1) :=
    .known (.inr ⟨greeting, List.mem_cons_self, rfl⟩)
  have opened : openToken ideal (greeting.token 1) (some 2) (some 1) =
      .ok (.atom (str "hello")) := rfl
  ⟨greeting.token 1, honest, built, opened,
    open_authentic 1 2 [greeting] honest (greeting.token 1) _ built opened⟩

end Opening

end DxCommonGo.EnvelopeAuthenticity
