import DxCommonGo.DxErrors

/-! Package `envelope`: a payload encrypted to a recipient and signed by a sender. Both functions
are written over a suite of operations, with a reading on bytes and a symbolic one. -/

namespace DxCommonGo.Envelope
open GoStrings DxErrors

inductive Failure where
  | error (err : GoError)
  | panic

def wrap {α : Type} (format : String) (x : Except GoError α) : Except Failure α :=
  x.mapError fun err => .error (errorf (str format) err)

def wrapCall {α : Type} (format : String) (x : Except Failure α) : Except Failure α :=
  x.mapError fun
    | .error err => .error (errorf (str format) err)
    | .panic => .panic

def fail {α : Type} (text : GoString) : Except Failure α := .error (.error (errorsNew text))

def algSign : GoString := str "ES256"
def encAlg : GoString := str "A256GCM"
def kdfInfo : GoString := str "dx-envelope/v1 A256GCM"

structure Sealed (T : Type) where
  enc : T
  epk : T
  iv : T
  ct : T
  rid : T

structure Outer (T : Type) where
  alg : T
  sid : T
  payload : T
  sig : T

structure Aead (T : Type) where
  nonceSize : Nat
  sealWith : T → T → Except Failure T
  openWith : T → T → Except Failure T

/-- The operations the package calls, on strings of type `T`. -/
structure Suite (T Pub Priv : Type) where
  text : GoString → T
  quote : T → GoString
  publicKey : Priv → Pub
  publicECDH : Pub → Except GoError Pub
  privateECDH : Priv → Except GoError Priv
  ecdh : Priv → Pub → Except GoError T
  pointBytes : Pub → T
  newPublicKey : T → Except GoError Pub
  hkdf : T → T → Except GoError T
  newCipher : T → Except GoError T
  cipherNewGCM : T → Except GoError (Aead T)
  encode : T → T
  decode : T → Except GoError T
  marshalSealed : Sealed T → Except GoError T
  unmarshalSealed : T → Except GoError (Sealed T)
  marshalOuter : Outer T → Except GoError T
  unmarshalOuter : T → Except GoError (Outer T)
  keyID : Pub → Except Failure T
  signES256 : T → Priv → T → Except Failure T
  verifyES256 : Pub → T → T → Bool

structure Rand (T Priv : Type) where
  ephemeral : Except GoError Priv
  nonce : Nat → Except GoError T
  coins : T

variable {T Pub Priv : Type}

def deriveKey (c : Suite T Pub Priv) (shared : T) : Except Failure T :=
  wrap "envelope: hkdf: %w" (c.hkdf shared (c.text kdfInfo))

def newGCM (c : Suite T Pub Priv) (key : T) : Except Failure (Aead T) := do
  let block ← wrap "envelope: aes: %w" (c.newCipher key)
  wrap "envelope: gcm: %w" (c.cipherNewGCM block)

def sealToken (c : Suite T Pub Priv) (rand : Rand T Priv) (plaintext : T) :
    Option Pub → Option Priv → Except Failure T
  | some recipientPub, some signerPriv => do
    let recipientECDH ←
      wrap "envelope: recipient key not ECDH-usable: %w" (c.publicECDH recipientPub)
    let ephemeral ← wrap "envelope: generate ephemeral key: %w" rand.ephemeral
    let ephemeralECDH ←
      wrap "envelope: ephemeral key not ECDH-usable: %w" (c.privateECDH ephemeral)
    let shared ← wrap "envelope: ECDH: %w" (c.ecdh ephemeralECDH recipientECDH)
    let key ← deriveKey c shared
    let gcm ← newGCM c key
    let nonce ← wrap "envelope: nonce: %w" (rand.nonce gcm.nonceSize)
    let ct ← gcm.sealWith nonce plaintext
    let rid ← c.keyID recipientPub
    let inner : Sealed T :=
      { enc := c.text encAlg
        epk := c.encode (c.pointBytes (c.publicKey ephemeralECDH))
        iv := c.encode nonce
        ct := c.encode ct
        rid := rid }
    let innerJSON ← wrap "envelope: marshal inner: %w" (c.marshalSealed inner)
    let payload := c.encode innerJSON
    let sig ← c.signES256 rand.coins signerPriv payload
    let sid ← c.keyID (c.publicKey signerPriv)
    let env : Outer T :=
      { alg := c.text algSign
        sid := sid
        payload := payload
        sig := c.encode sig }
    let envJSON ← wrap "envelope: marshal outer: %w" (c.marshalOuter env)
    return c.encode envJSON
  | _, _ => fail (str "envelope: recipient public key and signer private key are required")

def openToken [DecidableEq T] (c : Suite T Pub Priv) (token : T) :
    Option Priv → Option Pub → Except Failure T
  | some recipientPriv, some signerPub => do
    let envJSON ← wrap "envelope: decode token: %w" (c.decode token)
    let env ← wrap "envelope: unmarshal outer: %w" (c.unmarshalOuter envJSON)
    if env.alg ≠ c.text algSign then
      fail (str "envelope: unsupported signature alg " ++ c.quote env.alg)
    else
      let sig ← wrap "envelope: decode sig: %w" (c.decode env.sig)
      if c.verifyES256 signerPub env.payload sig = false then
        fail (str "envelope: signature verification failed")
      else
        let innerJSON ← wrap "envelope: decode payload: %w" (c.decode env.payload)
        let inner ← wrap "envelope: unmarshal inner: %w" (c.unmarshalSealed innerJSON)
        if inner.enc ≠ c.text encAlg then
          fail (str "envelope: unsupported content alg " ++ c.quote inner.enc)
        else
          let recipientECDH ←
            wrap "envelope: recipient key not ECDH-usable: %w" (c.privateECDH recipientPriv)
          let epkBytes ← wrap "envelope: decode epk: %w" (c.decode inner.epk)
          let epk ← wrap "envelope: parse epk: %w" (c.newPublicKey epkBytes)
          let shared ← wrap "envelope: ECDH: %w" (c.ecdh recipientECDH epk)
          let key ← deriveKey c shared
          let gcm ← newGCM c key
          let nonce ← wrap "envelope: decode iv: %w" (c.decode inner.iv)
          let ct ← wrap "envelope: decode ct: %w" (c.decode inner.ct)
          wrapCall "envelope: decrypt: %w" (gcm.openWith nonce ct)
  | _, _ => fail (str "envelope: recipient private key and signer public key are required")

def Agrees (c : Suite T Pub Priv) (priv : Priv) (pub : Pub) (gcm : Aead T) : Prop :=
  ∃ usable shared key block, c.privateECDH priv = .ok usable ∧ c.ecdh usable pub = .ok shared ∧
    c.hkdf shared (c.text kdfInfo) = .ok key ∧ c.newCipher key = .ok block ∧
      c.cipherNewGCM block = .ok gcm

structure Decrypts (c : Suite T Pub Priv) (token : T) (recipient : Priv) (signer : Pub)
    (env : Outer T) (inner : Sealed T) (gcm : Aead T) (nonce ct : T) : Prop where
  outer : ∃ envJSON, c.decode token = .ok envJSON ∧ c.unmarshalOuter envJSON = .ok env
  alg : env.alg = c.text algSign
  signed : ∃ sig, c.decode env.sig = .ok sig ∧ c.verifyES256 signer env.payload sig = true
  payload : ∃ innerJSON, c.decode env.payload = .ok innerJSON ∧
    c.unmarshalSealed innerJSON = .ok inner
  enc : inner.enc = c.text encAlg
  agreed : ∃ epkBytes epk, c.decode inner.epk = .ok epkBytes ∧
    c.newPublicKey epkBytes = .ok epk ∧ Agrees c recipient epk gcm
  iv : c.decode inner.iv = .ok nonce
  cipher : c.decode inner.ct = .ok ct

@[simp] theorem wrap_ok {α : Type} (format : String) (a : α) :
    wrap format (.ok a) = .ok a := rfl

variable {format : String}

theorem wrapCall_eq_ok {α : Type} {x : Except Failure α} {a : α} :
    wrapCall format x = .ok a ↔ x = .ok a := by
  cases x with
  | error failure => simp [wrapCall, Except.mapError]
  | ok b => simp [wrapCall, Except.mapError]

theorem wrapCall_eq_panic {α : Type} {x : Except Failure α} :
    wrapCall format x = .error .panic ↔ x = .error .panic := by
  cases x with
  | error failure => cases failure <;> simp [wrapCall, Except.mapError]
  | ok b => simp [wrapCall, Except.mapError]

@[simp] theorem ok_bind {ε α β : Type} (a : α) (f : α → Except ε β) :
    (Except.ok a >>= f) = f a := rfl

/-- A call comes to a point where `P` holds, unless it returned an error before. -/
def Comes {α : Type} (x : Except Failure α) (P : Prop) : Prop :=
  P ∨ ∃ err, x = .error (.error err)

theorem comes_bind {α β : Type} {x : Except GoError α} {f : α → Except Failure β} {P : Prop}
    (h : ∀ a, x = .ok a → Comes (f a) P) : Comes (wrap format x >>= f) P := by
  cases x with
  | error err => exact .inr ⟨_, rfl⟩
  | ok a => exact h a rfl

theorem comes_unless {α : Type} {condition : Prop} [Decidable condition] {text : GoString}
    {x : Except Failure α} {P : Prop} (h : ¬ condition → Comes x P) :
    Comes (if condition then fail text else x) P := by
  split
  case isTrue => exact .inr ⟨_, rfl⟩
  case isFalse passed => exact h passed

variable [DecidableEq T]

theorem openToken_comes (c : Suite T Pub Priv) (token : T) (recipient : Priv) (signer : Pub) :
    Comes (openToken c token (some recipient) (some signer))
    (∃ env inner gcm nonce ct, Decrypts c token recipient signer env inner gcm nonce ct) := by
  refine comes_bind fun envJSON decoded => comes_bind fun env outer => ?_
  refine comes_unless fun alg => comes_bind fun sig sigDecoded => ?_
  refine comes_unless fun verified => comes_bind fun innerJSON payload => ?_
  refine comes_bind fun inner unmarshalled => comes_unless fun enc => ?_
  refine comes_bind fun usable usableEq => comes_bind fun epkBytes epkDecoded => ?_
  refine comes_bind fun epk parsed => comes_bind fun shared sharedEq => ?_
  refine comes_bind fun key keyEq => ?_
  rw [newGCM, bind_assoc]
  refine comes_bind fun block blockEq => comes_bind fun gcm gcmEq => ?_
  refine comes_bind fun nonce iv => comes_bind fun ct cipher => ?_
  exact .inl ⟨env, inner, gcm, nonce, ct,
    { outer := ⟨envJSON, decoded, outer⟩
      alg := not_not.mp alg
      signed := ⟨sig, sigDecoded, Bool.not_eq_false _ ▸ verified⟩
      payload := ⟨innerJSON, payload, unmarshalled⟩
      enc := not_not.mp enc
      agreed := ⟨epkBytes, epk, epkDecoded, parsed, usable, shared, key, block, usableEq,
        sharedEq, keyEq, blockEq, gcmEq⟩
      iv := iv
      cipher := cipher }⟩

variable {c : Suite T Pub Priv} {token : T} {recipient : Priv} {signer : Pub}

theorem Decrypts.openToken_eq {env : Outer T} {inner : Sealed T} {gcm : Aead T} {nonce ct : T}
    (h : Decrypts c token recipient signer env inner gcm nonce ct) :
    openToken c token (some recipient) (some signer) =
      wrapCall "envelope: decrypt: %w" (gcm.openWith nonce ct) := by
  obtain ⟨envJSON, decoded, outer⟩ := h.outer
  obtain ⟨sig, sigDecoded, verified⟩ := h.signed
  obtain ⟨innerJSON, payload, unmarshalled⟩ := h.payload
  obtain ⟨epkBytes, epk, epkDecoded, parsed, agreed⟩ := h.agreed
  obtain ⟨usable, shared, key, block, usableEq, sharedEq, keyEq, blockEq, gcmEq⟩ := agreed
  simp only [openToken, deriveKey, newGCM, decoded, outer, h.alg, sigDecoded, verified, payload,
    unmarshalled, h.enc, usableEq, epkDecoded, parsed, sharedEq, keyEq, blockEq, gcmEq, h.iv,
    h.cipher, wrap_ok, ok_bind, ne_eq, not_true_eq_false, if_false, Bool.true_eq_false]

theorem openToken_ok {plaintext : T}
    (h : openToken c token (some recipient) (some signer) = .ok plaintext) :
    ∃ env inner gcm nonce ct, Decrypts c token recipient signer env inner gcm nonce ct ∧
      gcm.openWith nonce ct = .ok plaintext := by
  rcases openToken_comes c token recipient signer with
    ⟨env, inner, gcm, nonce, ct, decrypts⟩ | ⟨err, failed⟩
  · rw [decrypts.openToken_eq] at h
    exact ⟨env, inner, gcm, nonce, ct, decrypts, wrapCall_eq_ok.mp h⟩
  · rw [failed] at h
    cases h

theorem openToken_panic_iff : openToken c token (some recipient) (some signer) = .error .panic ↔
    ∃ env inner gcm nonce ct, Decrypts c token recipient signer env inner gcm nonce ct ∧
      gcm.openWith nonce ct = .error .panic := by
  constructor
  · intro h
    rcases openToken_comes c token recipient signer with
      ⟨env, inner, gcm, nonce, ct, decrypts⟩ | ⟨err, failed⟩
    · rw [decrypts.openToken_eq] at h
      exact ⟨env, inner, gcm, nonce, ct, decrypts, wrapCall_eq_panic.mp h⟩
    · rw [failed] at h
      cases h
  · rintro ⟨env, inner, gcm, nonce, ct, decrypts, panicked⟩
    rw [decrypts.openToken_eq]
    exact wrapCall_eq_panic.mpr panicked

end DxCommonGo.Envelope
