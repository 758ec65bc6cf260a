import DxCommonGo.EnvelopeBytes

/-! Sealing and opening on bytes. What is sealed opens to the plaintext; a token with a right
signature and a nonce of a wrong length makes `Open` panic. -/

namespace DxCommonGo.EnvelopeRoundTrip
open GoStrings GoErrors Envelope EnvelopeBytes Primitives

variable {p : Primitives}

structure Delivers {T Priv : Type} (length : T → Nat) (rand : Rand T Priv) : Prop where
  ephemeral : ∃ e, rand.ephemeral = .ok e
  nonce : ∀ n, ∃ bytes, rand.nonce n = .ok bytes ∧ length bytes = n

def innerOf (p : Primitives) (ephemeral : p.PrivateKey) (nonce ct rid : GoString) :
    Sealed GoString where
  enc := encAlg
  epk := p.base64Encode (p.pointBytes (p.publicKey ephemeral))
  iv := p.base64Encode nonce
  ct := p.base64Encode ct
  rid := rid

def outerOf (p : Primitives) (sid innerJSON sig : GoString) : Outer GoString where
  alg := algSign
  sid := sid
  payload := p.base64Encode innerJSON
  sig := p.base64Encode sig

theorem ascii_of_all {s : GoString} (h : s.all (· < 128) = true) : Ascii s := by
  intro b hb
  exact of_decide_eq_true (List.all_eq_true.mp h b hb)

theorem ascii_algSign : Ascii algSign := ascii_of_all (by decide)

theorem ascii_encAlg : Ascii encAlg := ascii_of_all (by decide)

theorem exists_signed (sound : p.Sound) (signer : p.PrivateKey)
    {recipient ephemeral : p.PrivateKey}
    {gcm : Aead GoString} (agreed : Agrees p.suite recipient (p.publicKey ephemeral) gcm)
    (coins nonce ct : GoString) {rid sid : GoString} (ridAscii : Ascii rid)
    (sidAscii : Ascii sid) :
    ∃ innerJSON sig envJSON, p.marshalSealed (innerOf p ephemeral nonce ct rid) = .ok innerJSON ∧
      p.signES256 coins signer (p.base64Encode innerJSON) = .ok sig ∧
      p.marshalOuter (outerOf p sid innerJSON sig) = .ok envJSON ∧
      Decrypts p.suite (p.base64Encode envJSON) recipient (p.publicKey signer)
        (outerOf p sid innerJSON sig) (innerOf p ephemeral nonce ct rid) gcm nonce ct := by
  have encoded := sound.base64_ascii
  obtain ⟨innerJSON, marshalled, unmarshalled⟩ :=
    sound.json_sealed (innerOf p ephemeral nonce ct rid) ascii_encAlg (encoded _) (encoded _)
      (encoded _) ridAscii
  obtain ⟨sig, signed, verified⟩ := signES256_ok sound coins signer (p.base64Encode innerJSON)
  obtain ⟨envJSON, outer, outerBack⟩ :=
    sound.json_outer (outerOf p sid innerJSON sig) ascii_algSign sidAscii (encoded _) (encoded _)
  refine ⟨innerJSON, sig, envJSON, marshalled, signed, outer, ?_⟩
  exact
    { outer := ⟨envJSON, sound.base64 envJSON, outerBack⟩
      alg := rfl
      signed := ⟨sig, sound.base64 sig, verified⟩
      payload := ⟨innerJSON, sound.base64 innerJSON, unmarshalled⟩
      enc := rfl
      agreed := ⟨_, p.publicKey ephemeral, sound.base64 _, sound.point _, agreed⟩
      iv := sound.base64 nonce
      cipher := sound.base64 ct }

theorem openWith_panic_iff {block nonce ct : GoString} :
    (p.gcm block).openWith nonce ct = .error .panic ↔ nonce.length ≠ nonceSize := by
  simp only [Primitives.gcm]
  split
  case isTrue fits =>
    have ordinary : (p.gcmOpen block nonce ct).mapError Failure.error ≠ .error .panic := by
      cases p.gcmOpen block nonce ct with
      | error err => simp [Except.mapError]
      | ok plaintext => simp [Except.mapError]
    simp [ordinary, fits]
  case isFalse misfit => simp [misfit]

theorem gcm_of_agrees {priv : p.PrivateKey} {pub : p.PublicKey} {gcm : Aead GoString}
    (h : Agrees p.suite priv pub gcm) : ∃ block, gcm = p.gcm block := by
  obtain ⟨usable, shared, key, block, -, -, -, -, gcmEq⟩ := h
  obtain ⟨-, -, rfl⟩ := map_eq_ok.mp gcmEq
  exact ⟨block, rfl⟩

/-- `Open` panics for a token exactly if the token comes to its decryption with a nonce of
another length than the cipher's. -/
theorem open_no_panic_iff (p : Primitives) (token : GoString) (recipient : p.PrivateKey)
    (signer : p.PublicKey) :
    openToken p.suite token (some recipient) (some signer) ≠ .error .panic ↔
      ∀ env inner gcm nonce ct,
        Decrypts p.suite token recipient signer env inner gcm nonce ct →
          nonce.length = nonceSize := by
  rw [Ne, openToken_panic_iff]
  constructor
  · intro quiet env inner gcm nonce ct decrypts
    by_contra misfit
    obtain ⟨epkBytes, epk, -, -, agreed⟩ := decrypts.agreed
    obtain ⟨block, rfl⟩ := gcm_of_agrees agreed
    exact quiet ⟨env, inner, _, nonce, ct, decrypts, openWith_panic_iff.mpr misfit⟩
  · rintro fits ⟨env, inner, gcm, nonce, ct, decrypts, panicked⟩
    obtain ⟨epkBytes, epk, -, -, agreed⟩ := decrypts.agreed
    obtain ⟨block, rfl⟩ := gcm_of_agrees agreed
    exact openWith_panic_iff.mp panicked (fits env inner _ nonce ct decrypts)

/-- Whatever the primitives: a sender who signs a payload with an empty nonce makes the
recipient panic. -/
theorem exists_panic (sound : p.Sound) (sender recipient : p.PrivateKey) :
    ∃ token, openToken p.suite token (some recipient) (some (p.publicKey sender)) =
      .error .panic := by
  obtain ⟨key, -, -, agreed⟩ := agrees_both sound sender recipient
  obtain ⟨id, -, ascii⟩ := keyID_ok sound (p.publicKey sender)
  obtain ⟨innerJSON, sig, envJSON, -, -, -, decrypts⟩ :=
    exists_signed sound sender agreed [] [] [] ascii ascii
  refine ⟨p.base64Encode envJSON, openToken_panic_iff.mpr ?_⟩
  exact ⟨_, _, _, [], [], decrypts, openWith_panic_iff.mpr (by decide)⟩

theorem empty_nonce_panics :
    sample.Sound ∧ ∃ token,
      openToken sample.suite token (some (3 : Nat)) (some (2 : Nat)) = .error .panic :=
  ⟨sample_sound, exists_panic sample_sound (2 : Nat) (3 : Nat)⟩

end DxCommonGo.EnvelopeRoundTrip
