import DxCommonGo.Envelope
import Mathlib.Data.Nat.Digits.Lemmas

/-! The envelope on bytes. The fixed-width signature and the key identifier are the package's code;
the rest are primitives, and `Sound` is what is assumed of them. -/

namespace DxCommonGo.EnvelopeBytes
open GoStrings DxErrors Envelope

def fillBytes (width n : Nat) : Except Failure GoString :=
  if n < 256 ^ width then .ok ((Nat.digitsAppend 256 width n).reverse.map UInt8.ofNat)
  else .error .panic

def setBytes (bytes : GoString) : Nat := Nat.ofDigits 256 (bytes.reverse.map UInt8.toNat)

theorem setBytes_digits (width n : Nat) :
    setBytes ((Nat.digitsAppend 256 width n).reverse.map UInt8.ofNat) = n := by
  have byte : ∀ d ∈ Nat.digitsAppend 256 width n, (UInt8.ofNat d).toNat = d := by
    intro d hd
    exact UInt8.toNat_ofNat_of_lt (Nat.lt_of_mem_digitsAppend (by decide) width d hd)
  have back : ((Nat.digitsAppend 256 width n).map UInt8.ofNat).map UInt8.toNat =
      Nat.digitsAppend 256 width n := by
    rw [List.map_map]
    exact (List.map_congr_left byte).trans (List.map_id _)
  rw [setBytes, ← List.map_reverse, List.reverse_reverse, back, Nat.digitsAppend,
    Nat.ofDigits_append_replicate_zero, Nat.ofDigits_digits]

theorem fillBytes_spec {width n : Nat} (h : n < 256 ^ width) :
    ∃ bytes, fillBytes width n = .ok bytes ∧ bytes.length = width ∧ setBytes bytes = n := by
  refine ⟨_, if_pos h, ?_, setBytes_digits width n⟩
  rw [List.length_map, List.length_reverse]
  exact Nat.length_digitsAppend (by decide) width h

structure Primitives where
  PrivateKey : Type
  PublicKey : Type
  publicKey : PrivateKey → PublicKey
  coordinates : PublicKey → Nat × Nat
  publicECDH : PublicKey → Except GoError PublicKey
  privateECDH : PrivateKey → Except GoError PrivateKey
  ecdh : PrivateKey → PublicKey → Except GoError GoString
  pointBytes : PublicKey → GoString
  newPublicKey : GoString → Except GoError PublicKey
  ecdsaSign : GoString → PrivateKey → GoString → Except GoError (Nat × Nat)
  ecdsaVerify : PublicKey → GoString → Nat → Nat → Bool
  sha256 : GoString → GoString
  hkdfRead : GoString → GoString → Nat → Except GoError GoString
  newCipher : GoString → Except GoError GoString
  cipherNewGCM : GoString → Except GoError Unit
  gcmSeal : GoString → GoString → GoString → GoString
  gcmOpen : GoString → GoString → GoString → Except GoError GoString
  base64Encode : GoString → GoString
  base64Decode : GoString → Except GoError GoString
  marshalSealed : Sealed GoString → Except GoError GoString
  unmarshalSealed : GoString → Except GoError (Sealed GoString)
  marshalOuter : Outer GoString → Except GoError GoString
  unmarshalOuter : GoString → Except GoError (Outer GoString)
  quote : GoString → GoString

namespace Primitives

def nonceSize : Nat := 12

variable (p : Primitives)

/-- Both directions of the cipher panic on a nonce of another length. -/
def gcm (block : GoString) : Aead GoString where
  nonceSize := nonceSize
  sealWith nonce plaintext :=
    if nonce.length = nonceSize then .ok (p.gcmSeal block nonce plaintext) else .error .panic
  openWith nonce ct :=
    if nonce.length = nonceSize then (p.gcmOpen block nonce ct).mapError .error
    else .error .panic

def keyID (pub : p.PublicKey) : Except Failure GoString := do
  let x ← fillBytes 32 (p.coordinates pub).1
  let y ← fillBytes 32 (p.coordinates pub).2
  return p.base64Encode ((p.sha256 (x ++ y)).take 16)

def signES256 (coins : GoString) (priv : p.PrivateKey) (msg : GoString) :
    Except Failure GoString := do
  let rs ← wrap "envelope: sign: %w" (p.ecdsaSign coins priv (p.sha256 msg))
  let r ← fillBytes 32 rs.1
  let s ← fillBytes 32 rs.2
  return r ++ s

def verifyES256 (pub : p.PublicKey) (msg sig : GoString) : Bool :=
  if sig.length ≠ 64 then false
  else p.ecdsaVerify pub (p.sha256 msg) (setBytes (sig.take 32)) (setBytes (sig.drop 32))

def suite : Suite GoString p.PublicKey p.PrivateKey where
  text := id
  quote := p.quote
  publicKey := p.publicKey
  publicECDH := p.publicECDH
  privateECDH := p.privateECDH
  ecdh := p.ecdh
  pointBytes := p.pointBytes
  newPublicKey := p.newPublicKey
  hkdf secret info := p.hkdfRead secret info 32
  newCipher := p.newCipher
  cipherNewGCM block := (p.cipherNewGCM block).map fun _ => p.gcm block
  encode := p.base64Encode
  decode := p.base64Decode
  marshalSealed := p.marshalSealed
  unmarshalSealed := p.unmarshalSealed
  marshalOuter := p.marshalOuter
  unmarshalOuter := p.unmarshalOuter
  keyID := p.keyID
  signES256 := p.signES256
  verifyES256 := p.verifyES256

def Ascii (s : GoString) : Prop := ∀ b ∈ s, b < 128

structure Sound : Prop where
  publicECDH : ∀ k, p.publicECDH k = .ok k
  privateECDH : ∀ k, p.privateECDH k = .ok k
  ecdh_comm : ∀ a b, ∃ shared, p.ecdh a (p.publicKey b) = .ok shared ∧
    p.ecdh b (p.publicKey a) = .ok shared
  point : ∀ q, p.newPublicKey (p.pointBytes q) = .ok q
  coordinates : ∀ q, (p.coordinates q).1 < 256 ^ 32 ∧ (p.coordinates q).2 < 256 ^ 32
  sign : ∀ coins k digest, ∃ r s, p.ecdsaSign coins k digest = .ok (r, s) ∧ r < 256 ^ 32 ∧
    s < 256 ^ 32 ∧ p.ecdsaVerify (p.publicKey k) digest r s = true
  hkdf : ∀ secret info n, ∃ key, p.hkdfRead secret info n = .ok key ∧ key.length = n
  aes : ∀ key, key.length = 32 → p.newCipher key = .ok key ∧ p.cipherNewGCM key = .ok ()
  gcm : ∀ key nonce plaintext, key.length = 32 → nonce.length = nonceSize →
    p.gcmOpen key nonce (p.gcmSeal key nonce plaintext) = .ok plaintext
  base64 : ∀ bytes, p.base64Decode (p.base64Encode bytes) = .ok bytes
  base64_ascii : ∀ bytes, Ascii (p.base64Encode bytes)
  json_sealed : ∀ v : Sealed GoString, Ascii v.enc → Ascii v.epk → Ascii v.iv → Ascii v.ct →
    Ascii v.rid → ∃ j, p.marshalSealed v = .ok j ∧ p.unmarshalSealed j = .ok v
  json_outer : ∀ v : Outer GoString, Ascii v.alg → Ascii v.sid → Ascii v.payload →
    Ascii v.sig → ∃ j, p.marshalOuter v = .ok j ∧ p.unmarshalOuter j = .ok v

variable {p}

theorem keyID_ok (sound : p.Sound) (pub : p.PublicKey) :
    ∃ id, p.keyID pub = .ok id ∧ Ascii id := by
  obtain ⟨x, hx, -⟩ := fillBytes_spec (sound.coordinates pub).1
  obtain ⟨y, hy, -⟩ := fillBytes_spec (sound.coordinates pub).2
  refine ⟨p.base64Encode ((p.sha256 (x ++ y)).take 16), ?_, sound.base64_ascii _⟩
  rw [keyID, hx, hy]
  rfl

theorem signES256_ok (sound : p.Sound) (coins : GoString) (priv : p.PrivateKey)
    (msg : GoString) :
    ∃ sig, p.signES256 coins priv msg = .ok sig ∧
      p.verifyES256 (p.publicKey priv) msg sig = true := by
  obtain ⟨r, s, signed, hr, hs, verified⟩ := sound.sign coins priv (p.sha256 msg)
  obtain ⟨a, ha, aLength, aValue⟩ := fillBytes_spec hr
  obtain ⟨b, hb, bLength, bValue⟩ := fillBytes_spec hs
  refine ⟨a ++ b, ?_, ?_⟩
  · simp only [signES256, signed, wrap_ok, ok_bind, ha, hb]
    rfl
  · have length : (a ++ b).length = 64 := by
      rw [List.length_append, aLength, bLength]
    rw [verifyES256, if_neg (not_not.mpr length), List.take_left' aLength,
      List.drop_left' aLength, aValue, bValue]
    exact verified

theorem agrees_both (sound : p.Sound) (a b : p.PrivateKey) :
    ∃ key, key.length = 32 ∧ Agrees p.suite a (p.publicKey b) (p.gcm key) ∧
      Agrees p.suite b (p.publicKey a) (p.gcm key) := by
  obtain ⟨shared, left, right⟩ := sound.ecdh_comm a b
  obtain ⟨key, derived, length⟩ := sound.hkdf shared kdfInfo 32
  obtain ⟨block, mode⟩ := sound.aes key length
  have newGCM : p.suite.cipherNewGCM key = .ok (p.gcm key) := by
    simp only [suite, mode]
    rfl
  exact ⟨key, length, ⟨a, shared, key, key, sound.privateECDH a, left, derived, block, newGCM⟩,
    ⟨b, shared, key, key, sound.privateECDH b, right, derived, block, newGCM⟩⟩

end Primitives

section Sample

def fields (bytes : GoString) : List GoString := split bytes 255

def malformed {α : Type} : Except GoError α := .error (errorsNew (str "malformed"))

def sample : Primitives where
  PrivateKey := Nat
  PublicKey := Nat
  publicKey := id
  coordinates q := (q % 256 ^ 32, 0)
  publicECDH := .ok
  privateECDH := .ok
  ecdh a b := .ok (itoaNat (a * b))
  pointBytes := itoaNat
  newPublicKey bytes := (decimal bytes).elim malformed .ok
  ecdsaSign _ k _ := .ok (k % 256 ^ 32, 1)
  ecdsaVerify q _ r s := r == q % 256 ^ 32 && s == 1
  sha256 := id
  hkdfRead secret _ n := .ok ((secret ++ List.replicate n 0).take n)
  newCipher key := if key.length = 32 then .ok key else malformed
  cipherNewGCM _ := .ok ()
  gcmSeal _ _ plaintext := plaintext
  gcmOpen _ _ ct := .ok ct
  base64Encode := hexEncode
  base64Decode bytes := (hexDecode bytes).elim malformed .ok
  marshalSealed v := .ok (join [255] [v.enc, v.epk, v.iv, v.ct, v.rid])
  unmarshalSealed bytes :=
    match fields bytes with
    | [enc, epk, iv, ct, rid] => .ok ⟨enc, epk, iv, ct, rid⟩
    | _ => malformed
  marshalOuter v := .ok (join [255] [v.alg, v.sid, v.payload, v.sig])
  unmarshalOuter bytes :=
    match fields bytes with
    | [alg, sid, payload, sig] => .ok ⟨alg, sid, payload, sig⟩
    | _ => malformed
  quote := id

theorem hexEncode_ascii (bytes : GoString) : Primitives.Ascii (hexEncode bytes) := by
  have digit : ∀ n < 16, hexDigit n < 128 := by decide
  intro b hb
  obtain ⟨a, -, hb⟩ := List.mem_flatMap.mp hb
  have small := a.toNat_lt
  have high : a.toNat / 16 < 16 := by omega
  have low : a.toNat % 16 < 16 := by omega
  rcases List.mem_pair.mp hb with rfl | rfl
  · exact digit _ high
  · exact digit _ low

theorem fields_join {texts : List GoString} (some : texts ≠ [])
    (h : ∀ s ∈ texts, Primitives.Ascii s) : fields (join [255] texts) = texts := by
  refine split_join some fun s hs separator => ?_
  exact absurd (h s hs 255 separator) (by decide)

theorem sample_sound : sample.Sound where
  publicECDH _ := rfl
  privateECDH _ := rfl
  ecdh_comm := fun (a b : Nat) =>
    ⟨itoaNat (a * b), rfl, congrArg (fun n => Except.ok (itoaNat n)) (Nat.mul_comm b a)⟩
  point := fun (q : Nat) =>
    congrArg (fun n => Option.elim n malformed Except.ok) (decimal_itoaNat q)
  coordinates := fun (q : Nat) => by
    have positive : 0 < 256 ^ 32 := by decide
    exact ⟨Nat.mod_lt q positive, positive⟩
  sign := fun _ (k : Nat) _ => by
    refine ⟨k % 256 ^ 32, 1, rfl, Nat.mod_lt k (by decide), by decide, ?_⟩
    change (k % 256 ^ 32 == k % 256 ^ 32 && (1 : Nat) == 1) = true
    simp
  hkdf secret info n := ⟨(secret ++ List.replicate n 0).take n, rfl, by simp⟩
  aes key length := ⟨if_pos length, rfl⟩
  gcm _ _ _ _ _ := rfl
  base64 bytes := by
    simp only [sample, hexDecode_hexEncode]
    rfl
  base64_ascii := hexEncode_ascii
  json_sealed v enc epk iv ct rid := by
    refine ⟨_, rfl, ?_⟩
    have parts : fields (join [255] [v.enc, v.epk, v.iv, v.ct, v.rid]) =
        [v.enc, v.epk, v.iv, v.ct, v.rid] :=
      fields_join (List.cons_ne_nil _ _) (by simp [enc, epk, iv, ct, rid])
    simp only [sample, parts]
  json_outer v alg sid payload sig := by
    refine ⟨_, rfl, ?_⟩
    have parts : fields (join [255] [v.alg, v.sid, v.payload, v.sig]) =
        [v.alg, v.sid, v.payload, v.sig] :=
      fields_join (List.cons_ne_nil _ _) (by simp [alg, sid, payload, sig])
    simp only [sample, parts]

end Sample

end DxCommonGo.EnvelopeBytes
