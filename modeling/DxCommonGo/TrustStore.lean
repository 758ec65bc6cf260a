import DxCommonGo.ChainSearch
import DxCommonGo.DxErrors

/-! Package `trust`: anchors and revocation lists that are replaced as a whole, and the checks of a
peer. Of `x509` the search for chains is written out; signatures, host names and conditions on a
finished chain are parameters. -/

namespace DxCommonGo.TrustStore
open GoStrings GoErrors DxErrors ChainSearch

structure Certificate where
  raw : GoString
  issuer : GoString
  serialNumber : Int
  deriving DecidableEq

structure RevocationList where
  issuer : GoString
  revokedCertificateEntries : List Int
  deriving DecidableEq

inductive ExtKeyUsage where
  | any | serverAuth | clientAuth
  deriving DecidableEq, Repr

structure X509 where
  parseCertificate : GoString → Except GoError Certificate
  signedBy : Certificate → Certificate → Bool
  acceptable : Int → ExtKeyUsage → List Certificate → Bool
  matchesHost : Certificate → GoString → Bool
  failure : Certificate → GoError
  acceptable_any : ∀ now usage chain, acceptable now usage chain = true →
    acceptable now .any chain = true

abbrev CertPool := List Certificate

def addCert (pool : CertPool) (c : Certificate) : CertPool :=
  if c ∈ pool then pool else pool ++ [c]

def newCertPool (certs : List Certificate) : CertPool := certs.foldl addCert []

theorem mem_addCert {pool : CertPool} {c d : Certificate} :
    d ∈ addCert pool c ↔ d ∈ pool ∨ d = c := by
  unfold addCert
  split
  case isTrue known =>
    refine ⟨.inl, fun h => h.elim id ?_⟩
    rintro rfl
    exact known
  case isFalse => simp

theorem mem_newCertPool {certs : List Certificate} {c : Certificate} :
    c ∈ newCertPool certs ↔ c ∈ certs := by
  have added : ∀ pool, c ∈ certs.foldl addCert pool ↔ c ∈ pool ∨ c ∈ certs := by
    induction certs with
    | nil => simp
    | cons d certs ih =>
      intro pool
      simp only [List.foldl_cons, ih, mem_addCert, List.mem_cons, or_assoc]
  rw [newCertPool, added]
  simp

structure VerifyOptions where
  dnsName : GoString := []
  intermediates : CertPool
  roots : CertPool
  currentTime : Int
  keyUsage : ExtKeyUsage

/-- A root is a chain by itself, and then the only one considered. -/
def X509.candidates (x : X509) (leaf : Certificate) (opts : VerifyOptions) :
    List (List Certificate) :=
  if leaf ∈ opts.roots then [[leaf]]
  else chains x.signedBy opts.roots opts.intermediates leaf

def X509.verify (x : X509) (leaf : Certificate) (opts : VerifyOptions) :
    Except GoError (List (List Certificate)) :=
  if opts.dnsName ≠ [] ∧ x.matchesHost leaf opts.dnsName = false then .error (x.failure leaf)
  else
    let found := (x.candidates leaf opts).filter (x.acceptable opts.currentTime opts.keyUsage)
    if found = [] then .error (x.failure leaf) else .ok found

abbrev PolicyFunc := Certificate → Option GoError

structure Snapshot where
  anchors : List Certificate
  crls : List RevocationList
  pool : CertPool
  built : pool = newCertPool anchors

structure Store where
  snap : Snapshot
  policy : Option PolicyFunc

def new (policy : Option PolicyFunc) : Store := ⟨⟨[], [], newCertPool [], rfl⟩, policy⟩

def Store.replace (s : Store) (anchors : List Certificate) (crls : List RevocationList) : Store :=
  { s with snap := ⟨anchors, crls, newCertPool anchors, rfl⟩ }

def Store.clientCAs (s : Store) : CertPool := s.snap.pool

def checkRevocation (leaf : Certificate) : List RevocationList → Except GoError Unit
  | [] => .ok ()
  | crl :: crls =>
    if crl.issuer ≠ leaf.issuer then checkRevocation leaf crls
    else if leaf.serialNumber ∈ crl.revokedCertificateEntries then
      .error (errorsNew
        (str "trust: certificate " ++ itoa leaf.serialNumber ++ str " is revoked"))
    else checkRevocation leaf crls

def checkPolicy (policy : Option PolicyFunc) (leaf : Certificate) : Except GoError Unit :=
  match policy.bind fun check => check leaf with
  | some err => .error (errorf (str "trust: policy rejected peer: %w") err)
  | none => .ok ()

def Store.options (s : Store) (now : Int) (intermediates : CertPool) : VerifyOptions where
  roots := s.snap.pool
  intermediates := intermediates
  currentTime := now
  keyUsage := .any

def Store.verify (s : Store) (x : X509) (now : Int) (leaf : Certificate)
    (intermediates : CertPool) : Except GoError Unit :=
  if s.snap.anchors = [] then
    .error (errorsNew (str "trust: store is empty (no anchors synced yet)"))
  else
    match x.verify leaf (s.options now intermediates) with
    | .error err => .error (errorf (str "trust: chain verification failed: %w") err)
    | .ok _ => do
      checkRevocation leaf s.snap.crls
      checkPolicy s.policy leaf

abbrev Chain := Certificate × List Certificate

def parsed (x : X509) (raws : List GoString) : CertPool :=
  newCertPool (raws.filterMap fun raw => (x.parseCertificate raw).toOption)

def Store.verifyPeer (s : Store) (x : X509) (now : Int) (rawCerts : List GoString) :
    List Chain → Except GoError Unit
  | (leaf, _) :: _ => do
    checkRevocation leaf s.snap.crls
    checkPolicy s.policy leaf
  | [] =>
    match rawCerts with
    | [] => .error (errorsNew (str "trust: no peer certificate presented"))
    | raw :: raws =>
      match x.parseCertificate raw with
      | .error err => .error (errorf (str "trust: parse peer certificate: %w") err)
      | .ok leaf => s.verify x now leaf (parsed x raws)

def Revoked (crls : List RevocationList) (c : Certificate) : Prop :=
  ∃ crl ∈ crls, crl.issuer = c.issuer ∧ c.serialNumber ∈ crl.revokedCertificateEntries

instance (crls : List RevocationList) (c : Certificate) : Decidable (Revoked crls c) :=
  inferInstanceAs (Decidable (∃ crl ∈ crls, _))

def Store.Permits (s : Store) (leaf : Certificate) : Prop :=
  s.policy.bind (fun check => check leaf) = none

variable {leaf : Certificate}

theorem checkRevocation_ok {crls : List RevocationList} :
    checkRevocation leaf crls = .ok () ↔ ¬ Revoked crls leaf := by
  induction crls with
  | nil => simp [checkRevocation, Revoked]
  | cons crl crls ih =>
    have revoked_cons : Revoked (crl :: crls) leaf ↔
        crl.issuer = leaf.issuer ∧ leaf.serialNumber ∈ crl.revokedCertificateEntries ∨
          Revoked crls leaf := by
      simp [Revoked]
    rw [revoked_cons, checkRevocation]
    split
    case isTrue other => simp [ih, other]
    case isFalse same =>
      split
      case isTrue listed => simp [listed, not_not.mp same]
      case isFalse unlisted => simp [ih, unlisted]

theorem checkPolicy_ok {s : Store} : checkPolicy s.policy leaf = .ok () ↔ s.Permits leaf := by
  unfold checkPolicy Store.Permits
  split <;> simp_all

theorem checks_ok {s : Store} :
    (do checkRevocation leaf s.snap.crls
        checkPolicy s.policy leaf) = .ok () ↔
      ¬ Revoked s.snap.crls leaf ∧ s.Permits leaf := by
  rw [bind_eq_ok, ← checkRevocation_ok, ← checkPolicy_ok]
  exact ⟨fun ⟨(), h⟩ => h, fun h => ⟨(), h⟩⟩

structure Trusted (x : X509) (now : Int) (roots intermediates : CertPool) (leaf : Certificate)
    (chain : List Certificate) : Prop where
  reaches : leaf ∈ roots ∧ chain = [leaf] ∨
    Connects x.signedBy roots intermediates [leaf] leaf chain
  accepted : x.acceptable now .any chain = true

theorem X509.mem_candidates {x : X509} {opts : VerifyOptions} {chain : List Certificate} :
    chain ∈ x.candidates leaf opts ↔ leaf ∈ opts.roots ∧ chain = [leaf] ∨
      leaf ∉ opts.roots ∧
        Connects x.signedBy opts.roots opts.intermediates [leaf] leaf chain := by
  unfold X509.candidates
  split
  case isTrue root => simp [root]
  case isFalse other => simp [other, mem_chains]

theorem X509.verify_ok {x : X509} {opts : VerifyOptions} {found : List (List Certificate)} :
    x.verify leaf opts = .ok found ↔
      (opts.dnsName = [] ∨ x.matchesHost leaf opts.dnsName = true) ∧ found ≠ [] ∧
        found = (x.candidates leaf opts).filter (x.acceptable opts.currentTime opts.keyUsage) := by
  unfold X509.verify
  split
  case isTrue mismatch => simp [mismatch.1, mismatch.2]
  case isFalse named =>
    have named : opts.dnsName = [] ∨ x.matchesHost leaf opts.dnsName = true := by
      by_contra h
      simp_all
    dsimp only
    split
    case isTrue none =>
      refine ⟨fun h => absurd h (by simp), fun h => ?_⟩
      exact absurd (h.2.2.trans none) h.2.1
    case isFalse some =>
      refine ⟨fun h => ?_, fun h => ?_⟩
      · cases h
        exact ⟨named, some, rfl⟩
      · rw [h.2.2]

end DxCommonGo.TrustStore
