import DxCommonGo.TrustStore

/-! What an accepted peer's chain looks like. Revocation is checked for the leaf alone. -/

namespace DxCommonGo.TrustChains
open GoStrings GoErrors DxErrors ChainSearch TrustStore

/-- Some trusted chain for the leaf has no revoked certificate in the given part. -/
def Clean (part : List Certificate → List Certificate) (x : X509) (s : Store) (now : Int)
    (leaf : Certificate) (intermediates : CertPool) : Prop :=
  ∃ chain, Trusted x now s.snap.pool intermediates leaf chain ∧
    ∀ c ∈ part chain, ¬ Revoked s.snap.crls c

def belowAnchor (chain : List Certificate) : List Certificate := chain.dropLast

def between (chain : List Certificate) : List Certificate := chain.dropLast.tail

/-- What the store looks at: a chain, the leaf's revocation and the policy. -/
structure Admits (x : X509) (s : Store) (now : Int) (leaf : Certificate)
    (intermediates : CertPool) : Prop where
  chained : ∃ chain, Trusted x now s.snap.pool intermediates leaf chain ∧
    (leaf ∈ s.snap.pool → chain = [leaf])
  unrevoked : ¬ Revoked s.snap.crls leaf
  permitted : s.Permits leaf

def presented (x : X509) (rawCerts : List GoString) :
    List Chain → Option (Certificate × CertPool)
  | (leaf, rest) :: more => some (leaf, newCertPool (rest ++ more.flatMap Prod.snd))
  | [] =>
    match rawCerts with
    | [] => none
    | raw :: raws => (x.parseCertificate raw).toOption.map fun leaf => (leaf, parsed x raws)

/-- Chains that the caller supplies are taken as they are. -/
def AdmitsPeer (x : X509) (s : Store) (now : Int) (supplied : List Chain) (leaf : Certificate)
    (intermediates : CertPool) : Prop :=
  if supplied = [] then Admits x s now leaf intermediates
  else ¬ Revoked s.snap.crls leaf ∧ s.Permits leaf

variable {chain : List Certificate} {intermediates : CertPool} {leaf : Certificate} {now : Int}
  {s : Store} {x : X509}

theorem anchors_ne_nil (h : Trusted x now s.snap.pool intermediates leaf chain) :
    s.snap.anchors ≠ [] := by
  have root : ∃ g, g ∈ s.snap.pool := by
    rcases h.reaches with ⟨root, -⟩ | path
    · exact ⟨leaf, root⟩
    · obtain ⟨mids, g, -, root, -⟩ := path.middle
      exact ⟨g, root⟩
  obtain ⟨g, root⟩ := root
  rw [s.snap.built, mem_newCertPool] at root
  exact List.ne_nil_of_mem root

theorem chain_found_iff :
    (∃ found, x.verify leaf (s.options now intermediates) = .ok found) ↔
      ∃ chain, Trusted x now s.snap.pool intermediates leaf chain ∧
        (leaf ∈ s.snap.pool → chain = [leaf]) := by
  constructor
  · rintro ⟨found, h⟩
    obtain ⟨-, some, rfl⟩ := X509.verify_ok.mp h
    obtain ⟨chain, member⟩ := List.exists_mem_of_ne_nil _ some
    obtain ⟨candidate, accepted⟩ := List.mem_filter.mp member
    rcases X509.mem_candidates.mp candidate with ⟨root, rfl⟩ | ⟨other, path⟩
    · exact ⟨[leaf], ⟨.inl ⟨root, rfl⟩, accepted⟩, fun _ => rfl⟩
    · exact ⟨chain, ⟨.inr path, accepted⟩, fun root => absurd root other⟩
  · rintro ⟨chain, trusted, alone⟩
    have candidate : chain ∈ x.candidates leaf (s.options now intermediates) := by
      by_cases root : leaf ∈ s.snap.pool
      · exact X509.mem_candidates.mpr (.inl ⟨root, alone root⟩)
      · refine X509.mem_candidates.mpr (.inr ⟨root, ?_⟩)
        exact trusted.reaches.resolve_left fun h => root h.1
    have member := List.mem_filter.mpr ⟨candidate, trusted.accepted⟩
    exact ⟨_, X509.verify_ok.mpr ⟨.inl rfl, List.ne_nil_of_mem member, rfl⟩⟩

theorem verify_ok_iff :
    s.verify x now leaf intermediates = .ok () ↔ Admits x s now leaf intermediates := by
  have checked : s.verify x now leaf intermediates = .ok () ↔ s.snap.anchors ≠ [] ∧
      (∃ found, x.verify leaf (s.options now intermediates) = .ok found) ∧
        ¬ Revoked s.snap.crls leaf ∧ s.Permits leaf := by
    unfold Store.verify
    split
    case isTrue empty => simp [empty]
    case isFalse filled =>
      cases found : x.verify leaf (s.options now intermediates) with
      | error err => simp
      | ok found => simpa [filled] using checks_ok
  rw [checked, chain_found_iff]
  constructor
  · rintro ⟨-, chained, unrevoked, permitted⟩
    exact ⟨chained, unrevoked, permitted⟩
  · rintro ⟨⟨chain, trusted, alone⟩, unrevoked, permitted⟩
    exact ⟨anchors_ne_nil trusted, ⟨chain, trusted, alone⟩, unrevoked, permitted⟩

theorem verifyPeer_ok_iff {rawCerts : List GoString} {supplied : List Chain} :
    s.verifyPeer x now rawCerts supplied = .ok () ↔
      ∃ leaf intermediates, presented x rawCerts supplied = some (leaf, intermediates) ∧
        AdmitsPeer x s now supplied leaf intermediates := by
  cases supplied with
  | cons chain more => simpa [Store.verifyPeer, presented, AdmitsPeer] using checks_ok
  | nil =>
    cases rawCerts with
    | nil => simp [Store.verifyPeer, presented]
    | cons raw raws =>
      cases found : x.parseCertificate raw with
      | error err => simp [Store.verifyPeer, presented, found, Except.toOption]
      | ok leaf =>
        simp [Store.verifyPeer, presented, found, Except.toOption, AdmitsPeer, verify_ok_iff]

theorem belowAnchor_subset {roots : CertPool} (h : Trusted x now roots intermediates leaf chain) :
    ∀ c ∈ belowAnchor chain, c = leaf ∨ c ∈ between chain := by
  rcases h.reaches with ⟨-, rfl⟩ | path
  · simp [belowAnchor]
  · obtain ⟨mids, g, rfl, -⟩ := path.middle
    have below : (leaf :: (mids ++ [g])).dropLast = leaf :: mids := by
      rw [← List.cons_append, List.dropLast_concat]
    simp [belowAnchor, between, below]

theorem clean_belowAnchor_iff (unrevoked : ¬ Revoked s.snap.crls leaf) :
    Clean belowAnchor x s now leaf intermediates ↔ Clean between x s now leaf intermediates := by
  constructor
  · rintro ⟨chain, trusted, clean⟩
    exact ⟨chain, trusted, fun c hc => clean c (List.mem_of_mem_tail hc)⟩
  · rintro ⟨chain, trusted, clean⟩
    refine ⟨chain, trusted, fun c hc => ?_⟩
    rcases belowAnchor_subset trusted c hc with rfl | hc
    · exact unrevoked
    · exact clean c hc

theorem AdmitsPeer.unrevoked {supplied : List Chain}
    (h : AdmitsPeer x s now supplied leaf intermediates) : ¬ Revoked s.snap.crls leaf := by
  unfold AdmitsPeer at h
  split at h
  case isTrue => exact h.unrevoked
  case isFalse => exact h.1

/-- An accepted peer has a trusted chain without a revoked certificate below the anchor
exactly if, among the peers the store admits, it has one without a revoked certificate
between leaf and anchor: nothing in the store looks there. -/
theorem accepts_clean_iff (x : X509) (s : Store) (now : Int) :
    (∀ leaf intermediates,
      (s.verify x now leaf intermediates = .ok () →
        Clean belowAnchor x s now leaf intermediates) ↔
      (Admits x s now leaf intermediates → Clean between x s now leaf intermediates)) ∧
    ∀ rawCerts supplied,
      (s.verifyPeer x now rawCerts supplied = .ok () →
        ∃ leaf intermediates, presented x rawCerts supplied = some (leaf, intermediates) ∧
          Clean belowAnchor x s now leaf intermediates) ↔
      ∀ leaf intermediates, presented x rawCerts supplied = some (leaf, intermediates) →
        AdmitsPeer x s now supplied leaf intermediates →
          Clean between x s now leaf intermediates := by
  constructor
  · intro leaf intermediates
    rw [verify_ok_iff]
    exact forall_congr' fun admitted => clean_belowAnchor_iff admitted.unrevoked
  · intro rawCerts supplied
    rw [verifyPeer_ok_iff]
    constructor
    · intro claim leaf intermediates peer admitted
      obtain ⟨leaf', intermediates', peer', clean⟩ := claim ⟨leaf, intermediates, peer, admitted⟩
      cases peer.symm.trans peer'
      exact (clean_belowAnchor_iff admitted.unrevoked).mp clean
    · rintro condition ⟨leaf, intermediates, peer, admitted⟩
      refine ⟨leaf, intermediates, peer, ?_⟩
      exact (clean_belowAnchor_iff admitted.unrevoked).mpr
        (condition leaf intermediates peer admitted)

section RevokedIntermediate

def named (raw : GoString) : Except GoError Certificate :=
  if raw = str "leaf" then .ok ⟨str "leaf", str "mid", 3⟩
  else if raw = str "mid" then .ok ⟨str "mid", str "root", 2⟩
  else .error (errorsNew (str "x509: malformed certificate"))

def byName : X509 where
  parseCertificate := named
  signedBy child parent := child.issuer == parent.raw
  acceptable _ _ _ := true
  matchesHost _ _ := true
  failure _ := errorsNew (str "x509: certificate signed by unknown authority")
  acceptable_any _ _ _ h := h

def rootCert : Certificate := ⟨str "root", str "root", 1⟩
def midCert : Certificate := ⟨str "mid", str "root", 2⟩
def leafCert : Certificate := ⟨str "leaf", str "mid", 3⟩

def revoking : Store := (new none).replace [rootCert] [⟨str "root", [2]⟩]

theorem only_chain (h : Trusted byName 0 revoking.snap.pool [midCert] leafCert chain) :
    chain = [leafCert, midCert, rootCert] := by
  have notRoot : leafCert ∉ revoking.snap.pool := by decide
  have path := h.reaches.resolve_left fun h => notRoot h.1
  have search : chains byName.signedBy revoking.snap.pool [midCert] leafCert =
      [[leafCert, midCert, rootCert]] := by
    decide
  have member := mem_chains.mpr path
  rw [search] at member
  exact List.mem_singleton.mp member

/-- A leaf issued by a revoked intermediate is accepted, by both entry points. -/
theorem revoked_issuer_accepted :
    revoking.verify byName 0 leafCert [midCert] = .ok () ∧
      revoking.verifyPeer byName 0 [leafCert.raw, midCert.raw] [] = .ok () ∧
      revoking.verifyPeer byName 0 [leafCert.raw, midCert.raw]
        [(leafCert, [midCert, rootCert])] = .ok () ∧
      Revoked revoking.snap.crls midCert ∧
      ¬ Clean belowAnchor byName revoking 0 leafCert [midCert] := by
  refine ⟨rfl, rfl, rfl, by decide, ?_⟩
  rintro ⟨chain, trusted, clean⟩
  cases only_chain trusted
  exact clean midCert (by decide) (by decide)

end RevokedIntermediate

end DxCommonGo.TrustChains
