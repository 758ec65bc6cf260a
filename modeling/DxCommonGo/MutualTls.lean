import DxCommonGo.TrustChains

/-! Package `mtls` over a trust store that is replaced while configurations live on. A server's
configuration asks the provider at every handshake; a client's takes the pool once. Of `crypto/tls`
the check of the peer in a full handshake is kept. -/

namespace DxCommonGo.MutualTls
open GoStrings GoErrors DxErrors TrustStore TrustChains

abbrev VerifyHook (σ : Type) := σ → Int → List GoString → List Chain → Except GoError Unit

structure TrustProvider (σ : Type) where
  clientCAs : σ → CertPool
  verifyPeer : VerifyHook σ

inductive ClientAuthType where
  | noClientCert | requireAndVerifyClientCert
  deriving DecidableEq, Repr

/-- A pool that is absent stands for the roots of the system. -/
structure TlsConfig (σ : Type) where
  clientAuth : ClientAuthType := .noClientCert
  clientCAs : Option CertPool := none
  rootCAs : Option CertPool := none
  serverName : GoString := []
  insecureSkipVerify : Bool := false
  verifyPeerCertificate : Option (VerifyHook σ) := none

structure ServerTls (σ : Type) where
  base : TlsConfig σ
  getConfigForClient : σ → TlsConfig σ

variable {now : Int} {rawCerts : List GoString} {leaf : Certificate} {s : Store}
  {cfg : TlsConfig Store}

section Configurations

variable {σ : Type}

def required : GoError := errorsNew (str "mtls: trust provider is required")

def serverConfig : Option (TrustProvider σ) → Except GoError (ServerTls σ)
  | none => .error required
  | some tp =>
    let base : TlsConfig σ := { clientAuth := .requireAndVerifyClientCert }
    .ok ⟨base, fun s =>
      { base with
        clientCAs := some (tp.clientCAs s)
        verifyPeerCertificate := some tp.verifyPeer }⟩

def clientConfig (tp : Option (TrustProvider σ)) (s : σ) (serverName : GoString) :
    Except GoError (TlsConfig σ) :=
  match tp with
  | none => .error required
  | some tp =>
    let cfg : TlsConfig σ := { rootCAs := some (tp.clientCAs s), serverName := serverName }
    .ok <| if serverName = [] then
        { cfg with
          insecureSkipVerify := true
          verifyPeerCertificate := some tp.verifyPeer }
      else cfg

variable (x : X509) (systemRoots : CertPool)

def TlsConfig.hook (cfg : TlsConfig σ) (s : σ) (now : Int) (rawCerts : List GoString)
    (verifiedChains : List Chain) : Bool :=
  match cfg.verifyPeerCertificate with
  | none => true
  | some verify => (verify s now rawCerts verifiedChains).isOk

/-- All certificates of the peer must parse, a chain is looked for unless that is switched off, and
the hook has the last word. -/
def TlsConfig.checkPeer (cfg : TlsConfig σ) (skip : Bool) (roots : CertPool)
    (dnsName : GoString) (usage : ExtKeyUsage) (s : σ) (now : Int)
    (rawCerts : List GoString) : Bool :=
  match rawCerts.mapM x.parseCertificate with
  | .error _ => false
  | .ok [] => false
  | .ok (leaf :: rest) =>
    if skip then cfg.hook s now rawCerts []
    else
      match x.verify leaf ⟨dnsName, newCertPool rest, roots, now, usage⟩ with
      | .error _ => false
      | .ok found => cfg.hook s now rawCerts (found.map fun chain => (leaf, chain.tail))

def ServerTls.accepts (server : ServerTls σ) (s : σ) (now : Int) (rawCerts : List GoString) :
    Bool :=
  let cfg := server.getConfigForClient s
  match cfg.clientAuth with
  | .noClientCert => true
  | .requireAndVerifyClientCert =>
    cfg.checkPeer x false (cfg.clientCAs.getD systemRoots) [] .clientAuth s now rawCerts

def TlsConfig.accepts (cfg : TlsConfig σ) (s : σ) (now : Int) (rawCerts : List GoString) :
    Bool :=
  cfg.checkPeer x cfg.insecureSkipVerify (cfg.rootCAs.getD systemRoots) cfg.serverName
    .serverAuth s now rawCerts

theorem checkPeer_eq_true {cfg : TlsConfig σ} {skip : Bool} {roots : CertPool} {dnsName : GoString}
    {usage : ExtKeyUsage} {s : σ} :
    cfg.checkPeer x skip roots dnsName usage s now rawCerts = true ↔
      ∃ leaf rest, rawCerts.mapM x.parseCertificate = .ok (leaf :: rest) ∧
        ((skip = true ∧ cfg.hook s now rawCerts [] = true) ∨
          skip = false ∧ ∃ found,
            x.verify leaf ⟨dnsName, newCertPool rest, roots, now, usage⟩ = .ok found ∧
            cfg.hook s now rawCerts (found.map fun chain => (leaf, chain.tail)) = true) := by
  unfold TlsConfig.checkPeer
  cases parsed : rawCerts.mapM x.parseCertificate with
  | error err => simp
  | ok certs =>
    cases certs with
    | nil => simp
    | cons leaf rest =>
      cases skip with
      | true => simp
      | false =>
        cases found : x.verify leaf ⟨dnsName, newCertPool rest, roots, now, usage⟩ with
        | error err => simp [found]
        | ok chains => simp [found]

end Configurations

def provider (x : X509) : TrustProvider Store where
  clientCAs := Store.clientCAs
  verifyPeer s := s.verifyPeer x

inductive Endpoint where
  | server (cfg : ServerTls Store)
  | client (cfg : TlsConfig Store)

structure World where
  store : Store
  configs : List Endpoint

inductive Action where
  | replace (anchors : List Certificate) (crls : List RevocationList)
  | serverConfig
  | clientConfig (serverName : GoString)

def World.keep (w : World) : Except GoError Endpoint → World
  | .error _ => w
  | .ok e => { w with configs := e :: w.configs }

def step (x : X509) (w : World) : Action → World
  | .replace anchors crls => { w with store := w.store.replace anchors crls }
  | .serverConfig => w.keep ((serverConfig (some (provider x))).map .server)
  | .clientConfig serverName =>
    w.keep ((clientConfig (some (provider x)) w.store serverName).map .client)

def run (x : X509) (w : World) (actions : List Action) : World := actions.foldl (step x) w

def start (policy : Option PolicyFunc) : World := ⟨new policy, []⟩

def Endpoint.accepts (x : X509) (systemRoots : CertPool) (s : Store) (now : Int)
    (rawCerts : List GoString) : Endpoint → Bool
  | .server cfg => cfg.accepts x systemRoots s now rawCerts
  | .client cfg => cfg.accepts x systemRoots s now rawCerts

def Passes (x : X509) (s : Store) (now : Int) (rawCerts : List GoString) : Prop :=
  ∃ leaf rest, rawCerts.mapM x.parseCertificate = .ok (leaf :: rest) ∧
    s.verify x now leaf (newCertPool rest) = .ok ()

def Endpoint.Live : Endpoint → Prop
  | .server _ => True
  | .client cfg => cfg.serverName = []

inductive Obtained (x : X509) : Endpoint → Prop where
  | server {cfg : ServerTls Store} : serverConfig (some (provider x)) = .ok cfg →
      Obtained x (.server cfg)
  | client {s : Store} {serverName : GoString} {cfg : TlsConfig Store} :
      clientConfig (some (provider x)) s serverName = .ok cfg → Obtained x (.client cfg)

variable {x : X509} {systemRoots : CertPool}

theorem step_obtained {w : World} (h : ∀ e ∈ w.configs, Obtained x e) (a : Action) :
    ∀ e ∈ (step x w a).configs, Obtained x e := by
  cases a with
  | replace anchors crls => exact h
  | serverConfig => exact List.forall_mem_cons.mpr ⟨.server rfl, h⟩
  | clientConfig serverName => exact List.forall_mem_cons.mpr ⟨.client rfl, h⟩

theorem run_obtained {w : World} (h : ∀ e ∈ w.configs, Obtained x e) (actions : List Action) :
    ∀ e ∈ (run x w actions).configs, Obtained x e := by
  induction actions generalizing w with
  | nil => exact h
  | cons a actions ih => exact ih (step_obtained h a)

theorem found_any {intermediates : CertPool} {dnsName : GoString} {usage : ExtKeyUsage}
    {found : List (List Certificate)}
    (h : x.verify leaf ⟨dnsName, intermediates, s.snap.pool, now, usage⟩ = .ok found) :
    ∃ found, x.verify leaf (s.options now intermediates) = .ok found := by
  obtain ⟨-, some, rfl⟩ := X509.verify_ok.mp h
  obtain ⟨chain, member⟩ := List.exists_mem_of_ne_nil _ some
  obtain ⟨candidate, accepted⟩ := List.mem_filter.mp member
  have member : chain ∈ (x.candidates leaf (s.options now intermediates)).filter
      (x.acceptable now .any) :=
    List.mem_filter.mpr ⟨candidate, x.acceptable_any _ _ _ accepted⟩
  exact ⟨_, X509.verify_ok.mpr ⟨.inl rfl, List.ne_nil_of_mem member, rfl⟩⟩

theorem isOk_iff {r : Except GoError Unit} : r.isOk = true ↔ r = .ok () := by
  cases r with
  | error err => simp [Except.isOk, Except.toBool]
  | ok u => simp [Except.isOk, Except.toBool]

theorem parsed_of_mapM {raw : GoString} {raws : List GoString} {rest : List Certificate}
    (h : (raw :: raws).mapM x.parseCertificate = .ok (leaf :: rest)) :
    x.parseCertificate raw = .ok leaf ∧ parsed x raws = newCertPool rest := by
  rw [List.mapM_cons] at h
  obtain ⟨c, first, h⟩ := bind_eq_ok.mp h
  obtain ⟨cs, others, h⟩ := bind_eq_ok.mp h
  cases h
  exact ⟨first, congrArg newCertPool (filterMap_of_mapM_ok others)⟩

theorem passes_of_verifyPeer {rest : List Certificate}
    (certs : rawCerts.mapM x.parseCertificate = .ok (leaf :: rest))
    (h : s.verifyPeer x now rawCerts [] = .ok ()) : Passes x s now rawCerts := by
  cases rawCerts with
  | nil => cases certs
  | cons raw raws =>
    obtain ⟨first, others⟩ := parsed_of_mapM certs
    rw [Store.verifyPeer, first, others] at h
    exact ⟨leaf, rest, certs, h⟩

theorem server_passes {cfg : ServerTls Store} (h : serverConfig (some (provider x)) = .ok cfg)
    (accepted : cfg.accepts x systemRoots s now rawCerts = true) : Passes x s now rawCerts := by
  cases h
  obtain ⟨leaf, rest, certs, h | ⟨-, found, chained, hooked⟩⟩ :=
    (checkPeer_eq_true x).mp accepted
  · exact absurd h.1 (by decide)
  · -- The supplied chains start with the leaf that was verified.
    obtain ⟨-, some, -⟩ := X509.verify_ok.mp chained
    obtain ⟨chain, more, rfl⟩ := List.exists_cons_of_ne_nil some
    obtain ⟨unrevoked, permitted⟩ := checks_ok.mp (isOk_iff.mp hooked)
    refine ⟨leaf, rest, certs, verify_ok_iff.mpr ⟨?_, unrevoked, permitted⟩⟩
    exact chain_found_iff.mp (found_any chained)

theorem unnamed_passes {made : Store} (h : clientConfig (some (provider x)) made [] = .ok cfg)
    (accepted : cfg.accepts x systemRoots s now rawCerts = true) : Passes x s now rawCerts := by
  cases h
  obtain ⟨leaf, rest, certs, ⟨-, hooked⟩ | h⟩ := (checkPeer_eq_true x).mp accepted
  · exact passes_of_verifyPeer certs (isOk_iff.mp hooked)
  · exact absurd h.1 (by simp)

theorem named_accepts_eq {made : Store} {serverName : GoString}
    (h : clientConfig (some (provider x)) made serverName = .ok cfg) (named : serverName ≠ [])
    (s t : Store) (now : Int) (rawCerts : List GoString) :
    cfg.accepts x systemRoots s now rawCerts = cfg.accepts x systemRoots t now rawCerts := by
  simp only [clientConfig, if_neg named] at h
  cases h
  rfl

theorem serverName_eq {made : Store} {serverName : GoString}
    (h : clientConfig (some (provider x)) made serverName = .ok cfg) :
    cfg.serverName = serverName := by
  simp only [clientConfig] at h
  split at h <;> cases h <;> rfl

theorem live_passes {e : Endpoint} (obtained : Obtained x e) (live : e.Live)
    (accepted : e.accepts x systemRoots s now rawCerts = true) : Passes x s now rawCerts := by
  cases obtained with
  | server h => exact server_passes h accepted
  | client h =>
    have unnamed := (serverName_eq h).symm.trans live
    subst unnamed
    exact unnamed_passes h accepted

theorem not_passes_empty (s : Store) (now : Int) (rawCerts : List GoString) :
    ¬ Passes x (s.replace [] []) now rawCerts := by
  rintro ⟨leaf, rest, -, h⟩
  cases h

theorem run_append (w : World) (past later : List Action) :
    run x w (past ++ later) = run x (run x w past) later := List.foldl_append

/-- A configuration accepts, after whatever happens to the store, only peers that pass the
check of the store as it then is, exactly if it is a server's or a client's without a
server name, or never accepts anybody. -/
theorem current_trust_iff (x : X509) (systemRoots : CertPool) (policy : Option PolicyFunc)
    (past : List Action) (e : Endpoint) (h : e ∈ (run x (start policy) past).configs) :
    (∀ later now rawCerts,
      e.accepts x systemRoots (run x (start policy) (past ++ later)).store now rawCerts = true →
        Passes x (run x (start policy) (past ++ later)).store now rawCerts) ↔
      e.Live ∨ ∀ s now rawCerts, e.accepts x systemRoots s now rawCerts = false := by
  have obtained : Obtained x e :=
    run_obtained (w := start policy) (List.forall_mem_nil _) past e h
  constructor
  · intro claim
    cases obtained with
    | server => exact .inl trivial
    | @client s serverName cfg made =>
      by_cases named : serverName = []
      · exact .inl ((serverName_eq made).trans named)
      · refine .inr fun s now rawCerts => ?_
        by_contra accepted
        -- Withdraw all trust: the configuration accepts as before, the store nobody.
        have withdrawn := claim [.replace [] []] now rawCerts
        rw [run_append] at withdrawn
        refine not_passes_empty _ now rawCerts (withdrawn ?_)
        refine (named_accepts_eq made named _ s now rawCerts).trans ?_
        exact Bool.not_eq_false _ ▸ accepted
  · rintro (live | never) later now rawCerts accepted
    · exact live_passes obtained live accepted
    · rw [never] at accepted
      cases accepted

/-- Replace, then a server's configuration: an input of the theorem that is live. -/
theorem current_trust_server :
    ∃ e ∈ (run byName (start none) [.replace [rootCert] [], .serverConfig]).configs,
      ∀ later now rawCerts,
        e.accepts byName [] (run byName (start none)
          ([.replace [rootCert] [], .serverConfig] ++ later)).store now rawCerts = true →
        Passes byName (run byName (start none)
          ([.replace [rootCert] [], .serverConfig] ++ later)).store now rawCerts :=
  ⟨_, List.mem_cons_self,
    (current_trust_iff byName [] none _ _ List.mem_cons_self).mpr (.inl trivial)⟩

def obtainedBefore : List Action :=
  [.replace [rootCert] [], .clientConfig (str "node"), .replace [rootCert] [⟨str "mid", [3]⟩]]

/-- The handshake with the revoked peer is accepted; the store rejects its leaf. -/
theorem revoked_server_accepted :
    ∃ e ∈ (run byName (start none) obtainedBefore).configs,
      e.accepts byName [] (run byName (start none) obtainedBefore).store 0
        [leafCert.raw, midCert.raw] = true ∧
      Revoked (run byName (start none) obtainedBefore).store.snap.crls leafCert ∧
      ¬ Passes byName (run byName (start none) obtainedBefore).store 0
        [leafCert.raw, midCert.raw] := by
  refine ⟨_, List.mem_cons_self, by decide, by decide, ?_⟩
  rintro ⟨leaf', rest, certs, passed⟩
  cases certs
  exact (verify_ok_iff.mp passed).unrevoked (by decide)

end DxCommonGo.MutualTls
