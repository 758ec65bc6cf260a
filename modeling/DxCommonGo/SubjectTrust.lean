import DxCommonGo.SubjectHeaders

/-! What the signature of the subject headers is worth. The separators of the canonical string are
refused in its fields, so it determines them: verification gives back what was signed, and nothing
else. -/

namespace DxCommonGo.SubjectTrust
open GoStrings SubjectHeaders

variable {mac : Hmac}

def SameRoles (roles roles' : List GoString) : Prop :=
  ∀ role, role ≠ [] → (role ∈ roles ↔ role ∈ roles')

theorem not_mem_itoa (n : Int) : (124 : UInt8) ∉ itoa n := by
  have digits : ∀ m, (124 : UInt8) ∉ itoaNat m := by
    intro m hm
    have digit := List.all_eq_true.mp (itoaNat_digits m) 124 hm
    cases digit
  cases n with
  | ofNat n => exact digits n
  | negSucc n =>
    intro h
    rcases List.mem_cons.mp h with same | h
    · cases same
    · exact digits (n + 1) h

variable {roles : List GoString}

theorem not_mem_of_noSeparator (h : rolesContainSeparator roles = false) :
    ∀ r ∈ roles, (124 : UInt8) ∉ r ∧ (44 : UInt8) ∉ r := by
  intro r hr
  simp only [rolesContainSeparator, List.any_eq_false] at h
  have clean := h r hr
  rw [Bool.not_eq_true, List.any_eq_false] at clean
  constructor
  · intro bar
    exact clean 124 bar rfl
  · intro comma
    exact clean 44 comma rfl

theorem not_mem_join {sep b : UInt8} (ne : b ≠ sep) {ss : List GoString}
    (h : ∀ s ∈ ss, b ∉ s) : b ∉ join [sep] ss := by
  induction ss with
  | nil => exact List.not_mem_nil
  | cons s rest ih =>
    have first := h s List.mem_cons_self
    have others := ih fun t ht => h t (List.mem_cons_of_mem s ht)
    cases rest with
    | nil => exact first
    | cons t rest =>
      rw [join_cons_cons]
      simp only [List.mem_append, List.mem_singleton, not_or]
      exact ⟨⟨first, ne⟩, others⟩

theorem not_mem_joinRoles (h : rolesContainSeparator roles = false) :
    (124 : UInt8) ∉ joinRoles roles := by
  unfold joinRoles
  split_ifs
  · exact List.not_mem_nil
  · refine not_mem_join (by decide) fun r hr => ?_
    exact (not_mem_of_noSeparator h r ((mem_sortStrings roles r).mp hr)).1

theorem eq_nil_of_join {sep : GoString} {ss : List GoString} (h : join sep ss = []) :
    ∀ s ∈ ss, s = [] := by
  induction ss with
  | nil => exact fun s hs => absurd hs List.not_mem_nil
  | cons s rest ih =>
    cases rest with
    | nil =>
      intro t ht
      rw [List.mem_singleton.mp ht]
      exact h
    | cons t rest =>
      rw [join_cons_cons, List.append_eq_nil_iff, List.append_eq_nil_iff] at h
      intro u hu
      rcases List.mem_cons.mp hu with rfl | hu
      · exact h.1.1
      · exact ih h.2 u hu

theorem eq_nil_of_joinRoles (h : joinRoles roles = []) : ∀ r ∈ roles, r = [] := by
  unfold joinRoles at h
  split_ifs at h with none
  · intro r hr
    rw [List.length_eq_zero_iff.mp none] at hr
    cases hr
  · exact fun r hr => eq_nil_of_join h r ((mem_sortStrings roles r).mpr hr)

theorem splitRoles_joinRoles (h : rolesContainSeparator roles = false) :
    splitRoles (joinRoles roles) = if joinRoles roles = [] then [] else sortStrings roles := by
  unfold splitRoles
  split_ifs with empty
  · rfl
  · unfold joinRoles at empty ⊢
    split_ifs at empty ⊢ with none
    · exact absurd rfl empty
    · refine split_join ?_ fun r hr => ?_
      · have length : (sortStrings roles).length = roles.length :=
          (List.perm_insertionSort _ roles).length_eq
        rw [← List.length_pos_iff]
        omega
      · exact (not_mem_of_noSeparator h r ((mem_sortStrings roles r).mp hr)).2

theorem sameRoles_splitRoles (h : rolesContainSeparator roles = false) :
    SameRoles (splitRoles (joinRoles roles)) roles := by
  intro role nonempty
  rw [splitRoles_joinRoles h]
  split_ifs with empty
  · have absent : role ∉ roles := fun hr => nonempty (eq_nil_of_joinRoles empty role hr)
    simp [absent]
  · exact mem_sortStrings roles role

theorem splitRoles_sorted (h : rolesContainSeparator roles = false) :
    (splitRoles (joinRoles roles)).Pairwise (· ≤ ·) := by
  rw [splitRoles_joinRoles h]
  split_ifs
  · exact List.Pairwise.nil
  · exact List.pairwise_insertionSort _ roles

theorem canonicalString_injective {user : DxUser}
    (fields : containsSeparator [user.id, user.email, user.organisationID] = false)
    (roles : rolesContainSeparator user.roles = false) {id email joined org : GoString}
    {issuedAt issuedAt' : Int}
    (same : canonicalString id email joined org issuedAt' =
      canonicalString user.id user.email (joinRoles user.roles) user.organisationID issuedAt) :
    id = user.id ∧ email = user.email ∧ joined = joinRoles user.roles ∧
      org = user.organisationID ∧ itoa issuedAt' = itoa issuedAt := by
  have clean : ∀ f ∈ [user.id, user.email, joinRoles user.roles, user.organisationID,
      itoa issuedAt], (124 : UInt8) ∉ f := by
    simp only [containsSeparator, List.any_cons, List.any_nil, Bool.or_false,
      Bool.or_eq_false_iff, List.contains_eq_mem, decide_eq_false_iff_not] at fields
    simp only [List.forall_mem_cons, List.not_mem_nil, false_implies, implies_true, and_true]
    exact ⟨fields.1, fields.2.1, not_mem_joinRoles roles, fields.2.2, not_mem_itoa issuedAt⟩
  have lists : [id, email, joined, org, itoa issuedAt'] = [user.id, user.email,
      joinRoles user.roles, user.organisationID, itoa issuedAt] := join_injective rfl clean same
  simpa only [List.cons.injEq, and_true] using lists

section Minted

theorem get_setIf {h : Header} {name : GoString} (absent : h.get name = []) (value : GoString) :
    (if value ≠ [] then h.set name value else h).get name = value := by
  split_ifs with nonempty
  · exact get_set_self h name value
  · rw [absent]
    exact (not_not.mp nonempty).symm

theorem get_setIf_of_ne {h : Header} {name name' : GoString} (ne : name ≠ name')
    (value : GoString) : (if value ≠ [] then h.set name' value else h).get name = h.get name := by
  split_ifs
  · exact get_set_of_ne h ne value
  · rfl

variable (mac) (user : DxUser) (secret : Bytes) (now : Int)

theorem get_mint :
    (mint mac user secret now).get hdrSubjectID = user.id ∧
    (mint mac user secret now).get hdrSubjectEmail = user.email ∧
    (mint mac user secret now).get hdrSubjectRoles = joinRoles user.roles ∧
    (mint mac user secret now).get hdrSubjectOrgID = user.organisationID ∧
    (mint mac user secret now).get hdrSubjectIssuedAt = itoa now := by
  unfold mint
  dsimp only
  refine ⟨?_, ?_, ?_, ?_, ?_⟩
  · rw [get_set_of_ne _ (by decide), get_set_of_ne _ (by decide), get_setIf_of_ne (by decide),
      get_setIf_of_ne (by decide), get_setIf_of_ne (by decide), get_set_self]
  · rw [get_set_of_ne _ (by decide), get_set_of_ne _ (by decide), get_setIf_of_ne (by decide),
      get_setIf_of_ne (by decide)]
    refine get_setIf ?_ user.email
    rw [get_set_of_ne _ (by decide)]
    rfl
  · rw [get_set_of_ne _ (by decide), get_set_of_ne _ (by decide), get_setIf_of_ne (by decide)]
    refine get_setIf ?_ (joinRoles user.roles)
    rw [get_setIf_of_ne (by decide), get_set_of_ne _ (by decide)]
    rfl
  · rw [get_set_of_ne _ (by decide), get_set_of_ne _ (by decide)]
    refine get_setIf ?_ user.organisationID
    rw [get_setIf_of_ne (by decide), get_setIf_of_ne (by decide), get_set_of_ne _ (by decide)]
    rfl
  · rw [get_set_of_ne _ (by decide), get_set_self]

theorem get_mint_sig :
    (mint mac user secret now).get hdrSubjectSig =
      hmacHex mac secret (canonicalString user.id user.email (joinRoles user.roles)
        user.organisationID now) := get_set_self _ _ _

end Minted

theorem hmacHex_ne_nil (key : Bytes) (data : GoString) : hmacHex mac key data ≠ [] := by
  intro empty
  have size := mac.size key data
  have decoded := hexDecode_hexEncode (mac.sum key data)
  rw [show hexEncode (mac.sum key data) = [] from empty] at decoded
  rw [← Option.some.inj decoded] at size
  cases size

theorem verifyAgainst_hmacHex {key : Bytes} (nonempty : key.length ≠ 0) (data : GoString) :
    verifyAgainst mac key data (hmacHex mac key data) = true := by
  simp [verifyAgainst, hmacHex, nonempty, hexDecode_hexEncode]

theorem sec_lt (t : UnixTime) : t.sec < 2 ^ 63 := by
  have upper := t.upper
  unfold unixToInternal at upper
  omega

theorem timeUnix_sec (t : UnixTime) : timeUnix t.sec = t.sec := by
  have lower := t.lower
  have upper := t.upper
  unfold timeUnix unixToInternal at *
  rw [Int.bmod_eq_of_le (by omega) (by omega)]
  omega

theorem window_lt (cfg : Config) : cfg.window < 2 ^ 63 := by
  unfold Config.window
  split_ifs
  · decide
  · exact cfg.maxAge.toInt_lt

theorem timeSince_sec {now : Int} {t : UnixTime} (lower : -10 * 10 ^ 9 ≤ now - 10 ^ 9 * t.sec)
    (upper : now - 10 ^ 9 * t.sec < 2 ^ 63) : timeSince now t.sec = now - 10 ^ 9 * t.sec := by
  unfold timeSince
  rw [timeUnix_sec]
  omega

theorem verify_signed {user : DxUser} {cfg : Config} {now : UnixTime} {h : Header}
    (signed : sign mac user cfg now = .ok h) {verifier : Config}
    (shared : cfg.secret ∈ verifier.secrets) {clock : Int}
    (notEarly : -10 * 10 ^ 9 ≤ clock - 10 ^ 9 * now.sec)
    (notLate : clock - 10 ^ 9 * now.sec ≤ verifier.window) :
    verify mac h verifier clock =
      .ok (makeUser user.id user.email (joinRoles user.roles) user.organisationID) := by
  obtain ⟨nonempty, notBlank, -, -, rfl⟩ := sign_eq_ok signed
  obtain ⟨hid, hemail, hroles, horg, hissued⟩ := get_mint mac user cfg.secret now.sec
  have age := timeSince_sec notEarly (notLate.trans_lt (window_lt verifier))
  have upper : now.sec < 2 ^ 63 := sec_lt now
  have inWindow : ¬(timeSince clock now.sec < -10 * 10 ^ 9 ∨
      timeSince clock now.sec > verifier.window) := by
    rw [age]
    omega
  have tagged : (verifier.secrets.any fun key => verifyAgainst mac key
      (canonicalString user.id user.email (joinRoles user.roles) user.organisationID now.sec)
      (hmacHex mac cfg.secret (canonicalString user.id user.email (joinRoles user.roles)
        user.organisationID now.sec))) = true :=
    List.any_eq_true.mpr ⟨cfg.secret, shared, verifyAgainst_hmacHex nonempty _⟩
  unfold verify
  rw [get_mint_sig, hissued, hid, hemail, hroles, horg, atoi_itoa now.lower upper]
  dsimp only
  rw [if_neg (hmacHex_ne_nil _ _), if_neg inWindow, if_neg notBlank]
  exact if_pos tagged

/-- A verifier that knows the secret reads back the user that was signed: the
fields are the same, and so is the set of role names, which come in sorted order. -/
theorem verify_sign {user : DxUser} {cfg : Config} {now : UnixTime} {h : Header}
    (signed : sign mac user cfg now = .ok h) {verifier : Config}
    (shared : cfg.secret ∈ verifier.secrets) {clock : Int}
    (notEarly : -10 * 10 ^ 9 ≤ clock - 10 ^ 9 * now.sec)
    (notLate : clock - 10 ^ 9 * now.sec ≤ verifier.window) :
    ∃ user', verify mac h verifier clock = .ok user' ∧ user'.id = user.id ∧
      user'.email = user.email ∧ user'.organisationID = user.organisationID ∧
      SameRoles user'.roles user.roles ∧ user'.roles.Pairwise (· ≤ ·) := by
  have accepted := verify_signed signed shared notEarly notLate
  obtain ⟨-, -, -, separated, -⟩ := sign_eq_ok signed
  exact ⟨_, accepted, rfl, rfl, rfl, sameRoles_splitRoles separated, splitRoles_sorted separated⟩

def clerk : DxUser where
  id := str "u-1"
  email := str "u@x.io"
  roles := [str "provider", str "consumer", [], str "provider"]
  organisationID := str "org-1"

def markHmac (message : GoString) : Hmac where
  sum _ data := List.replicate 32 (if data = message then 1 else 0)
  size _ _ := List.length_replicate

theorem verify_sign_rotated :
    ∃ user', verify (markHmac []) (mint (markHmac []) clerk (str "old") 1700000000)
        ⟨str "new", [str "old"], 0⟩ (1700000030 * 10 ^ 9) = .ok user' ∧ user'.id = clerk.id ∧
      user'.email = clerk.email ∧ user'.organisationID = clerk.organisationID ∧
      SameRoles user'.roles clerk.roles ∧ user'.roles.Pairwise (· ≤ ·) := by
  have signed : sign (markHmac []) clerk ⟨str "old", [], 0⟩ ⟨1700000000, by decide, by decide⟩ =
      .ok (mint (markHmac []) clerk (str "old") 1700000000) := rfl
  exact verify_sign signed (by decide) (by decide) (by decide)

structure Bundle (mac : Hmac) where
  user : DxUser
  cfg : Config
  now : UnixTime
  header : Header
  signed : sign mac user cfg now = .ok header

def Bundle.canonical (b : Bundle mac) : GoString :=
  canonicalString b.user.id b.user.email (joinRoles b.user.roles) b.user.organisationID b.now.sec

/-- The tag verifies under the secret only for what some call of `Sign` tagged
with it. -/
def Unforged (bundles : Set (Bundle mac)) (key : Bytes) (sig : GoString) : Prop :=
  ∀ canonical, verifyAgainst mac key canonical sig = true →
    ∃ b ∈ bundles, b.cfg.secret = key ∧ b.canonical = canonical

def Resolves (user : DxUser) (issued : GoString) (b : Bundle mac) : Prop :=
  user.id = b.user.id ∧ user.email = b.user.email ∧
    user.organisationID = b.user.organisationID ∧ SameRoles user.roles b.user.roles ∧
    atoi issued = some b.now.sec

/-- Whatever headers are presented, with whatever tag that was not forged,
`Verify` accepts only the fields of one call of `Sign` under one of its secrets. -/
theorem verify_only_signed {bundles : Set (Bundle mac)} {h : Header} {cfg : Config} {now : Int}
    (ideal : ∀ key ∈ cfg.secrets, Unforged bundles key (h.get hdrSubjectSig)) {user : DxUser}
    (accepted : verify mac h cfg now = .ok user) :
    ∃ b ∈ bundles, b.cfg.secret ∈ cfg.secrets ∧
      Resolves user (h.get hdrSubjectIssuedAt) b := by
  obtain ⟨issuedAt, key, parsed, hkey, valid, rfl⟩ := verify_eq_ok accepted
  obtain ⟨b, hb, secret, same⟩ := ideal key hkey _ valid
  obtain ⟨-, -, fields, roles, -⟩ := sign_eq_ok b.signed
  obtain ⟨hid, hemail, hroles, horg, hissued⟩ := canonicalString_injective fields roles same.symm
  refine ⟨b, hb, secret ▸ hkey, hid, hemail, horg, ?_, ?_⟩
  · rw [hroles]
    exact sameRoles_splitRoles roles
  · obtain ⟨lower, upper⟩ := atoi_range parsed
    have readBack := atoi_itoa b.now.lower (sec_lt b.now)
    rw [← hissued, atoi_itoa lower upper] at readBack
    rw [parsed, readBack]

def clerkCanonical : GoString :=
  canonicalString clerk.id clerk.email (joinRoles clerk.roles) clerk.organisationID 1700000000

def clerkBundle : Bundle (markHmac clerkCanonical) where
  user := clerk
  cfg := ⟨str "k", [], 0⟩
  now := ⟨1700000000, by decide, by decide⟩
  header := mint _ clerk (str "k") 1700000000
  signed := rfl

theorem verify_only_signed_clerk :
    ∃ b ∈ ({clerkBundle} : Set (Bundle (markHmac clerkCanonical))),
      b.cfg.secret ∈ clerkBundle.cfg.secrets ∧
      Resolves (makeUser clerk.id clerk.email (joinRoles clerk.roles) clerk.organisationID)
        (clerkBundle.header.get hdrSubjectIssuedAt) b := by
  have accepted : verify _ clerkBundle.header clerkBundle.cfg (1700000030 * 10 ^ 9) = .ok _ :=
    verify_signed clerkBundle.signed List.mem_cons_self (by decide) (by decide)
  refine verify_only_signed (fun key hkey canonical valid => ?_) accepted
  refine ⟨clerkBundle, rfl, (List.mem_singleton.mp hkey).symm, ?_⟩
  have sig : clerkBundle.header.get hdrSubjectSig = hexEncode (List.replicate 32 1) := by
    rw [clerkBundle, get_mint_sig, hmacHex]
    rfl
  rw [sig, verifyAgainst, hexDecode_hexEncode] at valid
  by_contra other
  have differ : canonical ≠ clerkCanonical := fun same => other same.symm
  simp [markHmac, differ] at valid

end DxCommonGo.SubjectTrust
