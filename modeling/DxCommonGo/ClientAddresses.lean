import DxCommonGo.RateLimitAddresses
import DxCommonGo.StatusRecorders

/-! The client address of an audit record. `clientIP` takes what stands behind the last colon of
`RemoteAddr` for a port, and an IPv6 address has colons of its own. -/

namespace DxCommonGo.ClientAddresses
open GoStrings RateLimitAddresses StatusRecorders

structure V4 where
  a : UInt8
  b : UInt8
  c : UInt8
  d : UInt8

def V4.text (v : V4) : GoString :=
  join (str ".") ([v.a, v.b, v.c, v.d].map fun n => itoaNat n.toNat)

structure Group where
  digits : GoString
  hex : digits.all (fun b => (hexValue b).isSome) = true
  size : 1 ≤ digits.length ∧ digits.length ≤ 4

/-- An IPv4 address at the end takes the place of two groups. -/
def width : Option V4 → Nat
  | none => 0
  | some _ => 2

/-- The spellings of an IPv6 address: all eight groups, or fewer around `::`. -/
inductive V6 where
  | full (groups : List Group) (last : Option V4) (size : groups.length + width last = 8)
  | compressed (left right : List Group) (last : Option V4)
      (size : left.length + (right.length + width last) ≤ 7)

def colons (groups : List Group) (last : Option V4) : GoString :=
  join [58] (groups.map Group.digits ++ last.toList.map V4.text)

def V6.text : V6 → GoString
  | .full groups last _ => colons groups last
  | .compressed left right last _ => colons left none ++ str "::" ++ colons right last

structure Zone where
  name : GoString
  colon : name.contains 58 = false
  bracket : name.contains 93 = false

inductive Address where
  | v4 (v : V4)
  | v6 (v : V6) (zone : Option Zone)

def Zone.text (zone : Zone) : GoString := str "%" ++ zone.name

def Address.text : Address → GoString
  | .v4 v => v.text
  | .v6 v zone => v.text ++ (zone.map Zone.text).getD []

def Address.isV4 : Address → Bool
  | .v4 _ => true
  | .v6 _ _ => false

/-- What `RemoteAddr` holds: the address of the connection, or what `RealIP` puts in its
place. -/
def Address.remoteAddrs (a : Address) (port : Nat) : List GoString :=
  [joinHostPort a.text (itoaNat port), a.text]

variable {host : GoString}

section Scan

theorem stripPort_append {s : GoString} (colon : 58 ∉ s) (bracket : 93 ∉ s) (before : GoString) :
    stripPort (s ++ before) = stripPort before := by
  induction s with
  | nil => rfl
  | cons b s ih =>
    simp only [List.mem_cons, not_or] at colon bracket
    rw [List.cons_append, stripPort, if_neg (Ne.symm colon.1), if_neg (Ne.symm bracket.1),
      ih colon.2 bracket.2]

theorem clientIP_colon (host : GoString) {port : GoString} (colon : 58 ∉ port)
    (bracket : 93 ∉ port) : clientIP (host ++ 58 :: port) = host := by
  have scanned : (host ++ 58 :: port).reverse = port.reverse ++ 58 :: host.reverse := by simp
  rw [clientIP, scanned, stripPort_append (by simpa using colon) (by simpa using bracket)]
  simp [stripPort]

theorem clientIP_plain (colon : 58 ∉ host) (bracket : 93 ∉ host) : clientIP host = host := by
  have scanned := stripPort_append (s := host.reverse) (by simpa using colon)
    (by simpa using bracket) []
  rw [List.append_nil] at scanned
  rw [clientIP, scanned]
  rfl

theorem clientIP_ne (colon : 58 ∈ host) (bracket : 93 ∉ host) : clientIP host ≠ host := by
  obtain ⟨post, pre, split, last⟩ := List.eq_append_cons_of_mem (List.mem_reverse.mpr colon)
  have host_eq : host = pre.reverse ++ 58 :: post.reverse := by
    simpa using congrArg List.reverse split
  rw [host_eq, List.mem_append, not_or] at bracket
  rw [host_eq, clientIP_colon _ (by simpa using last)
    (fun h => bracket.2 (List.mem_cons_of_mem _ h))]
  intro same
  simpa using congrArg List.length same

end Scan

section Texts

theorem not_mem_itoaNat {b : UInt8} (h : isDigit b = false) (n : Nat) : b ∉ itoaNat n := by
  intro mem
  have digit := List.all_eq_true.mp (itoaNat_digits n) b mem
  rw [h] at digit
  cases digit

theorem V4.not_mem_text {b : UInt8} (digit : isDigit b = false) (dot : b ∉ str ".") (v : V4) :
    b ∉ v.text := by
  apply not_mem_join dot
  intro s mem
  obtain ⟨n, -, rfl⟩ := List.mem_map.mp mem
  exact not_mem_itoaNat digit n.toNat

theorem Group.not_mem_digits {b : UInt8} (h : hexValue b = none) (g : Group) : b ∉ g.digits := by
  intro mem
  have hex := List.all_eq_true.mp g.hex b mem
  rw [h] at hex
  cases hex

theorem bracket_not_mem_colons (groups : List Group) (last : Option V4) :
    93 ∉ colons groups last := by
  apply not_mem_join (by decide)
  intro s mem
  rcases List.mem_append.mp mem with mem | mem
  · obtain ⟨g, -, rfl⟩ := List.mem_map.mp mem
    exact g.not_mem_digits rfl
  · obtain ⟨v, -, rfl⟩ := List.mem_map.mp mem
    exact v.not_mem_text rfl (by decide)

theorem colon_mem_colons {groups : List Group} {last : Option V4}
    (size : 2 ≤ (groups.map Group.digits ++ last.toList.map V4.text).length) :
    58 ∈ colons groups last := by
  rw [colons]
  match groups.map Group.digits ++ last.toList.map V4.text, size with
  | s :: t :: rest, _ => simp [join_cons_cons]

theorem V6.colon_mem_text (v : V6) : 58 ∈ v.text := by
  cases v with
  | full groups last size =>
    apply colon_mem_colons
    cases last <;> simp only [width, List.length_append, List.length_map, Option.toList_none,
      Option.toList_some, List.length_nil, List.length_singleton] at size ⊢ <;> omega
  | compressed left right last size =>
    exact List.mem_append_left _ (List.mem_append_right _ (by decide))

theorem V6.bracket_not_mem_text (v : V6) : 93 ∉ v.text := by
  cases v with
  | full groups last size => exact bracket_not_mem_colons groups last
  | compressed left right last size =>
    rw [V6.text, List.mem_append, List.mem_append, not_or, not_or]
    exact ⟨⟨bracket_not_mem_colons left none, by decide⟩, bracket_not_mem_colons right last⟩

theorem Zone.bracket_not_mem_text (zone : Zone) : 93 ∉ zone.text := by
  rw [Zone.text, List.mem_append, not_or]
  refine ⟨by decide, fun mem => ?_⟩
  have held := zone.bracket
  rw [List.contains_iff_mem.mpr mem] at held
  cases held

end Texts

theorem Address.bracket_not_mem_text (a : Address) : 93 ∉ a.text := by
  cases a with
  | v4 v => exact v.not_mem_text rfl (by decide)
  | v6 v zone =>
    rw [Address.text, List.mem_append, not_or]
    refine ⟨v.bracket_not_mem_text, ?_⟩
    cases zone with
    | none => exact List.not_mem_nil
    | some zone => exact zone.bracket_not_mem_text

theorem Address.colon_mem_text (a : Address) : 58 ∈ a.text ↔ a.isV4 = false := by
  cases a with
  | v4 v =>
    have free : 58 ∉ v.text := v.not_mem_text rfl (by decide)
    simp [text, isV4, free]
  | v6 v zone => simp [text, isV4, v.colon_mem_text]

theorem clientIP_joinHostPort (host : GoString) (port : Nat) :
    clientIP (joinHostPort host (itoaNat port)) = bracketed host := by
  rw [joinHostPort_eq]
  exact clientIP_colon _ (not_mem_itoaNat rfl port) (not_mem_itoaNat rfl port)

theorem bracketed_eq_iff : bracketed host = host ↔ 58 ∉ host := by
  rw [bracketed]
  split_ifs with colon <;> rw [List.contains_iff_mem] at colon
  · have longer : str "[" ++ host ++ str "]" ≠ host := by
      intro same
      have length := congrArg List.length same
      simp only [List.length_append] at length
      have first : (str "[").length = 1 := rfl
      omega
    exact iff_of_false longer (not_not.mpr colon)
  · exact iff_of_true rfl colon

/-- Whatever form `RemoteAddr` has, the bare address is left exactly of an IPv4 address. -/
theorem clientIP_eq_text_iff (a : Address) (port : Nat) :
    ∀ r ∈ a.remoteAddrs port, clientIP r = a.text ↔ a.isV4 = true := by
  have colon : 58 ∉ a.text ↔ a.isV4 = true := by
    rw [a.colon_mem_text, Bool.not_eq_false]
  rw [Address.remoteAddrs, List.forall_mem_cons, List.forall_mem_singleton, ← colon]
  constructor
  · rw [clientIP_joinHostPort, bracketed_eq_iff]
  · constructor
    · exact fun same mem => clientIP_ne mem a.bracket_not_mem_text same
    · exact fun free => clientIP_plain free a.bracket_not_mem_text

theorem clientIP_eq_text_localhost : clientIP (str "127.0.0.1:8080") = str "127.0.0.1" :=
  (clientIP_eq_text_iff (.v4 ⟨127, 0, 0, 1⟩) 8080 (str "127.0.0.1:8080") List.mem_cons_self).mpr rfl

def oneGroup : Group := ⟨str "1", rfl, by decide⟩

def loopback : Address := .v6 (.compressed [] [oneGroup] none (by decide)) none

/-- The loopback address of IPv6 keeps its brackets, or is left without its last group. -/
theorem clientIP_loopback :
    loopback.text = str "::1" ∧
    loopback.remoteAddrs 8080 = [str "[::1]:8080", str "::1"] ∧
    (loopback.remoteAddrs 8080).map clientIP = [str "[::1]", str ":"] :=
  ⟨rfl, rfl, rfl⟩

end DxCommonGo.ClientAddresses
