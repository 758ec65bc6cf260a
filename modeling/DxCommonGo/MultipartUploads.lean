import DxCommonGo.DxErrors
import Mathlib.Order.Defs.LinearOrder
import Mathlib.Data.List.Perm.Subperm

/-! `ListMultipartUploads` of package `s3`, page by page, while uploads are started, completed and
aborted between the requests. -/

namespace DxCommonGo.MultipartUploads
open GoStrings DxErrors

structure MultipartUpload where
  key : GoString
  uploadID : GoString
  initiated : Int

structure Output where
  uploads : List MultipartUpload
  isTruncated : Bool
  nextKeyMarker : Option GoString
  nextUploadIdMarker : Option GoString

/-- What the API answers to a request with these markers, after so many others. -/
abbrev Api := Nat → Option GoString → Option GoString → Except GoError Output

/-- The first iterations of the loop after `n` requests, with its variables: what it returns,
and the number of requests then. -/
def listMultipartUploads (api : Api) (n : Nat) (uploads : List MultipartUpload)
    (keyMarker uploadIDMarker : Option GoString) :
    Nat → Option (Except GoError (List MultipartUpload) × Nat)
  | 0 => none
  | fuel + 1 =>
    match api n keyMarker uploadIDMarker with
    | .error err => some (.error (errorf (str "s3.ListMultipartUploads: %w") err), n + 1)
    | .ok out =>
      if out.isTruncated then
        listMultipartUploads api (n + 1) (uploads ++ out.uploads) out.nextKeyMarker
          out.nextUploadIdMarker fuel
      else some (.ok (uploads ++ out.uploads), n + 1)

/-- The order of the listings; and at each request, the uploads in progress, how many more than
one a page can hold, and the error if it fails. -/
structure Server (α : Type) [LinearOrder α] where
  place : GoString → GoString → α
  uploads : Nat → List MultipartUpload
  sorted : ∀ n, (uploads n).Pairwise fun u v => place u.key u.uploadID < place v.key v.uploadID
  size : Nat → Nat
  error : Nat → Option GoError

variable {α : Type} [LinearOrder α]

namespace Server

variable (s : Server α) (n : Nat) (k i : Option GoString)

def rank (u : MultipartUpload) : α := s.place u.key u.uploadID

def Sorted (us : List MultipartUpload) : Prop := us.Pairwise fun u v => s.rank u < s.rank v

/-- Markers are sent together or not at all. -/
def behind (u : MultipartUpload) : Bool :=
  match k, i with
  | some key, some id => s.place key id < s.rank u
  | _, _ => true

def rest : List MultipartUpload := (s.uploads n).filter (s.behind k i)

def page : List MultipartUpload := (s.rest n k i).take (s.size n + 1)

def api : Api := fun n k i =>
  let last := (s.page n k i).getLast?
  (s.error n).elim (.ok ⟨s.page n k i, s.size n + 1 < (s.rest n k i).length, last.map (·.key),
    last.map (·.uploadID)⟩) .error

theorem sorted_rest : s.Sorted (s.rest n k i) := (s.sorted n).filter _

theorem mem_page {u : MultipartUpload} (member : u ∈ s.page n k i) :
    u ∈ s.uploads n ∧ s.behind k i u = true :=
  List.mem_filter.mp (List.mem_of_mem_take member)

/-- A page that leaves something out ends where the listing goes on behind its last upload. -/
theorem last_of_page (more : s.size n + 1 < (s.rest n k i).length) :
    ∃ last ∈ s.page n k i, (s.page n k i).getLast? = some last ∧
      (∀ u ∈ s.rest n k i, ¬s.rank last < s.rank u → u ∈ s.page n k i) ∧
      ∀ u ∈ s.page n k i, s.rank u ≤ s.rank last := by
  have sorted := s.sorted_rest n k i
  have split : s.page n k i ++ _ = s.rest n k i := List.take_append_drop ..
  rw [Sorted, ← split] at sorted
  obtain ⟨within, -, across⟩ := List.pairwise_append.mp sorted
  obtain empty | ⟨init, last, page⟩ := List.eq_nil_or_concat' (s.page n k i)
  · have := congrArg List.length empty
    simp only [page, List.length_take, List.length_nil] at this
    omega
  · refine ⟨last, by simp [page], by simp [page], fun u member notAfter => ?_, fun u member => ?_⟩
    · rw [← split] at member
      refine (List.mem_append.mp member).resolve_right fun later => notAfter ?_
      exact across last (by simp [page]) u later
    · rw [page] at member within
      obtain early | same := List.mem_append.mp member
      · exact ((List.pairwise_append.mp within).2.2 u early last (by simp)).le
      · simp [List.mem_singleton.mp same]

end Server

/-- What `n` requests have listed: uploads of one of them each, and of those in `before` every
one that was there each time. -/
structure Listed (s : Server α) (n : Nat) (us : List MultipartUpload)
    (before : MultipartUpload → Prop) : Prop where
  sorted : s.Sorted us
  sound : ∀ u ∈ us, ∃ t < n, u ∈ s.uploads t
  complete : ∀ u, before u → (∀ t < n, u ∈ s.uploads t) → u ∈ us

variable {s : Server α} {n : Nat} {us : List MultipartUpload} {k i : Option GoString}

theorem Listed.page (listed : Listed s n us (s.behind k i · = false))
    (apart : ∀ u ∈ us, ∀ v, s.behind k i v = true → s.rank u < s.rank v)
    {before : MultipartUpload → Prop} (cut : ∀ u ∈ s.rest n k i, before u → u ∈ s.page n k i) :
    Listed s (n + 1) (us ++ s.page n k i) before := by
  refine ⟨?_, fun u member => ?_, fun u early always => ?_⟩
  · refine List.pairwise_append.mpr ⟨listed.sorted, ?_, fun u hu v hv => ?_⟩
    · exact (s.sorted_rest n k i).sublist (List.take_sublist _ _)
    · exact apart u hu v (s.mem_page n k i hv).2
  · obtain old | new := List.mem_append.mp member
    · obtain ⟨t, lt, there⟩ := listed.sound u old
      exact ⟨t, Nat.lt_succ_of_lt lt, there⟩
    · exact ⟨n, Nat.lt_succ_self n, (s.mem_page n k i new).1⟩
  · cases side : s.behind k i u with
    | false =>
      have old := listed.complete u side fun t lt => always t (Nat.lt_succ_of_lt lt)
      exact List.mem_append_left _ old
    | true =>
      have there := List.mem_filter.mpr ⟨always n (Nat.lt_succ_self n), side⟩
      exact List.mem_append_right _ (cut u there early)

/-- A result of the loop: the error of the last request, or what all of them have listed. -/
def Exact (s : Server α) (n : Nat) : Except GoError (List MultipartUpload) → Prop
  | .ok us => Listed s n us fun _ => True
  | .error err => ∃ e, s.error (n - 1) = some e ∧
    err = errorf (str "s3.ListMultipartUploads: %w") e

/-- The loop from any of its iterations on. -/
theorem loop_listed (fuel : Nat) (listed : Listed s n us (s.behind k i · = false))
    (apart : ∀ u ∈ us, ∀ v, s.behind k i v = true → s.rank u < s.rank v) :
    (∃ r m, m ≤ n + fuel ∧ listMultipartUploads s.api n us k i fuel = some (r, m) ∧ Exact s m r) ∨
      ∃ all m, us.length + fuel ≤ all.length ∧ Listed s m all fun _ => False := by
  induction fuel generalizing n us k i with
  | zero => exact .inr ⟨us, n, Nat.le_refl _, listed.sorted, listed.sound, nofun⟩
  | succ fuel ih =>
    rw [listMultipartUploads]
    cases failed : s.error n with
    | some e =>
      have reply : s.api n k i = .error e := by simp [Server.api, failed]
      rw [reply]
      exact .inl ⟨_, n + 1, by omega, rfl, e, failed, rfl⟩
    | none =>
      by_cases more : s.size n + 1 < (s.rest n k i).length
      · obtain ⟨last, inPage, isLast, cut, ends⟩ := s.last_of_page n k i more
        have reply : s.api n k i = .ok ⟨s.page n k i, true, some last.key, some last.uploadID⟩ := by
          simp [Server.api, failed, more, isLast]
        have after : ∀ u, s.behind (some last.key) (some last.uploadID) u = true ↔
            s.rank last < s.rank u := fun u => decide_eq_true_iff
        have next : Listed s (n + 1) (us ++ s.page n k i)
            (s.behind (some last.key) (some last.uploadID) · = false) :=
          listed.page apart fun u member side => cut u member fun less =>
            absurd ((after u).mpr less) (by simp [side])
        rw [reply]
        refine (ih next fun u member v side => ?_).imp ?_ ?_
        · obtain old | new := List.mem_append.mp member
          · exact (apart u old last (s.mem_page n k i inPage).2).trans ((after v).mp side)
          · exact (ends u new).trans_lt ((after v).mp side)
        · rintro ⟨r, m, le, ran, exact⟩
          exact ⟨r, m, by omega, ran, exact⟩
        · rintro ⟨all, m, long, listed⟩
          have filled := List.length_pos_of_mem inPage
          rw [List.length_append] at long
          exact ⟨all, m, by omega, listed⟩
      · have all : s.page n k i = s.rest n k i := List.take_of_length_le (Nat.le_of_not_lt more)
        have reply : ∃ a b, s.api n k i = .ok ⟨s.page n k i, false, a, b⟩ := by
          simp [Server.api, failed, more]
        obtain ⟨a, b, reply⟩ := reply
        rw [reply]
        exact .inl ⟨_, n + 1, by omega, rfl, listed.page apart fun u member _ => all ▸ member⟩

/-- With finitely many uploads in all, the loop ends within one request more than there are. The
result has no upload twice, only uploads that were in progress at one of the requests, and every
one that was at all of them. -/
theorem listMultipartUploads_exact {all : List MultipartUpload} (finite : ∀ n, s.uploads n ⊆ all) :
    ∃ r n, n ≤ all.length + 1 ∧
      listMultipartUploads s.api 0 [] none none (all.length + 1) = some (r, n) ∧
      Exact s n r ∧ ∀ us, r = .ok us → us.Nodup := by
  have distinct : ∀ {us}, s.Sorted us → us.Nodup :=
    fun sorted => sorted.imp fun less same => (same ▸ less).false
  have start : Listed s 0 [] (s.behind none none · = false) := ⟨.nil, nofun, fun _ no => nomatch no⟩
  obtain ⟨r, n, le, ran, exact⟩ | ⟨us, n, long, listed⟩ :=
    loop_listed (all.length + 1) start nofun
  · refine ⟨r, n, by omega, ran, exact, ?_⟩
    rintro us rfl
    exact distinct exact.sorted
  · have within : us ⊆ all := fun u member => by
      obtain ⟨t, -, there⟩ := listed.sound u member
      exact finite t there
    have := ((distinct listed.sorted).subperm within).length_le
    simp only [List.length_nil] at long
    omega

/-- The second of two uploads is completed after the first request, whose page holds one. -/
theorem listMultipartUploads_exact_completed :
    let u : MultipartUpload := ⟨[97], [49], 0⟩
    let v : MultipartUpload := ⟨[98], [50], 0⟩
    ∃ s : Server Nat, s.uploads 0 = [u, v] ∧ s.uploads 1 = [u] ∧
      ∃ r n, n ≤ 2 + 1 ∧ listMultipartUploads s.api 0 [] none none (2 + 1) = some (r, n) ∧
        Exact s n r ∧ ∀ us, r = .ok us → us.Nodup := by
  intro u v
  have sorted : ∀ n, (if n = 0 then [u, v] else [u]).Pairwise fun u v =>
      (u.key.headD 0).toNat < (v.key.headD 0).toNat := by
    intro n
    split
    · exact List.pairwise_pair.mpr (by decide)
    · exact List.pairwise_singleton ..
  let s : Server Nat := ⟨fun key _ => (key.headD 0).toNat,
    fun n => if n = 0 then [u, v] else [u], sorted, fun _ => 0, fun _ => none⟩
  have finite : ∀ n, s.uploads n ⊆ [u, v] := by
    intro n
    dsimp only [s]
    split <;> simp
  exact ⟨s, rfl, rfl, listMultipartUploads_exact finite⟩

end DxCommonGo.MultipartUploads
