import DxCommonGo.DxErrors
import DxCommonGo.RelyGuarantee
import Mathlib.Data.Finset.Card
import Mathlib.Data.List.Perm.Subperm

/-! `Allow` of package `redis`, a limit on the calls for a key in a fixed window, with its
calls interleaved on the server. A command can be applied without an answer, because its reply
was lost and the client sends it again, or after its sender has given up. Keys go only by
expiry. -/

namespace DxCommonGo.RedisRateLimit
open GoStrings DxErrors Programs Threads RelyGuarantee Runs

structure Call where
  key : GoString
  limit : Int
  window : Int

/-- The seconds the client sends for a duration in nanoseconds. -/
def formatSec (dur : Int) : Int :=
  if 0 < dur ∧ dur < 1000000000 then 1 else dur.tdiv 1000000000

inductive Op where
  | incr (key : GoString)
  | expire (key : GoString) (seconds : Int)

abbrev Reply : Op → Type
  | .incr _ => Except GoError Nat
  | .expire _ _ => Option GoError

abbrev Result := Bool × Option GoError

def allow (c : Call) : Prog Op Reply Result := do
  let counted : Except GoError Nat ← perform (Op.incr c.key)
  match counted with
  | .error err => return (false, some (errorf (str "redis.Allow: incr: %w") err))
  | .ok n =>
    if n = 1 then
      let armed : Option GoError ← perform (Op.expire c.key (formatSec c.window))
      match armed with
      | some err => return (false, some (errorf (str "redis.Allow: expire: %w") err))
      | none => return (decide ((n : Int) ≤ c.limit), none)
    else return (decide ((n : Int) ≤ c.limit), none)

/-- A counter and since when it is there. Times are in milliseconds. -/
structure Entry where
  count : Nat
  positive : 0 < count
  since : Nat
  deadline : Option Nat

/-- The count a call was given, when, and the start of the window it was counted in. -/
structure Hit (ι : Type) where
  call : ι
  since : Nat
  count : Nat
  time : Nat

structure Slot (ι : Type) where
  entry : Option Entry := none
  hits : List (Hit ι) := []

structure World (ι : Type) where
  now : Nat := 0
  slots : GoString → Slot ι := fun _ => {}

variable {ι : Type}

def Slot.live (now : Nat) (s : Slot ι) : Option Entry :=
  s.entry.filter fun e => e.deadline.all fun d => now ≤ d

/-- What `INCR` leaves, unless the counter is at its highest value. -/
def Slot.incr (now : Nat) (s : Slot ι) : Option Entry :=
  match s.live now with
  | none => some ⟨1, Nat.one_pos, now, none⟩
  | some e =>
    if e.count < 2 ^ 63 - 1 then some { e with count := e.count + 1, positive := Nat.succ_pos _ }
    else none

def Slot.expire (now : Nat) (seconds : Int) (s : Slot ι) : Slot ι :=
  match s.live now with
  | none => s
  | some e =>
    if 0 < seconds then { s with entry := some { e with deadline := now + seconds.toNat * 1000 } }
    else { s with entry := none }

def Slot.hit (now : Nat) (i : ι) (e : Entry) (s : Slot ι) : Slot ι :=
  { entry := some e, hits := ⟨i, e.since, e.count, now⟩ :: s.hits }

def World.set (w : World ι) (k : GoString) (s : Slot ι) : World ι :=
  { w with slots := Function.update w.slots k s }

inductive Choice where
  | answered
  | failed (err : GoError)

def answer (i : ι) : (op : Op) → Choice → World ι → Option (Reply op × World ι)
  | .incr k, .answered, w =>
    ((w.slots k).incr w.now).map fun e => (.ok e.count, w.set k ((w.slots k).hit w.now i e))
  | .expire k seconds, .answered, w => some (none, w.set k ((w.slots k).expire w.now seconds))
  | .incr _, .failed err, w => some (.error err, w)
  | .expire _ _, .failed err, w => some (some err, w)

/-- Time passes, or `INCR` or `EXPIRE` of a call is applied without an answer to it. -/
inductive Event (ι : Type) where
  | tick (milliseconds : Nat)
  | incr (i : ι)
  | expire (i : ι)

def act (calls : ι → Call) : Event ι → World ι → Option (World ι)
  | .tick milliseconds, w => some { w with now := w.now + milliseconds }
  | .incr i, w => ((w.slots (calls i).key).incr w.now).map fun e =>
    w.set (calls i).key { w.slots (calls i).key with entry := some e }
  | .expire i, w => some <|
    w.set (calls i).key ((w.slots (calls i).key).expire w.now (formatSec (calls i).window))

def env (calls : ι → Call) : Env ι Op Reply Result Choice (Event ι) (World ι) :=
  ⟨answer, act calls, fun _ _ => none⟩

def start (calls : ι → Call) : System ι Op Reply Result (World ι) :=
  ⟨fun i => allow (calls i), {}⟩

section Slots

variable {W now : Nat} {s : Slot ι} {e : Entry}

theorem live_cases (now : Nat) (s : Slot ι) :
    (∃ e, s.live now = some e ∧ s.entry = some e) ∨
    (s.live now = none ∧ ∀ e, s.entry = some e → ∃ d, e.deadline = some d ∧ d < now) := by
  cases live : s.live now with
  | some e => exact .inl ⟨e, rfl, (Option.filter_eq_some_iff.mp live).1⟩
  | none =>
    refine .inr ⟨rfl, fun e there => ?_⟩
    have passed := Option.filter_eq_none_iff.mp live e there
    simpa [Option.all_eq_true] using passed

/-- The window `a` was counted in ended before another one began. -/
def Hit.Before (W : Nat) (a : Hit ι) (since : Nat) : Prop := a.since + W < since ∧ a.time ≤ since

def Hit.Apart (W : Nat) (a b : Hit ι) : Prop :=
  a.since = b.since ∧ a.count ≠ b.count ∨ a.Before W b.since ∨ b.Before W a.since

/-- The windows last longer than `W`, and no count is given twice in one of them. -/
structure Sound (W now : Nat) (s : Slot ι) : Prop where
  given : ∀ a ∈ s.hits, a.since ≤ a.time ∧ a.time ≤ now ∧ 0 < a.count
  first : ∀ a ∈ s.hits, a.count = 1 → a.time = a.since
  absent : s.entry = none → s.hits = []
  started : ∀ e, s.entry = some e → e.since ≤ now
  lasts : ∀ e, s.entry = some e → ∀ d, e.deadline = some d → e.since + W ≤ d
  counted : ∀ e, s.entry = some e → ∀ a ∈ s.hits,
    a.since = e.since ∧ a.count ≤ e.count ∨ a.Before W e.since
  apart : s.hits.Pairwise (Hit.Apart W)

theorem Sound.entry (sound : Sound W now s) (started : e.since ≤ now)
    (lasts : ∀ d, e.deadline = some d → e.since + W ≤ d)
    (counted : ∀ a ∈ s.hits, a.since = e.since ∧ a.count ≤ e.count ∨ a.Before W e.since) :
    Sound W now { s with entry := some e } :=
  ⟨sound.given, sound.first, nofun, fun _ same => Option.some.inj same ▸ started,
    fun _ same => Option.some.inj same ▸ lasts, fun _ same => Option.some.inj same ▸ counted,
    sound.apart⟩

theorem Sound.new_count (sound : Sound W now s) (applied : s.incr now = some e) :
    e.since ≤ now ∧ (e.count = 1 → now = e.since) ∧
      (∀ d, e.deadline = some d → e.since + W ≤ d) ∧
      ∀ a ∈ s.hits, a.since = e.since ∧ a.count < e.count ∨ a.Before W e.since := by
  obtain ⟨f, live, there⟩ | ⟨gone, ended⟩ := live_cases now s
  · simp only [Slot.incr, live] at applied
    split at applied <;> cases applied
    refine ⟨sound.started f there, fun one => absurd (Nat.succ.inj one) f.positive.ne',
      sound.lasts f there, fun a member => ?_⟩
    exact (sound.counted f there a member).imp_left fun h => ⟨h.1, Nat.lt_succ_of_le h.2⟩
  · simp only [Slot.incr, gone, Option.some.injEq] at applied
    subst applied
    refine ⟨Nat.le_refl _, fun _ => rfl, nofun, fun a member => .inr ?_⟩
    cases there : s.entry with
    | none => simp [sound.absent there] at member
    | some f =>
      obtain ⟨d, armed, passed⟩ := ended f there
      have started := sound.started f there
      have lasts := sound.lasts f there d armed
      refine ⟨show a.since + W < now from ?_, (sound.given a member).2.1⟩
      obtain ⟨since, -⟩ | ⟨since, -⟩ := sound.counted f there a member <;> omega

theorem Sound.incr (sound : Sound W now s) (applied : s.incr now = some e) :
    Sound W now { s with entry := some e } := by
  obtain ⟨started, -, lasts, counted⟩ := sound.new_count applied
  exact sound.entry started lasts fun a member =>
    (counted a member).imp_left fun h => ⟨h.1, h.2.le⟩

theorem Sound.hit (sound : Sound W now s) (i : ι) (applied : s.incr now = some e) :
    Sound W now (s.hit now i e) := by
  obtain ⟨started, first, -, counted⟩ := sound.new_count applied
  have kept := sound.incr applied
  refine ⟨?_, ?_, nofun, kept.started, kept.lasts, fun f same => ?_, ?_⟩
  · exact List.forall_mem_cons.mpr ⟨⟨started, Nat.le_refl _, e.positive⟩, sound.given⟩
  · exact List.forall_mem_cons.mpr ⟨first, sound.first⟩
  · cases same
    exact List.forall_mem_cons.mpr ⟨.inl ⟨rfl, Nat.le_refl _⟩, kept.counted e rfl⟩
  · refine List.pairwise_cons.mpr ⟨fun a member => ?_, sound.apart⟩
    exact (counted a member).imp (fun h => ⟨h.1.symm, h.2.ne'⟩) .inr

theorem Sound.expire (sound : Sound W now s) {seconds : Int} (positive : 0 < W)
    (long : W ≤ seconds.toNat * 1000) : Sound W now (s.expire now seconds) := by
  unfold Slot.expire
  obtain ⟨e, live, there⟩ | ⟨gone, -⟩ := live_cases now s
  · have started := sound.started e there
    simp only [live, if_pos (show 0 < seconds by omega)]
    refine sound.entry started (fun d armed => ?_) (sound.counted e there)
    cases armed
    change e.since + W ≤ now + _
    omega
  · rwa [gone]

theorem Sound.later (sound : Sound W now s) (ms : Nat) : Sound W (now + ms) s :=
  { sound with
    given := fun a member => (sound.given a member).imp_right (.imp_left (Nat.le_add_right_of_le ·))
    started := fun e there => Nat.le_add_right_of_le (sound.started e there) }

theorem hits_expire (now : Nat) (seconds : Int) (s : Slot ι) :
    (s.expire now seconds).hits = s.hits := by
  unfold Slot.expire
  split
  · rfl
  · split <;> rfl

end Slots

section Calls

variable {k : GoString} {W : Nat} {w : World ι} {s : Slot ι} {calls : ι → Call}

def contract (k : GoString) (W : Nat) : Contract ι Op (World ι) where
  inv w := Sound W w.now (w.slots k)
  rely _ w w' := (w.slots k).hits ⊆ (w'.slots k).hits
  pre _ _ _ := True

theorem allows_set (k' : GoString) (sound : Sound W w.now (w.slots k))
    (kept : k' = k → Sound W w.now s ∧ (w.slots k).hits ⊆ s.hits) :
    (contract k W).inv (w.set k' s) ∧ ∀ j, (contract k W).rely j w (w.set k' s) := by
  by_cases same : k' = k
  · subst same
    exact ⟨by simpa [contract, World.set] using (kept rfl).1,
      fun _ => by simpa [contract, World.set] using (kept rfl).2⟩
  · simpa [contract, World.set, Ne.symm same] using sound

theorem allows_expire (i : ι) (positive : 0 < W) (sound : Sound W w.now (w.slots k))
    (long : (calls i).key = k → W ≤ (formatSec (calls i).window).toNat * 1000) :
    let w' := w.set (calls i).key
      ((w.slots (calls i).key).expire w.now (formatSec (calls i).window))
    (contract k W).inv w' ∧ ∀ j, (contract k W).rely j w w' := by
  refine allows_set _ sound fun same => ?_
  rw [hits_expire, same]
  exact ⟨sound.expire positive (long same), List.Subset.refl _⟩

/-- A caller that passes was given a count within the limit. -/
def Post (k : GoString) (c : Call) (i : ι) (r : Result) (w : World ι) : Prop :=
  c.key = k → r.1 = true → ∃ a ∈ (w.slots k).hits, a.call = i ∧ (a.count : Int) ≤ c.limit

theorem safe_allow (i : ι) (positive : 0 < W)
    (long : (calls i).key = k → W ≤ (formatSec (calls i).window).toNat * 1000) :
    Safe (env calls) (contract k W) i (Post k (calls i) i) (allow (calls i)) w := by
  have stays : ∀ (r : Result) (w w' : World ι), (contract k W).inv w' →
      Post k (calls i) i r w → (contract k W).rely i w w' → Post k (calls i) i r w' := by
    intro r w w' _ post grows same yes
    obtain ⟨a, member, rest⟩ := post same yes
    exact ⟨a, grows member, rest⟩
  refine safe_perform_bind_inv (fun _ _ => trivial) fun w x reply w' sound answered => ?_
  cases x with
  | failed err =>
    cases answered
    exact ⟨⟨sound, fun _ _ => List.Subset.refl _⟩, safe_pure nofun (stays _)⟩
  | answered =>
    obtain ⟨e, applied, same⟩ := Option.map_eq_some_iff.mp answered
    cases same
    have allowed := allows_set (calls i).key
      (s := (w.slots (calls i).key).hit w.now i e) sound fun same => by
        rw [same] at applied ⊢
        exact ⟨sound.hit i applied, List.subset_cons_self ..⟩
    refine ⟨⟨allowed.1, fun j _ => allowed.2 j⟩, ?_⟩
    set result : Result := (decide ((e.count : Int) ≤ (calls i).limit), none)
    set w' := w.set (calls i).key ((w.slots (calls i).key).hit w.now i e)
    have passed : Post k (calls i) i result w' := by
      rintro rfl yes
      exact ⟨⟨i, e.since, e.count, w.now⟩, by simp [w', World.set, Slot.hit], rfl,
        of_decide_eq_true yes⟩
    change Safe _ _ _ _ (if e.count = 1 then _ else _) w'
    split
    · refine safe_perform_bind (Post k (calls i) i result) passed (stays _) (fun _ _ _ => trivial)
        fun v x reply v' sound passed answered => ?_
      cases x with
      | failed err =>
        cases answered
        exact ⟨⟨sound, fun _ _ => List.Subset.refl _⟩, safe_pure nofun (stays _)⟩
      | answered =>
        cases answered
        have allowed := allows_expire i positive sound long
        exact ⟨⟨allowed.1, fun j _ => allowed.2 j⟩,
          safe_pure (stays _ _ _ allowed.1 passed (allowed.2 i)) (stays _)⟩
    · exact safe_pure passed (stays _)

variable [DecidableEq ι] {inputs : List (Input ι Choice (Event ι))}
  {t : System ι Op Reply Result (World ι)}

theorem run_post (run : inputs.foldlM (env calls).step (start calls) = some t) (positive : 0 < W)
    (long : ∀ i, (calls i).key = k → W ≤ (formatSec (calls i).window).toNat * 1000) :
    Sound W t.world.now (t.world.slots k) ∧
      ∀ i r, t.threads i = .ret r → Post k (calls i) i r t.world := by
  have coherent : Coherent (env calls) (contract k W) fun i => Post k (calls i) i :=
    { refl := fun _ _ => List.Subset.refl _
      trans := fun _ _ _ _ => List.Subset.trans
      act := fun e w w' sound acted => by
        cases e with
        | tick ms =>
          cases acted
          exact ⟨Sound.later sound ms, fun _ => List.Subset.refl _⟩
        | incr i =>
          obtain ⟨e, applied, rfl⟩ := Option.map_eq_some_iff.mp acted
          refine allows_set _ sound fun same => ?_
          rw [same] at applied ⊢
          exact ⟨Sound.incr sound applied, List.Subset.refl _⟩
        | expire i =>
          cases acted
          exact allows_expire i positive sound (long i)
      again := nofun }
  have first : AllSafe (env calls) (contract k W) (fun i => Post k (calls i) i) (start calls) :=
    ⟨⟨nofun, nofun, fun _ => rfl, nofun, nofun, nofun, .nil⟩,
      fun i => safe_allow i positive (long i)⟩
  have safe := (always_allSafe coherent first inputs).last run
  exact ⟨safe.1, fun i r ended => safe.ended coherent ended⟩

end Calls

section Counting

variable {W L : Nat} {H : List (Hit ι)}

theorem length_le_of_places (place : Hit ι → Nat)
    (differ : H.Pairwise fun a b => place a ≠ place b)
    (within : ∀ a ∈ H, 1 ≤ place a ∧ place a ≤ L) : H.length ≤ L := by
  have distinct : (H.map place).Nodup := List.pairwise_map.mpr differ
  have inside : H.map place ⊆ List.range' 1 L := fun n member => by
    obtain ⟨a, given, rfl⟩ := List.mem_map.mp member
    have := within a given
    exact List.mem_range'_1.mpr (by omega)
  simpa using (distinct.subperm inside).length_le

theorem length_window (since : Nat) (apart : H.Pairwise (Hit.Apart W))
    (low : ∀ a ∈ H, 0 < a.count ∧ a.count ≤ L) (one : ∀ a ∈ H, a.since = since) :
    H.length ≤ L := by
  refine length_le_of_places Hit.count (apart.imp_of_mem fun ha hb h => ?_) low
  have := one _ ha
  have := one _ hb
  simp only [Hit.Apart, Hit.Before] at h
  omega

/-- Of the windows in which counts are given within `W`, only one began before them, and its
first count is not among them; and only one begins among them. -/
theorem length_span (time : Nat) (apart : H.Pairwise (Hit.Apart W))
    (low : ∀ a ∈ H, 0 < a.count ∧ a.count ≤ L)
    (given : ∀ a ∈ H, a.since ≤ a.time ∧ (a.count = 1 → a.time = a.since))
    (within : ∀ a ∈ H, time ≤ a.time ∧ a.time ≤ time + W) : H.length ≤ 2 * L - 1 := by
  let place (a : Hit ι) : Nat := if a.since < time then a.count - 1 else L - 1 + a.count
  refine length_le_of_places place (apart.imp_of_mem fun {a b} ha hb h => ?_) fun a ha => ?_
  · have := low a ha
    have := low b hb
    have := given a ha
    have := given b hb
    have := within a ha
    have := within b hb
    simp only [Hit.Apart, Hit.Before] at h
    simp only [place]
    split <;> split <;> omega
  · have := low a ha
    have := given a ha
    have := within a ha
    simp only [place]
    split <;> omega

end Counting

/-- If the calls for a key have a limit of at most `L` and windows that the client sends as
at least `W` milliseconds, then at most `L` of them pass in one window, and at most `2 * L - 1`
with counts from any `W` milliseconds. -/
theorem allow_bounded [DecidableEq ι] {calls : ι → Call} {k : GoString} {W L : Nat}
    (positive : 0 < W) (same : ∀ i, (calls i).key = k →
      (calls i).limit ≤ L ∧ W ≤ (formatSec (calls i).window).toNat * 1000)
    {inputs : List (Input ι Choice (Event ι))} {t : System ι Op Reply Result (World ι)}
    (run : inputs.foldlM (env calls).step (start calls) = some t) {S : Finset ι}
    (passed : ∀ i ∈ S, (calls i).key = k ∧ ∃ err, t.threads i = .ret (true, err)) :
    (∀ since, (∀ a ∈ (t.world.slots k).hits, a.call ∈ S → a.since = since) → S.card ≤ L) ∧
    ∀ time, (∀ a ∈ (t.world.slots k).hits, a.call ∈ S → time ≤ a.time ∧ a.time ≤ time + W) →
      S.card ≤ 2 * L - 1 := by
  obtain ⟨sound, results⟩ := run_post run positive fun i key => (same i key).2
  let H := (t.world.slots k).hits.filter fun a => a.call ∈ S ∧ a.count ≤ L
  have here : ∀ a ∈ H, a ∈ (t.world.slots k).hits ∧ a.call ∈ S ∧ a.count ≤ L :=
    fun a member => by simpa [H] using member
  have enough : S.card ≤ H.length := by
    have all : S ⊆ (H.map Hit.call).toFinset := fun i member => by
      obtain ⟨key, err, ended⟩ := passed i member
      obtain ⟨a, given, rfl, low⟩ := results i _ ended key rfl
      have := (same _ key).1
      exact List.mem_toFinset.mpr (List.mem_map_of_mem (List.mem_filter.mpr
        ⟨given, decide_eq_true ⟨member, by omega⟩⟩))
    simpa using (Finset.card_le_card all).trans (List.toFinset_card_le _)
  have apart : H.Pairwise (Hit.Apart W) := sound.apart.filter _
  have low : ∀ a ∈ H, 0 < a.count ∧ a.count ≤ L := fun a member =>
    ⟨(sound.given a (here a member).1).2.2, (here a member).2.2⟩
  refine ⟨fun since one => enough.trans (length_window since apart low fun a member => ?_),
    fun time within => enough.trans
      (length_span time apart low (fun a member => ?_) fun a member => ?_)⟩
  · exact one a (here a member).1 (here a member).2.1
  · exact ⟨(sound.given a (here a member).1).1, sound.first a (here a member).1⟩
  · exact within a (here a member).1 (here a member).2.1

theorem allow_bounded_first :
    let calls : Nat → Call := fun _ => ⟨[], 1, 1500000000⟩
    ∃ t, [.turn 0 .answered, .turn 0 .answered].foldlM (env calls).step (start calls) = some t ∧
      t.threads 0 = .ret (true, none) ∧ ({0} : Finset Nat).card ≤ 2 * 1 - 1 :=
  ⟨_, rfl, rfl, (allow_bounded (k := []) (W := 1000) (L := 1) (by decide)
    (fun _ _ => ⟨le_refl 1, by decide⟩)
    (rfl : [.turn 0 .answered, .turn 0 .answered].foldlM (env fun _ => ⟨[], 1, 1500000000⟩).step
      (start fun _ => ⟨[], 1, 1500000000⟩) = some _)
    fun i hi => ⟨rfl, none, Finset.mem_singleton.mp hi ▸ rfl⟩).2 0 (by decide)⟩

end DxCommonGo.RedisRateLimit
