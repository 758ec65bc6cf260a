import Mathlib.Data.List.Basic
import Mathlib.Data.List.Perm.Basic

/-! Paging through a sorted list with a cursor, which the last document of a page leaves: `after d
e` says that `e` stands behind the cursor of `d`, which need not be as precise as `d` itself. -/

namespace DxCommonGo.CursorPages

variable {D : Type} {d : D}

section Runs

variable (after : D → D → Bool) (docs : List D) (size : Nat)

def behind : Option D → List D
  | none => docs
  | some d => docs.filter (after d)

def page (cursor : Option D) : List D := (behind after docs cursor).take size

inductive Returns : Option D → List D → Prop
  | done {cursor} (empty : page after docs size cursor = []) : Returns cursor []
  | more {cursor d rest} (last : (page after docs size cursor).getLast? = some d)
      (later : Returns (some d) rest) : Returns cursor (page after docs size cursor ++ rest)

variable {after docs size}

theorem Returns.unique {cursor : Option D} {xs ys : List D}
    (first : Returns after docs size cursor xs) (second : Returns after docs size cursor ys) :
    xs = ys := by
  induction first generalizing ys with
  | done empty =>
    cases second with
    | done => rfl
    | more last => rw [empty] at last; cases last
  | more last later ih =>
    cases second with
    | done empty => rw [empty] at last; cases last
    | more last' later' =>
      rw [last] at last'
      cases last'
      rw [ih later']

theorem Returns.of_last {cursor : Option D} {items : List D}
    (run : Returns after docs size cursor items)
    (last : (page after docs size cursor).getLast? = some d) :
    ∃ rest, items = page after docs size cursor ++ rest ∧
      Returns after docs size (some d) rest := by
  cases run with
  | done empty => rw [empty] at last; cases last
  | more last' later =>
    rw [last] at last'
    cases last'
    exact ⟨_, rfl, later⟩

theorem not_returns_of_last_self (self : (page after docs size (some d)).getLast? = some d)
    (items : List D) : ¬Returns after docs size (some d) items := by
  intro run
  -- The rest of a run is shorter than the run.
  induction h : items.length using Nat.strongRecOn generalizing items with
  | ind n ih =>
    obtain ⟨rest, rfl, later⟩ := run.of_last self
    have some : page after docs size (some d) ≠ [] := by
      intro empty
      rw [empty] at self
      cases self
    have positive := List.length_pos_of_ne_nil some
    rw [List.length_append] at h
    exact ih rest.length (by omega) rest later rfl

end Runs

section Order

variable {after : D → D → Bool} {docs : List D} {before : D → D → Prop}
  (sorted : docs.Pairwise before) (asymm : ∀ d e, before d e → ¬before e d)

def Cuts (after : D → D → Bool) (before : D → D → Prop) (docs : List D) (d : D) : Prop :=
  ∀ e ∈ docs, after d e = true ↔ before d e

include sorted asymm

variable {post : List D}

theorem filter_of_cuts {pre : List D} (split : docs = pre ++ d :: post)
    (cuts : Cuts after before docs d) : docs.filter (after d) = post := by
  subst split
  obtain ⟨-, tail, across⟩ := List.pairwise_append.mp sorted
  have rest := (List.pairwise_cons.mp tail).1
  have earlier : pre.filter (after d) = [] := by
    refine List.filter_eq_nil_iff.mpr fun e mem follows => ?_
    exact asymm e d (across e mem d List.mem_cons_self)
      ((cuts e (List.mem_append_left _ mem)).mp follows)
  have self : ¬after d d = true := by
    intro follows
    have again := (cuts d (List.mem_append_right _ List.mem_cons_self)).mp follows
    exact asymm d d again again
  have later : post.filter (after d) = post := by
    refine List.filter_eq_self.mpr fun e mem => ?_
    exact (cuts e (List.mem_append_right _ (List.mem_cons_of_mem d mem))).mpr (rest e mem)
  rw [List.filter_append, earlier, List.filter_cons_of_neg self, later, List.nil_append]

theorem returns_rest {size : Nat} (positive : 1 ≤ size) {post pre : List D}
    (split : docs = pre ++ post) (cuts : ∀ d ∈ post, Cuts after before docs d)
    {cursor : Option D} (here : behind after docs cursor = post) :
    Returns after docs size cursor post := by
  induction length : post.length using Nat.strongRecOn generalizing pre post cursor with
  | ind n ih =>
    have start : page after docs size cursor = post.take size := by rw [page, here]
    rcases List.eq_nil_or_concat (post.take size) with empty | ⟨init, d, last⟩
    · have none : post = [] := by
        rcases List.take_eq_nil_iff.mp empty with zero | none
        · omega
        · exact none
      subst none
      exact .done (start.trans empty)
    · have whole : post = init ++ d :: post.drop size := by
        conv_lhs => rw [← List.take_append_drop size post, last]
        simp
      have split' : docs = (pre ++ init) ++ d :: post.drop size := by
        rw [split, List.append_assoc, ← whole]
      have member : d ∈ post := by
        rw [whole]
        exact List.mem_append_right _ List.mem_cons_self
      have shorter : (post.drop size).length < n := by
        rw [← length, List.length_drop]
        have := List.length_pos_of_mem member
        omega
      have rest := @ih (post.drop size).length shorter _ (pre ++ init ++ [d])
        (by simpa using split') (fun e mem => cuts e (List.mem_of_mem_drop mem)) (some d)
        (filter_of_cuts sorted asymm split' (cuts d member)) rfl
      have last' : (page after docs size cursor).getLast? = some d := by
        rw [start, last]
        simp
      have run := Returns.more last' rest
      rwa [start, List.take_append_drop] at run

omit sorted asymm in
theorem exists_filter_split {test : D → Bool}
    (upward : ∀ d e, test d = true → before d e → test e = true) {l : List D}
    (ordered : l.Pairwise before) : ∃ skipped, l = skipped ++ l.filter test := by
  induction l with
  | nil => exact ⟨[], rfl⟩
  | cons d l ih =>
    obtain ⟨first, ordered⟩ := List.pairwise_cons.mp ordered
    by_cases kept : test d = true
    · have all : l.filter test = l :=
        List.filter_eq_self.mpr fun e mem => upward d e kept (first e mem)
      exact ⟨[], by rw [List.filter_cons_of_pos kept, all, List.nil_append]⟩
    · obtain ⟨skipped, split⟩ := ih ordered
      refine ⟨d :: skipped, ?_⟩
      rw [List.filter_cons_of_neg kept, List.cons_append, ← split]

omit sorted asymm in
theorem filter_taken_eq_nil {taken rest : List D} {size : Nat} (split : docs = taken ++ post)
    (run : Returns after docs (size + 1) (some d) rest) (once : (taken ++ rest).Nodup) :
    taken.filter (after d) = [] := by
  by_contra some
  obtain ⟨e, es, head⟩ := List.exists_cons_of_ne_nil some
  have start : page after docs (size + 1) (.some d) =
      e :: (es ++ post.filter (after d)).take size := by
    rw [page, behind, split, List.filter_append, head, List.cons_append, List.take_succ_cons]
  have last : (page after docs (size + 1) (.some d)).getLast? =
      .some ((e :: (es ++ post.filter (after d)).take size).getLast (List.cons_ne_nil _ _)) := by
    rw [start]
    exact List.getLast?_eq_some_getLast _
  obtain ⟨later, rfl, -⟩ := run.of_last last
  have returned : e ∈ taken.filter (after d) := by
    rw [head]
    exact List.mem_cons_self
  have again : e ∈ page after docs (size + 1) (.some d) := by
    rw [start]
    exact List.mem_cons_self
  exact (List.nodup_append.mp once).2.2 e (List.mem_of_mem_filter returned) e
    (List.mem_append_left _ again) rfl

variable (upward : ∀ d e f, after d e = true → before e f → after d f = true)

include upward

theorem filters_of_returns {pre : List D} (split : docs = (pre ++ [d]) ++ post)
    (later : ∀ e ∈ post, Cuts after before docs e) {items : List D}
    (run : Returns after docs (pre.length + 1) none items) (once : items.Perm docs) :
    (pre ++ [d]).filter (after d) = [] ∧ post.filter (after d) = post := by
  have nodup : docs.Nodup := by
    change docs.Pairwise fun d e => d ≠ e
    refine sorted.imp fun precedes same => ?_
    subst same
    exact asymm _ _ precedes precedes
  have first : page after docs (pre.length + 1) none = pre ++ [d] := by
    rw [page, behind, split]
    exact List.take_left' (by simp)
  have last : (page after docs (pre.length + 1) none).getLast? = some d := by
    rw [first]
    simp
  obtain ⟨rest, rfl, tail⟩ := run.of_last last
  rw [first] at once
  have earlier := filter_taken_eq_nil split tail (once.nodup_iff.mpr nodup)
  have here : behind after docs (some d) = post.filter (after d) := by
    rw [behind, split, List.filter_append, earlier, List.nil_append]
  -- What stands behind the cursor is an end of the list, and is returned as it is.
  obtain ⟨-, ordered, -⟩ := List.pairwise_append.mp (split ▸ sorted)
  obtain ⟨skipped, ends⟩ := exists_filter_split (upward d) ordered
  have rejoined : docs = (pre ++ [d] ++ skipped) ++ post.filter (after d) := by
    rw [List.append_assoc, ← ends]
    exact split
  have complete := returns_rest sorted asymm (Nat.le_add_left 1 pre.length) rejoined
    (fun e mem => later e (List.mem_of_mem_filter mem)) here
  obtain rfl := tail.unique complete
  refine ⟨earlier, List.filter_sublist.eq_of_length ?_⟩
  have count := once.length_eq.trans (congrArg List.length split)
  simp only [List.length_append] at count
  omega

theorem cuts_of_returns {pre : List D} (split : docs = (pre ++ [d]) ++ post)
    (later : ∀ e ∈ post, Cuts after before docs e) {items : List D}
    (run : Returns after docs (pre.length + 1) none items) (once : items.Perm docs) :
    Cuts after before docs d := by
  obtain ⟨earlier, all⟩ := filters_of_returns sorted asymm upward split later run once
  obtain ⟨front, -, across⟩ := List.pairwise_append.mp (split ▸ sorted)
  intro e mem
  rw [split, List.mem_append] at mem
  rcases mem with taken | remaining
  · refine iff_of_false (List.filter_eq_nil_iff.mp earlier e taken) fun precedes => ?_
    rcases List.mem_append.mp taken with inFront | self
    · have before_d := (List.pairwise_append.mp front).2.2 e inFront d List.mem_cons_self
      exact asymm e d before_d precedes
    · obtain rfl := List.mem_singleton.mp self
      exact asymm e e precedes precedes
  · refine iff_of_true (List.filter_eq_self.mp all e remaining) ?_
    exact across d (List.mem_append_right _ List.mem_cons_self) e remaining

/-- Pages of every size return each document once exactly if every cursor cuts the list where its
document stands. -/
theorem returns_all_iff :
    (∀ size, 1 ≤ size → ∃ items, Returns after docs size none items ∧ items.Perm docs) ↔
      ∀ d ∈ docs, Cuts after before docs d := by
  constructor
  · intro complete
    have ending : ∀ post pre : List D, docs = pre ++ post →
        ∀ d ∈ post, Cuts after before docs d := by
      intro post
      induction post with
      | nil => exact fun _ _ d mem => nomatch mem
      | cons d post ih =>
        intro pre split
        rw [List.append_cons] at split
        have later := ih (pre ++ [d]) split
        obtain ⟨items, run, once⟩ := complete (pre.length + 1) (Nat.le_add_left 1 _)
        have cuts := cuts_of_returns sorted asymm upward split later run once
        intro e mem
        rcases List.mem_cons.mp mem with rfl | mem
        · exact cuts
        · exact later e mem
    exact ending docs [] rfl
  · intro cuts size positive
    have run : Returns after docs size none docs := @returns_rest D after docs before sorted asymm
      size positive docs [] rfl cuts none rfl
    exact ⟨docs, run, .refl docs⟩

end Order

end DxCommonGo.CursorPages
