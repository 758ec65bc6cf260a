import DxCommonGo.CursorPages
import DxCommonGo.EsQueries
import DxCommonGo.Float64Integers

/-! `Repo.SearchAfter` against an index that does not change. The sort value of the last hit is
decoded into a floating point number and encoded again as the next cursor. -/

namespace DxCommonGo.SearchAfter
open GoStrings GoMaps GoJson EsQueries Float64Integers CursorPages

def follows (descending : Bool) (c v : Int) : Bool := if descending then v < c else c < v

/-- The matching documents in the order of their sort values, which are unique and have 64 bits. -/
structure SortedIndex (D : Type) where
  key : D → Int
  descending : Bool
  docs : List D
  sorted : docs.Pairwise fun d e => follows descending (key d) (key e) = true
  bounded : ∀ d ∈ docs, -2 ^ 63 ≤ key d ∧ key d < 2 ^ 63

variable {D : Type}

section Server

def received (body : GoMap GoAny) (name : String) : Option Json :=
  (body.lookup (str name)).bind fun value => (marshal value).toOption

def readSize (body : GoMap GoAny) : Nat :=
  ((received body "size").bind Json.integer).elim 10 Int.toNat

def oneInteger : Json → Option Int
  | .array [value] => value.integer
  | _ => none

def readCursor (body : GoMap GoAny) : Option Int :=
  (received body "search_after").bind oneInteger

def SortedIndex.answer (ix : SortedIndex D) (body : GoMap GoAny) : List D :=
  (ix.docs.filter fun d => (readCursor body).all fun c => follows ix.descending c (ix.key d)).take
    (readSize body)

end Server

section Client

structure Hit (D : Type) where
  source : D
  sort : List GoAny

/-- A number decoded into `any`; it is encoded without an exponent, being below `10 ^ 21`. -/
def decodedNumber (v : Int) : GoAny := ofInt (decimalOf (float64 v))

def SortedIndex.search (ix : SortedIndex D) (req : SearchRequest) : List (Hit D) :=
  (ix.answer req.body).map fun d => ⟨d, [decodedNumber (ix.key d)]⟩

def request (q : Query) (sort : List (Option (GoMap GoString))) (after : List GoAny) (size : Int) :
    SearchRequest :=
  { query := q, sort := sort, size := size, searchAfter := after }

def SortedIndex.searchAfter (ix : SortedIndex D) (q : Query)
    (sort : List (Option (GoMap GoString))) (after : List GoAny) (size : Int) :
    List D × List GoAny :=
  let hits := ix.search (request q sort after size)
  (hits.map Hit.source, hits.getLast?.elim [] Hit.sort)

/-- Calls with each returned cursor, starting with this one, end with a nil cursor and have
returned these items. -/
inductive Calls (ix : SortedIndex D) (q : Query) (sort : List (Option (GoMap GoString)))
    (size : Int) : List GoAny → List D → Prop
  | last {after items} (call : ix.searchAfter q sort after size = (items, [])) :
      Calls ix q sort size after items
  | more {after items next rest} (call : ix.searchAfter q sort after size = (items, next))
      (more : next ≠ []) (later : Calls ix q sort size next rest) :
      Calls ix q sort size after (items ++ rest)

end Client

section Requests

variable {q : Query} {sort : List (Option (GoMap GoString))} {after : List GoAny} {size : Int}

theorem readSize_request (positive : 1 ≤ size) :
    readSize (request q sort after size).body = size.toNat := by
  have set : 0 < size := by omega
  have unset : ¬size ≤ 0 := by omega
  simp (disch := decide) only [readSize, received, SearchRequest.body, request, lookup_setIf_ne,
    lookup_setIf_self, set, unset, decide_true, decide_false, Bool.false_and, Bool.false_eq_true,
    if_true, if_false, Option.bind_some]
  change Option.elim (readInteger (itoa size)) 10 Int.toNat = size.toNat
  rw [readInteger_itoa]
  rfl

theorem readCursor_nil : readCursor (request q sort [] size).body = none := by
  simp (disch := decide) only [readCursor, received, SearchRequest.body, request, lookup_setIf_ne,
    lookup_setIf_self, List.isEmpty_nil, Bool.not_true, Bool.false_eq_true, if_false]
  rfl

theorem readCursor_ofInt (c : Int) : readCursor (request q sort [ofInt c] size).body = some c := by
  simp (disch := decide) only [readCursor, received, SearchRequest.body, request, lookup_setIf_ne,
    lookup_setIf_self, List.isEmpty_cons, Bool.not_false, if_true, Option.bind_some]
  exact readInteger_itoa c

end Requests

section Pages

variable (ix : SortedIndex D) {q : Query} {sort : List (Option (GoMap GoString))} {size : Int}

def SortedIndex.cursor : Option D → List GoAny
  | none => []
  | some d => [decodedNumber (ix.key d)]

def SortedIndex.after (d e : D) : Bool :=
  follows ix.descending (decimalOf (float64 (ix.key d))) (ix.key e)

theorem answer_eq (positive : 1 ≤ size) (c : Option D) :
    ix.answer (request q sort (ix.cursor c) size).body = page ix.after ix.docs size.toNat c := by
  rw [SortedIndex.answer, readSize_request positive, page]
  congr 1
  cases c with
  | none =>
    rw [SortedIndex.cursor, readCursor_nil]
    exact List.filter_eq_self.mpr fun _ _ => rfl
  | some d =>
    rw [SortedIndex.cursor, decodedNumber, readCursor_ofInt]
    rfl

theorem searchAfter_eq (positive : 1 ≤ size) (c : Option D) :
    ix.searchAfter q sort (ix.cursor c) size =
      (page ix.after ix.docs size.toNat c,
        (page ix.after ix.docs size.toNat c).getLast?.elim [] fun d => ix.cursor (some d)) := by
  simp only [SortedIndex.searchAfter, SortedIndex.search, answer_eq ix positive, List.map_map,
    List.getLast?_map]
  refine Prod.ext ?_ ?_
  · exact List.map_id _
  · cases (page ix.after ix.docs size.toNat c).getLast? <;> rfl

theorem calls_iff (positive : 1 ≤ size) (c : Option D) (items : List D) :
    Calls ix q sort size (ix.cursor c) items ↔ Returns ix.after ix.docs size.toNat c items := by
  constructor
  · intro calls
    generalize given : ix.cursor c = after at calls
    induction calls generalizing c with
    | last call =>
      rw [← given, searchAfter_eq ix positive] at call
      obtain ⟨rfl, ended⟩ := Prod.mk.inj call
      cases last : (page ix.after ix.docs size.toNat c).getLast? with
      | none =>
        have empty := List.getLast?_eq_none_iff.mp last
        rw [empty]
        exact .done empty
      | some d => rw [last] at ended; cases ended
    | more call more later ih =>
      rw [← given, searchAfter_eq ix positive] at call
      obtain ⟨rfl, rfl⟩ := Prod.mk.inj call
      cases last : (page ix.after ix.docs size.toNat c).getLast? with
      | none => rw [last] at more; exact absurd rfl more
      | some d => exact .more last (ih (some d) (by rw [last]; rfl))
  · intro run
    induction run with
    | done empty =>
      refine .last ?_
      rw [searchAfter_eq ix positive, empty]
      rfl
    | @more c d rest last later ih =>
      have call := @searchAfter_eq D ix q sort size positive c
      rw [last] at call
      exact .more call (List.cons_ne_nil _ _) ih

theorem follows_asymm {descending : Bool} {c v : Int} (h : follows descending c v = true) :
    ¬follows descending v c = true := by
  cases descending <;> simp_all [follows] <;> omega

theorem follows_trans {descending : Bool} {a b c : Int} (first : follows descending a b = true)
    (second : follows descending b c = true) : follows descending a c = true := by
  cases descending <;> simp_all [follows] <;> omega

def Complete (q : Query) (sort : List (Option (GoMap GoString))) : Prop :=
  ∀ size : Int, 1 ≤ size → ∃ items, Calls ix q sort size [] items ∧ items.Perm ix.docs

theorem complete_iff_returns (q : Query) (sort : List (Option (GoMap GoString))) :
    Complete ix q sort ↔ ∀ size, 1 ≤ size →
      ∃ items, Returns ix.after ix.docs size none items ∧ items.Perm ix.docs := by
  constructor
  · intro complete size positive
    obtain ⟨items, calls, once⟩ := complete size (by omega)
    exact ⟨items, (calls_iff ix (by omega) none items).mp calls, once⟩
  · intro complete size positive
    obtain ⟨items, run, once⟩ := complete size.toNat (by omega)
    exact ⟨items, (calls_iff ix positive none items).mpr run, once⟩

end Pages

/-- Paging returns every document once, whatever the size of the pages, exactly if the decimal of
the number next to each sort value stands in the same place among the sort values; as it does for
values of up to 53 bits. -/
theorem searchAfter_complete_iff (ix : SortedIndex D) (q : Query)
    (sort : List (Option (GoMap GoString))) :
    (Complete ix q sort ↔ ∀ d ∈ ix.docs, ∀ e ∈ ix.docs,
        (follows ix.descending (decimalOf (float64 (ix.key d))) (ix.key e) = true ↔
          follows ix.descending (ix.key d) (ix.key e) = true)) ∧
      ((∀ d ∈ ix.docs, (ix.key d).natAbs < 2 ^ 53) → Complete ix q sort) := by
  have cuts := @returns_all_iff D ix.after ix.docs _ ix.sorted (fun _ _ h => follows_asymm h)
    fun _ _ _ first second => follows_trans first second
  refine ⟨(complete_iff_returns ix q sort).trans cuts, fun small => ?_⟩
  refine ((complete_iff_returns ix q sort).trans cuts).mpr fun d mem e _ => ?_
  rw [SortedIndex.after, decimalOf_float64 (small d mem)]

def neighbours : SortedIndex Int where
  key := id
  descending := false
  docs := [2 ^ 53, 2 ^ 53 + 1]
  sorted := by decide
  bounded := by decide

/-- The cursor of the second page leads to the second page again. -/
theorem neighbours_endless :
    ¬∃ items, Calls neighbours none [some (ofPairs [(str "seq", str "asc")])] 1 [] items := by
  rintro ⟨items, calls⟩
  have run := (calls_iff neighbours (c := none) (by decide) items).mp calls
  obtain ⟨rest, -, run⟩ := run.of_last (d := 2 ^ 53) (by decide +kernel)
  obtain ⟨rest, -, run⟩ := run.of_last (d := 2 ^ 53 + 1) (by decide +kernel)
  exact not_returns_of_last_self (by decide +kernel) rest run

end DxCommonGo.SearchAfter
