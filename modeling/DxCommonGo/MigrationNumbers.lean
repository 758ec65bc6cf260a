import DxCommonGo.DxErrors
import DxCommonGo.GoMaps
import DxCommonGo.Programs
import Mathlib.Data.Nat.Digits.Lemmas

/-! `dx new migration`. The number of a new pair of files is one more than the highest in the
directory, written with at least four digits and read back from exactly four. -/

namespace DxCommonGo.MigrationNumbers
open GoStrings GoMaps GoErrors DxErrors Programs

/-- What the command asks of the operating system; names are those of files in the directory. -/
inductive Op where
  | mkdirAll
  | readDir
  | stat (name : GoString)
  | writeFile (name contents : GoString)
  | print (text : GoString)

abbrev Reply : Op → Type
  | .mkdirAll => Option GoError
  | .readDir => Except GoError (List GoString)
  | .stat _ => Option GoError
  | .writeFile _ _ => Option GoError
  | .print _ => Unit

def path (name : GoString) : GoString := str "db/migrations/" ++ name

def migrationPrefix (name : GoString) : Option GoString :=
  ((cut 95 name).map Prod.fst).filter fun digits => digits.length = 4 && digits.all isDigit

def migrationNumber (name : GoString) : Option Int := (migrationPrefix name).bind atoi

def highest (names : List GoString) : Int :=
  names.foldl (fun max name => match migrationNumber name with
    | some n => if n > max then n else max
    | none => max) 0

def nextMigrationNumber (isNotExist : GoError → Bool) : Prog Op Reply (Except GoError Int) := do
  match ← perform Op.readDir with
  | .error err =>
    if isNotExist err then return .ok 1
    return .error (errorf (str "read db/migrations: %w") err)
  | .ok entries => return .ok (highest entries + 1)

def slugByte (b : UInt8) : Bool := 97 ≤ b && b ≤ 122 || isDigit b

def replaceRuns : Bool → GoString → GoString
  | _, [] => []
  | inRun, b :: rest =>
    if slugByte b then b :: replaceRuns false rest
    else if inRun then replaceRuns true rest
    else 95 :: replaceRuns true rest

def slugify (unicodeLower : GoString → GoString) (name : GoString) : GoString :=
  let s := replaceRuns false (toLower unicodeLower name)
  ((s.dropWhile (· = 95)).reverse.dropWhile (· = 95)).reverse

def padded (n : Int) : GoString := List.replicate (4 - (itoa n).length) 48 ++ itoa n

def writeIfAbsent (name contents : GoString) : Prog Op Reply (Option GoError) := do
  match ← perform (Op.stat name) with
  | none => return some (errorsNew (path name ++ str " already exists"))
  | some _ => perform (Op.writeFile name contents)

def createPair (base : GoString) : Prog Op Reply (Option GoError) := do
  let up := base ++ str ".up.sql"
  let down := base ++ str ".down.sql"
  match ← writeIfAbsent up (str "-- " ++ base ++ str ": describe the schema change here.\n") with
  | some err => return some err
  | none =>
    match ← writeIfAbsent down
        (str "-- " ++ base ++ str ": reverse of the .up.sql migration.\n") with
    | some err => return some err
    | none =>
      perform (Op.print (str "created " ++ path up ++ str "\ncreated " ++ path down ++ str "\n"))
      return none

variable (unicodeLower : GoString → GoString) (isNotExist : GoError → Bool)

def cmdNewMigration (args : List GoString) : Prog Op Reply (Option GoError) := do
  let name := args.headD []
  if args.length ≠ 1 ∨ trimSpace name = [] then
    return some (errorsNew (str "usage: dx new migration <name>"))
  let slug := slugify unicodeLower name
  if slug = [] then
    return some (errorsNew (str "migration name %q has no usable characters"))
  match ← perform Op.mkdirAll with
  | some err => return some (errorf (str "create db/migrations: %w") err)
  | none =>
    match ← nextMigrationNumber isNotExist with
    | .error err => return some err
    | .ok next => createPair (padded next ++ 95 :: slug)

abbrev Disk := Option (GoMap GoString)

def names (d : Disk) : List GoString := (d.getD ∅).keys

def disk : Handler Op Reply Disk
  | .mkdirAll, d => (none, some (d.getD ∅))
  | .readDir, d => (d.elim (.error (errorsNew (str "file does not exist"))) fun m => .ok m.keys, d)
  | .stat name, d =>
    (if ((d.getD ∅).lookup name).isSome then none
      else some (errorsNew (str "file does not exist")), d)
  | .writeFile name contents, d => (none, some ((d.getD ∅).insert name contents))
  | .print _, d => ((), d)

def version (name : GoString) : Option Nat := ((cut 95 name).map Prod.fst).bind decimal

def invoke (args : List GoString) (d : Disk) : Ending (Option GoError) × Disk :=
  run disk (cmdNewMigration unicodeLower isNotExist args) d

/-- Successful invocations one after the other, with the versions of what they create. -/
inductive Creates : Disk → List Nat → Prop
  | nil (d : Disk) : Creates d []
  | cons {d : Disk} {v : Nat} {vs : List Nat} (args : List GoString) (name : GoString)
    (ran : (invoke unicodeLower isNotExist args d).1 = .returned none)
    (created : name ∈ names (invoke unicodeLower isNotExist args d).2 ∧ name ∉ names d)
    (numbered : version name = some v)
    (rest : Creates (invoke unicodeLower isNotExist args d).2 vs) : Creates d (v :: vs)

section
variable (n : Nat) (rest : GoString)

theorem decimal_padded : decimal (padded n) = some n := by
  have zeros : ∀ k, decimal (List.replicate k 48 ++ itoaNat n) = some n := by
    intro k
    induction k with
    | zero => exact decimal_itoaNat n
    | succ k ih => exact decimal_zero ih
  exact zeros _

theorem cut_padded : cut 95 (padded n ++ 95 :: rest) = some (padded n, rest) := by
  refine cut_append (fun mem => ?_) rest
  have digit := List.all_eq_true.mp (digits_of_decimal (decimal_padded n)).2 95 mem
  cases digit

theorem version_padded : version (padded n ++ 95 :: rest) = some n := by
  rw [version, cut_padded, Option.map_some, Option.bind_some, decimal_padded]

theorem length_padded : (padded n).length = 4 ↔ n ≤ 9999 := by
  have digits : (itoaNat n).length ≤ 4 ↔ n ≤ 9999 := by
    unfold itoaNat
    split_ifs with zero
    · simp [zero]
    · rw [List.length_map, List.length_reverse, Nat.digits_length_le_iff (by decide)]
      omega
  have length : (padded n).length = 4 - (itoaNat n).length + (itoaNat n).length := by
    rw [padded, List.length_append, List.length_replicate]
    rfl
  omega

theorem migrationNumber_padded :
    migrationNumber (padded n ++ 95 :: rest) = if n ≤ 9999 then some (n : Int) else none := by
  have digits := (digits_of_decimal (decimal_padded n)).2
  rw [migrationNumber, migrationPrefix, cut_padded, Option.map_some, Option.filter_some]
  by_cases short : n ≤ 9999
  · rw [if_pos short, if_pos (by simp [length_padded n |>.mpr short, digits]), Option.bind_some]
    exact atoi_of_decimal (decimal_padded n) (by omega)
  · have long : (padded n).length ≠ 4 := fun four => short ((length_padded n).mp four)
    rw [if_neg short, if_neg (by simp [long]), Option.bind_none]

variable {n rest}

theorem eq_of_migrationNumber_padded {m : Int}
    (number : migrationNumber (padded n ++ 95 :: rest) = some m) : m = n := by
  rw [migrationNumber_padded] at number
  split_ifs at number
  exact (Option.some.inj number).symm
end

theorem migrationNumber_le {name : GoString} {n : Int} (h : migrationNumber name = some n) :
    n ≤ 9999 := by
  obtain ⟨digits, found, value⟩ := Option.bind_eq_some_iff.mp h
  have pattern := (Option.filter_eq_some_iff.mp found).2
  rw [Bool.and_eq_true, decide_eq_true_eq] at pattern
  obtain ⟨m, read⟩ : ∃ m, decimal digits = some m := by
    refine ⟨_, if_pos ⟨?_, pattern.2⟩⟩
    rintro rfl
    cases pattern.1
  have small := decimal_lt read
  rw [pattern.1] at small
  rw [atoi_of_decimal read (by omega), Option.some.injEq] at value
  omega

theorem foldl_highest_le_iff (ns : List GoString) (start b : Int) :
    ns.foldl (fun max name => match migrationNumber name with
      | some n => if n > max then n else max
      | none => max) start ≤ b ↔
      start ≤ b ∧ ∀ name ∈ ns, ∀ n, migrationNumber name = some n → n ≤ b := by
  induction ns generalizing start with
  | nil => simp
  | cons name ns ih =>
    rw [List.foldl_cons, ih, List.forall_mem_cons]
    cases number : migrationNumber name with
    | none => simp
    | some n =>
      simp only [Option.some.injEq, forall_eq']
      split_ifs with greater
      · exact ⟨fun h => ⟨by omega, h⟩, fun h => h.2⟩
      · exact ⟨fun h => ⟨h.1, by omega, h.2⟩, fun h => ⟨h.1, h.2.2⟩⟩

theorem highest_le_iff {ns : List GoString} {b : Int} :
    highest ns ≤ b ↔ 0 ≤ b ∧ ∀ name ∈ ns, ∀ n, migrationNumber name = some n → n ≤ b :=
  foldl_highest_le_iff ns 0 b

theorem highest_le (ns : List GoString) : highest ns ≤ 9999 :=
  highest_le_iff.mpr ⟨by decide, fun _ _ _ => migrationNumber_le⟩

theorem le_highest {ns : List GoString} {name : GoString} (mem : name ∈ ns) {n : Int}
    (number : migrationNumber name = some n) : n ≤ highest ns :=
  (highest_le_iff.mp le_rfl).2 name mem n number

theorem highest_nonneg (ns : List GoString) : 0 ≤ highest ns := (highest_le_iff.mp le_rfl).1

section
variable {unicodeLower isNotExist} {d d' : Disk} {args : List GoString} {vs : List Nat}

theorem names_writeIfAbsent {name contents : GoString}
    (ran : run disk (writeIfAbsent name contents) d = (.returned none, d')) :
    name ∉ names d ∧ ∀ x, x ∈ names d' ↔ x = name ∨ x ∈ names d := by
  obtain ⟨found, _, ⟨⟩, rest⟩ := run_bind_returned.mp ran
  by_cases present : ((d.getD ∅).lookup name).isSome = true
  · simp only [disk, if_pos present] at rest
    cases rest
  · simp only [disk, if_neg present] at rest
    cases rest
    exact ⟨mt AList.lookup_isSome.mpr present, fun x => AList.mem_insert _⟩

theorem names_createPair {base : GoString}
    (ran : run disk (createPair base) d = (.returned none, d')) :
    base ++ str ".up.sql" ∉ names d ∧ ∀ x, x ∈ names d' ↔
      (x = base ++ str ".up.sql" ∨ x = base ++ str ".down.sql") ∨ x ∈ names d := by
  obtain ⟨upErr, d1, wroteUp, rest⟩ := run_bind_returned.mp ran
  cases upErr with
  | some err => cases rest
  | none =>
    obtain ⟨downErr, d2, wroteDown, rest⟩ := run_bind_returned.mp rest
    cases downErr with
    | some err => cases rest
    | none =>
      cases rest
      obtain ⟨absent, listedUp⟩ := names_writeIfAbsent wroteUp
      refine ⟨absent, fun x => ?_⟩
      change x ∈ names d2 ↔ _
      rw [(names_writeIfAbsent wroteDown).2, listedUp]
      tauto

theorem exists_next : ∃ n : Nat, highest (names d) + 1 = n :=
  Int.eq_ofNat_of_zero_le (Int.add_nonneg (highest_nonneg (names d)) Int.one_nonneg)

variable (ran : (invoke unicodeLower isNotExist args d).1 = .returned none)
include ran

theorem names_invoke : ∃ up down, padded (highest (names d) + 1) ++ 95 :: up ∉ names d ∧
    ∀ x, x ∈ names (invoke unicodeLower isNotExist args d).2 ↔
      (x = padded (highest (names d) + 1) ++ 95 :: up ∨
        x = padded (highest (names d) + 1) ++ 95 :: down) ∨ x ∈ names d := by
  obtain ⟨d', done⟩ : ∃ d', invoke unicodeLower isNotExist args d = (.returned none, d') :=
    ⟨_, Prod.ext ran rfl⟩
  rw [done]
  unfold invoke cmdNewMigration at done
  dsimp only at done
  split_ifs at done with usage unusable
  · cases done
  · cases done
  · obtain ⟨_, _, ⟨⟩, rest⟩ := run_bind_returned.mp done
    obtain ⟨_, _, ⟨⟩, rest⟩ := run_bind_returned.mp rest
    refine ⟨slugify unicodeLower (args.headD []) ++ str ".up.sql",
      slugify unicodeLower (args.headD []) ++ str ".down.sql", ?_⟩
    have listed := names_createPair rest
    simp only [List.append_assoc, List.cons_append] at listed
    exact listed

theorem exists_created : ∃ name v, (name ∈ names (invoke unicodeLower isNotExist args d).2 ∧
    name ∉ names d) ∧ version name = some v := by
  obtain ⟨up, down, absent, listed⟩ := names_invoke ran
  obtain ⟨n, next⟩ := exists_next (d := d)
  rw [next] at absent listed
  exact ⟨_, n, ⟨(listed _).mpr (.inl (.inl rfl)), absent⟩, version_padded n up⟩

theorem version_created {name : GoString} {v : Nat} (numbered : version name = some v)
    (created : name ∈ names (invoke unicodeLower isNotExist args d).2 ∧ name ∉ names d) :
    (v : Int) = highest (names d) + 1 := by
  obtain ⟨up, down, -, listed⟩ := names_invoke ran
  obtain ⟨n, next⟩ := exists_next (d := d)
  rw [next] at listed ⊢
  rcases ((listed name).mp created.1).resolve_right created.2 with rfl | rfl <;>
  · rw [version_padded, Option.some.injEq] at numbered
    rw [numbered]

theorem highest_invoke : highest (names (invoke unicodeLower isNotExist args d).2) =
    min 9999 (highest (names d) + 1) := by
  obtain ⟨up, down, -, listed⟩ := names_invoke ran
  obtain ⟨n, next⟩ := exists_next (d := d)
  generalize names (invoke unicodeLower isNotExist args d).2 = after at listed ⊢
  rw [next] at listed ⊢
  have atMost := highest_le (names d)
  have kept : highest (names d) ≤ highest after :=
    highest_le_iff.mpr ⟨highest_nonneg _, fun _ mem _ => le_highest ((listed _).mpr (.inr mem))⟩
  have found : n ≤ 9999 → (n : Int) ≤ highest after := by
    intro short
    refine le_highest ((listed _).mpr (.inl (.inl rfl))) ?_
    exact (migrationNumber_padded n up).trans (if_pos short)
  have newest : highest after ≤ min 9999 n := by
    refine highest_le_iff.mpr ⟨by omega, fun x mem m number => ?_⟩
    have short := migrationNumber_le number
    rcases (listed x).mp mem with (rfl | rfl) | old
    · have := eq_of_migrationNumber_padded number
      omega
    · have := eq_of_migrationNumber_padded number
      omega
    · have := le_highest old number
      omega
  omega

omit ran

theorem Creates.versions (created : Creates unicodeLower isNotExist d vs) :
    ∀ i (within : i < vs.length), (vs[i] : Int) = min 9999 (highest (names d) + i) + 1 := by
  induction created with
  | nil d => exact fun i within => absurd within (Nat.not_lt_zero i)
  | @cons d _ _ args name ran created numbered rest ih =>
    intro i within
    cases i with
    | zero =>
      have := highest_le (names d)
      rw [List.getElem_cons_zero, version_created ran numbered created]
      omega
    | succ i =>
      rw [List.getElem_cons_succ, ih i (Nat.lt_of_succ_lt_succ within), highest_invoke ran]
      omega

/-- Numbers grow up to 10000, and only names of the pattern are taken into account. -/
theorem versions_increase_iff (created : Creates unicodeLower isNotExist d vs) :
    (vs.Pairwise (· < ·) ∧
      ∀ v ∈ vs, ∀ name ∈ names d, ∀ p, version name = some p → p < v) ↔
    vs = [] ∨
      (∀ name ∈ names d, ∀ p, version name = some p → (p : Int) ≤ highest (names d)) ∧
        highest (names d) + vs.length ≤ 10000 := by
  have numbers := created.versions
  have atMost := highest_le (names d)
  rw [List.pairwise_iff_getElem]
  constructor
  · rintro ⟨increasing, greater⟩
    by_cases empty : vs = []
    · exact .inl empty
    have pos : 0 < vs.length := List.length_pos_iff.mpr empty
    refine .inr ⟨fun name mem p prefixed => ?_, ?_⟩
    · have first := numbers 0 pos
      have := greater vs[0] (List.getElem_mem pos) name mem p prefixed
      omega
    · by_cases one : vs.length = 1
      · omega
      · have last := numbers (vs.length - 1) (by omega)
        have before := numbers (vs.length - 2) (by omega)
        have := increasing (vs.length - 2) (vs.length - 1) (by omega) (by omega) (by omega)
        omega
  · rintro (rfl | ⟨covered, room⟩)
    · simp
    refine ⟨fun i j hi hj less => ?_, fun v mem name present p prefixed => ?_⟩
    · have low := numbers i hi
      have high := numbers j hj
      omega
    · obtain ⟨i, hi, rfl⟩ := List.getElem_of_mem mem
      have number := numbers i hi
      have := covered name present p prefixed
      omega
end

theorem versions_increase_first : Creates id (fun _ => false) none [1, 2] ∧
    [1, 2].Pairwise (fun v w : Nat => v < w) := by
  have created : Creates id (fun _ => false) none [1, 2] :=
    .cons [str "Add users"] (str "0001_add_users.up.sql") rfl (by decide) (by decide)
      (.cons [str "b"] (str "0002_b.down.sql") rfl (by decide) (by decide) (.nil _))
  exact ⟨created, ((versions_increase_iff created).mpr (.inr ⟨nofun, by decide⟩)).1⟩

/-- From 9999 on every invocation creates the number 10000. -/
theorem versions_repeat :
    Creates id (fun _ => false) (some (AList.singleton (str "9999_x.up.sql") [])) [10000, 10000] ∧
      ¬ [10000, 10000].Pairwise (fun v w : Nat => v < w) :=
  ⟨.cons [str "a"] (str "10000_a.up.sql") rfl (by decide) (by decide)
    (.cons [str "b"] (str "10000_b.up.sql") rfl (by decide) (by decide) (.nil _)), by decide⟩

end DxCommonGo.MigrationNumbers
