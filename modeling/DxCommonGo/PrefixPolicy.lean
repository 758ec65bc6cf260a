import DxCommonGo.DxErrors
import DxCommonGo.GlobPatterns
import DxCommonGo.GoUtf8

/-! The inline policies of package `sts`, and how IAM reads them: `*` and `?` are wildcards wherever
they come from. A policy is given as what is decoded from its JSON. -/

namespace DxCommonGo.PrefixPolicy
open GoStrings DxErrors GoUtf8 GlobPatterns

structure Statement where
  effect : GoString
  action : List GoString
  resource : List GoString
  stringLike : List (GoString × List GoString)

structure Policy where
  version : GoString
  statement : List Statement

def Policy.marshal (p : Policy) : Policy where
  version := coerce p.version
  statement := p.statement.map fun s =>
    { effect := coerce s.effect
      action := s.action.map coerce
      resource := s.resource.map coerce
      stringLike := s.stringLike.map fun c => (coerce c.1, c.2.map coerce) }

def readActions : List GoString := [str "s3:GetObject"]

def readWriteActions : List GoString :=
  [str "s3:GetObject", str "s3:PutObject", str "s3:DeleteObject"]

def trimSlash (s : GoString) : GoString := if s.getLast? = some 47 then s.dropLast else s

def normalise (keyPrefix : GoString) : GoString := trimSlash keyPrefix ++ [47]

def bucketArn (bucket : GoString) : GoString := str "arn:aws:s3:::" ++ bucket

def objectArn (bucket key : GoString) : GoString := bucketArn bucket ++ 47 :: key

def listBucket : GoString := str "s3:ListBucket"

def s3Prefix : GoString := str "s3:prefix"

def prefixPolicy (bucket keyPrefix : GoString) (objectActions : List GoString) :
    Except GoError Policy :=
  if bucket.isEmpty then .error (errorsNew (str "sts.PrefixPolicy: bucket is required"))
  else if objectActions.isEmpty then
    .error (errorsNew (str "sts.PrefixPolicy: at least one object action is required"))
  else
    let keyPrefix := normalise keyPrefix
    .ok (Policy.marshal
      { version := str "2012-10-17"
        statement :=
          [{ effect := str "Allow"
             action := objectActions
             resource := [objectArn bucket (keyPrefix ++ [42])]
             stringLike := [] },
           { effect := str "Allow"
             action := [listBucket]
             resource := [bucketArn bucket]
             stringLike := [(s3Prefix, [keyPrefix ++ [42]])] }] })

def prefixReadOnlyPolicy (bucket keyPrefix : GoString) : Except GoError Policy :=
  prefixPolicy bucket keyPrefix readActions

def oneChar : Piece UInt8
  | [] => false
  | b :: rest => following b rest = some rest.length

def likePiece (b : UInt8) : Piece UInt8 :=
  if b = 42 then Piece.star else if b = 63 then oneChar else Piece.letter b

def like (pattern s : GoString) : Bool := accepts (pattern.map likePiece) s

structure Request where
  action : GoString
  resource : GoString
  context : GoString → Option GoString

def Statement.allows (s : Statement) (r : Request) : Bool :=
  s.effect = str "Allow" && s.action.any (like · r.action) && s.resource.any (like · r.resource) &&
    s.stringLike.all fun c => (r.context c.1).any fun value => c.2.any (like · value)

def Policy.allows (p : Policy) (r : Request) : Bool := p.statement.any (·.allows r)

def listRequest (bucket : GoString) (listed : Option GoString) : Request :=
  ⟨listBucket, bucketArn bucket, fun key => if key = s3Prefix then listed else none⟩

/-- The actions are allowed on the objects of the bucket under the prefix and on no others, and
what is listed is under it as well. The name of a bucket has no slash. -/
structure Confined (p : Policy) (bucket keyPrefix : GoString) (actions : List GoString) :
    Prop where
  objects : ∀ action ∈ actions, ∀ bucket' key context, 47 ∉ bucket' →
    (p.allows ⟨action, objectArn bucket' key, context⟩ = true ↔
      bucket' = bucket ∧ keyPrefix <+: key)
  listing : ∀ bucket' listed, 47 ∉ bucket' → p.allows (listRequest bucket' listed) = true →
    bucket' = bucket ∧ ∃ start, listed = some start ∧ keyPrefix <+: start

def Plain (s : GoString) : Prop := validString s = true ∧ 42 ∉ s ∧ 63 ∉ s

section Patterns

variable {s u v : GoString}

theorem forall₂_self (s : GoString) :
    List.Forall₂ (fun p b => p [b] = true) (s.map likePiece) s := by
  rw [List.forall₂_map_left_iff]
  refine List.forall₂_same.mpr fun b _ => ?_
  unfold likePiece
  split_ifs with star one
  · rfl
  · rw [one]
    decide
  · simp [Piece.letter, Piece.one]

theorem like_self (s : GoString) : like s s = true := accepts_of_forall₂ (forall₂_self s)

theorem like_other {c x : UInt8} (wild : c = 42 ∨ c = 63) (ascii : x < 0x80) :
    like (u ++ c :: v) (u ++ x :: v) = true := by
  refine accepts_of_forall₂ ?_
  rw [List.map_append, List.map_cons]
  refine List.rel_append (forall₂_self u) (.cons ?_ (forall₂_self v))
  obtain rfl | rfl := wild
  · rfl
  · simp [likePiece, oneChar, following, first, ascii, continues]

theorem map_likePiece (star : 42 ∉ s) (one : 63 ∉ s) : s.map likePiece = literal s := by
  refine List.map_congr_left fun b mem => ?_
  have notStar : b ≠ 42 := fun same => star (same ▸ mem)
  have notOne : b ≠ 63 := fun same => one (same ▸ mem)
  rw [likePiece, if_neg notStar, if_neg notOne]

theorem like_iff (star : 42 ∉ s) (one : 63 ∉ s) : like s u = true ↔ u = s := by
  rw [like, map_likePiece star one, accepts_literal]

theorem like_star_iff (star : 42 ∉ s) (one : 63 ∉ s) : like (s ++ [42]) u = true ↔ s <+: u := by
  rw [like, List.map_append, map_likePiece star one]
  exact accepts_literal_star

end Patterns

theorem coerce_star (s : GoString) : coerce (s ++ [42]) = coerce s ++ [42] :=
  coerce_append (by decide) s []

section Arns

variable {bucket bucket' key key' : GoString}

theorem coerce_bucketArn (bucket : GoString) :
    coerce (bucketArn bucket) = bucketArn (coerce bucket) :=
  coerce_append (a := 58) (by decide) (str "arn:aws:s3::") bucket

theorem coerce_objectArn (bucket key : GoString) :
    coerce (objectArn bucket key) = objectArn (coerce bucket) (coerce key) := by
  rw [objectArn, coerce_append (by decide), coerce_bucketArn]
  rfl

theorem objectArn_start (free : 47 ∉ bucket) (free' : 47 ∉ bucket') :
    objectArn bucket key <+: objectArn bucket' key' ↔ bucket' = bucket ∧ key <+: key' := by
  constructor
  · rintro ⟨rest, same⟩
    simp only [objectArn, bucketArn, List.append_assoc, List.append_cancel_left_eq,
      List.cons_append] at same
    have parts := congrArg (cut 47) same
    rw [cut_append free, cut_append free'] at parts
    cases parts
    exact ⟨rfl, List.prefix_append key rest⟩
  · rintro ⟨rfl, rest, rfl⟩
    exact ⟨rest, by simp [objectArn]⟩

theorem objectArn_ne_bucketArn (free : 47 ∉ bucket) :
    objectArn bucket' key ≠ bucketArn bucket := by
  intro same
  rw [objectArn, bucketArn, bucketArn, List.append_assoc, List.append_cancel_left_eq] at same
  exact free (same ▸ List.mem_append_right bucket' List.mem_cons_self)

theorem not_mem_bucketArn {c : UInt8} (fixed : c ∉ str "arn:aws:s3:::") (free : c ∉ bucket) :
    c ∉ bucketArn bucket := by
  rw [bucketArn, List.mem_append, not_or]
  exact ⟨fixed, free⟩

theorem not_mem_objectArn {c : UInt8} (fixed : c ∉ str "arn:aws:s3:::") (slash : c ≠ 47)
    (free : c ∉ bucket) (free' : c ∉ key) : c ∉ objectArn bucket key := by
  rw [objectArn, List.mem_append, List.mem_cons, not_or, not_or]
  exact ⟨not_mem_bucketArn fixed free, slash, free'⟩

end Arns

theorem allows_iff {bucket keyPrefix : GoString} {actions : List GoString} {p : Policy}
    (built : prefixPolicy bucket keyPrefix actions = .ok p) (r : Request) :
    p.allows r = true ↔
      ((∃ action ∈ actions, like (coerce action) r.action = true) ∧
        like (objectArn (coerce bucket) (coerce (normalise keyPrefix) ++ [42])) r.resource = true) ∨
      (like listBucket r.action = true ∧ like (bucketArn (coerce bucket)) r.resource = true ∧
        ∃ value, r.context s3Prefix = some value ∧
          like (coerce (normalise keyPrefix) ++ [42]) value = true) := by
  unfold prefixPolicy at built
  split_ifs at built
  cases built
  have allow : coerce (str "Allow") = str "Allow" := by decide
  have list : coerce listBucket = listBucket := by decide
  have key : coerce s3Prefix = s3Prefix := by decide
  simp [Policy.allows, Policy.marshal, Statement.allows, coerce_objectArn, coerce_bucketArn,
    coerce_star, allow, list, key, Option.any_eq_true, and_assoc]

theorem normalise_eq (s : GoString) : normalise s = s ∨ normalise s = s ++ [47] := by
  unfold normalise trimSlash
  split_ifs with slash
  · obtain ⟨rest, same⟩ := List.getLast?_eq_some_iff.mp slash
    rw [same, List.dropLast_concat]
    exact .inl rfl
  · exact .inr rfl

theorem plain_normalise {s : GoString} : Plain (normalise s) ↔ Plain s := by
  unfold Plain
  obtain same | same := normalise_eq s
  · rw [same]
  · have valid : validString (s ++ [47]) = true ↔ validString s = true := by
      rw [validString_append (by decide)]
      exact and_iff_left rfl
    rw [same, valid]
    simp

theorem validString_normalise {s : GoString}
    (start : normalise s <+: coerce (normalise s) ++ [42]) : validString (normalise s) = true := by
  obtain ⟨rest, same⟩ := start
  have whole : validString (normalise s ++ rest) = true := by
    rw [same, ← coerce_star]
    exact validString_coerce _
  rw [normalise, List.append_assoc] at whole
  exact (validString_append (by decide) _ _).mpr
    ⟨((validString_append (by decide) _ _).mp whole).1, rfl⟩

section Wildcards

variable {c : UInt8} (wild : c = 42 ∨ c = 63) (u v : GoString)

include wild

theorem like_other_bucket (key : GoString) :
    like (objectArn (u ++ c :: v) key) (objectArn (u ++ 97 :: v) key) = true := by
  have matched := @like_other (str "arn:aws:s3:::" ++ u) (v ++ 47 :: key) c 97 wild (by decide)
  simpa [objectArn, bucketArn] using matched

theorem like_other_key (bucket : GoString) :
    like (objectArn bucket (u ++ c :: v)) (objectArn bucket (u ++ 97 :: v)) = true := by
  have matched := @like_other (bucketArn bucket ++ 47 :: u) v c 97 wild (by decide)
  simpa [objectArn] using matched

theorem ne_other : c ≠ 97 := by
  obtain rfl | rfl := wild <;> decide

end Wildcards

section Confinement

variable {bucket keyPrefix : GoString} {actions : List GoString} {p : Policy}
  (built : prefixPolicy bucket keyPrefix actions = .ok p)

include built

theorem allows_object {action resource : GoString} {context : GoString → Option GoString}
    (mem : action ∈ actions) (valid : validString action = true)
    (matched : like (objectArn (coerce bucket) (coerce (normalise keyPrefix) ++ [42])) resource =
      true) : p.allows ⟨action, resource, context⟩ = true := by
  refine (allows_iff built _).mpr (.inl ⟨⟨action, mem, ?_⟩, matched⟩)
  rw [coerce_eq_self_iff.mpr valid]
  exact like_self action

theorem confined_of_plain (plain : Plain bucket) (free : 47 ∉ bucket) (plain' : Plain keyPrefix)
    (named : ∀ action ∈ actions, validString action = true) :
    Confined p bucket (normalise keyPrefix) actions := by
  obtain ⟨valid, star, one⟩ := plain
  obtain ⟨valid', star', one'⟩ := plain_normalise.mpr plain'
  have own : coerce bucket = bucket := coerce_eq_self_iff.mpr valid
  have own' : coerce (normalise keyPrefix) = normalise keyPrefix := coerce_eq_self_iff.mpr valid'
  have object : ∀ resource, like (objectArn bucket (normalise keyPrefix ++ [42])) resource = true ↔
      objectArn bucket (normalise keyPrefix) <+: resource := by
    intro resource
    have pattern : objectArn bucket (normalise keyPrefix ++ [42]) =
        objectArn bucket (normalise keyPrefix) ++ [42] := by simp [objectArn]
    rw [pattern]
    exact like_star_iff (not_mem_objectArn (by decide) (by decide) star star')
      (not_mem_objectArn (by decide) (by decide) one one')
  have list : ∀ resource, like (bucketArn bucket) resource = true ↔ resource = bucketArn bucket :=
    fun resource =>
      like_iff (not_mem_bucketArn (by decide) star) (not_mem_bucketArn (by decide) one)
  have allows := allows_iff built
  rw [own, own'] at allows
  refine ⟨fun action mem bucket' key context free' => ?_, fun bucket' listed free' allowed => ?_⟩
  · constructor
    · intro allowed
      obtain ⟨-, matched⟩ | ⟨-, matched, -⟩ := (allows _).mp allowed
      · exact (objectArn_start free free').mp ((object _).mp matched)
      · exact absurd ((list _).mp matched) (objectArn_ne_bucketArn free)
    · intro inside
      refine allows_object built mem (named action mem) ?_
      rw [own, own']
      exact (object _).mpr ((objectArn_start free free').mpr inside)
  · obtain ⟨-, matched⟩ | ⟨-, matched, value, given, inside⟩ := (allows _).mp allowed
    · refine absurd (((object _).mp matched).subset ?_) (not_mem_bucketArn (by decide) free')
      exact List.mem_append_right _ List.mem_cons_self
    · exact ⟨List.append_cancel_left ((list _).mp matched), value, given,
        (like_star_iff star' one').mp inside⟩

theorem plain_of_confined (some : actions ≠ [])
    (named : ∀ action ∈ actions, validString action = true)
    (confined : Confined p bucket (normalise keyPrefix) actions) :
    (Plain bucket ∧ 47 ∉ bucket) ∧ Plain keyPrefix := by
  obtain ⟨action, mem⟩ := List.exists_mem_of_ne_nil actions some
  have granted : ∀ bucket' key, 47 ∉ bucket' →
      like (objectArn (coerce bucket) (coerce (normalise keyPrefix) ++ [42]))
        (objectArn bucket' key) = true →
      bucket' = bucket ∧ normalise keyPrefix <+: key := fun bucket' key free matched =>
    (confined.objects action mem bucket' key (fun _ => none) free).mp
      (allows_object built mem (named action mem) matched)
  -- The pattern matches itself, cut at its first slash.
  have free : 47 ∉ bucket := by
    obtain ⟨first, rest, same, free⟩ := List.eq_append_cons_of_mem
      (show 47 ∈ coerce bucket ++ 47 :: (coerce (normalise keyPrefix) ++ [42]) by simp)
    have arn : objectArn (coerce bucket) (coerce (normalise keyPrefix) ++ [42]) =
        objectArn first rest := by
      rw [objectArn, bucketArn, List.append_assoc, same, objectArn, bucketArn, List.append_assoc]
    obtain ⟨rfl, -⟩ := granted first rest free (arn ▸ like_self _)
    exact free
  have free' : 47 ∉ coerce bucket := fun mem => free (mem_of_mem_coerceFrom (by decide) mem)
  obtain ⟨own, start⟩ := granted _ _ free' (like_self _)
  rw [own] at granted
  have valid' := validString_normalise start
  rw [coerce_eq_self_iff.mpr valid'] at granted
  have bucketFree : ∀ c, c = 42 ∨ c = 63 → c ∉ bucket := by
    intro c wild mem
    obtain ⟨u, v, rfl⟩ := List.append_of_mem mem
    have free : 47 ∉ u ++ 97 :: v := by simp_all
    have same := (granted _ _ free (like_other_bucket wild u v _)).1
    exact ne_other wild (List.cons.inj (List.append_cancel_left same)).1.symm
  have prefixFree : ∀ c, c = 42 ∨ c = 63 → c ∉ normalise keyPrefix := by
    intro c wild mem
    obtain ⟨u, v, same⟩ := List.append_of_mem mem
    rw [same, List.append_assoc, List.cons_append] at granted
    have inside := (granted _ _ free (like_other_key wild u (v ++ [42]) bucket)).2
    rw [List.prefix_append_right_inj, List.cons_prefix_cons] at inside
    exact ne_other wild inside.1
  exact ⟨⟨⟨coerce_eq_self_iff.mp own, bucketFree 42 (.inl rfl), bucketFree 63 (.inr rfl)⟩, free⟩,
    plain_normalise.mp ⟨valid', prefixFree 42 (.inl rfl), prefixFree 63 (.inr rfl)⟩⟩

end Confinement

/-- A policy is confined to its prefix if and only if neither the bucket nor the prefix has a
wildcard or anything that JSON replaces, and the bucket has no slash. -/
theorem prefixPolicy_confined_iff (bucket keyPrefix : GoString) (actions : List GoString)
    (some : bucket ≠ []) (some' : actions ≠ [])
    (named : ∀ action ∈ actions, validString action = true) :
    (∃ p, prefixPolicy bucket keyPrefix actions = .ok p ∧
      Confined p bucket (normalise keyPrefix) actions) ↔
    (Plain bucket ∧ 47 ∉ bucket) ∧ Plain keyPrefix := by
  constructor
  · rintro ⟨p, built, confined⟩
    exact plain_of_confined built some' named confined
  · rintro ⟨⟨plain, free⟩, plain'⟩
    have built : ∃ p, prefixPolicy bucket keyPrefix actions = .ok p := by
      rw [prefixPolicy, if_neg (mt List.isEmpty_iff.mp some), if_neg (mt List.isEmpty_iff.mp some')]
      exact ⟨_, rfl⟩
    obtain ⟨p, built⟩ := built
    exact ⟨p, built, confined_of_plain built plain free plain' named⟩

theorem databanks_confined :
    ∃ p, prefixPolicy (str "my-bucket") (str "databanks/abc") readWriteActions = .ok p ∧
      Confined p (str "my-bucket") (str "databanks/abc/") readWriteActions :=
  (prefixPolicy_confined_iff (str "my-bucket") (str "databanks/abc") readWriteActions (by decide)
    (by decide) (by decide)).mpr ⟨⟨⟨by decide, by decide, by decide⟩, by decide⟩, by decide,
      by decide, by decide⟩

/-- A session for the user named by a star may read the objects of every user. -/
theorem star_reads_all :
    ∃ p, prefixReadOnlyPolicy (str "data") (str "users/*") = .ok p ∧
      normalise (str "users/*") = str "users/*/" ∧
      p.allows ⟨str "s3:GetObject", objectArn (str "data") (str "users/ann/key"), fun _ => none⟩ =
        true ∧
      p.allows (listRequest (str "data") (str "users/ann/")) = true ∧
      ¬str "users/*/" <+: str "users/ann/key" ∧ ¬str "users/*/" <+: str "users/ann/" := by
  refine ⟨_, rfl, ?_⟩
  refine ⟨by decide, by decide +kernel, by decide +kernel, by decide, by decide⟩

end DxCommonGo.PrefixPolicy
