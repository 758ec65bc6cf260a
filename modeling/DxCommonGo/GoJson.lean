import DxCommonGo.DxErrors
import DxCommonGo.GoMaps
import DxCommonGo.GoUtf8

/-! JSON values, and the Go values of type `any` that `json.Marshal` is given. A nil map or slice in
an interface is not the nil interface, but is encoded like it. -/

namespace DxCommonGo.GoJson
open GoStrings GoMaps GoUtf8 GoErrors DxErrors

inductive Json where
  | null
  | bool (b : Bool)
  | number (text : GoString)
  | string (s : GoString)
  | array (items : List Json)
  | object (fields : List (GoString × Json))

def Json.isObject : Json → Bool
  | .object _ => true
  | _ => false

abbrev GoAny := Option (Except GoError Json)

def marshal : GoAny → Except GoError Json
  | none => .ok .null
  | some encoded => encoded

def ofBool (b : Bool) : GoAny := some (.ok (.bool b))
def ofInt (i : Int) : GoAny := some (.ok (.number (itoa i)))
def ofString (s : GoString) : GoAny := some (.ok (.string (coerce s)))

abbrev AnyMap := Option (GoMap GoAny)

def marshalEntry (e : GoString × GoAny) : Except GoError (GoString × Json) :=
  (marshal e.2).map (Prod.mk (coerce e.1))

def marshalMap : AnyMap → Except GoError Json
  | none => .ok .null
  | some m => ((pairs m).mapM marshalEntry).map .object

def ofMap (m : AnyMap) : GoAny := some (marshalMap m)

def marshalSlice : Option (List GoAny) → Except GoError Json
  | none => .ok .null
  | some items => (items.mapM marshal).map .array

def ofSlice (s : Option (List GoAny)) : GoAny := some (marshalSlice s)

def ofStrings (s : Option (List GoString)) : GoAny := ofSlice (s.map (List.map ofString))

def literal (entries : List (GoString × GoAny)) : GoAny := ofMap (some (ofPairs entries))

theorem marshalMap_ok {m : AnyMap} {j : Json} (encoded : marshalMap m = .ok j) :
    j.isObject = m.isSome := by
  cases m with
  | none => cases encoded; rfl
  | some m =>
    obtain ⟨fields, -, rfl⟩ := map_eq_ok.mp encoded
    rfl

section Integers

def readInteger : GoString → Option Int
  | 45 :: digits => (decimal digits).map fun n => -Int.ofNat n
  | digits => (decimal digits).map Int.ofNat

def Json.integer : Json → Option Int
  | .number text => readInteger text
  | _ => none

theorem readInteger_itoa (n : Int) : readInteger (itoa n) = some n := by
  cases n with
  | ofNat n =>
    obtain ⟨b, rest, digits, digit⟩ := itoaNat_head n
    have value := decimal_itoaNat n
    rw [itoa]
    rw [digits] at value ⊢
    rw [readInteger, value]
    · rfl
    · rintro _ ⟨⟩
      cases digit
  | negSucc n =>
    rw [itoa, readInteger, decimal_itoaNat]
    rfl

end Integers

end DxCommonGo.GoJson
