import DxCommonGo.GoMaps

/-! The query part of package `net/url`, as `URL.Query` parses it: a pair with a semicolon or a
malformed escape is dropped. -/

namespace DxCommonGo.NetUrl
open GoStrings GoMaps

def unhex (b : UInt8) : Option UInt8 :=
  if isDigit b then some (b - 48)
  else if 97 ≤ b && b ≤ 102 then some (b - 87)
  else if 65 ≤ b && b ≤ 70 then some (b - 55)
  else none

/-- `QueryUnescape`; bytes 37 and 43 are the percent and the plus sign. -/
def queryUnescape : GoString → Option GoString
  | [] => some []
  | 37 :: a :: b :: rest => do
    let high ← unhex a
    let low ← unhex b
    let tail ← queryUnescape rest
    return (high <<< 4 ||| low) :: tail
  | 37 :: _ => none
  | 43 :: rest => (queryUnescape rest).map (32 :: ·)
  | c :: rest => (queryUnescape rest).map (c :: ·)

def parsePair (pair : GoString) : Option (GoString × GoString) :=
  if pair.contains 59 || pair.isEmpty then none
  else do
    let parts := (cut 61 pair).getD (pair, [])
    let key ← queryUnescape parts.1
    let value ← queryUnescape parts.2
    return (key, value)

abbrev Values := GoMap (List GoString)

def Values.add (m : Values) (key value : GoString) : Values :=
  m.insert key ((m.lookup key).getD [] ++ [value])

def parseQuery (raw : GoString) : Values :=
  ((split raw 38).filterMap parsePair).foldl (fun m p => Values.add m p.1 p.2) ∅

def Values.get (m : Values) (key : GoString) : GoString := ((m.lookup key).getD []).headD []

example : (parseQuery (str "q=a%20b+c&q=d&sort=x;y&z%zz=1")).entries =
    [⟨str "q", [str "a b c", str "d"]⟩] := by decide

end DxCommonGo.NetUrl
