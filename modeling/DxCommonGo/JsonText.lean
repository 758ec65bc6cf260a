import DxCommonGo.GoJson
import DxCommonGo.NetHttp

/-! The text of a JSON value as `encoding/json` writes it, and a reader of such texts. What is
written is one line, and is read back if its strings are UTF-8 and its numbers literals. -/

namespace DxCommonGo.JsonText
open GoStrings GoUtf8 GoJson

section Strings

def shortEscape (b : UInt8) : Option UInt8 :=
  if b = 34 || b = 92 then some b
  else if b = 8 then some 98
  else if b = 9 then some 116
  else if b = 10 then some 110
  else if b = 12 then some 102
  else if b = 13 then some 114
  else none

def escapeByte (b : UInt8) : GoString :=
  match shortEscape b with
  | some c => [92, c]
  | none =>
    if b < 0x20 || b = 38 || b = 60 || b = 62 then
      str "\\u00" ++ [hexDigit (b.toNat / 16), hexDigit (b.toNat % 16)]
    else [b]

def lineSeparator : GoString → Option GoString
  | a :: b :: c :: _ =>
    if a = 0xe2 && b = 0x80 && c = 0xa8 then some (str "\\u2028")
    else if a = 0xe2 && b = 0x80 && c = 0xa9 then some (str "\\u2029")
    else none
  | _ => none

def escapeFrom : Nat → GoString → GoString
  | _, [] => []
  | written + 1, _ :: rest => escapeFrom written rest
  | 0, b :: rest =>
    match lineSeparator (b :: rest) with
    | some text => text ++ escapeFrom 2 rest
    | none => escapeByte b ++ escapeFrom 0 rest

def quote (s : GoString) : GoString := 34 :: escapeFrom 0 s ++ [34]

def unescape (c : UInt8) : Option UInt8 :=
  if c = 34 || c = 92 || c = 47 then some c
  else if c = 98 then some 8
  else if c = 116 then some 9
  else if c = 110 then some 10
  else if c = 102 then some 12
  else if c = 114 then some 13
  else none

def encodeRune (n : Nat) : Option GoString :=
  if n < 0x80 then some [UInt8.ofNat n]
  else if n < 0x800 then some [UInt8.ofNat (0xc0 + n / 64), UInt8.ofNat (0x80 + n % 64)]
  else if 0xd800 ≤ n && n < 0xe000 then none
  else some [UInt8.ofNat (0xe0 + n / 4096), UInt8.ofNat (0x80 + n / 64 % 64),
    UInt8.ofNat (0x80 + n % 64)]

def readRune (a b c d : UInt8) : Option GoString := do
  encodeRune (((← hexValue a) * 16 + (← hexValue b)) * 256 + (← hexValue c) * 16 + (← hexValue d))

def readChars : GoString → Option (GoString × GoString)
  | [] => none
  | 34 :: rest => some ([], rest)
  | 92 :: 117 :: a :: b :: c :: d :: rest => do
    let rune ← readRune a b c d
    let (s, rest) ← readChars rest
    return (rune ++ s, rest)
  | 92 :: c :: rest => do
    let b ← unescape c
    let (s, rest) ← readChars rest
    return (b :: s, rest)
  | b :: rest =>
    if b < 0x20 || b = 92 then none
    else do
      let (s, rest) ← readChars rest
      return (b :: s, rest)

def readString (text : GoString) : Option (GoString × GoString) := do
  let (s, rest) ← readChars text
  if validString s then return (s, rest) else none

end Strings

section Numbers

def withoutSign : GoString → GoString
  | 43 :: s => s
  | 45 :: s => s
  | s => s

def isExponent : GoString → Bool
  | [] => true
  | e :: s => (e = 69 || e = 101) && !(withoutSign s).isEmpty && (withoutSign s).all isDigit

def isFraction : GoString → Bool
  | 46 :: s => !(s.takeWhile isDigit).isEmpty && isExponent (s.dropWhile isDigit)
  | s => isExponent s

def isUnsigned (s : GoString) : Bool :=
  let digits := s.takeWhile isDigit
  !digits.isEmpty && (digits.head? != some 48 || digits.length == 1) &&
    isFraction (s.dropWhile isDigit)

def isNumber : GoString → Bool
  | 45 :: s => isUnsigned s
  | s => isUnsigned s

def numeric (b : UInt8) : Bool := isDigit b || b = 43 || b = 45 || b = 46 || b = 69 || b = 101

end Numbers

section Texts

mutual

def valid : Json → Bool
  | .null => true
  | .bool _ => true
  | .number text => isNumber text
  | .string s => validString s
  | .array items => validItems items
  | .object fields => validFields fields

def validItems : List Json → Bool
  | [] => true
  | item :: items => valid item && validItems items

def validFields : List (GoString × Json) → Bool
  | [] => true
  | (key, value) :: fields => validString key && valid value && validFields fields

end

mutual

def write : Json → GoString
  | .null => str "null"
  | .bool b => if b then str "true" else str "false"
  | .number text => text
  | .string s => quote s
  | .array items => 91 :: writeItems items ++ [93]
  | .object fields => 123 :: writeFields fields ++ [125]

def writeItems : List Json → GoString
  | [] => []
  | [item] => write item
  | item :: items => write item ++ 44 :: writeItems items

def writeFields : List (GoString × Json) → GoString
  | [] => []
  | [(key, value)] => quote key ++ 58 :: write value
  | (key, value) :: fields => quote key ++ 58 :: write value ++ 44 :: writeFields fields

end

def readAtom (text : GoString) : Option (Json × GoString) :=
  if (str "null").isPrefixOf text then some (.null, text.drop 4)
  else if (str "true").isPrefixOf text then some (.bool true, text.drop 4)
  else if (str "false").isPrefixOf text then some (.bool false, text.drop 5)
  else if isNumber (text.takeWhile numeric) then
    some (.number (text.takeWhile numeric), text.dropWhile numeric)
  else none

mutual

def readValue : Nat → GoString → Option (Json × GoString)
  | 0, _ => none
  | _ + 1, 34 :: rest => do
    let (s, rest) ← readString rest
    return (.string s, rest)
  | _ + 1, 91 :: 93 :: rest => some (.array [], rest)
  | fuel + 1, 91 :: rest => do
    let (items, rest) ← readItems fuel rest
    return (.array items, rest)
  | _ + 1, 123 :: 125 :: rest => some (.object [], rest)
  | fuel + 1, 123 :: rest => do
    let (fields, rest) ← readFields fuel rest
    return (.object fields, rest)
  | _ + 1, text => readAtom text

def readItems : Nat → GoString → Option (List Json × GoString)
  | 0, _ => none
  | fuel + 1, text => do
    match ← readValue fuel text with
    | (item, 44 :: rest) =>
      let (items, rest) ← readItems fuel rest
      return (item :: items, rest)
    | (item, 93 :: rest) => return ([item], rest)
    | _ => none

def readFields : Nat → GoString → Option (List (GoString × Json) × GoString)
  | fuel + 1, 34 :: text => do
    match ← readString text with
    | (key, 58 :: rest) =>
      match ← readValue fuel rest with
      | (value, 44 :: rest) =>
        let (fields, rest) ← readFields fuel rest
        return ((key, value) :: fields, rest)
      | (value, 125 :: rest) => return ([(key, value)], rest)
      | _ => none
    | _ => none
  | _, _ => none

end

def read (text : GoString) : Option Json :=
  match readValue (text.length + 1) text with
  | some (j, []) => some j
  | _ => none

end Texts

section Strings

theorem readChars_copied {b : UInt8} (plain : 0x20 ≤ b ∧ b ≠ 34 ∧ b ≠ 92) (rest : GoString) :
    readChars (b :: rest) = (readChars rest).map fun p => (b :: p.1, p.2) := by
  obtain ⟨printed, quote, backslash⟩ := plain
  rw [readChars]
  · rw [if_neg (by simp [backslash, UInt8.not_lt.mpr printed])]
    cases readChars rest <;> rfl
  · exact fun same => absurd same quote
  · exact fun _ _ _ _ _ same _ => absurd same backslash
  · exact fun _ _ same _ => absurd same backslash

theorem readChars_escaped {c : UInt8} (short : c ≠ 117) (rest : GoString) :
    readChars (92 :: c :: rest) =
      (unescape c).bind fun b => (readChars rest).map fun p => (b :: p.1, p.2) := by
  rw [readChars]
  · cases unescape c <;> cases readChars rest <;> rfl
  · exact fun _ _ _ _ _ same => absurd same short

theorem readChars_rune {a b c d : UInt8} {rune : GoString} (found : readRune a b c d = some rune)
    (rest : GoString) :
    readChars (92 :: 117 :: a :: b :: c :: d :: rest) =
      (readChars rest).map fun p => (rune ++ p.1, p.2) := by
  rw [readChars, found]
  cases readChars rest <;> rfl

theorem readChars_escapeByte (b : UInt8) (rest : GoString) :
    readChars (escapeByte b ++ rest) = (readChars rest).map fun p => (b :: p.1, p.2) := by
  have bytes := NetHttp.forall_byte
    (p := fun b =>
      (shortEscape b).all (fun c => c != 117 && unescape c == some b) &&
      (readRune 48 48 (hexDigit (b.toNat / 16)) (hexDigit (b.toNat % 16)) == some [b] || 0x80 ≤ b))
    (by decide +kernel) b
  rw [Bool.and_eq_true, Bool.or_eq_true, beq_iff_eq, decide_eq_true_eq] at bytes
  obtain ⟨short, long⟩ := bytes
  cases escape : shortEscape b with
  | some c =>
    rw [escape] at short
    simp only [Option.all_some, Bool.and_eq_true, bne_iff_ne, beq_iff_eq] at short
    rw [escapeByte, escape, List.cons_append, List.cons_append, List.nil_append,
      readChars_escaped short.1, short.2]
    rfl
  | none =>
    rw [escapeByte, escape]
    dsimp only
    split_ifs with control
    · have ascii : ¬0x80 ≤ b := by
        simp only [Bool.or_eq_true, decide_eq_true_eq] at control
        rcases control with ((low | rfl) | rfl) | rfl
        · exact fun high => absurd (UInt8.lt_of_le_of_lt high low) (by decide)
        all_goals decide
      exact readChars_rune (long.resolve_right ascii) rest
    · refine readChars_copied ⟨?_, ?_, ?_⟩ rest
      · simp only [Bool.or_eq_true, decide_eq_true_eq, not_or, UInt8.not_lt] at control
        exact control.1.1.1
      · rintro rfl
        cases escape
      · rintro rfl
        cases escape

theorem lineSeparator_some {s text : GoString} (found : lineSeparator s = some text)
    (rest : GoString) :
    readChars (text ++ rest) = (readChars rest).map fun p => (s.take 3 ++ p.1, p.2) := by
  match s, found with
  | a :: b :: c :: s, found =>
    rw [lineSeparator] at found
    split_ifs at found with here there
    · simp only [Bool.and_eq_true, decide_eq_true_eq] at here
      obtain ⟨⟨rfl, rfl⟩, rfl⟩ := here
      cases found
      have rune : readRune 50 48 50 56 = some [0xe2, 0x80, 0xa8] := by decide +kernel
      exact readChars_rune rune rest
    · simp only [Bool.and_eq_true, decide_eq_true_eq] at there
      obtain ⟨⟨rfl, rfl⟩, rfl⟩ := there
      cases found
      have rune : readRune 50 48 50 57 = some [0xe2, 0x80, 0xa9] := by decide +kernel
      exact readChars_rune rune rest

theorem readChars_escapeFrom (written : Nat) (s rest : GoString) :
    readChars (escapeFrom written s ++ 34 :: rest) = some (s.drop written, rest) := by
  fun_induction escapeFrom written s with
  | case1 written => simp [readChars]
  | case2 written b s ih => exact ih
  | case3 b s text found ih =>
    rw [List.append_assoc, lineSeparator_some found, ih]
    have whole : (b :: s).take 3 ++ s.drop 2 = b :: s := List.take_append_drop 3 (b :: s)
    rw [Option.map_some, whole]
    rfl
  | case4 b s none ih =>
    rw [List.append_assoc, readChars_escapeByte, ih]
    rfl

theorem readString_quote {s : GoString} (h : validString s = true) (rest : GoString) :
    readString (escapeFrom 0 s ++ 34 :: rest) = some (s, rest) := by
  rw [readString, readChars_escapeFrom]
  simp [h]

theorem newline_not_mem_escapeByte (b : UInt8) : 10 ∉ escapeByte b := by
  have apart := NetHttp.forall_byte (p := fun b => !(escapeByte b).contains 10)
    (by decide +kernel) b
  simpa using apart

theorem newline_not_mem_escapeFrom (written : Nat) (s : GoString) : 10 ∉ escapeFrom written s := by
  fun_induction escapeFrom written s with
  | case1 written => exact List.not_mem_nil
  | case2 written b s ih => exact ih
  | case3 b s text found ih =>
    rw [List.mem_append, not_or]
    refine ⟨?_, ih⟩
    match s, found with
    | _ :: _ :: s, found =>
      rw [lineSeparator] at found
      split_ifs at found <;> cases found <;> decide
  | case4 b s none ih =>
    rw [List.mem_append, not_or]
    exact ⟨newline_not_mem_escapeByte b, ih⟩

theorem newline_not_mem_quote (s : GoString) : 10 ∉ quote s := by
  simp [quote, newline_not_mem_escapeFrom]

end Strings

section Numbers

theorem all_numeric {digits : GoString} (all : digits.all isDigit = true) :
    digits.all numeric = true := by
  rw [List.all_eq_true] at all ⊢
  intro b mem
  simp [numeric, all b mem]

variable {s : GoString}

theorem numeric_withoutSign (h : (withoutSign s).all numeric = true) : s.all numeric = true := by
  unfold withoutSign at h
  split at h
  · exact h
  · exact h
  · exact h

theorem numeric_of_isExponent (h : isExponent s = true) : s.all numeric = true := by
  cases s with
  | nil => rfl
  | cons e s =>
    simp only [isExponent, Bool.and_eq_true, Bool.or_eq_true, decide_eq_true_eq] at h
    have letter : numeric e = true := by
      rcases h.1.1 with rfl | rfl <;> decide
    rw [List.all_cons, letter, numeric_withoutSign (all_numeric h.2)]
    rfl

theorem numeric_of_dropWhile (h : (s.dropWhile isDigit).all numeric = true) :
    s.all numeric = true := by
  rw [← List.takeWhile_append_dropWhile (p := isDigit) (l := s), List.all_append,
    all_numeric List.all_takeWhile, h]
  rfl

theorem numeric_of_isFraction (h : isFraction s = true) : s.all numeric = true := by
  unfold isFraction at h
  split at h
  · rw [Bool.and_eq_true] at h
    rw [List.all_cons, numeric_of_dropWhile (numeric_of_isExponent h.2)]
    rfl
  · exact numeric_of_isExponent h

theorem numeric_of_isUnsigned (h : isUnsigned s = true) : s.all numeric = true := by
  rw [isUnsigned, Bool.and_eq_true] at h
  exact numeric_of_dropWhile (numeric_of_isFraction h.2)

theorem numeric_of_isNumber (h : isNumber s = true) : s.all numeric = true := by
  unfold isNumber at h
  split at h
  · rw [List.all_cons, numeric_of_isUnsigned h]
    rfl
  · exact numeric_of_isUnsigned h

def Stops (rest : GoString) : Prop := rest.head?.all (fun b => !numeric b) = true

theorem takeWhile_number {text rest : GoString} (number : isNumber text = true)
    (stops : Stops rest) :
    (text ++ rest).takeWhile numeric = text ∧ (text ++ rest).dropWhile numeric = rest := by
  have all := List.all_eq_true.mp (numeric_of_isNumber number)
  rw [List.takeWhile_append_of_pos all, List.dropWhile_append_of_pos all]
  cases rest with
  | nil => simp
  | cons b rest =>
    have other : numeric b = false := by simpa [Stops] using stops
    simp [other]

end Numbers

section Values

variable {text rest : GoString} {fuel : Nat}

theorem isNumber_ne_nil (number : isNumber text = true) : text ≠ [] := by
  rintro rfl
  cases number

theorem write_head {j : Json} (h : valid j = true) :
    ∃ b rest, write j = b :: rest ∧ b ≠ 93 := by
  cases j with
  | null => exact ⟨_, _, rfl, by decide⟩
  | bool b => cases b <;> exact ⟨_, _, rfl, by decide⟩
  | string s => exact ⟨_, _, rfl, by decide⟩
  | array items => exact ⟨_, _, rfl, by decide⟩
  | object fields => exact ⟨_, _, rfl, by decide⟩
  | number text =>
    obtain ⟨b, rest, text_eq⟩ := List.exists_cons_of_ne_nil (isNumber_ne_nil h)
    have all := numeric_of_isNumber h
    refine ⟨b, rest, text_eq, ?_⟩
    rintro rfl
    rw [text_eq] at all
    cases all

theorem readValue_number (number : isNumber text = true) (stops : Stops rest) (fuel : Nat) :
    readValue (fuel + 1) (text ++ rest) = some (.number text, rest) := by
  obtain ⟨b, tail, text_eq⟩ := List.exists_cons_of_ne_nil (isNumber_ne_nil number)
  have first : numeric b = true := by
    have all := numeric_of_isNumber number
    rw [text_eq, List.all_cons, Bool.and_eq_true] at all
    exact all.1
  have other : ∀ c : UInt8, numeric c = false → b ≠ c := by
    rintro c plain rfl
    rw [first] at plain
    cases plain
  have apart : ∀ word : GoString, word.head?.any (fun c => !numeric c) = true →
      word.isPrefixOf (text ++ rest) = false := by
    intro word starts
    cases word with
    | nil => cases starts
    | cons c word =>
      have ne : (c == b) = false := by
        rw [beq_eq_false_iff_ne]
        exact (other c (by simpa using starts)).symm
      rw [text_eq, List.cons_append, List.isPrefixOf_cons_cons, ne]
      rfl
  obtain ⟨taken, left⟩ := takeWhile_number number stops
  have atom : readValue (fuel + 1) (text ++ rest) = readAtom (text ++ rest) := by
    rw [text_eq, List.cons_append, readValue]
    · exact fun _ same => other 34 rfl (List.cons.inj same).1
    · exact fun _ same => other 91 rfl (List.cons.inj same).1
    · exact fun _ same => other 91 rfl (List.cons.inj same).1
    · exact fun _ same => other 123 rfl (List.cons.inj same).1
    · exact fun _ same => other 123 rfl (List.cons.inj same).1
  rw [atom, readAtom, apart _ rfl, apart _ rfl, apart _ rfl, taken, number, left]
  rfl

theorem readValue_items {b : UInt8} (item : b ≠ 93) (fuel : Nat) (rest : GoString) :
    readValue (fuel + 1) (91 :: b :: rest) =
      (readItems fuel (b :: rest)).map fun p => (.array p.1, p.2) := by
  rw [readValue]
  · cases readItems fuel (b :: rest) <;> rfl
  · exact fun _ same => item (List.cons.inj same).1

theorem readValue_fields (fuel : Nat) (rest : GoString) :
    readValue (fuel + 1) (123 :: 34 :: rest) =
      (readFields fuel (34 :: rest)).map fun p => (.object p.1, p.2) := by
  rw [readValue]
  · cases readFields fuel (34 :: rest) <;> rfl
  · exact fun _ same => absurd (List.cons.inj same).1 (by decide)

theorem readItems_last {item : Json} (first : readValue fuel text = some (item, 93 :: rest)) :
    readItems (fuel + 1) text = some ([item], rest) := by
  rw [readItems, first]
  rfl

theorem readItems_cons {item : Json} (first : readValue fuel text = some (item, 44 :: rest)) :
    readItems (fuel + 1) text = (readItems fuel rest).map fun p => (item :: p.1, p.2) := by
  rw [readItems, first]
  cases more : readItems fuel rest <;> simp [more]

theorem readFields_last {key : GoString} {value : Json} (h : validString key = true)
    (first : readValue fuel text = some (value, 125 :: rest)) :
    readFields (fuel + 1) (quote key ++ 58 :: text) = some ([(key, value)], rest) := by
  have name : readString (escapeFrom 0 key ++ [34] ++ 58 :: text) = some (key, 58 :: text) := by
    rw [List.append_assoc]
    exact readString_quote h (58 :: text)
  rw [quote, List.cons_append, List.cons_append, readFields, name]
  simp [first]

theorem readFields_cons {key : GoString} {value : Json} (h : validString key = true)
    (first : readValue fuel text = some (value, 44 :: rest)) :
    readFields (fuel + 1) (quote key ++ 58 :: text) =
      (readFields fuel rest).map fun p => ((key, value) :: p.1, p.2) := by
  have name : readString (escapeFrom 0 key ++ [34] ++ 58 :: text) = some (key, 58 :: text) := by
    rw [List.append_assoc]
    exact readString_quote h (58 :: text)
  rw [quote, List.cons_append, List.cons_append, readFields, name]
  cases more : readFields fuel rest <;> simp [first, more]

theorem writeItems_head {item : Json} (h : valid item = true) (items : List Json) :
    ∃ b rest, writeItems (item :: items) = b :: rest ∧ b ≠ 93 := by
  obtain ⟨b, rest, text, other⟩ := write_head h
  cases items with
  | nil => exact ⟨b, rest, text, other⟩
  | cons next items =>
    refine ⟨b, rest ++ 44 :: writeItems (next :: items), ?_, other⟩
    rw [writeItems, text]
    · rfl
    · exact List.cons_ne_nil next items

theorem writeFields_head (field : GoString × Json) (fields : List (GoString × Json)) :
    ∃ rest, writeFields (field :: fields) = 34 :: rest := by
  cases fields <;> exact ⟨_, rfl⟩

mutual

/-- A value is read back, whatever follows it that does not go on with a number. -/
theorem readValue_write (j : Json) (h : valid j = true) {rest : GoString} (stops : Stops rest)
    (fuel : Nat) (enough : (write j).length ≤ fuel) :
    readValue (fuel + 1) (write j ++ rest) = some (j, rest) := by
  match j with
  | .null => rfl
  | .bool true => rfl
  | .bool false => rfl
  | .number text => exact readValue_number h stops fuel
  | .string s =>
    rw [write, quote, List.cons_append, List.cons_append, readValue, List.append_assoc,
      List.singleton_append, readString_quote h]
    rfl
  | .array [] => rfl
  | .array (item :: items) =>
    simp only [write, List.length_cons, List.length_append, List.length_nil] at enough
    have items_read := readItems_write (item :: items) (List.cons_ne_nil item items) h rest fuel
      (by omega)
    rw [valid, validItems, Bool.and_eq_true] at h
    obtain ⟨b, tail, text, other⟩ := writeItems_head h.1 items
    rw [write, List.cons_append, List.cons_append, List.append_assoc, List.singleton_append, text,
      List.cons_append, readValue_items other, ← List.cons_append, ← text, items_read]
    rfl
  | .object [] => rfl
  | .object (field :: fields) =>
    simp only [write, List.length_cons, List.length_append, List.length_nil] at enough
    have fields_read := readFields_write (field :: fields) (List.cons_ne_nil field fields) h rest
      fuel (by omega)
    obtain ⟨tail, text⟩ := writeFields_head field fields
    rw [write, List.cons_append, List.cons_append, List.append_assoc, List.singleton_append, text,
      List.cons_append, readValue_fields, ← List.cons_append, ← text, fields_read]
    rfl

theorem readItems_write (items : List Json) (nonempty : items ≠ []) (h : validItems items = true)
    (rest : GoString) (fuel : Nat) (enough : (writeItems items).length + 2 ≤ fuel) :
    readItems fuel (writeItems items ++ 93 :: rest) = some (items, rest) := by
  match items, fuel with
  | [], _ => exact absurd rfl nonempty
  | [item], fuel + 2 =>
    rw [validItems, Bool.and_eq_true] at h
    have first := readValue_write item h.1 (show Stops (93 :: rest) from rfl) fuel
      (by simpa [writeItems] using enough)
    exact readItems_last first
  | item :: next :: items, fuel + 2 =>
    rw [validItems, Bool.and_eq_true] at h
    have text : writeItems (item :: next :: items) =
        write item ++ 44 :: writeItems (next :: items) := rfl
    rw [text, List.length_append, List.length_cons] at enough
    have first := readValue_write item h.1
      (show Stops (44 :: (writeItems (next :: items) ++ 93 :: rest)) from rfl) fuel (by omega)
    have others := readItems_write (next :: items) (List.cons_ne_nil next items) h.2 rest
      (fuel + 1) (by omega)
    rw [text, List.append_assoc, List.cons_append, readItems_cons first, others]
    rfl

theorem readFields_write (fields : List (GoString × Json)) (nonempty : fields ≠ [])
    (h : validFields fields = true) (rest : GoString) (fuel : Nat)
    (enough : (writeFields fields).length + 2 ≤ fuel) :
    readFields fuel (writeFields fields ++ 125 :: rest) = some (fields, rest) := by
  match fields, fuel with
  | [], _ => exact absurd rfl nonempty
  | [(key, value)], fuel + 2 =>
    rw [validFields, Bool.and_eq_true, Bool.and_eq_true] at h
    have text : writeFields [(key, value)] = quote key ++ 58 :: write value := rfl
    rw [text, List.length_append, List.length_cons] at enough
    have first := readValue_write value h.1.2 (show Stops (125 :: rest) from rfl) fuel (by omega)
    rw [text, List.append_assoc, List.cons_append, readFields_last h.1.1 first]
  | (key, value) :: next :: fields, fuel + 2 =>
    rw [validFields, Bool.and_eq_true, Bool.and_eq_true] at h
    have text : writeFields ((key, value) :: next :: fields) =
        quote key ++ 58 :: (write value ++ 44 :: writeFields (next :: fields)) := by
      simp [writeFields]
    rw [text, List.length_append, List.length_cons, List.length_append, List.length_cons] at enough
    have first := readValue_write value h.1.2
      (show Stops (44 :: (writeFields (next :: fields) ++ 125 :: rest)) from rfl) fuel (by omega)
    have others := readFields_write (next :: fields) (List.cons_ne_nil next fields) h.2 rest
      (fuel + 1) (by omega)
    rw [text, List.append_assoc, List.cons_append, List.append_assoc, List.cons_append,
      readFields_cons h.1.1 first, others]
    rfl

end

theorem read_write {j : Json} (h : valid j = true) : read (write j) = some j := by
  have whole := readValue_write j h (show Stops [] from rfl) (write j).length le_rfl
  rw [List.append_nil] at whole
  rw [read, whole]

mutual

theorem newline_not_mem_write (j : Json) (h : valid j = true) : 10 ∉ write j := by
  match j with
  | .null => decide
  | .bool true => decide
  | .bool false => decide
  | .number text =>
    intro mem
    have all := List.all_eq_true.mp (numeric_of_isNumber h) 10 mem
    cases all
  | .string s => exact newline_not_mem_quote s
  | .array items => simpa [write] using newline_not_mem_writeItems items h
  | .object fields => simpa [write] using newline_not_mem_writeFields fields h

theorem newline_not_mem_writeItems (items : List Json) (h : validItems items = true) :
    10 ∉ writeItems items := by
  match items with
  | [] => exact List.not_mem_nil
  | [item] =>
    rw [validItems, Bool.and_eq_true] at h
    exact newline_not_mem_write item h.1
  | item :: next :: items =>
    rw [validItems, Bool.and_eq_true] at h
    have others := newline_not_mem_writeItems (next :: items) h.2
    have text : writeItems (item :: next :: items) =
        write item ++ 44 :: writeItems (next :: items) := rfl
    simpa [text, newline_not_mem_write item h.1] using others

theorem newline_not_mem_writeFields (fields : List (GoString × Json))
    (h : validFields fields = true) : 10 ∉ writeFields fields := by
  match fields with
  | [] => exact List.not_mem_nil
  | [(key, value)] =>
    rw [validFields, Bool.and_eq_true, Bool.and_eq_true] at h
    have text : writeFields [(key, value)] = quote key ++ 58 :: write value := rfl
    simp [text, newline_not_mem_quote key, newline_not_mem_write value h.1.2]
  | (key, value) :: next :: fields =>
    rw [validFields, Bool.and_eq_true, Bool.and_eq_true] at h
    have others := newline_not_mem_writeFields (next :: fields) h.2
    have text : writeFields ((key, value) :: next :: fields) =
        quote key ++ 58 :: write value ++ 44 :: writeFields (next :: fields) := rfl
    simpa [text, newline_not_mem_quote key, newline_not_mem_write value h.1.2] using others

end

end Values

end DxCommonGo.JsonText
