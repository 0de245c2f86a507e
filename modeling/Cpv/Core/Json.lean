import Mathlib.Data.List.TakeWhile

namespace Json

/-- A value of RFC 8259. A number is `mantissa * 10 ^ exponent`, and the members
    of an object keep their order. -/
inductive Value
  | null
  | boolean (value : Bool)
  | number (mantissa exponent : Int)
  | string (str : List UInt8)
  | array (items : List Value)
  | object (members : List (List UInt8 × Value))

section grammar

/-- `ws` -/
def isWs (c : UInt8) : Bool := c == 0x20 || c == 0x09 || c == 0x0A || c == 0x0D

def IsWs (text : List UInt8) : Prop := ∀ c ∈ text, isWs c

theorem IsWs.nil : IsWs [] := by simp [IsWs]

def isDigit (c : UInt8) : Bool := 0x30 ≤ c && c ≤ 0x39

/-- The number that decimal digits stand for. -/
def decimal (digits : List UInt8) : Nat := digits.foldl (fun value c => 10 * value + (c.toNat - 0x30)) 0

/-- `int`: no digit follows a leading zero. -/
inductive IntText : List UInt8 → Prop
  | zero : IntText [0x30]
  | nonzero {c : UInt8} {digits : List UInt8} (hc : isDigit c) (hne : c ≠ 0x30)
      (hdigits : ∀ d ∈ digits, isDigit d) : IntText (c :: digits)

/-- `[ frac ]` and its digits -/
inductive FracText : List UInt8 → List UInt8 → Prop
  | none : FracText [] []
  | point {digits : List UInt8} (hne : digits ≠ []) (hdigits : ∀ d ∈ digits, isDigit d) :
      FracText (0x2E :: digits) digits

/-- `[ minus / plus ]` -/
inductive SignText : List UInt8 → Bool → Prop
  | none : SignText [] false
  | plus : SignText [0x2B] false
  | minus : SignText [0x2D] true

def signed (negative : Bool) (value : Nat) : Int := if negative then -(value : Int) else value

/-- `[ exp ]` and its value -/
inductive ExpText : List UInt8 → Int → Prop
  | none : ExpText [] 0
  | exp {e : UInt8} {sign digits : List UInt8} {negative : Bool} (he : e = 0x65 ∨ e = 0x45)
      (hsign : SignText sign negative) (hne : digits ≠ []) (hdigits : ∀ d ∈ digits, isDigit d) :
      ExpText (e :: (sign ++ digits)) (signed negative (decimal digits))

/-- `number = [ minus ] int [ frac ] [ exp ]` -/
inductive NumberText : List UInt8 → Int → Int → Prop
  | intro {int frac digits exp : List UInt8} {exponent : Int} (negative : Bool) (hint : IntText int)
      (hfrac : FracText frac digits) (hexp : ExpText exp exponent) :
      NumberText ((if negative then [0x2D] else []) ++ (int ++ (frac ++ exp)))
        (signed negative (decimal (int ++ digits))) (exponent - digits.length)

/-- The characters behind an escape character that stand for one byte. -/
def escapeOf (c : UInt8) : Option UInt8 :=
  if c = 0x22 then some 0x22
  else if c = 0x5C then some 0x5C
  else if c = 0x2F then some 0x2F
  else if c = 0x62 then some 0x08
  else if c = 0x66 then some 0x0C
  else if c = 0x6E then some 0x0A
  else if c = 0x72 then some 0x0D
  else if c = 0x74 then some 0x09
  else none

def hexValue (c : UInt8) : Option Nat :=
  if 0x30 ≤ c ∧ c ≤ 0x39 then some (c.toNat - 0x30)
  else if 0x41 ≤ c ∧ c ≤ 0x46 then some (c.toNat - 0x41 + 10)
  else if 0x61 ≤ c ∧ c ≤ 0x66 then some (c.toNat - 0x61 + 10)
  else none

/-- `4HEXDIG` -/
def hexUnit (a b c d : UInt8) : Option Nat :=
  match hexValue a, hexValue b, hexValue c, hexValue d with
  | some a, some b, some c, some d => some (((a * 16 + b) * 16 + c) * 16 + d)
  | _, _, _, _ => none

/-- The UTF-8 encoding of a code point -/
def utf8 (point : Nat) : List UInt8 :=
  if point < 0x80 then [UInt8.ofNat point]
  else if point < 0x800 then [UInt8.ofNat (0xC0 + point / 64), UInt8.ofNat (0x80 + point % 64)]
  else if point < 0x10000 then
    [UInt8.ofNat (0xE0 + point / 4096), UInt8.ofNat (0x80 + point / 64 % 64), UInt8.ofNat (0x80 + point % 64)]
  else
    [UInt8.ofNat (0xF0 + point / 262144), UInt8.ofNat (0x80 + point / 4096 % 64),
      UInt8.ofNat (0x80 + point / 64 % 64), UInt8.ofNat (0x80 + point % 64)]

/-- `char` and the bytes it stands for. A lone surrogate stands for nothing. -/
inductive CharText : List UInt8 → List UInt8 → Prop
  | unescaped {c : UInt8} (hcontrol : 0x20 ≤ c) (hquote : c ≠ 0x22) (hescape : c ≠ 0x5C) : CharText [c] [c]
  | escape {c d : UInt8} (h : escapeOf c = some d) : CharText [0x5C, c] [d]
  | unit {a b c d : UInt8} {point : Nat} (h : hexUnit a b c d = some point)
      (hplane : point < 0xD800 ∨ 0xDFFF < point) : CharText [0x5C, 0x75, a, b, c, d] (utf8 point)
  | pair {a b c d a' b' c' d' : UInt8} {high low : Nat} (hhigh : hexUnit a b c d = some high)
      (hlow : hexUnit a' b' c' d' = some low) (hhighRange : 0xD800 ≤ high ∧ high ≤ 0xDBFF)
      (hlowRange : 0xDC00 ≤ low ∧ low ≤ 0xDFFF) :
      CharText [0x5C, 0x75, a, b, c, d, 0x5C, 0x75, a', b', c', d']
        (utf8 (0x10000 + (high - 0xD800) * 1024 + (low - 0xDC00)))

/-- `*char` -/
inductive StringText : List UInt8 → List UInt8 → Prop
  | nil : StringText [] []
  | cons {char bytes text str : List UInt8} (hchar : CharText char bytes) (htext : StringText text str) :
      StringText (char ++ text) (bytes ++ str)

mutual

/-- `value` -/
inductive ValueText : Value → List UInt8 → Prop
  | null : ValueText .null [0x6E, 0x75, 0x6C, 0x6C]
  | false : ValueText (.boolean false) [0x66, 0x61, 0x6C, 0x73, 0x65]
  | true : ValueText (.boolean true) [0x74, 0x72, 0x75, 0x65]
  | number {text : List UInt8} {mantissa exponent : Int} (h : NumberText text mantissa exponent) :
      ValueText (.number mantissa exponent) text
  | string {text str : List UInt8} (h : StringText text str) :
      ValueText (.string str) (0x22 :: (text ++ [0x22]))
  | emptyArray {ws : List UInt8} (hws : IsWs ws) : ValueText (.array []) (0x5B :: (ws ++ [0x5D]))
  | array {ws text : List UInt8} {items : List Value} (hws : IsWs ws) (h : ItemsText items text) :
      ValueText (.array items) (0x5B :: (ws ++ (text ++ [0x5D])))
  | emptyObject {ws : List UInt8} (hws : IsWs ws) : ValueText (.object []) (0x7B :: (ws ++ [0x7D]))
  | object {ws text : List UInt8} {members : List (List UInt8 × Value)} (hws : IsWs ws)
      (h : MembersText members text) : ValueText (.object members) (0x7B :: (ws ++ (text ++ [0x7D])))

/-- The items of an array from the first character of an item on -/
inductive ItemsText : List Value → List UInt8 → Prop
  | one {item : Value} {text ws : List UInt8} (h : ValueText item text) (hws : IsWs ws) :
      ItemsText [item] (text ++ ws)
  | cons {item : Value} {text ws ws' rest : List UInt8} {items : List Value} (h : ValueText item text)
      (hws : IsWs ws) (hws' : IsWs ws') (hrest : ItemsText items rest) :
      ItemsText (item :: items) (text ++ (ws ++ 0x2C :: (ws' ++ rest)))

/-- `member` -/
inductive MemberText : List UInt8 → Value → List UInt8 → Prop
  | intro {key str ws ws' text : List UInt8} {value : Value} (hkey : StringText key str) (hws : IsWs ws)
      (hws' : IsWs ws') (h : ValueText value text) :
      MemberText str value (0x22 :: (key ++ 0x22 :: (ws ++ 0x3A :: (ws' ++ text))))

/-- The members of an object from the first character of a member on -/
inductive MembersText : List (List UInt8 × Value) → List UInt8 → Prop
  | one {key : List UInt8} {value : Value} {text ws : List UInt8} (h : MemberText key value text)
      (hws : IsWs ws) : MembersText [(key, value)] (text ++ ws)
  | cons {key : List UInt8} {value : Value} {text ws ws' rest : List UInt8}
      {members : List (List UInt8 × Value)} (h : MemberText key value text) (hws : IsWs ws)
      (hws' : IsWs ws') (hrest : MembersText members rest) :
      MembersText ((key, value) :: members) (text ++ (ws ++ 0x2C :: (ws' ++ rest)))

end

/-- `JSON-text = ws value ws` -/
def IsText (value : Value) (text : List UInt8) : Prop :=
  ∃ before inner after, text = before ++ (inner ++ after) ∧ IsWs before ∧ ValueText value inner ∧ IsWs after

end grammar

section parser

def skipWs (text : List UInt8) : List UInt8 := text.dropWhile isWs

/-- Four digits of an escape, or the twelve characters of a surrogate pair, from
    behind its 'u' on: the bytes and how many characters are read. -/
def readUnit (text : List UInt8) : Option (List UInt8 × Nat) :=
  match text with
  | a :: b :: c :: d :: rest =>
    match hexUnit a b c d with
    | none => none
    | some high =>
      if high < 0xD800 ∨ 0xDFFF < high then some (utf8 high, 4)
      else
        match rest with
        | escape :: u :: a' :: b' :: c' :: d' :: _ =>
          match hexUnit a' b' c' d' with
          | none => none
          | some low =>
            if escape = 0x5C ∧ u = 0x75 ∧ high ≤ 0xDBFF ∧ 0xDC00 ≤ low ∧ low ≤ 0xDFFF then
              some (utf8 (0x10000 + (high - 0xD800) * 1024 + (low - 0xDC00)), 10)
            else none
        | _ => none
  | _ => none

/-- The character `c` of a string, and how many of the characters behind it
    are read with it. -/
def readChar (c : UInt8) (rest : List UInt8) : Option (List UInt8 × Nat) :=
  if c = 0x5C then
    match rest with
    | [] => none
    | e :: rest =>
      if e = 0x75 then (readUnit rest).map fun (bytes, count) => (bytes, count + 1)
      else (escapeOf e).map fun d => ([d], 1)
  else if 0x20 ≤ c ∧ c ≠ 0x22 then some ([c], 0)
  else none

/-- A string from behind its opening quotation mark on. -/
def parseString : List UInt8 → Option (List UInt8 × List UInt8)
  | [] => none
  | c :: rest =>
    if c = 0x22 then some ([], rest)
    else
      match readChar c rest with
      | none => none
      | some (bytes, count) =>
        (parseString (rest.drop count)).map fun (str, rest) => (bytes ++ str, rest)
termination_by text => text.length
decreasing_by simp only [List.length_drop, List.length_cons]; omega

def parseInt (text : List UInt8) : Option (List UInt8 × List UInt8) :=
  match text with
  | [] => none
  | c :: rest =>
    if c = 0x30 then some ([c], rest)
    else if isDigit c then some (c :: rest.takeWhile isDigit, rest.dropWhile isDigit)
    else none

def parseFrac (text : List UInt8) : Option (List UInt8 × List UInt8) :=
  match text with
  | 0x2E :: rest =>
    if rest.takeWhile isDigit = [] then none
    else some (rest.takeWhile isDigit, rest.dropWhile isDigit)
  | _ => some ([], text)

def parseSign (text : List UInt8) : Bool × List UInt8 :=
  match text with
  | 0x2B :: rest => (false, rest)
  | 0x2D :: rest => (true, rest)
  | _ => (false, text)

def parseExp (text : List UInt8) : Option (Int × List UInt8) :=
  match text with
  | [] => some (0, [])
  | e :: rest =>
    if e = 0x65 ∨ e = 0x45 then
      let (negative, rest) := parseSign rest
      if rest.takeWhile isDigit = [] then none
      else some (signed negative (decimal (rest.takeWhile isDigit)), rest.dropWhile isDigit)
    else some (0, text)

def parseMinus (text : List UInt8) : Bool × List UInt8 :=
  match text with
  | 0x2D :: rest => (true, rest)
  | _ => (false, text)

def parseNumber (text : List UInt8) : Option (Value × List UInt8) :=
  let (negative, text) := parseMinus text
  (parseInt text).bind fun (int, text) =>
    (parseFrac text).bind fun (digits, text) =>
      (parseExp text).map fun (exponent, rest) =>
        (.number (signed negative (decimal (int ++ digits))) (exponent - digits.length), rest)

mutual

/-- A value from its first character on. -/
def parseValue : Nat → List UInt8 → Option (Value × List UInt8)
  | 0, _ => none
  | fuel + 1, text =>
    match text with
    | 0x22 :: rest => (parseString rest).map fun (str, rest) => (.string str, rest)
    | 0x5B :: rest =>
      match skipWs rest with
      | 0x5D :: rest => some (.array [], rest)
      | rest => (parseItems fuel rest).map fun (items, rest) => (.array items, rest)
    | 0x7B :: rest =>
      match skipWs rest with
      | 0x7D :: rest => some (.object [], rest)
      | rest => (parseMembers fuel rest).map fun (members, rest) => (.object members, rest)
    | 0x6E :: 0x75 :: 0x6C :: 0x6C :: rest => some (.null, rest)
    | 0x66 :: 0x61 :: 0x6C :: 0x73 :: 0x65 :: rest => some (.boolean false, rest)
    | 0x74 :: 0x72 :: 0x75 :: 0x65 :: rest => some (.boolean true, rest)
    | text => parseNumber text

/-- The items of an array and its end, from the first character of an item on. -/
def parseItems : Nat → List UInt8 → Option (List Value × List UInt8)
  | 0, _ => none
  | fuel + 1, text =>
    match parseValue fuel text with
    | none => none
    | some (item, rest) =>
      match skipWs rest with
      | 0x5D :: rest => some ([item], rest)
      | 0x2C :: rest => (parseItems fuel (skipWs rest)).map fun (items, rest) => (item :: items, rest)
      | _ => none

/-- A member from its opening quotation mark on. -/
def parseMember : Nat → List UInt8 → Option ((List UInt8 × Value) × List UInt8)
  | 0, _ => none
  | fuel + 1, text =>
    match text with
    | 0x22 :: rest =>
      (parseString rest).bind fun (key, rest) =>
        match skipWs rest with
        | 0x3A :: rest => (parseValue fuel (skipWs rest)).map fun (value, rest) => ((key, value), rest)
        | _ => none
    | _ => none

/-- The members of an object and its end, from the first character of a member on. -/
def parseMembers : Nat → List UInt8 → Option (List (List UInt8 × Value) × List UInt8)
  | 0, _ => none
  | fuel + 1, text =>
    match parseMember fuel text with
    | none => none
    | some (member, rest) =>
      match skipWs rest with
      | 0x7D :: rest => some ([member], rest)
      | 0x2C :: rest =>
        (parseMembers fuel (skipWs rest)).map fun (members, rest) => (member :: members, rest)
      | _ => none

end

/-- The value of a text, if it is one. Three calls for each character are enough. -/
def parse (text : List UInt8) : Option Value :=
  match parseValue (3 * text.length + 1) (skipWs text) with
  | some (value, rest) => if skipWs rest = [] then some value else none
  | none => none

end parser

section soundness

theorem skipWs_spec (text : List UInt8) : ∃ ws, IsWs ws ∧ text = ws ++ skipWs text :=
  ⟨text.takeWhile isWs, fun _ hc => List.mem_takeWhile_imp hc, List.takeWhile_append_dropWhile.symm⟩

theorem readUnit_sound {text bytes : List UInt8} {count : Nat} (h : readUnit text = some (bytes, count)) :
    ∃ read rest, text = read ++ rest ∧ read.length = count ∧ CharText (0x5C :: 0x75 :: read) bytes := by
  unfold readUnit at h
  split at h
  · rename_i a b c d rest
    split at h
    · cases h
    · rename_i high hhigh
      split at h
      · rename_i hplane
        cases h
        exact ⟨[a, b, c, d], rest, rfl, rfl, .unit hhigh hplane⟩
      · rename_i hsurrogate
        split at h
        · rename_i escape u a' b' c' d' after
          split at h
          · cases h
          · rename_i low hlow
            split at h
            · rename_i hrange
              obtain ⟨rfl, rfl, hhighRange, hlowRange⟩ := hrange
              obtain ⟨rfl, rfl⟩ := Prod.mk.inj (Option.some.inj h)
              refine ⟨[a, b, c, d, 0x5C, 0x75, a', b', c', d'], after, rfl, rfl, ?_⟩
              exact .pair hhigh hlow ⟨by omega, hhighRange⟩ hlowRange
            · cases h
        · cases h
  · cases h

theorem readChar_sound {c : UInt8} {text bytes : List UInt8} {count : Nat}
    (hquote : c ≠ 0x22) (h : readChar c text = some (bytes, count)) :
    ∃ read rest, text = read ++ rest ∧ read.length = count ∧ CharText (c :: read) bytes := by
  unfold readChar at h
  split at h
  · rename_i hescape
    subst hescape
    split at h
    · cases h
    · rename_i e rest
      split at h
      · rename_i hunit
        subst hunit
        obtain ⟨⟨bytes', count'⟩, hread, heq⟩ := Option.map_eq_some_iff.mp h
        cases heq
        obtain ⟨read, after, rfl, rfl, hchar⟩ := readUnit_sound hread
        exact ⟨0x75 :: read, after, rfl, rfl, hchar⟩
      · obtain ⟨d, hd, heq⟩ := Option.map_eq_some_iff.mp h
        cases heq
        exact ⟨[e], rest, rfl, rfl, .escape hd⟩
  · rename_i hescape
    split at h
    · rename_i hplain
      cases h
      exact ⟨[], text, rfl, rfl, .unescaped hplain.1 hquote hescape⟩
    · cases h

/-- What `parseString` accepts is a string and its end. -/
theorem parseString_sound {text str rest : List UInt8} (h : parseString text = some (str, rest)) :
    ∃ inner, text = inner ++ 0x22 :: rest ∧ StringText inner str := by
  fun_induction parseString text generalizing str with
  | case1 => cases h
  | case2 rest' =>
    cases h
    exact ⟨[], rfl, .nil⟩
  | case3 => cases h
  | case4 c text hquote bytes count hread ih =>
    obtain ⟨⟨str', rest'⟩, hparse, heq⟩ := Option.map_eq_some_iff.mp h
    cases heq
    obtain ⟨read, after, rfl, rfl, hchar⟩ := readChar_sound hquote hread
    rw [List.drop_left] at hparse ih
    obtain ⟨inner, rfl, hinner⟩ := ih hparse
    exact ⟨(c :: read) ++ inner, by simp, .cons hchar hinner⟩

theorem takeWhile_isDigit (text : List UInt8) : ∀ d ∈ text.takeWhile isDigit, isDigit d :=
  fun _ hd => List.mem_takeWhile_imp hd

theorem parseInt_sound {text int rest : List UInt8} (h : parseInt text = some (int, rest)) :
    text = int ++ rest ∧ IntText int := by
  unfold parseInt at h
  split at h
  · cases h
  · rename_i c text
    split at h
    · rename_i hzero
      subst hzero
      cases h
      exact ⟨rfl, .zero⟩
    · rename_i hzero
      split at h
      · rename_i hdigit
        cases h
        exact ⟨by simp [List.takeWhile_append_dropWhile], .nonzero hdigit hzero (takeWhile_isDigit text)⟩
      · cases h

theorem parseFrac_sound {text digits rest : List UInt8} (h : parseFrac text = some (digits, rest)) :
    ∃ frac, text = frac ++ rest ∧ FracText frac digits := by
  unfold parseFrac at h
  split at h
  · rename_i text
    split at h
    · cases h
    · rename_i hne
      cases h
      exact ⟨_, by simp [List.takeWhile_append_dropWhile], .point hne (takeWhile_isDigit text)⟩
  · cases h
    exact ⟨[], rfl, .none⟩

theorem parseSign_sound (text : List UInt8) :
    ∃ sign, text = sign ++ (parseSign text).2 ∧ SignText sign (parseSign text).1 := by
  unfold parseSign
  split
  · exact ⟨[0x2B], rfl, .plus⟩
  · exact ⟨[0x2D], rfl, .minus⟩
  · exact ⟨[], rfl, .none⟩

theorem parseExp_sound {text rest : List UInt8} {exponent : Int} (h : parseExp text = some (exponent, rest)) :
    ∃ exp, text = exp ++ rest ∧ ExpText exp exponent := by
  unfold parseExp at h
  split at h
  · cases h
    exact ⟨[], rfl, .none⟩
  · rename_i e text
    split at h
    · rename_i he
      obtain ⟨sign, hsplit, hsign⟩ := parseSign_sound text
      simp only at h
      split at h
      · cases h
      · rename_i hne
        cases h
        refine ⟨e :: (sign ++ (parseSign text).2.takeWhile isDigit), ?_, .exp he hsign hne (takeWhile_isDigit _)⟩
        rw [List.cons_append, List.append_assoc, List.takeWhile_append_dropWhile, ← hsplit]
    · cases h
      exact ⟨[], rfl, .none⟩

/-- What `parseNumber` accepts is a number. -/
theorem parseNumber_sound {text rest : List UInt8} {value : Value}
    (h : parseNumber text = some (value, rest)) : ∃ inner, text = inner ++ rest ∧ ValueText value inner := by
  have hminus : text = (if (parseMinus text).1 then [0x2D] else []) ++ (parseMinus text).2 := by
    unfold parseMinus
    split <;> rfl
  unfold parseNumber at h
  generalize parseMinus text = minus at *
  obtain ⟨negative, text'⟩ := minus
  simp only at h hminus
  obtain ⟨⟨int, afterInt⟩, hint, h⟩ := Option.bind_eq_some_iff.mp h
  obtain ⟨⟨digits, afterFrac⟩, hfrac, h⟩ := Option.bind_eq_some_iff.mp h
  obtain ⟨⟨exponent, afterExp⟩, hexp, heq⟩ := Option.map_eq_some_iff.mp h
  cases heq
  obtain ⟨hintSplit, hintText⟩ := parseInt_sound hint
  obtain ⟨frac, hfracSplit, hfracText⟩ := parseFrac_sound hfrac
  obtain ⟨exp, hexpSplit, hexpText⟩ := parseExp_sound hexp
  refine ⟨_, ?_, .number (.intro negative hintText hfracText hexpText)⟩
  simp only at hintSplit hfracSplit hexpSplit
  rw [hminus, hintSplit, hfracSplit, hexpSplit]
  simp only [List.append_assoc]

/-- What the four functions accept with some fuel is in the grammar. -/
structure SoundAt (fuel : Nat) : Prop where
  value : ∀ {text rest value}, parseValue fuel text = some (value, rest) →
    ∃ inner, text = inner ++ rest ∧ ValueText value inner
  items : ∀ {text rest items}, parseItems fuel text = some (items, rest) →
    ∃ inner, text = inner ++ 0x5D :: rest ∧ ItemsText items inner
  member : ∀ {text rest member}, parseMember fuel text = some (member, rest) →
    ∃ inner, text = inner ++ rest ∧ MemberText member.1 member.2 inner
  members : ∀ {text rest members}, parseMembers fuel text = some (members, rest) →
    ∃ inner, text = inner ++ 0x7D :: rest ∧ MembersText members inner

theorem SoundAt.parseValue {fuel : Nat} (hsound : SoundAt fuel) {text rest : List UInt8} {value : Value}
    (h : Json.parseValue (fuel + 1) text = some (value, rest)) :
    ∃ inner, text = inner ++ rest ∧ ValueText value inner := by
  unfold Json.parseValue at h
  split at h
  · obtain ⟨⟨str, after⟩, hstr, heq⟩ := Option.map_eq_some_iff.mp h
    cases heq
    obtain ⟨inner, rfl, hinner⟩ := parseString_sound hstr
    exact ⟨0x22 :: (inner ++ [0x22]), by simp, .string hinner⟩
  · rename_i text
    obtain ⟨ws, hws, hskip⟩ := skipWs_spec text
    split at h
    · rename_i after hend
      cases h
      rw [hend] at hskip
      exact ⟨0x5B :: (ws ++ [0x5D]), by simp [hskip], .emptyArray hws⟩
    · obtain ⟨⟨items, after⟩, hitems, heq⟩ := Option.map_eq_some_iff.mp h
      cases heq
      obtain ⟨inner, hinner, hitemsText⟩ := hsound.items hitems
      rw [hinner] at hskip
      exact ⟨0x5B :: (ws ++ (inner ++ [0x5D])), by simp [hskip], .array hws hitemsText⟩
  · rename_i text
    obtain ⟨ws, hws, hskip⟩ := skipWs_spec text
    split at h
    · rename_i after hend
      cases h
      rw [hend] at hskip
      exact ⟨0x7B :: (ws ++ [0x7D]), by simp [hskip], .emptyObject hws⟩
    · obtain ⟨⟨members, after⟩, hmembers, heq⟩ := Option.map_eq_some_iff.mp h
      cases heq
      obtain ⟨inner, hinner, hmembersText⟩ := hsound.members hmembers
      rw [hinner] at hskip
      exact ⟨0x7B :: (ws ++ (inner ++ [0x7D])), by simp [hskip], .object hws hmembersText⟩
  · cases h
    exact ⟨_, rfl, .null⟩
  · cases h
    exact ⟨_, rfl, .false⟩
  · cases h
    exact ⟨_, rfl, .true⟩
  · exact parseNumber_sound h

theorem SoundAt.parseItems {fuel : Nat} (hsound : SoundAt fuel) {text rest : List UInt8} {items : List Value}
    (h : Json.parseItems (fuel + 1) text = some (items, rest)) :
    ∃ inner, text = inner ++ 0x5D :: rest ∧ ItemsText items inner := by
  unfold Json.parseItems at h
  split at h
  · cases h
  · rename_i item after hitem
    obtain ⟨inner, hinner, hitemText⟩ := hsound.value hitem
    obtain ⟨ws, hws, hskip⟩ := skipWs_spec after
    split at h
    · rename_i after' hend
      cases h
      rw [hend] at hskip
      exact ⟨inner ++ ws, by rw [hinner, hskip, List.append_assoc], .one hitemText hws⟩
    · rename_i after' hcomma
      obtain ⟨⟨items', after''⟩, hitems, heq⟩ := Option.map_eq_some_iff.mp h
      cases heq
      obtain ⟨ws', hws', hskip'⟩ := skipWs_spec after'
      obtain ⟨inner', hinner', hitemsText⟩ := hsound.items hitems
      rw [hinner'] at hskip'
      rw [hcomma, hskip'] at hskip
      exact ⟨inner ++ (ws ++ 0x2C :: (ws' ++ inner')), by simp [hinner, hskip],
        .cons hitemText hws hws' hitemsText⟩
    · cases h

theorem SoundAt.parseMember {fuel : Nat} (hsound : SoundAt fuel) {text rest : List UInt8}
    {member : List UInt8 × Value} (h : Json.parseMember (fuel + 1) text = some (member, rest)) :
    ∃ inner, text = inner ++ rest ∧ MemberText member.1 member.2 inner := by
  unfold Json.parseMember at h
  split at h
  · obtain ⟨⟨str, after⟩, hstr, hrest⟩ := Option.bind_eq_some_iff.mp h
    obtain ⟨key, hkey, hkeyText⟩ := parseString_sound hstr
    obtain ⟨ws, hws, hskip⟩ := skipWs_spec after
    simp only at hrest
    split at hrest
    · rename_i after' hcolon
      obtain ⟨⟨value, after''⟩, hvalue, heq⟩ := Option.map_eq_some_iff.mp hrest
      cases heq
      obtain ⟨ws', hws', hskip'⟩ := skipWs_spec after'
      obtain ⟨inner, hinner, hvalueText⟩ := hsound.value hvalue
      rw [hinner] at hskip'
      rw [hcolon, hskip'] at hskip
      exact ⟨0x22 :: (key ++ 0x22 :: (ws ++ 0x3A :: (ws' ++ inner))), by simp [hkey, hskip],
        .intro hkeyText hws hws' hvalueText⟩
    · cases hrest
  · cases h

theorem SoundAt.parseMembers {fuel : Nat} (hsound : SoundAt fuel) {text rest : List UInt8}
    {members : List (List UInt8 × Value)} (h : Json.parseMembers (fuel + 1) text = some (members, rest)) :
    ∃ inner, text = inner ++ 0x7D :: rest ∧ MembersText members inner := by
  unfold Json.parseMembers at h
  split at h
  · cases h
  · rename_i member after hmember
    obtain ⟨inner, hinner, hmemberText⟩ := hsound.member hmember
    obtain ⟨ws, hws, hskip⟩ := skipWs_spec after
    split at h
    · rename_i after' hend
      cases h
      rw [hend] at hskip
      exact ⟨inner ++ ws, by rw [hinner, hskip, List.append_assoc], .one hmemberText hws⟩
    · rename_i after' hcomma
      obtain ⟨⟨members', after''⟩, hmembers, heq⟩ := Option.map_eq_some_iff.mp h
      cases heq
      obtain ⟨ws', hws', hskip'⟩ := skipWs_spec after'
      obtain ⟨inner', hinner', hmembersText⟩ := hsound.members hmembers
      rw [hinner'] at hskip'
      rw [hcomma, hskip'] at hskip
      exact ⟨inner ++ (ws ++ 0x2C :: (ws' ++ inner')), by simp [hinner, hskip],
        .cons hmemberText hws hws' hmembersText⟩
    · cases h

theorem soundAt (fuel : Nat) : SoundAt fuel := by
  induction fuel with
  | zero =>
    constructor <;> intro _ _ _ h
    · simp [Json.parseValue] at h
    · simp [Json.parseItems] at h
    · simp [Json.parseMember] at h
    · simp [Json.parseMembers] at h
  | succ fuel ih => exact ⟨ih.parseValue, ih.parseItems, ih.parseMember, ih.parseMembers⟩

/-- What the parser accepts is a JSON text of the value it returns. -/
theorem parse_sound {text : List UInt8} {value : Value} (h : parse text = some value) : IsText value text := by
  unfold parse at h
  split at h
  · rename_i value' rest hvalue
    split at h
    · rename_i hend
      cases h
      obtain ⟨before, hbefore, hskip⟩ := skipWs_spec text
      obtain ⟨inner, hinner, hvalueText⟩ := (soundAt _).value hvalue
      obtain ⟨after, hafter, hskip'⟩ := skipWs_spec rest
      rw [hend, List.append_nil] at hskip'
      exact ⟨before, inner, rest, by rw [hskip, hinner], hbefore, hvalueText, hskip' ▸ hafter⟩
    · cases h
  · cases h

end soundness

end Json
