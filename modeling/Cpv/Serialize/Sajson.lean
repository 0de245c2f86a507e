import Cpv.Core.Json
import Cpv.Utility.SharedString

namespace cpv.Sajson

/-- Error code indicating why parse failed -/
inductive Error
  | unexpectedEnd
  | missingRootElement
  | badRoot
  | expectedComma
  | missingObjectKey
  | expectedColon
  | expectedEndOfInput
  | unexpectedComma
  | expectedValue
  | expectedNull
  | expectedFalse
  | expectedTrue
  | invalidNumber
  | missingExponent
  | illegalCodepoint (arg : UInt8)
  | invalidUnicodeEscape
  | unexpectedEndOfUtf16
  | expectedU
  | invalidUtf16TrailSurrogate
  | unknownEscape
  | invalidUtf8

/-- A JSON value and its type -/
inductive Value
  | integer (value : Int)
  | double (value : Float)
  | null
  | false
  | true
  | string (str : SharedString)
  | array (elements : List Value)
  | object (members : List (SharedString × Value))

def isDigit (c : UInt8) : Bool := byte '0' ≤ c && c ≤ byte '9'

def isPlainStringCharacter (c : UInt8) : Bool := 0x20 ≤ c && c ≤ 0x7F && c != 0x22 && c != 0x5C

def isWhitespace (c : UInt8) : Bool := c == byte '\r' || c == byte '\n' || c == byte '\t' || c == byte ' '

section number

def INT_MAX : Int := 2147483647

def pow10 (exponent : Int) : Float :=
  if exponent > 308 then 1.0 / 0.0
  else if exponent < -323 then 0.0
  else Float.ofScientific 1 (exponent < 0) exponent.natAbs

/-- What `parse_number` has read: an `int` until it may not hold another digit,
    then a `double` -/
structure Number where
  tryDouble : Bool
  i : Int
  d : Float

def Number.zero : Number := ⟨false, 0, 0.0⟩

def Number.toDouble (number : Number) : Number :=
  if number.tryDouble then number
  else { number with
    tryDouble := true
    d := Float.ofInt number.i }

def Number.pushDigit (number : Number) (digit : UInt8) : Number :=
  let number := if !number.tryDouble ∧ number.i > INT_MAX / 10 - 9 then number.toDouble else number
  if number.tryDouble then { number with
    d := 10.0 * number.d + Float.ofNat digit.toNat }
  else { number with
    i := 10 * number.i + digit.toNat }

/-- The loop over the digits of the integer, from the digit `c` on -/
def integerLoop (number : Number) (c : UInt8) : List UInt8 → Except Error (Number × List UInt8)
  | [] => .error .unexpectedEnd
  | next :: p =>
    let number := number.pushDigit (c - byte '0')
    if isDigit next then integerLoop number next p else .ok (number, next :: p)

/-- The loop over the digits of the fraction, from the digit `c` on -/
def fractionLoop (number : Number) (exponent : Int) (c : UInt8) :
    List UInt8 → Except Error (Number × Int × List UInt8)
  | [] => .error .unexpectedEnd
  | next :: p =>
    let number := { number with
      d := number.d * 10.0 + Float.ofNat (c - byte '0').toNat }
    if isDigit next then fractionLoop number (exponent - 1) next p else .ok (number, exponent - 1, next :: p)

/-- The loop over the digits of the exponent, from the digit `c` on -/
def exponentLoop (exp : Int) (c : UInt8) : List UInt8 → Except Error (Int × List UInt8)
  | [] => .error .unexpectedEnd
  | next :: p =>
    let digit := (c - byte '0').toNat
    let exp := if exp > (INT_MAX - digit) / 10 then INT_MAX else 10 * exp + digit
    if isDigit next then exponentLoop exp next p else .ok (exp, next :: p)

/-- Skip the character at `p`, which must not be the last one. -/
def advance (p : List UInt8) : Except Error (List UInt8) :=
  if p.tail = [] then .error .unexpectedEnd else .ok p.tail

def parseMinus (p : List UInt8) : Except Error (Bool × List UInt8) :=
  if p.head? = some (byte '-') then (advance p).map (true, ·) else .ok (false, p)

def parseInteger (p : List UInt8) : Except Error (Number × List UInt8) :=
  match p with
  | [] => .error .unexpectedEnd
  | c :: rest =>
    if c = byte '0' then (advance p).map (Number.zero, ·)
    else if isDigit c then integerLoop Number.zero c rest
    else .error .invalidNumber

def parseFraction (number : Number) (p : List UInt8) : Except Error (Number × Int × List UInt8) :=
  if p.head? = some (byte '.') then
    match p.tail with
    | [] => .error .unexpectedEnd
    | c :: p => if isDigit c then fractionLoop number.toDouble 0 c p else .error .invalidNumber
  else .ok (number, 0, p)

/-- The sign of an exponent -/
def parseExponentSign (p : List UInt8) : Except Error (Bool × List UInt8) :=
  if p.head? = some (byte '-') then (advance p).map (true, ·)
  else if p.head? = some (byte '+') then (advance p).map (false, ·)
  else .ok (false, p)

def parseExponent (number : Number) (exponent : Int) (p : List UInt8) :
    Except Error (Number × Int × List UInt8) :=
  if p.head? = some (byte 'e') ∨ p.head? = some (byte 'E') then
    (advance p).bind fun p =>
      (parseExponentSign p).bind fun (negativeExponent, p) =>
        match p with
        | [] => .error .unexpectedEnd
        | c :: p =>
          if isDigit c then
            (exponentLoop 0 c p).map fun (exp, p) =>
              (number.toDouble, exponent + (if negativeExponent then -exp else exp), p)
          else .error .missingExponent
  else .ok (number, exponent, p)

/-- The value of a number that is read -/
def Number.value (number : Number) (negative : Bool) (exponent : Int) : Value :=
  let d := if exponent ≠ 0 ∧ number.d != 0.0 then number.d * pow10 exponent else number.d
  if number.tryDouble then .double (if negative then -d else d)
  else .integer (if negative then -number.i else number.i)

def parseNumber (p : List UInt8) : Except Error (Value × List UInt8) :=
  (parseMinus p).bind fun (negative, p) =>
    (parseInteger p).bind fun (number, p) =>
      (parseFraction number p).bind fun (number, exponent, p) =>
        (parseExponent number exponent p).map fun (number, exponent, p) =>
          (number.value negative exponent, p)

end number

section string

/-- The characters behind a backslash that stand for one byte -/
def replacementOf (c : UInt8) : Option UInt8 :=
  if c = 0x22 then some 0x22
  else if c = 0x5C then some 0x5C
  else if c = byte '/' then some (byte '/')
  else if c = byte 'b' then some 0x08
  else if c = byte 'f' then some 0x0C
  else if c = byte 'n' then some (byte '\n')
  else if c = byte 'r' then some (byte '\r')
  else if c = byte 't' then some (byte '\t')
  else none

def hexDigitOf (c : UInt8) : Option Nat :=
  if byte '0' ≤ c ∧ c ≤ byte '9' then some (c - byte '0').toNat
  else if byte 'a' ≤ c ∧ c ≤ byte 'f' then some (c - byte 'a' + 10).toNat
  else if byte 'A' ≤ c ∧ c ≤ byte 'F' then some (c - byte 'A' + 10).toNat
  else none

/-- Four hexadecimal digits -/
def readHex (digits : List UInt8) : Except Error Nat :=
  digits.foldlM (fun v c =>
    match hexDigitOf c with
    | some digit => .ok (v <<< 4 + digit)
    | none => .error .invalidUnicodeEscape) 0

def writeUtf8 (codepoint : Nat) : SharedString :=
  if codepoint < 0x80 then [UInt8.ofNat codepoint]
  else if codepoint < 0x800 then
    [UInt8.ofNat (0xC0 ||| codepoint >>> 6), UInt8.ofNat (0x80 ||| codepoint &&& 0x3F)]
  else if codepoint < 0x10000 then
    [UInt8.ofNat (0xE0 ||| codepoint >>> 12), UInt8.ofNat (0x80 ||| (codepoint >>> 6) &&& 0x3F),
      UInt8.ofNat (0x80 ||| codepoint &&& 0x3F)]
  else
    [UInt8.ofNat (0xF0 ||| codepoint >>> 18), UInt8.ofNat (0x80 ||| (codepoint >>> 12) &&& 0x3F),
      UInt8.ofNat (0x80 ||| (codepoint >>> 6) &&& 0x3F), UInt8.ofNat (0x80 ||| codepoint &&& 0x3F)]

/-- The digits of an escape and what stands behind them: the bytes, and how
    many characters are read. -/
def readUnicode (p : List UInt8) : Except Error (SharedString × Nat) :=
  if p.length < 4 then .error .unexpectedEnd
  else
    (readHex (p.take 4)).bind fun u =>
      if 0xD800 ≤ u ∧ u ≤ 0xDBFF then
        let p := p.drop 4
        if p.length < 6 then .error .unexpectedEndOfUtf16
        else if p.take 2 ≠ [0x5C, byte 'u'] then .error .expectedU
        else
          (readHex ((p.drop 2).take 4)).bind fun v =>
            if v < 0xDC00 ∨ 0xDFFF < v then .error .invalidUtf16TrailSurrogate
            else .ok (writeUtf8 (0x10000 + ((u - 0xD800) <<< 10 ||| (v - 0xDC00))), 10)
      else .ok (writeUtf8 u, 4)

def isContinuation (c : UInt8) : Bool := 0x80 ≤ c && c < 0xC0

/-- How many bytes belong to the first byte of a character outside ASCII -/
def continuationCount (c0 : UInt8) : Option Nat :=
  if c0 < 224 then some 1
  else if c0 < 240 then some 2
  else if c0 < 248 then some 3
  else none

/-- Validate UTF-8: the bytes of the character that starts with `c0`. -/
def readUtf8 (c0 : UInt8) (p : List UInt8) : Except Error (SharedString × Nat) :=
  if c0 < 128 then .ok ([c0], 0)
  else
    match continuationCount c0 with
    | none => .error .invalidUtf8
    | some count =>
      if p.length < count then .error .unexpectedEnd
      else if (p.take count).all isContinuation then .ok (c0 :: p.take count, count)
      else .error .invalidUtf8

/-- The character `c` of a string, and how many of the characters behind it are
    read with it. -/
def readCharacter (c : UInt8) (p : List UInt8) : Except Error (SharedString × Nat) :=
  if c = 0x5C then
    match p with
    | [] => .error .unexpectedEnd
    | e :: p =>
      match replacementOf e with
      | some replacement => .ok ([replacement], 1)
      | none =>
        if e = byte 'u' then (readUnicode p).map fun (bytes, count) => (bytes, count + 1)
        else .error .unknownEscape
  else readUtf8 c p

/-- The parser writes the characters over the text that it has read. -/
def parseStringSlow : List UInt8 → Except Error (SharedString × List UInt8)
  | [] => .error .unexpectedEnd
  | c :: p =>
    if c < 0x20 then .error (.illegalCodepoint c)
    else if c = 0x22 then .ok ([], p)
    else
      match readCharacter c p with
      | .error error => .error error
      | .ok (bytes, count) =>
        (parseStringSlow (p.drop count)).map fun (str, p) => (bytes ++ str, p)
termination_by p => p.length
decreasing_by simp only [List.length_drop, List.length_cons]; omega

/-- A string from behind its opening quotation mark on -/
def parseString (p : List UInt8) : Except Error (SharedString × List UInt8) :=
  let plain := p.takeWhile isPlainStringCharacter
  match p.dropWhile isPlainStringCharacter with
  | [] => .error .unexpectedEnd
  | c :: p =>
    if c = 0x22 then .ok (plain, p)
    else if c < 0x20 then .error (.illegalCodepoint c)
    else (parseStringSlow (c :: p)).map fun (str, p) => (plain ++ str, p)

end string

section document

def skipWhitespace (p : List UInt8) : List UInt8 := p.dropWhile isWhitespace

/-- The order of the keys of an object: the shorter first, then by bytes -/
def keyLess (lhs rhs : SharedString) : Bool :=
  lhs.length < rhs.length || (lhs.length == rhs.length && decide (lhs < rhs))

/-- An object with its members sorted by their keys -/
def installObject (members : List (SharedString × Value)) : Value :=
  .object (members.mergeSort fun lhs rhs => !keyLess rhs.1 lhs.1)

/-- Given a string key, the value with that key: `std::lower_bound` on the
    sorted members, then one comparison. -/
def Value.getValueOfKey (members : List (SharedString × Value)) (key : SharedString) : Option Value :=
  match members.dropWhile fun member => keyLess member.1 key with
  | [] => none
  | member :: _ => if member.1 = key then some member.2 else none

/-- An array or object that is open, and the key whose value comes next -/
inductive Structure
  | array (elements : List Value)
  | object (members : List (SharedString × Value)) (key : SharedString)

def Structure.push : Structure → Value → Structure
  | .array elements, value => .array (elements ++ [value])
  | .object members key, value => .object (members ++ [(key, value)]) key

def Structure.setKey : Structure → SharedString → Structure
  | .array elements, _ => .array elements
  | .object members _, key => .object members key

def Structure.install : Structure → Value
  | .array elements => .array elements
  | .object members _ => installObject members

/-- Where the state machine of `parse` goes next -/
inductive Label
  | arrayCloseOrElement
  | objectCloseOrElement
  | structureCloseOrComma
  | objectKey
  | nextElement

/-- What is left to read, the structure that is open and those around it -/
structure ParserState where
  label : Label
  p : List UInt8
  current : Structure
  parents : List Structure

inductive Outcome
  | goto (state : ParserState)
  | document (root : Value)

namespace ParserState

/-- The structure ends in front of `p`. -/
def pop (state : ParserState) (p : List UInt8) : Except Error Outcome :=
  match state.parents with
  | [] => if skipWhitespace p = [] then .ok (.document state.current.install) else .error .expectedEndOfInput
  | parent :: parents => .ok (.goto ⟨.structureCloseOrComma, p, parent.push state.current.install, parents⟩)

/-- A value is read and `p` is behind it. -/
def pushValue (state : ParserState) (value : Value) (p : List UInt8) : Outcome :=
  .goto ⟨.structureCloseOrComma, p, state.current.push value, state.parents⟩

/-- `parse_null`, `parse_false` and `parse_true` -/
def literal (state : ParserState) (p text : List UInt8) (value : Value) (error : Error) : Except Error Outcome :=
  if p.length < text.length then .error .unexpectedEnd
  else if p.take text.length = text then .ok (state.pushValue value (p.drop text.length))
  else .error error

def nextElement (state : ParserState) (c : UInt8) (p : List UInt8) : Except Error Outcome :=
  if c = 0 then .error .unexpectedEnd
  else if c = byte 'n' then state.literal (c :: p) (text "null") .null .expectedNull
  else if c = byte 'f' then state.literal (c :: p) (text "false") .false .expectedFalse
  else if c = byte 't' then state.literal (c :: p) (text "true") .true .expectedTrue
  else if isDigit c ∨ c = byte '-' then
    (parseNumber (c :: p)).map fun (value, p) => state.pushValue value p
  else if c = 0x22 then (parseString p).map fun (str, p) => state.pushValue (.string str) p
  else if c = byte '[' then .ok (.goto ⟨.arrayCloseOrElement, p, .array [], state.current :: state.parents⟩)
  else if c = 0x7B then .ok (.goto ⟨.objectCloseOrElement, p, .object [] [], state.current :: state.parents⟩)
  else if c = byte ',' then .error .unexpectedComma
  else .error .expectedValue

/-- A key and its colon, and the value comes next -/
def objectKey (state : ParserState) (c : UInt8) (p : List UInt8) : Except Error Outcome :=
  if c ≠ 0x22 then .error .missingObjectKey
  else
    (parseString p).bind fun (key, p) =>
      match skipWhitespace p with
      | [] => .error .expectedColon
      | c :: p =>
        if c ≠ byte ':' then .error .expectedColon
        else .ok (.goto ⟨.nextElement, p, state.current.setKey key, state.parents⟩)

/-- One label of the state machine, from the character `c` behind whitespace on -/
def stepAt (state : ParserState) (c : UInt8) (p : List UInt8) : Except Error Outcome :=
  match state.label with
  | .arrayCloseOrElement =>
    if c = byte ']' then state.pop p else .ok (.goto { state with
      label := .nextElement
      p := c :: p })
  | .objectCloseOrElement =>
    if c = 0x7D then state.pop p else .ok (.goto { state with
      label := .objectKey
      p := c :: p })
  | .structureCloseOrComma =>
    match state.current with
    | .array _ =>
      if c = byte ']' then state.pop p
      else if c ≠ byte ',' then .error .expectedComma
      else .ok (.goto { state with
        label := .nextElement
        p := p })
    | .object _ _ =>
      if c = 0x7D then state.pop p
      else if c ≠ byte ',' then .error .expectedComma
      else .ok (.goto { state with
        label := .objectKey
        p := p })
  | .objectKey => state.objectKey c p
  | .nextElement => state.nextElement c p

def step (state : ParserState) : Except Error Outcome :=
  match skipWhitespace state.p with
  | [] => .error .unexpectedEnd
  | c :: p => state.stepAt c p

/-- Every step reads a character or goes to a label that does. -/
def measure (state : ParserState) : Nat :=
  match state.label with
  | .objectKey | .nextElement => 2 * state.p.length
  | _ => 2 * state.p.length + 1

end ParserState

section progress

theorem advance_length {p rest : List UInt8} (h : advance p = .ok rest) : rest.length < p.length := by
  unfold advance at h
  split at h
  · cases h
  · rename_i hne
    cases h
    cases p with
    | nil => exact absurd rfl hne
    | cons => simp

theorem integerLoop_length {number number' : Number} {c : UInt8} {p rest : List UInt8}
    (h : integerLoop number c p = .ok (number', rest)) : rest.length ≤ p.length := by
  induction p generalizing number c with
  | nil => cases h
  | cons next p ih =>
    unfold integerLoop at h
    dsimp only at h
    split at h
    · exact (ih h).trans (Nat.le_succ _)
    · cases h
      rfl

theorem fractionLoop_length {number number' : Number} {exponent exponent' : Int} {c : UInt8} {p rest : List UInt8}
    (h : fractionLoop number exponent c p = .ok (number', exponent', rest)) : rest.length ≤ p.length := by
  induction p generalizing number exponent c with
  | nil => cases h
  | cons next p ih =>
    unfold fractionLoop at h
    dsimp only at h
    split at h
    · exact (ih h).trans (Nat.le_succ _)
    · cases h
      rfl

theorem exponentLoop_length {exp exp' : Int} {c : UInt8} {p rest : List UInt8}
    (h : exponentLoop exp c p = .ok (exp', rest)) : rest.length ≤ p.length := by
  induction p generalizing exp c with
  | nil => cases h
  | cons next p ih =>
    unfold exponentLoop at h
    dsimp only at h
    generalize (if exp > (INT_MAX - (c - byte '0').toNat) / 10 then INT_MAX
      else 10 * exp + (c - byte '0').toNat) = exp at h
    split at h
    · exact (ih h).trans (Nat.le_succ _)
    · cases h
      rfl

theorem bind_eq_ok {α β : Type} {x : Except Error α} {f : α → Except Error β} {b : β} (h : x.bind f = .ok b) :
    ∃ a, x = .ok a ∧ f a = .ok b := by
  cases x with
  | error => cases h
  | ok a => exact ⟨a, rfl, h⟩

theorem map_eq_ok {α β : Type} {x : Except Error α} {f : α → β} {b : β} (h : x.map f = .ok b) :
    ∃ a, x = .ok a ∧ f a = b := by
  cases x with
  | error => cases h
  | ok a => exact ⟨a, rfl, Except.ok.inj h⟩

theorem parseMinus_length {p rest : List UInt8} {negative : Bool} (h : parseMinus p = .ok (negative, rest)) :
    rest.length ≤ p.length := by
  unfold parseMinus at h
  split at h
  · obtain ⟨rest', hadvance, heq⟩ := map_eq_ok h
    cases heq
    exact (advance_length hadvance).le
  · cases h
    rfl

theorem parseInteger_length {p rest : List UInt8} {number : Number} (h : parseInteger p = .ok (number, rest)) :
    rest.length < p.length := by
  unfold parseInteger at h
  split at h
  · cases h
  · split at h
    · obtain ⟨rest', hadvance, heq⟩ := map_eq_ok h
      cases heq
      exact advance_length hadvance
    · split at h
      · exact Nat.lt_succ_of_le (integerLoop_length h)
      · cases h

theorem parseFraction_length {p rest : List UInt8} {number number' : Number} {exponent : Int}
    (h : parseFraction number p = .ok (number', exponent, rest)) : rest.length ≤ p.length := by
  unfold parseFraction at h
  split at h
  · split at h
    · cases h
    · rename_i c digits htail
      split at h
      · have hlength := congrArg List.length htail
        rw [List.length_tail, List.length_cons] at hlength
        have hloop := fractionLoop_length h
        omega
      · cases h
  · cases h
    rfl

theorem parseExponentSign_length {p rest : List UInt8} {negative : Bool}
    (h : parseExponentSign p = .ok (negative, rest)) : rest.length ≤ p.length := by
  unfold parseExponentSign at h
  split at h
  · obtain ⟨rest', hadvance, heq⟩ := map_eq_ok h
    cases heq
    exact (advance_length hadvance).le
  · split at h
    · obtain ⟨rest', hadvance, heq⟩ := map_eq_ok h
      cases heq
      exact (advance_length hadvance).le
    · cases h
      rfl

theorem parseExponent_length {p rest : List UInt8} {number number' : Number} {exponent exponent' : Int}
    (h : parseExponent number exponent p = .ok (number', exponent', rest)) : rest.length ≤ p.length := by
  unfold parseExponent at h
  split at h
  · obtain ⟨afterE, hadvance, hsign⟩ := bind_eq_ok h
    obtain ⟨⟨negativeExponent, afterSign⟩, hparse, hdigits⟩ := bind_eq_ok hsign
    have hafterE := advance_length hadvance
    have hafterSign := parseExponentSign_length hparse
    simp only at hdigits
    split at hdigits
    · cases hdigits
    · split at hdigits
      · obtain ⟨⟨exp, afterDigits⟩, hloop, heq⟩ := map_eq_ok hdigits
        cases heq
        have hlength := exponentLoop_length hloop
        rw [List.length_cons] at hafterSign
        simp only
        omega
      · cases hdigits
  · cases h
    rfl

theorem parseNumber_length {p rest : List UInt8} {value : Value} (h : parseNumber p = .ok (value, rest)) :
    rest.length < p.length := by
  obtain ⟨⟨negative, afterMinus⟩, hminus, h⟩ := bind_eq_ok h
  obtain ⟨⟨number, afterInteger⟩, hinteger, h⟩ := bind_eq_ok h
  obtain ⟨⟨number', exponent, afterFraction⟩, hfraction, h⟩ := bind_eq_ok h
  obtain ⟨⟨number'', exponent', afterExponent⟩, hexponent, heq⟩ := map_eq_ok h
  obtain rfl : afterExponent = rest := congrArg Prod.snd heq
  calc afterExponent.length ≤ afterFraction.length := parseExponent_length hexponent
    _ ≤ afterInteger.length := parseFraction_length hfraction
    _ < afterMinus.length := parseInteger_length hinteger
    _ ≤ p.length := parseMinus_length hminus

theorem parseStringSlow_length {p rest : List UInt8} {str : SharedString}
    (h : parseStringSlow p = .ok (str, rest)) : rest.length < p.length := by
  fun_induction parseStringSlow p generalizing str with
  | case1 => cases h
  | case2 => cases h
  | case3 =>
    cases h
    simp
  | case4 => cases h
  | case5 c p hcontrol hquote bytes count hread ih =>
    obtain ⟨⟨str', rest'⟩, hslow, heq⟩ := map_eq_ok h
    cases heq
    have hlength := ih hslow
    rw [List.length_drop] at hlength
    rw [List.length_cons]
    omega

theorem parseString_length {p rest : List UInt8} {str : SharedString} (h : parseString p = .ok (str, rest)) :
    rest.length < p.length := by
  have hdrop := (List.dropWhile_sublist (l := p) isPlainStringCharacter).length_le
  unfold parseString at h
  dsimp only at h
  split at h
  · cases h
  · rename_i c p' heq
    rw [heq, List.length_cons] at hdrop
    split at h
    · cases h
      omega
    · split at h
      · cases h
      · obtain ⟨⟨str', rest'⟩, hslow, heq⟩ := map_eq_ok h
        cases heq
        have hlength := parseStringSlow_length hslow
        rw [List.length_cons] at hlength
        simp only
        omega

theorem skipWhitespace_length (p : List UInt8) : (skipWhitespace p).length ≤ p.length :=
  (List.dropWhile_sublist isWhitespace).length_le

end progress

namespace ParserState

theorem pop_measure {state next : ParserState} {p : List UInt8} (h : state.pop p = .ok (.goto next)) :
    next.measure = 2 * p.length + 1 := by
  unfold pop at h
  split at h
  · split at h <;> cases h
  · cases h
    rfl

theorem literal_measure {state next : ParserState} {p text : List UInt8} {value : Value} {error : Error}
    (htext : text ≠ []) (h : state.literal p text value error = .ok (.goto next)) :
    next.measure < 2 * p.length := by
  have hpos := List.length_pos_iff.mpr htext
  unfold literal at h
  split at h
  · cases h
  · split at h
    · cases h
      simp only [measure, List.length_drop]
      omega
    · cases h

theorem nextElement_measure {state next : ParserState} {c : UInt8} {p : List UInt8}
    (h : state.nextElement c p = .ok (.goto next)) : next.measure < 2 * (c :: p).length := by
  unfold nextElement at h
  split at h
  · cases h
  split at h
  · exact literal_measure (by decide) h
  split at h
  · exact literal_measure (by decide) h
  split at h
  · exact literal_measure (by decide) h
  split at h
  · obtain ⟨⟨value, rest⟩, hnumber, heq⟩ := map_eq_ok h
    cases heq
    have hlength := parseNumber_length hnumber
    simp only [measure]
    omega
  split at h
  · obtain ⟨⟨str, rest⟩, hstring, heq⟩ := map_eq_ok h
    cases heq
    have hlength := parseString_length hstring
    simp only [measure, List.length_cons]
    omega
  split at h
  · cases h
    simp only [measure, List.length_cons]
    omega
  split at h
  · cases h
    simp only [measure, List.length_cons]
    omega
  split at h <;> cases h

theorem objectKey_measure {state next : ParserState} {c : UInt8} {p : List UInt8}
    (h : state.objectKey c p = .ok (.goto next)) : next.measure < 2 * (c :: p).length := by
  unfold objectKey at h
  split at h
  · cases h
  obtain ⟨⟨key, rest⟩, hstring, hcolon⟩ := bind_eq_ok h
  have hlength := parseString_length hstring
  have hskip := skipWhitespace_length rest
  simp only at hcolon
  split at hcolon
  · cases hcolon
  · rename_i c' rest' heq
    rw [heq, List.length_cons] at hskip
    split at hcolon
    · cases hcolon
    · cases hcolon
      simp only [measure, List.length_cons]
      omega

theorem step_measure {state next : ParserState} (h : state.step = .ok (.goto next)) :
    next.measure < state.measure := by
  have hskip := skipWhitespace_length state.p
  obtain ⟨label, p, current, parents⟩ := state
  unfold step at h
  split at h
  · cases h
  rename_i c p' heq
  simp only at hskip heq
  rw [heq, List.length_cons] at hskip
  unfold stepAt at h
  cases label with
  | arrayCloseOrElement =>
    dsimp only at h
    split at h
    · rw [pop_measure h]
      simp only [measure]
      omega
    · cases h
      simp only [measure, List.length_cons]
      omega
  | objectCloseOrElement =>
    dsimp only at h
    split at h
    · rw [pop_measure h]
      simp only [measure]
      omega
    · cases h
      simp only [measure, List.length_cons]
      omega
  | structureCloseOrComma =>
    dsimp only at h
    split at h
    all_goals
      split at h
      · rw [pop_measure h]
        simp only [measure]
        omega
      · split at h
        · cases h
        · cases h
          simp only [measure]
          omega
  | objectKey =>
    have hmeasure := objectKey_measure h
    simp only [measure, List.length_cons] at hmeasure ⊢
    omega
  | nextElement =>
    have hmeasure := nextElement_measure h
    simp only [measure, List.length_cons] at hmeasure ⊢
    omega

/-- The state machine of `parse` -/
def run (state : ParserState) : Except Error Value :=
  match _h : state.step with
  | .error error => .error error
  | .ok (.document root) => .ok root
  | .ok (.goto next) => next.run
termination_by state.measure
decreasing_by exact step_measure _h

end ParserState

/-- Parse document with single allocation -/
def parse (input : List UInt8) : Except Error Value :=
  match skipWhitespace input with
  | [] => .error .missingRootElement
  | c :: p =>
    if c = byte '[' then ParserState.run ⟨.arrayCloseOrElement, p, .array [], []⟩
    else if c = 0x7B then ParserState.run ⟨.objectCloseOrElement, p, .object [] [], []⟩
    else .error .badRoot

end document

end cpv.Sajson
