import Cpv.Serialize.JsonRoundTrip
import Cpv.Serialize.Sajson

namespace cpv

/-- The integer types of 8 to 64 bits -/
inductive IntegerType
  | int8
  | int16
  | int32
  | int64
  | uint8
  | uint16
  | uint32
  | uint64

namespace IntegerType

def bits : IntegerType → Nat
  | .int8 | .uint8 => 8
  | .int16 | .uint16 => 16
  | .int32 | .uint32 => 32
  | .int64 | .uint64 => 64

def lowest : IntegerType → Int
  | .int8 => -2 ^ 7
  | .int16 => -2 ^ 15
  | .int32 => -2 ^ 31
  | .int64 => -2 ^ 63
  | _ => 0

def Represents (type : IntegerType) (n : Int) : Prop := type.lowest ≤ n ∧ n < type.lowest + 2 ^ type.bits

instance (type : IntegerType) (n : Int) : Decidable (type.Represents n) :=
  inferInstanceAs (Decidable (_ ∧ _))

/-- A value of an integer type -/
abbrev Value (type : IntegerType) : Type := { n : Int // type.Represents n }

/-- `static_cast` to an integer type keeps the low bits. -/
def staticCast (type : IntegerType) (n : Int) : type.Value :=
  ⟨type.lowest + (n - type.lowest) % 2 ^ type.bits,
    by
      have hpos : (0 : Int) < 2 ^ type.bits := Int.pow_pos (by decide)
      have hnonneg := Int.emod_nonneg (n - type.lowest) (Int.ne_of_gt hpos)
      have hlt := Int.emod_lt_of_pos (n - type.lowest) hpos
      constructor <;> omega⟩

theorem staticCast_val {type : IntegerType} (value : type.Value) : type.staticCast value.val = value := by
  obtain ⟨n, hlowest, hhighest⟩ := value
  apply Subtype.ext
  show type.lowest + (n - type.lowest) % 2 ^ type.bits = n
  rw [Int.emod_eq_of_lt (by omega) (by omega)]
  omega

end IntegerType

/-- Convert json value to integer if type matched: whether it is, and the
    target afterwards -/
def convertInteger {type : IntegerType} (target : type.Value) : Sajson.Value → Bool × type.Value
  | .integer value => (true, type.staticCast value)
  | _ => (false, target)

/-- Convert json value to string if type matched -/
def convertString (target : SharedString) : Sajson.Value → Bool × SharedString
  | .string str => (true, str)
  | _ => (false, target)

/-- Add an element to the collection and convert it, with the result so far. -/
def convertElement (state : Bool × List SharedString) (element : Sajson.Value) : Bool × List SharedString :=
  let (converted, model) := convertString [] element
  (converted && state.1, state.2 ++ [model])

/-- Convert json value to collection of strings if type matched -/
def convertStrings (models : List SharedString) : Sajson.Value → Bool × List SharedString
  | .array elements => elements.foldl convertElement (true, models)
  | _ => (false, models)

/-- Why json is not deserialized -/
inductive DeserializeException
  | parseFailed (error : Sajson.Error)
  | convertFailed

/-- Deserialize json to model, with the converter of the model's type -/
def deserializeJson {Model : Type} (convert : Model → Sajson.Value → Bool × Model) (model : Model)
    (str : SharedString) : Option DeserializeException × Model :=
  match Sajson.parse str with
  | .error error => (some (.parseFailed error), model)
  | .ok root =>
    let (converted, model) := convert model root
    (if converted then none else some .convertFailed, model)

namespace Sajson

/-- What stands behind a number in a document -/
def EndsNumber (follow : List UInt8) : Prop :=
  ∃ c rest, follow = c :: rest ∧ (isWhitespace c ∨ c = byte ',' ∨ c = byte ']' ∨ c = 0x7D)

/-- A number of RFC 8259 that is written as an integer -/
inductive IntegerLiteral : Int → List UInt8 → Prop
  | intro (negative : Bool) {int : List UInt8} (hint : Json.IntText int) :
      IntegerLiteral (Json.signed negative (Json.decimal int)) ((if negative then [byte '-'] else []) ++ int)

theorem integerLiteral_fromInteger (n : Int) : IntegerLiteral n (fromInteger n) := by
  have hliteral := IntegerLiteral.intro (decide (n < 0)) (intText_fromInt n.natAbs)
  have hvalue : Json.signed (decide (n < 0)) n.natAbs = n := by
    simp only [Json.signed, decide_eq_true_eq]
    split <;> omega
  rw [decimal_fromInt, hvalue] at hliteral
  rw [fromInteger_eq]
  simpa using hliteral

/-- The largest magnitude that `parse_number` reads as an integer -/
def largestInteger : Nat := 2147483559

/-- A number that has read the digits of `n` -/
def Number.Holds (number : Number) (n : Nat) : Prop :=
  if number.tryDouble then largestInteger < n else number.i = n ∧ n ≤ largestInteger

/-- Another digit is read into the integer unless that could overflow it. -/
theorem Number.Holds.pushDigit {number : Number} {n : Nat} (h : number.Holds n) {digit : UInt8}
    (hdigit : digit.toNat ≤ 9) : (number.pushDigit digit).Holds (10 * n + digit.toNat) := by
  have hlimit : INT_MAX / 10 - 9 = 214748355 := by decide
  obtain ⟨tryDouble, i, d⟩ := number
  cases tryDouble with
  | true =>
    simp only [Holds, if_true] at h
    simp only [Number.pushDigit, Bool.not_true, Bool.false_eq_true, false_and, if_false, if_true, Holds]
    omega
  | false =>
    simp only [Holds, Bool.false_eq_true, if_false, largestInteger] at h
    simp only [Number.pushDigit, Bool.not_false, true_and, hlimit]
    split
    · simp only [Number.toDouble, Bool.false_eq_true, if_false, if_true, Holds, largestInteger]
      omega
    · simp only [Bool.false_eq_true, if_false, Holds, largestInteger]
      omega

theorem isDigit_spec {c : UInt8} (h : Json.isDigit c) :
    isDigit c ∧ (c - byte '0').toNat = c.toNat - 0x30 ∧ (c - byte '0').toNat ≤ 9 := by
  have htable : ∀ c : UInt8, Json.isDigit c →
      isDigit c ∧ (c - byte '0').toNat = c.toNat - 0x30 ∧ (c - byte '0').toNat ≤ 9 :=
    forall_byte (by decide +kernel)
  exact htable c h

/-- The loop reads all digits, up to what stands behind them. -/
theorem integerLoop_spec {number : Number} {n : Nat} (h : number.Holds n) {c : UInt8} (hc : Json.isDigit c)
    {digits follow : List UInt8} (hdigits : ∀ d ∈ digits, Json.isDigit d) (hne : follow ≠ [])
    (hfollow : ∀ d ∈ follow.head?, !isDigit d) :
    ∃ number', integerLoop number c (digits ++ follow) = .ok (number', follow) ∧
      number'.Holds ((c :: digits).foldl (fun value c => 10 * value + (c.toNat - 0x30)) n) := by
  obtain ⟨-, hvalue, hle⟩ := isDigit_spec hc
  have hpush := h.pushDigit hle
  rw [hvalue] at hpush
  induction digits generalizing number n c with
  | nil =>
    cases follow with
    | nil => exact absurd rfl hne
    | cons next follow =>
      have hnext : ¬isDigit next := by simpa using hfollow next rfl
      refine ⟨_, ?_, hpush⟩
      rw [List.nil_append, integerLoop]
      simp only [if_neg hnext]
  | cons d digits ih =>
    have hd := hdigits d List.mem_cons_self
    obtain ⟨hdigit, hvalue', hle'⟩ := isDigit_spec hd
    have hpush' := hpush.pushDigit hle'
    rw [hvalue'] at hpush'
    obtain ⟨number', hloop, hholds⟩ := ih hpush hd (fun e he => hdigits e (List.mem_cons_of_mem _ he)) hvalue' hle' hpush'
    refine ⟨number', ?_, hholds⟩
    rw [List.cons_append, integerLoop]
    simp only [if_pos hdigit]
    exact hloop

theorem parseInteger_spec {int : List UInt8} (h : Json.IntText int) {follow : List UInt8} (hne : follow ≠ [])
    (hfollow : ∀ d ∈ follow.head?, !isDigit d) :
    ∃ number, parseInteger (int ++ follow) = .ok (number, follow) ∧ number.Holds (Json.decimal int) := by
  have hzero : Number.zero.Holds 0 := ⟨rfl, Nat.zero_le _⟩
  cases h with
  | zero =>
    refine ⟨Number.zero, ?_, hzero⟩
    simp [parseInteger, advance, hne, Except.map]
  | @nonzero c digits hc hnonzero hdigits =>
    obtain ⟨number, hloop, hholds⟩ := integerLoop_spec hzero hc hdigits hne hfollow
    refine ⟨number, ?_, hholds⟩
    have hnot : c ≠ byte '0' := hnonzero
    rw [List.cons_append, parseInteger, if_neg hnot, if_pos (isDigit_spec hc).1, hloop]

theorem EndsNumber.spec {follow : List UInt8} (h : EndsNumber follow) :
    follow ≠ [] ∧ (∀ d ∈ follow.head?, !isDigit d) ∧ follow.head? ≠ some (byte '.') ∧
      ¬(follow.head? = some (byte 'e') ∨ follow.head? = some (byte 'E')) := by
  have htable : ∀ c : UInt8, (isWhitespace c ∨ c = byte ',' ∨ c = byte ']' ∨ c = 0x7D) →
      !isDigit c ∧ c ≠ byte '.' ∧ c ≠ byte 'e' ∧ c ≠ byte 'E' := forall_byte (by decide +kernel)
  obtain ⟨c, rest, rfl, hc⟩ := h
  obtain ⟨hdigit, hpoint, hlower, hupper⟩ := htable c hc
  exact ⟨by simp, by simpa using hdigit, by simpa using hpoint, by simpa using ⟨hlower, hupper⟩⟩

/-- A literal is read as an integer up to the largest magnitude, and as a double
    from there on. -/
theorem parseNumber_literal {n : Int} {literal : List UInt8} (h : IntegerLiteral n literal)
    {follow : List UInt8} (hfollow : EndsNumber follow) :
    ∃ value, parseNumber (literal ++ follow) = .ok (value, follow) ∧
      (n.natAbs ≤ largestInteger → value = .integer n) ∧ (largestInteger < n.natAbs → ∃ d, value = .double d) := by
  obtain ⟨hne, hdigit, hpoint, hexp⟩ := hfollow.spec
  cases h with
  | @intro negative int hint =>
    obtain ⟨number, hinteger, hholds⟩ := parseInteger_spec hint hne hdigit
    have hminus : parseMinus ((if negative then [byte '-'] else []) ++ int ++ follow) =
        .ok (negative, int ++ follow) := by
      obtain ⟨c, digits, rfl, hc⟩ := hint.head
      cases negative with
      | true => rfl
      | false =>
        have hnot : c ≠ byte '-' := by
          rintro rfl
          cases hc
        simp only [Bool.false_eq_true, if_false, List.nil_append, List.cons_append]
        rw [parseMinus, List.head?_cons, if_neg fun heq => hnot (Option.some.inj heq)]
    refine ⟨number.value negative 0, ?_, ?_, ?_⟩
    · simp only [parseNumber, hminus, Except.bind, hinteger, parseFraction, if_neg hpoint, parseExponent,
        if_neg hexp, Except.map]
    all_goals
      intro hmagnitude
      obtain ⟨tryDouble, i, d⟩ := number
      have habs : (Json.signed negative (Json.decimal int)).natAbs = Json.decimal int := by
        simp only [Json.signed]
        split <;> omega
      rw [habs] at hmagnitude
      cases tryDouble
    · obtain ⟨hi, -⟩ := hholds
      simp only at hi
      simp [Number.value, Json.signed, hi]
    · simp only [Number.Holds, if_true] at hholds
      omega
    · simp only [Number.Holds, Bool.false_eq_true, if_false] at hholds
      omega
    · simp only [Number.value, if_true]
      exact ⟨_, rfl⟩

end Sajson

/-- Convert the number that a document holds in front of `follow`. -/
def convertNumber {type : IntegerType} (target : type.Value) (literal follow : List UInt8) : Bool × type.Value :=
  match Sajson.parseNumber (literal ++ follow) with
  | .ok (value, _) => convertInteger target value
  | .error _ => (false, target)

/-- A value is serialized and converted back, wherever a document holds it. -/
def SurvivesJson {type : IntegerType} (value : type.Value) : Prop :=
  ∀ target follow, Sajson.EndsNumber follow → convertNumber target (fromInteger value.val) follow = (true, value)

/-- A literal is not converted and the target keeps its value. -/
def RefusesLiteral (type : IntegerType) (n : Int) : Prop :=
  ∀ literal, Sajson.IntegerLiteral n literal → ∀ (target : type.Value) follow, Sajson.EndsNumber follow →
    convertNumber target literal follow = (false, target)

theorem convertNumber_eq {type : IntegerType} {n : Int} {literal : List UInt8} (h : Sajson.IntegerLiteral n literal)
    (target : type.Value) {follow : List UInt8} (hfollow : Sajson.EndsNumber follow) :
    convertNumber target literal follow =
      if n.natAbs ≤ Sajson.largestInteger then (true, type.staticCast n) else (false, target) := by
  obtain ⟨value, hparse, hinteger, hdouble⟩ := Sajson.parseNumber_literal h hfollow
  rw [convertNumber, hparse]
  dsimp only
  by_cases hle : n.natAbs ≤ Sajson.largestInteger
  · rw [if_pos hle, hinteger hle, convertInteger]
  · obtain ⟨d, rfl⟩ := hdouble (by omega)
    rw [if_neg hle, convertInteger]
    exact fun _ heq => by cases heq

theorem endsNumber_bracket : Sajson.EndsNumber [byte ']'] := ⟨_, _, rfl, .inr (.inr (.inl rfl))⟩

theorem survivesJson_iff {type : IntegerType} (value : type.Value) :
    SurvivesJson value ↔ value.val.natAbs ≤ Sajson.largestInteger := by
  constructor
  · intro h
    have hconvert := h value _ endsNumber_bracket
    rw [convertNumber_eq (Sajson.integerLiteral_fromInteger _) value endsNumber_bracket] at hconvert
    by_contra hgt
    rw [if_neg hgt] at hconvert
    cases hconvert
  · intro hle target follow hfollow
    rw [convertNumber_eq (Sajson.integerLiteral_fromInteger _) target hfollow, if_pos hle,
      IntegerType.staticCast_val]

theorem refusesLiteral_iff (type : IntegerType) (n : Int) :
    RefusesLiteral type n ↔ Sajson.largestInteger < n.natAbs := by
  constructor
  · intro h
    have hliteral := Sajson.integerLiteral_fromInteger n
    have hconvert := h _ hliteral (type.staticCast 0) _ endsNumber_bracket
    rw [convertNumber_eq hliteral _ endsNumber_bracket] at hconvert
    by_contra hle
    rw [if_pos (by omega)] at hconvert
    cases hconvert
  · intro hgt literal hliteral target follow hfollow
    rw [convertNumber_eq hliteral target hfollow, if_neg (by omega)]

end cpv
