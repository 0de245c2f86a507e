import Cpv.Serialize.JsonSerializer

namespace cpv

section literals

theorem charText_jsonEncodeMapping (c : UInt8) : Json.CharText (JsonEncodeMapping c) [c] := by
  have htable : ∀ c : UInt8, ∃ e read, JsonEncodeMapping c = e :: read ∧ e ≠ 0x22 ∧
      Json.readChar e read = some ([c], read.length) := by
    have hread : ∀ c : UInt8, (JsonEncodeMapping c).head? ≠ some 0x22 ∧
        (JsonEncodeMapping c).head?.bind (Json.readChar · (JsonEncodeMapping c).tail) =
          some ([c], (JsonEncodeMapping c).tail.length) :=
      forall_byte (by decide +kernel)
    intro c
    obtain ⟨hquote, hchar⟩ := hread c
    cases heq : JsonEncodeMapping c with
    | nil => simp [heq] at hchar
    | cons e read => exact ⟨e, read, rfl, by simpa [heq] using hquote, by simpa [heq] using hchar⟩
  obtain ⟨e, read, heq, hquote, hread⟩ := htable c
  obtain ⟨read', rest, hsplit, hlength, hchar⟩ := Json.readChar_sound hquote hread
  have hrest : rest = [] := by
    have hlengths := congrArg List.length hsplit
    simp only [List.length_append] at hlengths
    exact List.eq_nil_of_length_eq_zero (by omega)
  rw [hrest, List.append_nil] at hsplit
  rwa [heq, hsplit]

/-- A text of the encoded size is one that has nothing to encode. -/
theorem jsonEncode_eq (str : SharedString) : jsonEncode str = str.flatMap JsonEncodeMapping := by
  have hone : ∀ c : UInt8, JsonEncodeMapping c = [c] ∨ 1 < (JsonEncodeMapping c).length :=
    forall_byte (by decide +kernel)
  unfold jsonEncode
  dsimp only
  split
  · rename_i hsize
    exact (flatMap_eq_self hone hsize).symm
  · congr 1
    funext c
    rcases hone c with heq | hlt
    · simp [heq]
    · rw [if_neg (by omega)]

theorem stringText_jsonEncode (str : SharedString) : Json.StringText (jsonEncode str) str := by
  rw [jsonEncode_eq]
  induction str with
  | nil => exact .nil
  | cons c str ih => exact .cons (charText_jsonEncodeMapping c) ih

theorem isDigit_decimalDigits {value : Nat} (h : value < 10) :
    Json.isDigit (DecimalDigits.getD value 0) ∧ (DecimalDigits.getD value 0).toNat - 0x30 = value := by
  have htable : ∀ value : Fin 10, Json.isDigit (DecimalDigits.getD value 0) ∧
      (DecimalDigits.getD value 0).toNat - 0x30 = value := by decide +kernel
  exact htable ⟨value, h⟩

theorem decimal_append (digits : SharedString) (c : UInt8) :
    Json.decimal (digits ++ [c]) = 10 * Json.decimal digits + (c.toNat - 0x30) := by
  simp [Json.decimal]

@[simp] theorem decimal_fromInt (value : Nat) : Json.decimal (fromInt value) = value := by
  induction value using Nat.strongRecOn with
  | ind value ih =>
    by_cases h : value < 10
    · rw [fromInt_lt h]
      simpa [Json.decimal] using (isDigit_decimalDigits h).2
    · rw [fromInt_eq (by omega), decimal_append, ih _ (by omega),
        (isDigit_decimalDigits (Nat.mod_lt _ (by decide))).2]
      omega

/-- The decimal digits of a number, the first of them no zero if there are others -/
theorem fromInt_digits (value : Nat) : ∃ c digits, fromInt value = c :: digits ∧ Json.isDigit c ∧
    (∀ d ∈ digits, Json.isDigit d) ∧ (value ≠ 0 → c ≠ 0x30) := by
  induction value using Nat.strongRecOn with
  | ind value ih =>
    by_cases h : value < 10
    · refine ⟨_, [], fromInt_lt h, (isDigit_decimalDigits h).1, by simp, ?_⟩
      intro hne heq
      have hvalue := (isDigit_decimalDigits h).2
      rw [heq] at hvalue
      exact hne hvalue.symm
    · obtain ⟨c, digits, heq, hc, hdigits, hne⟩ := ih (value / 10) (by omega)
      refine ⟨c, digits ++ [DecimalDigits.getD (value % 10) 0], ?_, hc, ?_, fun _ => hne (by omega)⟩
      · rw [fromInt_eq (by omega), heq, List.cons_append]
      · intro d hd
        rcases List.mem_append.mp hd with hd | hd
        · exact hdigits d hd
        · rw [List.mem_singleton.mp hd]
          exact (isDigit_decimalDigits (Nat.mod_lt _ (by decide))).1

theorem intText_fromInt (value : Nat) : Json.IntText (fromInt value) := by
  obtain ⟨c, digits, heq, hc, hdigits, hne⟩ := fromInt_digits value
  by_cases hzero : value = 0
  · subst hzero
    exact .zero
  · rw [heq]
    exact .nonzero hc (hne hzero) hdigits

theorem valueText_fromInteger (value : Int) : Json.ValueText (.number value 0) (fromInteger value) := by
  have hnumber := Json.NumberText.intro (decide (value < 0)) (intText_fromInt value.natAbs) .none .none
  rw [List.append_nil, List.append_nil, decimal_fromInt] at hnumber
  have hvalue : Json.signed (decide (value < 0)) value.natAbs = value := by
    simp only [Json.signed, decide_eq_true_eq]
    split <;> omega
  rw [hvalue] at hnumber
  rw [fromInteger_eq]
  simpa using Json.ValueText.number hnumber

theorem valueText_string (str : SharedString) :
    Json.ValueText (.string str) ([0x22] ++ jsonEncode str ++ [0x22]) :=
  .string (stringText_jsonEncode str)

end literals

namespace JsonTree

/-- What writing a value does to the builder: a JSON text of the value is
    appended, and a comma that was needed is needed still. -/
def Writes (write : JsonBuilder → JsonBuilder) (value : Json.Value) : Prop :=
  ∀ builder : JsonBuilder, ∃ inner flag, write builder = ⟨builder.packet ++ inner, flag⟩ ∧
    Json.ValueText value inner ∧ (builder.addPreviousComma → flag)

/-- What is written behind an item of an array -/
inductive MoreItems : List Json.Value → List UInt8 → Prop
  | nil : MoreItems [] []
  | cons {items : List Json.Value} {inner : List UInt8} (h : Json.ItemsText items inner) :
      MoreItems items (byte ',' :: inner)

/-- What is written behind a member of an object -/
inductive MoreMembers : List (List UInt8 × Json.Value) → List UInt8 → Prop
  | nil : MoreMembers [] []
  | cons {members : List (List UInt8 × Json.Value)} {inner : List UInt8} (h : Json.MembersText members inner) :
      MoreMembers members (byte ',' :: inner)

theorem MoreItems.prepend {items : List Json.Value} {more : List UInt8} (h : MoreItems items more)
    {item : Json.Value} {inner : List UInt8} (hitem : Json.ValueText item inner) :
    Json.ItemsText (item :: items) (inner ++ more) := by
  cases h with
  | nil => exact .one hitem .nil
  | cons h => exact .cons hitem .nil .nil h

theorem MoreMembers.prepend {members : List (List UInt8 × Json.Value)} {more : List UInt8}
    (h : MoreMembers members more) {key : List UInt8} {value : Json.Value} {inner : List UInt8}
    (hmember : Json.MemberText key value inner) : Json.MembersText ((key, value) :: members) (inner ++ more) := by
  cases h with
  | nil => exact .one hmember .nil
  | cons h => exact .cons hmember .nil .nil h

theorem previousComma_eq (builder : JsonBuilder) : builder.previousComma =
    ⟨builder.packet ++ if builder.addPreviousComma then [byte ','] else [], true⟩ := by
  obtain ⟨packet, flag⟩ := builder
  cases flag <;> simp [JsonBuilder.previousComma, JsonBuilder.writeRaw]

theorem addItem_spec {write : JsonBuilder → JsonBuilder} {value : Json.Value} (hwrite : Writes write value)
    (builder : JsonBuilder) : ∃ inner, builder.addItem write =
      ⟨builder.packet ++ ((if builder.addPreviousComma then [byte ','] else []) ++ inner), true⟩ ∧
        Json.ValueText value inner := by
  obtain ⟨inner, flag, heq, hvalue, hflag⟩ := hwrite builder.previousComma
  rw [previousComma_eq] at heq hflag
  refine ⟨inner, ?_, hvalue⟩
  rw [JsonBuilder.addItem, previousComma_eq, heq, hflag rfl, List.append_assoc]

theorem addMember_spec {write : JsonBuilder → JsonBuilder} {value : Json.Value} (hwrite : Writes write value)
    (builder : JsonBuilder) (key : SharedString) : ∃ inner, builder.addMember key write =
      ⟨builder.packet ++ ((if builder.addPreviousComma then [byte ','] else []) ++ inner), true⟩ ∧
        Json.MemberText key value inner := by
  obtain ⟨inner, flag, heq, hvalue, hflag⟩ := hwrite ((builder.previousComma.writeString key).writeRaw [byte ':'])
  have hflag := hflag (by simp [previousComma_eq, JsonBuilder.writeString, JsonBuilder.writeRaw])
  refine ⟨_, ?_, .intro (stringText_jsonEncode key) .nil .nil hvalue⟩
  rw [JsonBuilder.addMember, heq, hflag]
  simp [previousComma_eq, JsonBuilder.writeString, JsonBuilder.writeRaw]

theorem addStaticMember_spec {write : JsonBuilder → JsonBuilder} {value : Json.Value}
    (hwrite : Writes write value) (builder : JsonBuilder) (key : EncodedKey) :
    ∃ inner, builder.addStaticMember (CPV_JSONKEY key.key) write =
      ⟨builder.packet ++ ((if builder.addPreviousComma then [byte ','] else []) ++ inner), true⟩ ∧
        Json.MemberText key.str value inner := by
  have hquotes : text "\"" = [0x22] ∧ text "\":" = [0x22, 0x3A] ∧ text ",\"" = [byte ',', 0x22] := by
    decide +kernel
  obtain ⟨hquote, hcolon, hcomma⟩ := hquotes
  obtain ⟨packet, addPreviousComma⟩ := builder
  cases addPreviousComma with
  | true =>
    obtain ⟨inner, flag, heq, hvalue, hflag⟩ :=
      hwrite (JsonBuilder.writeRaw ⟨packet, true⟩ (CPV_JSONKEY key.key).encodedKeyWithPreviousComma)
    refine ⟨_, ?_, .intro key.encoded .nil .nil hvalue⟩
    rw [JsonBuilder.addStaticMember, if_pos rfl, heq, hflag rfl]
    simp [JsonBuilder.writeRaw, CPV_JSONKEY, hcomma, hcolon]
  | false =>
    obtain ⟨inner, flag, heq, hvalue, hflag⟩ :=
      hwrite { JsonBuilder.writeRaw ⟨packet, false⟩ (CPV_JSONKEY key.key).encodedKey with
        addPreviousComma := true }
    refine ⟨_, ?_, .intro key.encoded .nil .nil hvalue⟩
    rw [JsonBuilder.addStaticMember, if_neg (by simp), heq, hflag rfl]
    simp [JsonBuilder.writeRaw, CPV_JSONKEY, hquote, hcolon]

/-- Both kinds of keys write a member. -/
theorem writeMembers_cons {tree : JsonTree} (hwrite : Writes tree.write tree.value) (key : JsonKey)
    (members : List (JsonKey × JsonTree)) (builder : JsonBuilder) :
    ∃ inner, writeMembers ((key, tree) :: members) builder = writeMembers members
      ⟨builder.packet ++ ((if builder.addPreviousComma then [byte ','] else []) ++ inner), true⟩ ∧
        Json.MemberText key.str tree.value inner := by
  cases key with
  | runTime key =>
    obtain ⟨inner, heq, hmember⟩ := addMember_spec hwrite builder key
    exact ⟨inner, by rw [writeMembers, heq], hmember⟩
  | static key =>
    obtain ⟨inner, heq, hmember⟩ := addStaticMember_spec hwrite builder key
    exact ⟨inner, by rw [writeMembers, heq], hmember⟩

mutual

/-- An array or an object starts without a comma behind its bracket and ends
    with the comma that the next item or member needs. -/
theorem writes (tree : JsonTree) : Writes tree.write tree.value := by
  intro builder
  match tree with
  | .null => exact ⟨_, _, rfl, .null, id⟩
  | .boolean true => exact ⟨_, _, rfl, .true, id⟩
  | .boolean false => exact ⟨_, _, rfl, .false, id⟩
  | .int64 value => exact ⟨_, _, rfl, valueText_fromInteger _, id⟩
  | .uint64 value => exact ⟨_, _, rfl, valueText_fromInteger _, id⟩
  | .string value =>
    refine ⟨_, builder.addPreviousComma, ?_, valueText_string value, id⟩
    simp [write, JsonBuilder.writeString, JsonBuilder.writeRaw]
  | .array [] =>
    refine ⟨_, true, ?_, .emptyArray .nil, fun _ => rfl⟩
    simp [write, writeItems, JsonBuilder.startArray, JsonBuilder.endArray, JsonBuilder.writeRaw]
  | .array (item :: items) =>
    obtain ⟨inner, heq, hvalue⟩ := addItem_spec item.writes builder.startArray
    obtain ⟨more, hmore, hitems⟩ := writeItems_spec items (builder.packet ++ ([byte '['] ++ inner))
    refine ⟨_, true, ?_, .array .nil (hitems.prepend hvalue), fun _ => rfl⟩
    simp only [JsonBuilder.startArray, JsonBuilder.writeRaw, Bool.false_eq_true, if_false, List.nil_append,
      List.append_assoc] at heq hmore
    rw [write, writeItems, JsonBuilder.startArray, JsonBuilder.writeRaw, heq, hmore]
    simp [JsonBuilder.endArray, JsonBuilder.writeRaw]
  | .object [] =>
    refine ⟨_, true, ?_, .emptyObject .nil, fun _ => rfl⟩
    simp [write, writeMembers, JsonBuilder.startObject, JsonBuilder.endObject, JsonBuilder.writeRaw]
  | .object ((key, value) :: members) =>
    obtain ⟨inner, heq, hmember⟩ := writeMembers_cons value.writes key members builder.startObject
    obtain ⟨more, hmore, hmembers⟩ := writeMembers_spec members (builder.packet ++ ([byte '\x7b'] ++ inner))
    refine ⟨_, true, ?_, .object .nil (hmembers.prepend hmember), fun _ => rfl⟩
    simp only [JsonBuilder.startObject, JsonBuilder.writeRaw, Bool.false_eq_true, if_false, List.nil_append,
      List.append_assoc] at heq hmore
    rw [write, JsonBuilder.startObject, JsonBuilder.writeRaw, heq, hmore]
    simp [JsonBuilder.endObject, JsonBuilder.writeRaw]

theorem writeItems_spec (items : List JsonTree) (packet : SharedString) :
    ∃ more, writeItems items ⟨packet, true⟩ = ⟨packet ++ more, true⟩ ∧ MoreItems (values items) more := by
  match items with
  | [] => exact ⟨[], by simp [writeItems], .nil⟩
  | item :: items =>
    obtain ⟨inner, heq, hvalue⟩ := addItem_spec item.writes ⟨packet, true⟩
    obtain ⟨more, hmore, hitems⟩ := writeItems_spec items (packet ++ ([byte ','] ++ inner))
    refine ⟨byte ',' :: (inner ++ more), ?_, .cons (hitems.prepend hvalue)⟩
    rw [writeItems, heq]
    simpa using hmore

theorem writeMembers_spec (members : List (JsonKey × JsonTree)) (packet : SharedString) :
    ∃ more, writeMembers members ⟨packet, true⟩ = ⟨packet ++ more, true⟩ ∧
      MoreMembers (memberValues members) more := by
  match members with
  | [] => exact ⟨[], by simp [writeMembers], .nil⟩
  | (key, tree) :: members =>
    obtain ⟨inner, heq, hmember⟩ := writeMembers_cons tree.writes key members ⟨packet, true⟩
    obtain ⟨more, hmore, hmembers⟩ := writeMembers_spec members (packet ++ ([byte ','] ++ inner))
    refine ⟨byte ',' :: (inner ++ more), ?_, .cons (hmembers.prepend hmember)⟩
    rw [heq]
    simpa using hmore

end

theorem isText_serialize (tree : JsonTree) : Json.IsText tree.value tree.serialize := by
  obtain ⟨inner, flag, heq, hvalue, -⟩ := tree.writes JsonBuilder.new
  refine ⟨[], inner, [], ?_, .nil, hvalue, .nil⟩
  rw [serialize, heq]
  simp [JsonBuilder.new]

/-- What the builder writes for a tree is one JSON text, and parsing it gives
    the tree back. -/
theorem serialize_faithful (tree : JsonTree) :
    Json.IsText tree.value tree.serialize ∧ Json.parse tree.serialize = some tree.value :=
  ⟨tree.isText_serialize, Json.parse_eq_some_iff.mpr tree.isText_serialize⟩

example : serialize (.object [(.runTime (text "a"), .array [.null, .int64 (-7)]), (.runTime [0x0A], .string [])]) =
    text "\x7b\"a\":[null,-7],\"\\n\":\"\"\x7d" := by
  decide +kernel

end JsonTree

end cpv
