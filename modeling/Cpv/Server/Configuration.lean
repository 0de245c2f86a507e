import Mathlib.Data.List.Forall2
import Cpv.Serialize.SajsonRun

namespace cpv

open Sajson (largestInteger isLaxUtf8)

/-- Members of HttpServerConfiguration -/
structure HttpServerConfigurationData where
  listenAddresses : List SharedString
  maxInitialRequestBytes : IntegerType.uint64.Value
  maxInitialRequestPackets : IntegerType.uint64.Value
  requestTimeout : IntegerType.int64.Value
  requestQueueSize : IntegerType.uint64.Value
  requestBodyQueueSize : IntegerType.uint64.Value

def addString (builder : JsonBuilder) (value : SharedString) : JsonBuilder := builder.addItem (·.writeString value)

/-- Write collection of strings to json builder -/
def writeStrings (values : List SharedString) (builder : JsonBuilder) : JsonBuilder :=
  (values.foldl addString builder.startArray).endArray

/-- `operator<<` with the value of a key, whether the conversion succeeds or not -/
def assignMember {Target : Type} (convert : Target → Sajson.Value → Bool × Target) (target : Target)
    (members : List (SharedString × Sajson.Value)) (key : SharedString) : Target :=
  match Sajson.Value.getValueOfKey members key with
  | some value => (convert target value).2
  | none => target

namespace HttpServerConfigurationData

/-- A fresh configuration -/
def new : HttpServerConfigurationData where
  listenAddresses := []
  maxInitialRequestBytes := ⟨524288, by decide⟩
  maxInitialRequestPackets := ⟨512, by decide⟩
  requestTimeout := ⟨60000, by decide⟩
  requestQueueSize := ⟨100, by decide⟩
  requestBodyQueueSize := ⟨50, by decide⟩

/-- Parse from json -/
def loadJson (config : HttpServerConfigurationData) (members : List (SharedString × Sajson.Value)) :
    Bool × HttpServerConfigurationData :=
  (true,
    { listenAddresses := assignMember convertStrings config.listenAddresses members (text "listenAddresses")
      maxInitialRequestBytes :=
        assignMember convertInteger config.maxInitialRequestBytes members (text "maxInitialRequestBytes")
      maxInitialRequestPackets :=
        assignMember convertInteger config.maxInitialRequestPackets members (text "maxInitialRequestPackets")
      requestTimeout := assignMember convertInteger config.requestTimeout members (text "requestTimeout")
      requestQueueSize := assignMember convertInteger config.requestQueueSize members (text "requestQueueSize")
      requestBodyQueueSize :=
        assignMember convertInteger config.requestBodyQueueSize members (text "requestBodyQueueSize") })

/-- Dump to json -/
def dumpJson (config : HttpServerConfigurationData) (builder : JsonBuilder) : JsonBuilder :=
  builder.startObject
    |>.addStaticMember (CPV_JSONKEY (text "listenAddresses")) (writeStrings config.listenAddresses)
    |>.addStaticMember (CPV_JSONKEY (text "maxInitialRequestBytes"))
      (·.writeInteger config.maxInitialRequestBytes.val)
    |>.addStaticMember (CPV_JSONKEY (text "maxInitialRequestPackets"))
      (·.writeInteger config.maxInitialRequestPackets.val)
    |>.addStaticMember (CPV_JSONKEY (text "requestTimeout")) (·.writeInteger config.requestTimeout.val)
    |>.addStaticMember (CPV_JSONKEY (text "requestQueueSize")) (·.writeInteger config.requestQueueSize.val)
    |>.addStaticMember (CPV_JSONKEY (text "requestBodyQueueSize"))
      (·.writeInteger config.requestBodyQueueSize.val)
    |>.endObject

/-- `JsonValueConverter` of a model -/
def convert (config : HttpServerConfigurationData) : Sajson.Value → Bool × HttpServerConfigurationData
  | .object members => config.loadJson members
  | _ => (false, config)

def serializeJson (config : HttpServerConfigurationData) : SharedString := (config.dumpJson JsonBuilder.new).packet

/-- A fresh configuration that loads the dump of a configuration -/
def reloaded (config : HttpServerConfigurationData) : HttpServerConfigurationData :=
  (deserializeJson convert new config.serializeJson).2

section text

/-- The integer members in the order of the dump -/
def integers (config : HttpServerConfigurationData) : List (SharedString × Int) :=
  [(text "maxInitialRequestBytes", config.maxInitialRequestBytes.val),
    (text "maxInitialRequestPackets", config.maxInitialRequestPackets.val),
    (text "requestTimeout", config.requestTimeout.val), (text "requestQueueSize", config.requestQueueSize.val),
    (text "requestBodyQueueSize", config.requestBodyQueueSize.val)]

def quoted (str : SharedString) : SharedString := 0x22 :: (jsonEncode str ++ [0x22])

def itemsText : List SharedString → SharedString
  | [] => []
  | str :: strs => quoted str ++ strs.flatMap fun str => byte ',' :: quoted str

def keyText (key : SharedString) : SharedString := 0x22 :: (key ++ [0x22, byte ':'])

def integerText (member : SharedString × Int) : SharedString :=
  byte ',' :: (keyText member.1 ++ fromInteger member.2)

theorem addString_eq (packet : SharedString) (flag : Bool) (value : SharedString) :
    addString ⟨packet, flag⟩ value = ⟨packet ++ ((if flag then [byte ','] else []) ++ quoted value), true⟩ := by
  cases flag <;> simp [addString, JsonBuilder.addItem, JsonBuilder.previousComma, JsonBuilder.writeString,
    JsonBuilder.writeRaw, quoted]

theorem writeStrings_eq (values : List SharedString) (builder : JsonBuilder) :
    writeStrings values builder = ⟨builder.packet ++ (byte '[' :: (itemsText values ++ [byte ']'])), true⟩ := by
  have hrest : ∀ (values : List SharedString) (packet : SharedString),
      values.foldl addString ⟨packet, true⟩ = ⟨packet ++ values.flatMap fun str => byte ',' :: quoted str, true⟩ := by
    intro values
    induction values with
    | nil => simp
    | cons value values ih =>
      intro packet
      rw [List.foldl_cons, addString_eq, ih]
      simp
  cases values with
  | nil => simp [writeStrings, JsonBuilder.startArray, JsonBuilder.endArray, JsonBuilder.writeRaw, itemsText]
  | cons value values =>
    rw [writeStrings, List.foldl_cons, JsonBuilder.startArray, JsonBuilder.writeRaw, addString_eq, hrest]
    simp [JsonBuilder.endArray, JsonBuilder.writeRaw, itemsText]

theorem addStaticMember_true (packet key : SharedString) (n : Int) :
    JsonBuilder.addStaticMember ⟨packet, true⟩ (CPV_JSONKEY key) (·.writeInteger n) =
      ⟨packet ++ integerText (key, n), true⟩ := by
  have hquotes : text "\":" = [0x22, byte ':'] ∧ text ",\"" = [byte ',', 0x22] := by decide +kernel
  obtain ⟨hcolon, hcomma⟩ := hquotes
  rw [JsonBuilder.addStaticMember, if_pos rfl]
  simp [JsonBuilder.writeInteger, JsonBuilder.writeRaw, CPV_JSONKEY, hcomma, hcolon, integerText, keyText]

theorem addStaticMember_false (packet key : SharedString) (values : List SharedString) :
    JsonBuilder.addStaticMember ⟨packet, false⟩ (CPV_JSONKEY key) (writeStrings values) =
      ⟨packet ++ (keyText key ++ byte '[' :: (itemsText values ++ [byte ']'])), true⟩ := by
  have hquotes : text "\":" = [0x22, byte ':'] ∧ text "\"" = [0x22] := by decide +kernel
  obtain ⟨hcolon, hquote⟩ := hquotes
  rw [JsonBuilder.addStaticMember, if_neg (by simp), writeStrings_eq]
  simp [JsonBuilder.writeRaw, CPV_JSONKEY, hquote, hcolon, keyText]

theorem serializeJson_eq (config : HttpServerConfigurationData) : config.serializeJson =
    0x7B :: (keyText (text "listenAddresses") ++ byte '[' :: (itemsText config.listenAddresses ++
      byte ']' :: (config.integers.flatMap integerText ++ [0x7D]))) := by
  rw [serializeJson, dumpJson]
  simp only [JsonBuilder.startObject, JsonBuilder.writeRaw, addStaticMember_false, addStaticMember_true,
    JsonBuilder.endObject, JsonBuilder.new, integers]
  simp

end text

section reading

open Sajson (ParserState Structure Value isPlainStringCharacter)

/-- What the number parser makes of an integer -/
def Reads (n : Int) (value : Value) : Prop :=
  (n.natAbs ≤ largestInteger → value = .integer n) ∧ (largestInteger < n.natAbs → ∃ d, value = .double d)

theorem Reads.convertInteger {type : IntegerType} {source : type.Value} {value : Value}
    (h : Reads source.val value) (target : type.Value) :
    (convertInteger target value).2 = if source.val.natAbs ≤ largestInteger then source else target := by
  split
  · rename_i hle
    rw [h.1 hle]
    exact IntegerType.staticCast_val source
  · rename_i hgt
    obtain ⟨d, rfl⟩ := h.2 (by omega)
    rfl

theorem endsNumber_integers (members : List (SharedString × Int)) :
    Sajson.EndsNumber (members.flatMap integerText ++ [0x7D]) := by
  cases members with
  | nil => exact ⟨_, _, rfl, .inr (.inr (.inr rfl))⟩
  | cons member members => exact ⟨_, _, rfl, .inr (.inl rfl)⟩

/-- The members that are left are read in their order, and the object ends. -/
theorem run_integers (members : List (SharedString × Int))
    (hkeys : ∀ member ∈ members, member.1.all isPlainStringCharacter) (before : List (SharedString × Value))
    (last : SharedString) :
    ∃ values, List.Forall₂ (fun member value => value.1 = member.1 ∧ Reads member.2 value.2) members values ∧
      ParserState.run ⟨.structureCloseOrComma, members.flatMap integerText ++ [0x7D], .object before last, []⟩ =
        .ok (Sajson.installObject (before ++ values)) := by
  induction members generalizing before last with
  | nil =>
    refine ⟨[], .nil, ParserState.run_document ?_⟩
    rw [List.append_nil, ParserState.step_eq rfl (by decide)]
    rfl
  | cons member members ih =>
    have hliteral := Sajson.integerLiteral_fromInteger member.2
    obtain ⟨value, hinteger, hdouble, hread⟩ :=
      ParserState.run_integer hliteral (endsNumber_integers members) (.object before member.1) []
    obtain ⟨values, hvalues, hrest⟩ :=
      ih (fun other hother => hkeys other (List.mem_cons_of_mem _ hother)) (before ++ [(member.1, value)]) member.1
    refine ⟨(member.1, value) :: values, .cons ⟨rfl, hinteger, hdouble⟩ hvalues, ?_⟩
    have hkey := ParserState.run_key (hkeys member List.mem_cons_self)
      (fromInteger member.2 ++ (members.flatMap integerText ++ [0x7D])) before last []
    have hcomma := ParserState.run_comma (keyText member.1 ++
      (fromInteger member.2 ++ (members.flatMap integerText ++ [0x7D]))) before last []
    simp only [keyText, List.cons_append, List.append_assoc, List.nil_append] at hkey hcomma
    simp only [List.flatMap_cons, integerText, keyText, List.cons_append, List.append_assoc, List.nil_append]
    rw [hcomma, hkey, hread]
    simpa [Structure.push] using hrest

/-- The strings behind the first one are read up to one that is no UTF-8. -/
theorem run_moreStrings (strs : List SharedString) (follow : List UInt8) (elements : List Value)
    (parent : Structure) (parents : List Structure) :
    if strs.all isLaxUtf8 then
      ParserState.run ⟨.structureCloseOrComma, strs.flatMap (byte ',' :: quoted ·) ++ byte ']' :: follow,
          .array elements, parent :: parents⟩ =
        ParserState.run ⟨.structureCloseOrComma, follow, parent.push (.array (elements ++ strs.map .string)), parents⟩
    else ∃ error, ParserState.run ⟨.structureCloseOrComma,
      strs.flatMap (byte ',' :: quoted ·) ++ byte ']' :: follow, .array elements, parent :: parents⟩ = .error error := by
  induction strs generalizing elements with
  | nil =>
    rw [List.all_nil, if_pos rfl]
    apply ParserState.run_goto
    rw [List.flatMap_nil, List.nil_append, ParserState.step_eq rfl (by decide), List.map_nil, List.append_nil]
    rfl
  | cons str strs ih =>
    have hcomma : ParserState.run ⟨.structureCloseOrComma,
        (str :: strs).flatMap (byte ',' :: quoted ·) ++ byte ']' :: follow, .array elements, parent :: parents⟩ =
          ParserState.run ⟨.nextElement, 0x22 :: (jsonEncode str ++ 0x22 ::
            (strs.flatMap (byte ',' :: quoted ·) ++ byte ']' :: follow)), .array elements, parent :: parents⟩ := by
      apply ParserState.run_goto
      rw [List.flatMap_cons, List.cons_append, List.cons_append, ParserState.step_eq rfl (by decide)]
      simp [ParserState.stepAt, quoted]
    have hstring := ParserState.run_string str (strs.flatMap (byte ',' :: quoted ·) ++ byte ']' :: follow)
      (.array elements) (parent :: parents)
    rw [hcomma]
    by_cases hlax : isLaxUtf8 str
    · rw [if_pos hlax] at hstring
      have hrest := ih (elements ++ [.string str])
      rw [hstring, List.all_cons, hlax, Bool.true_and]
      simpa [Structure.push] using hrest
    · rw [if_neg hlax] at hstring
      rw [if_neg (by simp [hlax])]
      exact hstring

theorem run_strings (strs : List SharedString) (follow : List UInt8) (parent : Structure)
    (parents : List Structure) :
    if strs.all isLaxUtf8 then
      ParserState.run ⟨.nextElement, byte '[' :: (itemsText strs ++ byte ']' :: follow), parent, parents⟩ =
        ParserState.run ⟨.structureCloseOrComma, follow, parent.push (.array (strs.map .string)), parents⟩
    else ∃ error, ParserState.run ⟨.nextElement, byte '[' :: (itemsText strs ++ byte ']' :: follow), parent, parents⟩ =
      .error error := by
  have hopen : ParserState.run ⟨.nextElement, byte '[' :: (itemsText strs ++ byte ']' :: follow), parent, parents⟩ =
      ParserState.run ⟨.arrayCloseOrElement, itemsText strs ++ byte ']' :: follow, .array [], parent :: parents⟩ := by
    apply ParserState.run_goto
    rw [ParserState.step_eq rfl (by decide)]
    rfl
  rw [hopen]
  cases strs with
  | nil =>
    rw [List.all_nil, if_pos rfl]
    apply ParserState.run_goto
    rw [itemsText, List.nil_append, ParserState.step_eq rfl (by decide)]
    rfl
  | cons str strs =>
    have hfirst : ParserState.run ⟨.arrayCloseOrElement, itemsText (str :: strs) ++ byte ']' :: follow, .array [],
        parent :: parents⟩ = ParserState.run ⟨.nextElement, 0x22 :: (jsonEncode str ++ 0x22 ::
          (strs.flatMap (byte ',' :: quoted ·) ++ byte ']' :: follow)), .array [], parent :: parents⟩ := by
      apply ParserState.run_goto
      rw [itemsText, quoted, List.cons_append, List.cons_append, ParserState.step_eq rfl (by decide)]
      simp [ParserState.stepAt, quoted]
    have hstring := ParserState.run_string str (strs.flatMap (byte ',' :: quoted ·) ++ byte ']' :: follow)
      (.array []) (parent :: parents)
    rw [hfirst]
    by_cases hlax : isLaxUtf8 str
    · rw [if_pos hlax] at hstring
      have hrest := run_moreStrings strs follow [.string str] parent parents
      rw [hstring, List.all_cons, hlax, Bool.true_and]
      simpa [Structure.push] using hrest
    · rw [if_neg hlax] at hstring
      rw [if_neg (by simp [hlax])]
      exact hstring

theorem parse_serializeJson (config : HttpServerConfigurationData) :
    if config.listenAddresses.all isLaxUtf8 then
      ∃ values, List.Forall₂ (fun member value => value.1 = member.1 ∧ Reads member.2 value.2) config.integers values ∧
        Sajson.parse config.serializeJson = .ok (Sajson.installObject
          ((text "listenAddresses", .array (config.listenAddresses.map .string)) :: values))
    else ∃ error, Sajson.parse config.serializeJson = .error error := by
  have hopen : Sajson.parse config.serializeJson = ParserState.run ⟨.nextElement, byte '[' ::
      (itemsText config.listenAddresses ++ byte ']' :: (config.integers.flatMap integerText ++ [0x7D])),
      .object [] (text "listenAddresses"), []⟩ := by
    rw [serializeJson_eq, Sajson.parse]
    have hkey := ParserState.run_key (show (text "listenAddresses").all isPlainStringCharacter by decide)
      (byte '[' :: (itemsText config.listenAddresses ++ byte ']' :: (config.integers.flatMap integerText ++ [0x7D])))
      [] [] []
    have hskip (rest : List UInt8) : Sajson.skipWhitespace (0x7B :: rest) = 0x7B :: rest :=
      List.dropWhile_cons_of_neg (by decide)
    rw [hskip]
    simp only [keyText, List.cons_append, List.append_assoc, List.nil_append]
    rw [if_neg (by decide), if_pos trivial, ← hkey]
    apply ParserState.run_goto
    rw [ParserState.step_eq rfl (by decide)]
    rfl
  have hstrings := run_strings config.listenAddresses (config.integers.flatMap integerText ++ [0x7D])
    (.object [] (text "listenAddresses")) []
  rw [hopen]
  split
  · rename_i hlax
    rw [if_pos hlax] at hstrings
    have hplain : ∀ member ∈ config.integers, member.1.all isPlainStringCharacter := by
      have hkeys : [text "maxInitialRequestBytes", text "maxInitialRequestPackets", text "requestTimeout",
          text "requestQueueSize", text "requestBodyQueueSize"].all (·.all isPlainStringCharacter) := by decide
      intro member hmember
      refine List.all_eq_true.mp hkeys member.1 ?_
      exact List.mem_map_of_mem (f := Prod.fst) hmember
    obtain ⟨values, hvalues, hrest⟩ := run_integers config.integers hplain
      [(text "listenAddresses", .array (config.listenAddresses.map .string))] (text "listenAddresses")
    exact ⟨values, hvalues, by rw [hstrings]; exact hrest⟩
  · rename_i hlax
    rw [if_neg hlax] at hstrings
    exact hstrings

theorem convertStrings_strings (models strs : List SharedString) :
    (convertStrings models (.array (strs.map .string))).2 = models ++ strs := by
  have hfold : ∀ (strs : List SharedString) (state : Bool × List SharedString),
      ((strs.map Value.string).foldl convertElement state).2 = state.2 ++ strs := by
    intro strs
    induction strs with
    | nil => simp
    | cons str strs ih =>
      intro state
      rw [List.map_cons, List.foldl_cons, ih]
      simp [convertElement, convertString]
  exact hfold strs (true, models)

/-- An integer member of the dump, where a large one leaves the default -/
theorem assignMember_integer {members : List (SharedString × Value)} (hnodup : (members.map Prod.fst).Nodup)
    {key : SharedString} {value : Value} (hmem : (key, value) ∈ members) {type : IntegerType} {source : type.Value}
    (hreads : Reads source.val value) (target : type.Value) :
    assignMember convertInteger target (members.mergeSort fun lhs rhs => !Sajson.keyLess rhs.1 lhs.1) key =
      if source.val.natAbs ≤ largestInteger then source else target := by
  rw [assignMember, Sajson.getValueOfKey_installObject hnodup hmem]
  exact hreads.convertInteger target

/-- What a fresh configuration holds after it has loaded a dump -/
theorem reloaded_eq (config : HttpServerConfigurationData) :
    config.reloaded =
      if config.listenAddresses.all isLaxUtf8 then
        { listenAddresses := config.listenAddresses
          maxInitialRequestBytes :=
            if config.maxInitialRequestBytes.val.natAbs ≤ largestInteger then config.maxInitialRequestBytes
            else new.maxInitialRequestBytes
          maxInitialRequestPackets :=
            if config.maxInitialRequestPackets.val.natAbs ≤ largestInteger then config.maxInitialRequestPackets
            else new.maxInitialRequestPackets
          requestTimeout :=
            if config.requestTimeout.val.natAbs ≤ largestInteger then config.requestTimeout else new.requestTimeout
          requestQueueSize :=
            if config.requestQueueSize.val.natAbs ≤ largestInteger then config.requestQueueSize
            else new.requestQueueSize
          requestBodyQueueSize :=
            if config.requestBodyQueueSize.val.natAbs ≤ largestInteger then config.requestBodyQueueSize
            else new.requestBodyQueueSize }
      else new := by
  have hparse := parse_serializeJson config
  rw [reloaded, deserializeJson]
  by_cases hlax : config.listenAddresses.all isLaxUtf8
  · rw [if_pos hlax] at hparse ⊢
    obtain ⟨values, hvalues, hparse⟩ := hparse
    simp only [integers, List.forall₂_cons_left_iff, List.forall₂_nil_left_iff] at hvalues
    obtain ⟨⟨_, bytes⟩, _, ⟨rfl, hbytes⟩, ⟨⟨_, packets⟩, _, ⟨rfl, hpackets⟩, ⟨⟨_, timeout⟩, _, ⟨rfl, htimeout⟩,
      ⟨⟨_, queue⟩, _, ⟨rfl, hqueue⟩, ⟨⟨_, body⟩, _, ⟨rfl, hbody⟩, rfl, rfl⟩, rfl⟩, rfl⟩, rfl⟩, rfl⟩ := hvalues
    generalize hmembers : (_ :: _ : List (SharedString × Value)) = members at hparse
    have hnodup : (members.map Prod.fst).Nodup := by
      have hkeys : ([text "listenAddresses", text "maxInitialRequestBytes", text "maxInitialRequestPackets",
          text "requestTimeout", text "requestQueueSize", text "requestBodyQueueSize"]).Nodup := by
        decide +kernel
      rw [← hmembers]
      exact hkeys
    rw [hparse]
    simp only [convert, Sajson.installObject, loadJson]
    rw [assignMember_integer hnodup (by simp [← hmembers]) hbytes,
      assignMember_integer hnodup (by simp [← hmembers]) hpackets,
      assignMember_integer hnodup (by simp [← hmembers]) htimeout,
      assignMember_integer hnodup (by simp [← hmembers]) hqueue,
      assignMember_integer hnodup (by simp [← hmembers]) hbody, assignMember,
      Sajson.getValueOfKey_installObject hnodup (hmembers ▸ List.mem_cons_self)]
    simp [convertStrings_strings, new]
  · rw [if_neg hlax] at hparse ⊢
    obtain ⟨error, hparse⟩ := hparse
    rw [hparse]

theorem kept_iff {type : IntegerType} (source : type.Value) {fresh : type.Value}
    (hfresh : fresh.val.natAbs ≤ largestInteger) :
    (if source.val.natAbs ≤ largestInteger then source else fresh) = source ↔
      source.val.natAbs ≤ largestInteger := by
  constructor
  · intro heq
    by_contra hgt
    rw [if_neg hgt] at heq
    exact hgt (heq ▸ hfresh)
  · exact fun hle => if_pos hle

theorem reloaded_eq_self_iff (config : HttpServerConfigurationData) :
    config.reloaded = config ↔ (∀ address ∈ config.listenAddresses, isLaxUtf8 address) ∧
      ∀ member ∈ config.integers, member.2.natAbs ≤ largestInteger := by
  rw [reloaded_eq, ← List.all_eq_true]
  by_cases hlax : config.listenAddresses.all isLaxUtf8
  · obtain ⟨addresses, bytes, packets, timeout, queue, body⟩ := config
    rw [if_pos hlax]
    simp only [HttpServerConfigurationData.mk.injEq, true_and, hlax]
    rw [kept_iff bytes (by decide), kept_iff packets (by decide), kept_iff timeout (by decide),
      kept_iff queue (by decide), kept_iff body (by decide)]
    simp [integers]
  · rw [if_neg hlax]
    refine ⟨fun heq => ?_, fun h => absurd h.1 hlax⟩
    rw [← heq] at hlax
    exact absurd (List.all_nil ..) hlax

end reading

end HttpServerConfigurationData

/-- Integers survive JSON up to the largest magnitude that the parser reads as
    an integer, and only literals beyond it are refused. A configuration is
    restored if its integers survive and its addresses pass for UTF-8. -/
theorem integersSurvive_iff (type : IntegerType) (value : type.Value) (n : Int)
    (config : HttpServerConfigurationData) :
    (SurvivesJson value ↔ value.val.natAbs ≤ largestInteger) ∧
    (¬type.Represents n → (RefusesLiteral type n ↔ largestInteger < n.natAbs)) ∧
    (config.reloaded = config ↔
      (∀ address ∈ config.listenAddresses, isLaxUtf8 address) ∧
        ∀ member ∈ config.integers, member.2.natAbs ≤ largestInteger) :=
  ⟨survivesJson_iff value, fun _ => refusesLiteral_iff type n, config.reloaded_eq_self_iff⟩

/-- The largest `int32` does not survive, 300 is converted to the `uint8` 44, and
    a request timeout of a month falls back to the default. -/
theorem largestInt32_lost :
    ¬SurvivesJson (⟨2147483647, by decide⟩ : IntegerType.int32.Value) ∧
    (¬IntegerType.uint8.Represents 300 ∧ ¬RefusesLiteral .uint8 300 ∧
      convertNumber (⟨7, by decide⟩ : IntegerType.uint8.Value) (text "300") (text "]") = (true, ⟨44, by decide⟩)) ∧
    ∃ config : HttpServerConfigurationData, config.requestTimeout.val = 2592000000 ∧
      config.reloaded.requestTimeout.val = 60000 := by
  refine ⟨?_, ⟨by decide, ?_, by decide +kernel⟩, ?_⟩
  · rw [survivesJson_iff]
    decide
  · rw [refusesLiteral_iff]
    decide
  · refine ⟨{ HttpServerConfigurationData.new with
      requestTimeout := ⟨2592000000, by decide⟩ }, rfl, ?_⟩
    rw [HttpServerConfigurationData.reloaded_eq]
    decide +kernel

end cpv
