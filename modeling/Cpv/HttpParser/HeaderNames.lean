import Cpv.HttpParser.Moves

namespace cpv.HttpParser

/-- What a header state and an index become with a token, in lower case -/
def nameStep : HeaderState × Nat → UInt8 → HeaderState × Nat
  | (.h_C, index), c => (if c = byte 'o' then .h_CO else .h_general, index + 1)
  | (.h_CO, index), c => (if c = byte 'n' then .h_CON else .h_general, index + 1)
  | (.h_CON, index), c =>
    (if c = byte 'n' then .h_matching_connection
      else if c = byte 't' then .h_matching_content_length
      else .h_general, index + 1)
  | (.h_matching_connection, index), c => matchStep .h_matching_connection index c (text "connection") .h_connection
  | (.h_matching_proxy_connection, index), c =>
    matchStep .h_matching_proxy_connection index c (text "proxy-connection") .h_connection
  | (.h_matching_content_length, index), c =>
    matchStep .h_matching_content_length index c (text "content-length") .h_content_length
  | (.h_matching_transfer_encoding, index), c =>
    matchStep .h_matching_transfer_encoding index c (text "transfer-encoding") .h_transfer_encoding
  | (.h_matching_upgrade, index), c => matchStep .h_matching_upgrade index c (text "upgrade") .h_upgrade
  | (_, index), _ => (.h_general, index)
where
  matchStep (matching : HeaderState) (index : Nat) (c : UInt8) (str : SharedString) (matched : HeaderState) :
      HeaderState × Nat :=
    if str.length < index + 1 ∨ c ≠ str.getD (index + 1) 0 then (.h_general, index + 1)
    else if index + 1 = str.length - 1 then (matched, index + 1)
    else (matching, index + 1)

/-- The header state and the index behind a name in lower case -/
def nameState : SharedString → HeaderState × Nat
  | [] => (.h_general, 0)
  | c :: rest => rest.foldl nameStep (Parser.firstHeaderState c, 0)

/-- The name of a header, as it is compared with others -/
def lowerName (name : SharedString) : SharedString := name.map TOKEN

/-- What has been read of a name that is still to be told apart from others -/
def Spells : HeaderState → Nat → SharedString → Prop
  | .h_C, index, name => index = 0 ∧ name = text "c"
  | .h_CO, index, name => index = 1 ∧ name = text "co"
  | .h_CON, index, name => index = 2 ∧ name = text "con"
  | .h_matching_connection, index, name => name = (text "connection").take (index + 1)
  | .h_matching_proxy_connection, index, name => name = (text "proxy-connection").take (index + 1)
  | .h_matching_content_length, index, name => name = (text "content-length").take (index + 1)
  | .h_matching_transfer_encoding, index, name => name = (text "transfer-encoding").take (index + 1)
  | .h_matching_upgrade, index, name => name = (text "upgrade").take (index + 1)
  | .h_connection, _, name => name = text "connection" ∨ name = text "proxy-connection"
  | .h_content_length, _, name => name = text "content-length"
  | .h_transfer_encoding, _, name => name = text "transfer-encoding"
  | .h_upgrade, _, name => name = text "upgrade"
  | _, _, _ => True

theorem matchStep_spells {matching matched : HeaderState} {index : Nat} {name str : SharedString} (c : UInt8)
    (hmatching : ∀ index name, Spells matching index name ↔ name = str.take (index + 1))
    (hmatched : ∀ index, Spells matched index str) (hname : name = str.take (index + 1)) (hc : c ≠ 0) :
    Spells (nameStep.matchStep matching index c str matched).1 (nameStep.matchStep matching index c str matched).2
      (name ++ [c]) := by
  unfold nameStep.matchStep
  split
  · trivial
  case isFalse hsame =>
    obtain ⟨hlength, hchar⟩ : index + 1 ≤ str.length ∧ c = str.getD (index + 1) 0 := by simpa using hsame
    have hget : str[index + 1]? = some c := by
      rw [List.getD_eq_getElem?_getD] at hchar
      cases hcase : str[index + 1]? with
      | none => exact absurd (by simpa [hcase] using hchar) hc
      | some other => simpa [hcase] using hchar.symm
    have hlonger : name ++ [c] = str.take (index + 1 + 1) := by
      rw [List.take_add_one, hget, hname]
      rfl
    split
    case isTrue hlast =>
      rw [hlonger, List.take_of_length_le (by omega)]
      exact hmatched _
    case isFalse => exact (hmatching _ _).mpr hlonger

theorem nameStep_spells {header_state : HeaderState} {index : Nat} {name : SharedString} (hspells : Spells header_state index name)
    {c : UInt8} (hc : c ≠ 0) :
    Spells (nameStep (header_state, index) c).1 (nameStep (header_state, index) c).2 (name ++ [c]) := by
  cases header_state with
  | h_C =>
    obtain ⟨rfl, rfl⟩ := hspells
    by_cases hnext : c = byte 'o'
    · subst hnext
      exact ⟨rfl, rfl⟩
    · rw [nameStep, if_neg hnext]
      trivial
  | h_CO =>
    obtain ⟨rfl, rfl⟩ := hspells
    by_cases hnext : c = byte 'n'
    · subst hnext
      exact ⟨rfl, rfl⟩
    · rw [nameStep, if_neg hnext]
      trivial
  | h_CON =>
    obtain ⟨rfl, rfl⟩ := hspells
    by_cases hnext : c = byte 'n'
    · subst hnext
      rfl
    by_cases hlength : c = byte 't'
    · subst hlength
      rfl
    · rw [nameStep, if_neg hnext, if_neg hlength]
      trivial
  | h_matching_connection => exact matchStep_spells c (fun _ _ => Iff.rfl) (fun _ => .inl rfl) hspells hc
  | h_matching_proxy_connection => exact matchStep_spells c (fun _ _ => Iff.rfl) (fun _ => .inr rfl) hspells hc
  | h_matching_content_length => exact matchStep_spells c (fun _ _ => Iff.rfl) (fun _ => rfl) hspells hc
  | h_matching_transfer_encoding => exact matchStep_spells c (fun _ _ => Iff.rfl) (fun _ => rfl) hspells hc
  | h_matching_upgrade => exact matchStep_spells c (fun _ _ => Iff.rfl) (fun _ => rfl) hspells hc
  | _ => trivial

theorem firstHeaderState_spells (c : UInt8) : Spells (Parser.firstHeaderState c) 0 [c] := by
  unfold Parser.firstHeaderState
  split_ifs with hc hp ht hu
  · subst hc
    exact ⟨rfl, rfl⟩
  · subst hp
    rfl
  · subst ht
    rfl
  · subst hu
    rfl
  · trivial

theorem nameState_concat {name : SharedString} (hname : name ≠ []) (c : UInt8) :
    nameState (name ++ [c]) = nameStep (nameState name) c := by
  cases name with
  | nil => exact absurd rfl hname
  | cons first rest => rw [List.cons_append, nameState, nameState, List.foldl_append, List.foldl_cons, List.foldl_nil]

theorem nameState_spells {name : SharedString} (hname : name ≠ []) (hzero : 0 ∉ name) :
    Spells (nameState name).1 (nameState name).2 name := by
  induction name using List.reverseRecOn with
  | nil => exact absurd rfl hname
  | append_singleton name c ih =>
    have hc : c ≠ 0 := fun h => hzero (by simp [h])
    cases name with
    | nil => exact firstHeaderState_spells c
    | cons first rest =>
      rw [nameState_concat (List.cons_ne_nil _ _)]
      exact nameStep_spells (ih (List.cons_ne_nil _ _) fun h => hzero (List.mem_append_left _ h)) hc

/-- A name leads to a header state of its own exactly if it is one of the names the parser looks for. -/
theorem nameState_iff {name : SharedString} (hname : name ≠ []) (hzero : 0 ∉ name) :
    ((nameState name).1 = .h_content_length ↔ name = text "content-length") ∧
      ((nameState name).1 = .h_transfer_encoding ↔ name = text "transfer-encoding") ∧
      ((nameState name).1 = .h_upgrade ↔ name = text "upgrade") ∧
      ((nameState name).1 = .h_connection ↔ name = text "connection" ∨ name = text "proxy-connection") := by
  have hspells := nameState_spells hname hzero
  refine ⟨⟨fun h => ?_, ?_⟩, ⟨fun h => ?_, ?_⟩, ⟨fun h => ?_, ?_⟩, ⟨fun h => ?_, ?_⟩⟩
  · rwa [h] at hspells
  · rintro rfl
    decide
  · rwa [h] at hspells
  · rintro rfl
    decide
  · rwa [h] at hspells
  · rintro rfl
    decide
  · rwa [h] at hspells
  · rintro (rfl | rfl) <;> decide

namespace Parser

variable {parser : Parser} {ch : UInt8}

theorem TOKEN_space : TOKEN (byte ' ') = 0 := by decide

/-- A token takes the header state and the index one step further. -/
theorem headerFieldChar_eq (hfield : parser.header_state.ofField = true) (htoken : TOKEN ch ≠ 0) :
    parser.headerFieldChar ch = some
      { parser with
        header_state := (nameStep (parser.header_state, parser.index) (TOKEN ch)).1
        index := (nameStep (parser.header_state, parser.index) (TOKEN ch)).2 } := by
  have hspace : ch ≠ byte ' ' := by
    rintro rfl
    exact htoken TOKEN_space
  obtain ⟨_, _, header_state, _, _, _, _, _, _, _, _⟩ := parser
  unfold headerFieldChar matching
  cases header_state <;> cases hfield <;> dsimp only [nameStep, nameStep.matchStep]
  all_goals first | rw [if_pos hspace] | (split_ifs <;> rfl)

end Parser

end cpv.HttpParser
