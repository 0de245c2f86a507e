import Cpv.Core.Assignments
import Cpv.Core.Split
import Cpv.Http.Headers
import Cpv.Utility.HttpUtils

namespace cpv

/-- The segments of a text, of which each but the last ends at an '&'. -/
def segments (str : SharedString) : List SharedString := str.splitOn (byte '&')

/-- The text of a segment after its last '='. -/
def valueText (segment : SharedString) : SharedString := (segment.splitOn (byte '=')).getLastD []

/-- The text of a segment between its last two '=', or before its only '='. -/
def keyText (segment : SharedString) : Option SharedString := (segment.splitOn (byte '=')).dropLast.getLast?

/-- The key that a segment has itself. -/
def ownKey (segment : SharedString) : Option SharedString := (keyText segment).map urlDecode

/-- The key and the value that a segment has itself. -/
def segmentPair (segment : SharedString) : SharedString × SharedString :=
  ((ownKey segment).getD [], urlDecode (valueText segment))

theorem exists_segments (str : SharedString) : ∃ init last, segments str = init ++ [last] := by
  obtain ⟨init, last, hsplit⟩ := (List.eq_nil_or_concat (segments str)).resolve_left (List.splitOn_ne_nil _ str)
  exact ⟨init, last, hsplit.trans List.concat_eq_append⟩

theorem valueText_concat_equals (segment : SharedString) : valueText (segment ++ [byte '=']) = [] := by
  rw [valueText, List.splitOn_concat_self, List.getLastD_concat]

theorem keyText_concat_equals (segment : SharedString) : keyText (segment ++ [byte '=']) = some (valueText segment) := by
  rw [keyText, List.splitOn_concat_self, List.dropLast_concat, valueText]
  obtain ⟨part, hpart⟩ := Option.ne_none_iff_exists'.mp
    (mt List.getLast?_eq_none_iff.mp (List.splitOn_ne_nil (byte '=') segment))
  rw [List.getLastD_eq_getLast?, hpart]
  rfl

theorem concat_ne_equals {segment : SharedString} {c : UInt8} (hne : c ≠ byte '=') :
    valueText (segment ++ [c]) = valueText segment ++ [c] ∧ keyText (segment ++ [c]) = keyText segment := by
  obtain ⟨init, last, hsplit⟩ := (List.eq_nil_or_concat (segment.splitOn (byte '='))).resolve_left
    (List.splitOn_ne_nil _ segment)
  rw [List.concat_eq_append] at hsplit
  simp only [valueText, keyText]
  rw [List.splitOn_concat_ne hsplit hne, hsplit]
  simp

section Labels

variable (known : SharedString → Bool)

/-- The key that is left of segments, the latest of which comes first. A key of its own leaves a segment with the
    value unless it is known before. -/
def carriedKey : List SharedString → SharedString
  | [] => []
  | segment :: earlier =>
    match ownKey segment with
    | none => carriedKey earlier
    | some key => if known key ∨ some key ∈ earlier.map ownKey then key else []

/-- The value of a segment under the key that is left where the segment has none. -/
def label (earlier : List SharedString) (segment : SharedString) : Labelled SharedString SharedString where
  own := (ownKey segment).getD []
  taken := (ownKey segment).getD (carriedKey known earlier)
  value := urlDecode (valueText segment)

def labels (earlier : List SharedString) : List SharedString → List (Labelled SharedString SharedString)
  | [] => []
  | segment :: rest => label known earlier segment :: labels (segment :: earlier) rest

theorem labels_concat (earlier rest : List SharedString) (segment : SharedString) :
    labels known earlier (rest ++ [segment]) =
      labels known earlier rest ++ [label known (rest.reverse ++ earlier) segment] := by
  induction rest generalizing earlier with
  | nil => rfl
  | cons first rest ih => simp [labels, ih]

theorem mem_labels {earlier rest : List SharedString} {one : Labelled SharedString SharedString} :
    one ∈ labels known earlier rest ↔
      ∃ before segment after, rest = before ++ segment :: after ∧
        one = label known (before.reverse ++ earlier) segment := by
  induction rest generalizing earlier with
  | nil => simp [labels]
  | cons first rest ih =>
    rw [labels, List.mem_cons, ih]
    constructor
    · rintro (rfl | ⟨before, segment, after, rfl, rfl⟩)
      · exact ⟨[], first, rest, rfl, rfl⟩
      · exact ⟨first :: before, segment, after, rfl, by simp⟩
    · rintro ⟨before, segment, after, heq, rfl⟩
      cases before with
      | nil =>
        obtain ⟨rfl, -⟩ := List.cons.inj heq
        exact .inl rfl
      | cons head before =>
        obtain ⟨rfl, rfl⟩ := List.cons.inj heq
        exact .inr ⟨before, segment, after, rfl, by simp⟩

theorem map_ownPair_labels (earlier rest : List SharedString) :
    (labels known earlier rest).map Labelled.ownPair = rest.map segmentPair := by
  induction rest generalizing earlier with
  | nil => rfl
  | cons segment rest ih => rw [labels, List.map_cons, ih]; rfl

theorem carriedKey_known {earlier : List SharedString} (hne : carriedKey known earlier ≠ []) :
    known (carriedKey known earlier) ∨ some (carriedKey known earlier) ∈ earlier.map ownKey := by
  induction earlier with
  | nil => exact absurd rfl hne
  | cons segment earlier ih =>
    unfold carriedKey at hne ⊢
    rw [List.map_cons]
    cases hown : ownKey segment with
    | none =>
      simp only [hown] at hne
      exact (ih hne).imp_right (List.mem_cons_of_mem _)
    | some key =>
      simp only [hown] at hne
      split at hne
      · rename_i hkey
        simp only [if_pos hkey]
        exact .inr (.head _)
      · exact absurd rfl hne

end Labels

/-- A reader of keys and values: what it has put into a map, the text behind `mark`, and the key read last. -/
structure KeyValueReader (Value : Type) where
  map : StringMap Value
  pending : SharedString := []
  key : SharedString := []

section Reader

variable {Value : Type} (put : StringMap Value → SharedString → SharedString → StringMap Value)

/-- Put the pairs into the map from left to right. -/
def putAll (map : StringMap Value) (pairs : List (SharedString × SharedString)) : StringMap Value :=
  pairs.foldl (fun map pair => put map pair.1 pair.2) map

namespace KeyValueReader

/-- End of value. The key is moved into the map only when the map does not have it yet. -/
def valueEnd (reader : KeyValueReader Value) : KeyValueReader Value where
  map := put reader.map reader.key (urlDecode reader.pending)
  key := if reader.key ∈ reader.map then reader.key else []

def read (reader : KeyValueReader Value) (c : UInt8) : KeyValueReader Value :=
  if c = byte '=' then { reader with key := urlDecode reader.pending, pending := [] }
  else if c = byte '&' then reader.valueEnd put
  else { reader with pending := reader.pending ++ [c] }

def readAll (reader : KeyValueReader Value) (str : SharedString) : KeyValueReader Value :=
  str.foldl (read put) reader

@[simp] theorem readAll_concat (reader : KeyValueReader Value) (str : SharedString) (c : UInt8) :
    reader.readAll put (str ++ [c]) = (reader.readAll put str).read put c := by
  rw [readAll, List.foldl_append]
  rfl

end KeyValueReader

/-- The pairs that are put into a map: the values of the segments under the keys they are read with. -/
def takenPairs (map : StringMap Value) (rest : List SharedString) : List (SharedString × SharedString) :=
  (labels (· ∈ map) [] rest).map Labelled.takenPair

variable {put} {map : StringMap Value}

theorem takenPairs_concat (rest : List SharedString) (segment : SharedString) :
    takenPairs map (rest ++ [segment]) = takenPairs map rest ++ [(label (· ∈ map) rest.reverse segment).takenPair] := by
  rw [takenPairs, labels_concat, List.append_nil, List.map_append]
  rfl

theorem putAll_concat (pairs : List (SharedString × SharedString)) (pair : SharedString × SharedString) :
    putAll put map (pairs ++ [pair]) = put (putAll put map pairs) pair.1 pair.2 := by
  rw [putAll, List.foldl_append]
  rfl

variable (hput : ∀ map key value other, other ∈ put map key value ↔ other = key ∨ other ∈ map)

include hput in
/-- The keys that a map has after segments: those that it had, and those of the segments. -/
theorem mem_putAll_takenPairs {rest : List SharedString} {key : SharedString} (hne : key ≠ []) :
    key ∈ putAll put map (takenPairs map rest) ↔ key ∈ map ∨ some key ∈ rest.map ownKey := by
  induction rest using List.reverseRecOn with
  | nil => simp [takenPairs, labels, putAll]
  | append_singleton rest segment ih =>
    rw [takenPairs_concat, putAll_concat, hput, ih, List.map_append, List.mem_append, List.map_singleton,
      List.mem_singleton]
    cases hown : ownKey segment with
    | some own =>
      have htaken : (label (· ∈ map) rest.reverse segment).takenPair.1 = own := by
        simp [Labelled.takenPair, label, hown]
      rw [htaken, Option.some.injEq]
      tauto
    | none =>
      have htaken : (label (· ∈ map) rest.reverse segment).takenPair.1 = carriedKey (· ∈ map) rest.reverse := by
        simp [Labelled.takenPair, label, hown]
      rw [htaken]
      have hknown : key = carriedKey (· ∈ map) rest.reverse → key ∈ map ∨ some key ∈ rest.map ownKey := by
        intro hkey
        have hcarried := @carriedKey_known (· ∈ map) rest.reverse (hkey ▸ hne)
        rw [← hkey] at hcarried
        simpa using hcarried
      simp only [reduceCtorEq, or_false]
      exact ⟨fun h => h.elim hknown id, .inr⟩

include hput in
/-- A key that is not moved into the map is carried to the next segment. -/
theorem key_valueEnd (rest : List SharedString) (segment : SharedString) :
    (if (label (· ∈ map) rest.reverse segment).taken ∈ putAll put map (takenPairs map rest) then
      (label (· ∈ map) rest.reverse segment).taken else []) =
    carriedKey (· ∈ map) (rest ++ [segment]).reverse := by
  generalize hkey : (label (· ∈ map) rest.reverse segment).taken = key
  have hmem := @mem_putAll_takenPairs _ put map hput rest key
  rw [List.reverse_append, List.reverse_singleton, List.singleton_append, carriedKey]
  cases hown : ownKey segment with
  | some own =>
    obtain rfl : own = key := by simpa [label, hown] using hkey
    by_cases hnil : own = []
    · simp [hnil]
    · simp [hmem hnil]
  | none =>
    obtain rfl : carriedKey (· ∈ map) rest.reverse = key := by simpa [label, hown] using hkey
    by_cases hnil : carriedKey (· ∈ map) rest.reverse = []
    · simp [hnil]
    · have hknown := carriedKey_known (· ∈ map) hnil
      rw [if_pos ((hmem hnil).mpr (by simpa using hknown))]

include hput in
/-- What is read of a text: every segment but the last is put into the map, and of the last the value is pending. -/
theorem readAll_eq {str last : SharedString} {init : List SharedString} (hsplit : segments str = init ++ [last]) :
    ({ map } : KeyValueReader Value).readAll put str =
      { map := putAll put map (takenPairs map init)
        pending := valueText last
        key := (label (· ∈ map) init.reverse last).taken } := by
  induction str using List.reverseRecOn generalizing init last with
  | nil =>
    have hempty : [] ++ [[]] = init ++ [last] := hsplit
    obtain ⟨rfl, hlast⟩ := List.append_inj' hempty rfl
    obtain rfl := List.singleton_inj.mp hlast
    rfl
  | append_singleton str c ih =>
    obtain ⟨init', last', hstr⟩ := exists_segments str
    rw [KeyValueReader.readAll_concat, ih hstr, KeyValueReader.read]
    by_cases hand : c = byte '&'
    · subst hand
      rw [segments, List.splitOn_concat_self] at hsplit
      obtain ⟨rfl, hlast⟩ := List.append_inj' hsplit rfl
      obtain rfl := List.singleton_inj.mp hlast
      rw [if_neg (by decide), if_pos rfl, KeyValueReader.valueEnd]
      rw [segments] at hstr
      rw [hstr, takenPairs_concat, putAll_concat, key_valueEnd hput]
      rfl
    · rw [segments, List.splitOn_concat_ne hstr hand] at hsplit
      obtain ⟨rfl, hlast⟩ := List.append_inj' hsplit rfl
      obtain rfl := List.singleton_inj.mp hlast
      by_cases hequals : c = byte '='
      · subst hequals
        have htaken : (label (· ∈ map) init'.reverse (last' ++ [byte '='])).taken = urlDecode (valueText last') := by
          unfold label
          rw [ownKey, keyText_concat_equals]
          rfl
        rw [if_pos rfl, valueText_concat_equals, htaken]
      · obtain ⟨hvalue, hkey⟩ := @concat_ne_equals last' c hequals
        rw [if_neg hequals, if_neg hand, hvalue]
        simp [label, ownKey, hkey]

end Reader

end cpv
