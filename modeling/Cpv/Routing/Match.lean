import Mathlib.Data.List.Induction
import Cpv.Routing.Table

namespace cpv

variable {Handler : Type}

/-- A handler registered for a method under a path pattern. -/
structure Registration (Handler : Type) where
  method : SharedString
  pattern : SharedString
  handler : Handler

/-- The table after registering handlers one after another. -/
def registeredTable (registrations : List (Registration Handler)) :
    HttpServerRequestRoutingHandler Handler :=
  routingTable (registrations.map fun r => .route r.method r.pattern (some r.handler))

/-- The documented meaning of pattern fragments: '*' represents one arbitrary
    path fragment, '**' at the end one or more. -/
def matchesFragments : List SharedString → List SharedString → Bool
  | [], [] => true
  | p :: ps, f :: fs =>
    (p == text "**" && ps.isEmpty) || ((p == text "*" || p == f) && matchesFragments ps fs)
  | _, _ => false

namespace Registration

def pathFragments (r : Registration Handler) : List SharedString := (Uri.parse r.pattern).pathFragments

/-- Registered as the full path. -/
def AtFullPath (r : Registration Handler) (path : SharedString) : Prop :=
  isFullPath r.pattern = true ∧ r.pattern = path

/-- Registered as the pattern with these fragments. -/
def AtNode (r : Registration Handler) (pathFragments : List SharedString) : Prop :=
  isFullPath r.pattern = false ∧ r.pathFragments = pathFragments

instance (r : Registration Handler) (path : SharedString) : Decidable (r.AtFullPath path) :=
  inferInstanceAs (Decidable (_ ∧ _))

instance (r : Registration Handler) (pathFragments : List SharedString) :
    Decidable (r.AtNode pathFragments) :=
  inferInstanceAs (Decidable (_ ∧ _))

/-- A full path matches itself, a pattern what its fragments match. -/
def Matches (r : Registration Handler) (uri : Uri) : Prop :=
  r.AtFullPath uri.path ∨
    (isFullPath r.pattern = false ∧ matchesFragments r.pathFragments uri.pathFragments = true)

instance (r : Registration Handler) (uri : Uri) : Decidable (r.Matches uri) :=
  inferInstanceAs (Decidable (_ ∨ _))

end Registration

/-- Routing a method and a path finds a handler exactly if a pattern registered
    for the method matches the path, and it finds one of those registered so. -/
def SoundAndComplete (registrations : List (Registration Handler)) (method path : SharedString) : Prop :=
  let found := (registeredTable registrations).getRoutePath method path
  (found.isSome ↔ ∃ r ∈ registrations, r.method = method ∧ r.Matches (Uri.parse path)) ∧
    ∀ handler, found = some handler →
      ∃ r ∈ registrations, r.method = method ∧ r.Matches (Uri.parse path) ∧ r.handler = handler

/-- The fragments of the registered patterns. -/
def wildcardPatterns (registrations : List (Registration Handler)) : List (List SharedString) :=
  (registrations.filter fun r => !isFullPath r.pattern).map (·.pathFragments)

/-- The pattern a request path selects among patterns that continue the
    fragments taken so far. At each fragment a pattern with the same literal is
    preferred to one that ends with '**' here, and that to one with '*'. No
    choice is taken back. -/
def selectPattern (patterns : List (List SharedString)) (taken : List SharedString) :
    List SharedString → Option (List SharedString)
  | [] => some taken
  | pathFragment :: pathFragments =>
    if ∃ pattern ∈ patterns, taken ++ [pathFragment] <+: pattern then
      selectPattern patterns (taken ++ [pathFragment]) pathFragments
    else if ∃ pattern ∈ patterns, taken ++ [text "**"] <+: pattern then some (taken ++ [text "**"])
    else if ∃ pattern ∈ patterns, taken ++ [text "*"] <+: pattern then
      selectPattern patterns (taken ++ [text "*"]) pathFragments
    else none

/-- The one place that is looked at has the method: the full path, if the path
    is registered as one for any method, else the pattern it selects. -/
def SelectedFor (registrations : List (Registration Handler)) (method : SharedString) (uri : Uri) : Prop :=
  if ∃ r ∈ registrations, r.AtFullPath uri.path then
    ∃ r ∈ registrations, r.AtFullPath uri.path ∧ r.method = method
  else ∃ selected ∈ selectPattern (wildcardPatterns registrations) [] uri.pathFragments,
    ∃ r ∈ registrations, r.AtNode selected ∧ r.method = method

/-- What is selected by a request path matches it. -/
theorem selectPattern_matches {patterns : List (List SharedString)} {taken pathFragments selected : List SharedString}
    (hselected : selectPattern patterns taken pathFragments = some selected) :
    ∃ rest, selected = taken ++ rest ∧ matchesFragments rest pathFragments = true := by
  induction pathFragments generalizing taken with
  | nil =>
    obtain rfl := Option.some.inj hselected
    exact ⟨[], (List.append_nil _).symm, rfl⟩
  | cons pathFragment pathFragments ih =>
    rw [selectPattern] at hselected
    split at hselected
    · obtain ⟨rest, hrest, hmatches⟩ := ih hselected
      exact ⟨pathFragment :: rest, by simp [hrest], by simp [matchesFragments, hmatches]⟩
    · split at hselected
      · obtain rfl := Option.some.inj hselected
        exact ⟨[text "**"], rfl, by simp [matchesFragments]⟩
      · split at hselected
        · obtain ⟨rest, hrest, hmatches⟩ := ih hselected
          exact ⟨text "*" :: rest, by simp [hrest], by simp [matchesFragments, hmatches]⟩
        · cases hselected

/-- The walk over a tree whose nodes are what patterns begin with selects a
    pattern and ends in its node. -/
theorem findForRoute_eq {tree : HttpServerRequestRoutingNode Handler} {patterns : List (List SharedString)}
    (hnodes : ∀ keys, keys ≠ [] → ((tree.find keys).isSome ↔ ∃ pattern ∈ patterns, keys <+: pattern))
    {taken : List SharedString} {node : HttpServerRequestRoutingNode Handler}
    (hnode : tree.find taken = some node) (pathFragments : List SharedString) :
    HttpServerRequestRoutingNode.findForRoute node pathFragments =
      (selectPattern patterns taken pathFragments).bind tree.find := by
  have hchild {taken : List SharedString} {node : HttpServerRequestRoutingNode Handler}
      (hnode : tree.find taken = some node) (key : SharedString) :
      tree.find (taken ++ [key]) = node.childs key := by
    rw [Trie.find_append, hnode, Option.bind_some, Trie.find]
    cases node.childs key <;> rfl
  have hexists {taken : List SharedString} {node : HttpServerRequestRoutingNode Handler}
      (hnode : tree.find taken = some node) (key : SharedString) :
      (∃ pattern ∈ patterns, taken ++ [key] <+: pattern) ↔ (node.childs key).isSome := by
    rw [← hchild hnode key, hnodes _ (by simp)]
  induction pathFragments generalizing taken node with
  | nil => rw [HttpServerRequestRoutingNode.findForRoute, selectPattern, Option.bind_some, hnode]
  | cons pathFragment pathFragments ih =>
    rw [HttpServerRequestRoutingNode.findForRoute, selectPattern]
    simp only [hexists hnode]
    cases hliteral : node.childs pathFragment with
    | some child => exact ih ((hchild hnode _).trans hliteral)
    | none =>
      cases hmany : node.childs (text "**") with
      | some child => exact ((hchild hnode _).trans hmany).symm
      | none =>
        cases hone : node.childs (text "*") with
        | some child => exact ih ((hchild hnode _).trans hone)
        | none => rfl

/-- A handler map holds what was registered at one place, the earlier handler
    or the later one where a method was registered twice. -/
structure MapRecords (map : HttpServerRequestRoutingHandlerMap Handler)
    (registrations : List (Registration Handler)) (place : Registration Handler → Prop) : Prop where
  notNull : ∀ method, map.handlers.lookup method ≠ some none
  sound : ∀ method handler, map.get method = some handler →
    ∃ r ∈ registrations, place r ∧ r.method = method ∧ r.handler = handler
  complete : ∀ r ∈ registrations, place r → (map.get r.method).isSome

namespace MapRecords

variable {map : HttpServerRequestRoutingHandlerMap Handler} {registrations : List (Registration Handler)}
  {place : Registration Handler → Prop} {r : Registration Handler}

theorem empty (place : Registration Handler → Prop) : MapRecords {} [] place := by
  refine ⟨?_, ?_, ?_⟩
  · intro method hlookup
    cases hlookup
  · intro method handler hget
    rw [HttpServerRequestRoutingHandlerMap.get_empty] at hget
    cases hget
  · intro r hr
    cases hr

/-- A registration elsewhere does not concern the map. -/
theorem skip (hmap : MapRecords map registrations place) (hr : ¬ place r) :
    MapRecords map (registrations ++ [r]) place := by
  refine ⟨hmap.notNull, ?_, ?_⟩
  · intro method handler hget
    obtain ⟨other, hother, hplace⟩ := hmap.sound method handler hget
    exact ⟨other, List.mem_append_left _ hother, hplace⟩
  · intro other hother hplace
    rw [List.mem_append, List.mem_singleton] at hother
    obtain hother | rfl := hother
    · exact hmap.complete other hother hplace
    · exact absurd hplace hr

theorem set (hmap : MapRecords map registrations place) (hr : place r) :
    MapRecords (map.set r.method (some r.handler)) (registrations ++ [r]) place := by
  refine ⟨?_, ?_, ?_⟩
  · intro method
    rw [HttpServerRequestRoutingHandlerMap.lookup_set]
    have hnotNull := hmap.notNull method
    grind
  · intro method handler hget
    rw [HttpServerRequestRoutingHandlerMap.get_set] at hget
    split at hget
    · rename_i hmethod
      exact ⟨r, List.mem_append_right _ List.mem_cons_self, hr, hmethod.1.symm, Option.some.inj hget⟩
    · obtain ⟨other, hother, hplace⟩ := hmap.sound method handler hget
      exact ⟨other, List.mem_append_left _ hother, hplace⟩
  · intro other hother hplace
    rw [HttpServerRequestRoutingHandlerMap.get_set]
    split
    · rfl
    · rename_i hkept
      rw [List.mem_append, List.mem_singleton] at hother
      obtain hother | rfl := hother
      · exact hmap.complete other hother hplace
      · -- the method has its handler in the table of handlers already
        simp only [true_and, not_or, not_not] at hkept
        obtain ⟨hget, hpost, hmem⟩ := hkept
        rw [HttpServerRequestRoutingHandlerMap.get, if_neg hget, if_neg hpost]
        obtain ⟨entry, hentry⟩ := Option.isSome_iff_exists.mp (AList.lookup_isSome.mpr hmem)
        have hnotNull := hmap.notNull other.method
        rw [hentry] at hnotNull ⊢
        cases entry with
        | none => exact absurd rfl hnotNull
        | some handler => rfl

end MapRecords

/-- A routing table holds exactly what was registered. -/
structure Records (table : HttpServerRequestRoutingHandler Handler)
    (registrations : List (Registration Handler)) : Prop where
  fullPath_isSome : ∀ path, (table.fullPathRoutingMap.lookup path).isSome ↔
    ∃ r ∈ registrations, r.AtFullPath path
  fullPath : ∀ path, MapRecords ((table.fullPathRoutingMap.lookup path).getD {}) registrations
    fun r => r.AtFullPath path
  node_isSome : ∀ keys, keys ≠ [] → ((table.wildcardRoutingTree.valueAt keys).isSome ↔
    ∃ pattern ∈ wildcardPatterns registrations, keys <+: pattern)
  node : ∀ keys, MapRecords ((table.wildcardRoutingTree.valueAt keys).getD {}) registrations
    fun r => r.AtNode keys

namespace Records

variable {table : HttpServerRequestRoutingHandler Handler} {registrations : List (Registration Handler)}

theorem empty : Records ({} : HttpServerRequestRoutingHandler Handler) [] := by
  refine ⟨?_, fun _ => MapRecords.empty _, ?_, ?_⟩
  · intro path
    simp
  · intro keys hkeys
    simp [Trie.valueAt_leaf, hkeys, wildcardPatterns]
  · intro keys
    rw [Trie.valueAt_leaf]
    split <;> exact MapRecords.empty _

theorem route_fullPath (htable : Records table registrations) (r : Registration Handler)
    (hfull : isFullPath r.pattern = true) :
    Records (table.routeFullPath r.method r.pattern (some r.handler)) (registrations ++ [r]) := by
  have hnode (keys : List SharedString) : ¬ r.AtNode keys := by
    rintro ⟨hnot, -⟩
    rw [hfull] at hnot
    cases hnot
  refine ⟨?_, ?_, ?_, fun keys => (htable.node keys).skip (hnode keys)⟩
  · intro path
    rw [HttpServerRequestRoutingHandler.routeFullPath_lookup]
    have hold := htable.fullPath_isSome path
    simp only [List.mem_append, List.mem_singleton]
    grind [Registration.AtFullPath]
  · intro path
    rw [HttpServerRequestRoutingHandler.routeFullPath_lookup]
    split
    · rename_i hpath
      rw [Option.getD_some, hpath]
      exact (htable.fullPath r.pattern).set ⟨hfull, rfl⟩
    · rename_i hpath
      exact (htable.fullPath path).skip fun hat => hpath hat.2.symm
  · intro keys hkeys
    have hsame : wildcardPatterns (registrations ++ [r]) = wildcardPatterns registrations := by
      simp [wildcardPatterns, hfull]
    rw [hsame]
    exact htable.node_isSome keys hkeys

theorem route_wildcard (htable : Records table registrations) (r : Registration Handler)
    (hfull : isFullPath r.pattern = false) :
    Records { table with
      wildcardRoutingTree := table.wildcardRoutingTree.alter {} (·.set r.method (some r.handler))
        r.pathFragments } (registrations ++ [r]) := by
  have hpath (path : SharedString) : ¬ r.AtFullPath path := by
    rintro ⟨hnot, -⟩
    rw [hfull] at hnot
    cases hnot
  refine ⟨?_, fun path => (htable.fullPath path).skip (hpath path), ?_, ?_⟩
  · intro path
    have hold := htable.fullPath_isSome path
    have hnot := hpath path
    simp only [List.mem_append, List.mem_singleton]
    grind
  · intro keys hkeys
    have hold := htable.node_isSome keys hkeys
    have hpatterns : wildcardPatterns (registrations ++ [r]) =
        wildcardPatterns registrations ++ [r.pathFragments] := by
      simp [wildcardPatterns, hfull]
    rw [hpatterns, Trie.valueAt_alter]
    simp only [List.mem_append, List.mem_singleton]
    grind
  · intro keys
    rw [Trie.valueAt_alter]
    have hold := htable.node keys
    split
    · rename_i hkeys
      subst hkeys
      exact hold.set ⟨hfull, rfl⟩
    · rename_i hkeys
      have hskip := hold.skip (r := r) fun hat => hkeys hat.2.symm
      split <;> exact hskip

end Records

theorem registeredTable_records (registrations : List (Registration Handler)) :
    Records (registeredTable registrations) registrations := by
  induction registrations using List.reverseRecOn with
  | nil => exact Records.empty
  | append_singleton registrations r ih =>
    have htable : registeredTable (registrations ++ [r]) =
        (registeredTable registrations).route r.method r.pattern (some r.handler) := by
      simp [registeredTable, routingTable, RoutingCall.apply]
    rw [htable, HttpServerRequestRoutingHandler.route_eq]
    cases hfull : isFullPath r.pattern with
    | true => exact ih.route_fullPath r hfull
    | false => exact ih.route_wildcard r hfull

namespace Records

variable {table : HttpServerRequestRoutingHandler Handler} {registrations : List (Registration Handler)}

theorem getRoute_of_fullPath (htable : Records table registrations) {uri : Uri}
    (hpath : ∃ r ∈ registrations, r.AtFullPath uri.path) (method : SharedString) :
    table.getRoute method uri = ((table.fullPathRoutingMap.lookup uri.path).getD {}).get method := by
  obtain ⟨map, hmap⟩ := Option.isSome_iff_exists.mp ((htable.fullPath_isSome uri.path).mpr hpath)
  rw [HttpServerRequestRoutingHandler.getRoute, hmap]
  rfl

theorem getRoute_of_not_fullPath (htable : Records table registrations) {uri : Uri}
    (hpath : ¬ ∃ r ∈ registrations, r.AtFullPath uri.path) (method : SharedString) :
    table.getRoute method uri =
      (selectPattern (wildcardPatterns registrations) [] uri.pathFragments).bind fun selected =>
        ((table.wildcardRoutingTree.valueAt selected).getD {}).get method := by
  have hmap : table.fullPathRoutingMap.lookup uri.path = none := by
    rw [← Option.not_isSome_iff_eq_none, htable.fullPath_isSome]
    exact hpath
  have hnodes (keys : List SharedString) (hkeys : keys ≠ []) := htable.node_isSome keys hkeys
  simp only [← Trie.isSome_find] at hnodes
  rw [HttpServerRequestRoutingHandler.getRoute, hmap,
    findForRoute_eq hnodes (show table.wildcardRoutingTree.find [] = some _ from rfl)]
  cases selectPattern (wildcardPatterns registrations) [] uri.pathFragments with
  | none => rfl
  | some selected =>
    rw [Option.bind_some, Option.bind_some, Trie.valueAt]
    cases table.wildcardRoutingTree.find selected with
    | none => exact (HttpServerRequestRoutingHandlerMap.get_empty method).symm
    | some node => rfl

/-- A handler is found exactly if the selected place has the method. -/
theorem getRoute_isSome (htable : Records table registrations) (method : SharedString) (uri : Uri) :
    (table.getRoute method uri).isSome ↔ SelectedFor registrations method uri := by
  have hplace {map : HttpServerRequestRoutingHandlerMap Handler} {place : Registration Handler → Prop}
      (hmap : MapRecords map registrations place) :
      (map.get method).isSome ↔ ∃ r ∈ registrations, place r ∧ r.method = method := by
    constructor
    · intro hsome
      obtain ⟨handler, hget⟩ := Option.isSome_iff_exists.mp hsome
      obtain ⟨r, hr, hat, hmethod, -⟩ := hmap.sound method handler hget
      exact ⟨r, hr, hat, hmethod⟩
    · rintro ⟨r, hr, hat, rfl⟩
      exact hmap.complete r hr hat
  unfold SelectedFor
  split
  · rename_i hpath
    rw [htable.getRoute_of_fullPath hpath, hplace (htable.fullPath uri.path)]
  · rename_i hpath
    rw [htable.getRoute_of_not_fullPath hpath]
    cases selectPattern (wildcardPatterns registrations) [] uri.pathFragments with
    | none => simp
    | some selected => simpa using hplace (htable.node selected)

/-- A handler that is found was registered for the method under a pattern that
    matches the path. -/
theorem getRoute_sound (htable : Records table registrations) {method : SharedString} {uri : Uri}
    {handler : Handler} (hfound : table.getRoute method uri = some handler) :
    ∃ r ∈ registrations, r.method = method ∧ r.Matches uri ∧ r.handler = handler := by
  by_cases hpath : ∃ r ∈ registrations, r.AtFullPath uri.path
  · rw [htable.getRoute_of_fullPath hpath] at hfound
    obtain ⟨r, hr, hat, hmethod, hhandler⟩ := (htable.fullPath uri.path).sound method handler hfound
    exact ⟨r, hr, hmethod, .inl hat, hhandler⟩
  · rw [htable.getRoute_of_not_fullPath hpath, Option.bind_eq_some_iff] at hfound
    obtain ⟨selected, hselected, hget⟩ := hfound
    obtain ⟨r, hr, hat, hmethod, hhandler⟩ := (htable.node selected).sound method handler hget
    obtain ⟨rest, hrest, hmatches⟩ := selectPattern_matches hselected
    rw [List.nil_append] at hrest
    refine ⟨r, hr, hmethod, .inr ⟨hat.1, ?_⟩, hhandler⟩
    rw [hat.2, hrest]
    exact hmatches

end Records

/-- Routing is always sound. It is complete for a method and a path exactly if
    the pattern that the walk selects without ever going back is registered for
    the method whenever any matching pattern is. -/
theorem soundAndComplete_iff (registrations : List (Registration Handler)) (method path : SharedString) :
    SoundAndComplete registrations method path ↔
      ((∃ r ∈ registrations, r.method = method ∧ r.Matches (Uri.parse path)) →
        SelectedFor registrations method (Uri.parse path)) := by
  have htable := registeredTable_records registrations
  have hselected := htable.getRoute_isSome method (Uri.parse path)
  constructor
  · rintro ⟨hcomplete, -⟩ hmatches
    exact hselected.mp (hcomplete.mpr hmatches)
  · intro hcomplete
    refine ⟨⟨?_, fun hmatches => hselected.mpr (hcomplete hmatches)⟩, fun handler => htable.getRoute_sound⟩
    intro hsome
    obtain ⟨handler, hfound⟩ := Option.isSome_iff_exists.mp hsome
    obtain ⟨r, hr, hmethod, hmatches, -⟩ := htable.getRoute_sound hfound
    exact ⟨r, hr, hmethod, hmatches⟩

def overlappingPatterns : List (Registration Nat) := [
  { method := constants.GET, pattern := text "/a/b/*", handler := 0 },
  { method := constants.GET, pattern := text "/*/c", handler := 1 }]

/-- "/a/c" matches "/*/c" but the walk has committed to "a". -/
theorem overlappingPatterns_not_complete :
    ¬ SoundAndComplete overlappingPatterns constants.GET (text "/a/c") := by
  rintro ⟨hcomplete, -⟩
  have hmatches : ∃ r ∈ overlappingPatterns, r.method = constants.GET ∧ r.Matches (Uri.parse (text "/a/c")) := by
    decide +kernel
  have hmissed : ((registeredTable overlappingPatterns).getRoutePath constants.GET (text "/a/c")).isSome = false := by
    decide +kernel
  rw [hcomplete.mpr hmatches] at hmissed
  cases hmissed

end cpv
