import Cpv.Routing.History

namespace cpv

variable {Handler : Type}

/-- The handler a table has for a method and a path or pattern as it was routed. -/
def HttpServerRequestRoutingHandler.handlerOf (table : HttpServerRequestRoutingHandler Handler)
    (method path : SharedString) : Option Handler :=
  if isFullPath path then (table.fullPathRoutingMap.lookup path).bind (·.get method)
  else (table.wildcardRoutingTree.valueAt (Uri.parse path).pathFragments).bind (·.get method)

/-- Routing a path and removing it again answers every request as before. -/
def Undone (table : HttpServerRequestRoutingHandler Handler) (method path : SharedString)
    (handler : Option Handler) : Prop :=
  ∀ method' request, ((table.route method path handler).removeRoute method path).getRoutePath method' request =
    table.getRoutePath method' request

/-- What is left behind when a path is routed and removed again: its place stays,
    and the removal also strikes the node of a full path's decoded fragments. No
    request is affected if its lookup ends where it did before, or had ended at a
    place without handlers, and if nothing else was struck where it ends. -/
def LeavesNoTrace (calls : List (RoutingCall Handler)) (method path : SharedString) (handler : Option Handler) : Prop :=
  ∀ request,
    let place := selectedPlace calls (Uri.parse request)
    (selectedPlace (calls ++ [RoutingCall.route method path handler]) (Uri.parse request) = place ∨
        ∀ method', heldHandler calls method' place = none) ∧
      (place = some (.node (Uri.parse path).pathFragments) → heldHandler calls method place = none)

theorem handlerOf_eq (calls : List (RoutingCall Handler)) (method path : SharedString) :
    (routingTable calls).handlerOf method path = heldHandler calls method (some (placeOf path)) := by
  have htable := routingTable_reflects calls
  have hbind (map : Option (HttpServerRequestRoutingHandlerMap Handler)) :
      map.bind (·.get method) = (map.getD {}).get method := by
    cases map with
    | none => exact (HttpServerRequestRoutingHandlerMap.get_empty method).symm
    | some map => rfl
  unfold HttpServerRequestRoutingHandler.handlerOf placeOf
  split
  · exact (hbind _).trans ((htable.fullPath path).get method)
  · exact (hbind _).trans ((htable.node _).get method)

/-- Only a place that was routed to holds an entry. -/
theorem mem_routedPlaces_of_heldEntry {calls : List (RoutingCall Handler)} {method : SharedString}
    {place : RoutingPlace} {handler : Option Handler} (hheld : heldEntry calls method place = some handler) :
    place ∈ routedPlaces calls := by
  induction calls using List.reverseRecOn generalizing handler with
  | nil => cases hheld
  | append_singleton calls call ih =>
    rw [heldEntry_append] at hheld
    cases call with
    | route method' path handler' =>
      have hplaces : routedPlaces (calls ++ [RoutingCall.route method' path handler']) = routedPlaces calls ++ [placeOf path] := by
        simp [routedPlaces]
      rw [hplaces, List.mem_append, List.mem_singleton]
      simp only [RoutingCall.update] at hheld
      split at hheld
      · rename_i hsame
        exact Or.inr hsame.2
      · exact Or.inl (ih hheld)
    | removeRoute method' path =>
      have hplaces : routedPlaces (calls ++ [RoutingCall.removeRoute method' path]) = routedPlaces calls := by simp [routedPlaces]
      rw [hplaces]
      simp only [RoutingCall.update] at hheld
      split at hheld
      · cases hheld
      · exact ih hheld

theorem isFullPath_of_mem_routedPlaces {calls : List (RoutingCall Handler)} {path : SharedString}
    (hmem : .fullPath path ∈ routedPlaces calls) : isFullPath path = true := by
  obtain ⟨call, -, hcall⟩ := List.mem_filterMap.mp hmem
  cases call with
  | route method other handler =>
    obtain ⟨hfull, rfl⟩ := placeOf_eq_fullPath.mp (Option.some.inj hcall)
    exact hfull
  | removeRoute method other => cases hcall

theorem selectPattern_extends {patterns : List (List SharedString)} {taken pathFragments selected : List SharedString}
    (hselected : selectPattern patterns taken pathFragments = some selected) : taken <+: selected := by
  obtain ⟨rest, hrest, -⟩ := selectPattern_matches hselected
  exact ⟨rest, hrest.symm⟩

/-- With one more pattern, a walk that ends at an old node is the old walk: a new
    node has only new nodes below it. -/
theorem selectPattern_of_concat {patterns : List (List SharedString)}
    {new taken pathFragments selected : List SharedString}
    (hselected : selectPattern (patterns ++ [new]) taken pathFragments = some selected)
    (hold : ∃ pattern ∈ patterns, selected <+: pattern) :
    selectPattern patterns taken pathFragments = some selected := by
  induction pathFragments generalizing taken with
  | nil => exact hselected
  | cons pathFragment pathFragments ih =>
    obtain ⟨pattern, hpattern, hprefix⟩ := hold
    have hchild (key : SharedString) (hkey : taken ++ [key] <+: selected) :
        ∃ pattern ∈ patterns, taken ++ [key] <+: pattern := ⟨pattern, hpattern, hkey.trans hprefix⟩
    have hmore (keys : List SharedString) (hkeys : ∃ pattern ∈ patterns, keys <+: pattern) :
        ∃ pattern ∈ patterns ++ [new], keys <+: pattern := by
      obtain ⟨pattern, hpattern, hkeys⟩ := hkeys
      exact ⟨pattern, List.mem_append_left _ hpattern, hkeys⟩
    rw [selectPattern] at hselected ⊢
    split at hselected
    · rw [if_pos (hchild _ (selectPattern_extends hselected))]
      exact ih hselected
    · rename_i hliteral
      rw [if_neg fun h => hliteral (hmore _ h)]
      split at hselected
      · obtain rfl := Option.some.inj hselected
        rw [if_pos (hchild _ (List.prefix_refl _))]
      · rename_i hmany
        rw [if_neg fun h => hmany (hmore _ h)]
        split at hselected
        · rw [if_pos (hchild _ (selectPattern_extends hselected))]
          exact ih hselected
        · cases hselected

/-- A lookup that ends at another place since a path was routed ends at a place
    that was not there before. -/
theorem heldHandler_of_selectedPlace_ne {calls : List (RoutingCall Handler)} {method path : SharedString}
    {handler : Option Handler} {uri : Uri}
    (hne : selectedPlace (calls ++ [RoutingCall.route method path handler]) uri ≠ selectedPlace calls uri) (method' : SharedString) :
    heldHandler calls method' (selectedPlace (calls ++ [RoutingCall.route method path handler]) uri) = none := by
  have hplaces : routedPlaces (calls ++ [RoutingCall.route method path handler]) = routedPlaces calls ++ [placeOf path] := by
    simp [routedPlaces]
  cases hselected : selectedPlace (calls ++ [RoutingCall.route method path handler]) uri with
  | none => rfl
  | some place =>
    rw [heldHandler, Option.bind_some]
    cases hheld : heldEntry calls method' place with
    | none => rfl
    | some held =>
      have hmem := mem_routedPlaces_of_heldEntry hheld
      rw [hselected] at hne
      refine absurd ?_ hne
      unfold selectedPlace at hselected ⊢
      split at hselected
      · obtain rfl := Option.some.inj hselected
        rw [if_pos hmem]
      · rename_i hnot
        rw [hplaces, List.mem_append, not_or] at hnot
        rw [if_neg hnot.1]
        obtain ⟨keys, hkeys, rfl⟩ := Option.map_eq_some_iff.mp hselected
        have hold : ∃ pattern ∈ routedPatterns calls, keys <+: pattern :=
          ⟨keys, (mem_routedPatterns calls keys).mpr hmem, List.prefix_refl keys⟩
        obtain hpatterns | ⟨new, hpatterns⟩ :
            routedPatterns (calls ++ [RoutingCall.route method path handler]) = routedPatterns calls ∨
            ∃ new, routedPatterns (calls ++ [RoutingCall.route method path handler]) = routedPatterns calls ++ [new] := by
          unfold routedPatterns
          rw [hplaces, List.filterMap_append]
          cases placeOf path with
          | fullPath _ => exact Or.inl (by simp)
          | node new => exact Or.inr ⟨new, by simp⟩
        · rw [hpatterns] at hkeys
          rw [hkeys, Option.map_some]
        · rw [hpatterns] at hkeys
          rw [selectPattern_of_concat hkeys hold, Option.map_some]

/-- After routing and removing a path, the table holds what it held before but
    for what the removal strikes. -/
theorem heldHandler_routeRemove (calls : List (RoutingCall Handler)) (method path : SharedString)
    (handler : Option Handler) (method' : SharedString) (place : Option RoutingPlace) :
    heldHandler (calls ++ [RoutingCall.route method path handler] ++ [RoutingCall.removeRoute method path]) method' place =
      if method' = method ∧
        (place = some (.fullPath path) ∨ place = some (.node (Uri.parse path).pathFragments)) then none
      else heldHandler calls method' place := by
  cases place with
  | none => simp [heldHandler]
  | some place =>
    have hstruck : place = placeOf path → place = .fullPath path ∨ place = .node (Uri.parse path).pathFragments := by
      rintro rfl
      unfold placeOf
      split
      · exact Or.inl rfl
      · exact Or.inr rfl
    simp only [heldHandler, Option.bind_some, heldEntry_append, RoutingCall.update, Option.some.injEq]
    split
    · rfl
    · rename_i hnot
      rw [if_neg fun h => hnot ⟨h.1, hstruck h.2⟩]

/-- Routing a path that has no handler and removing it again changes nothing for
    any request, exactly if it leaves no trace in what the lookups meet. -/
theorem undone_iff (calls : List (RoutingCall Handler)) (method path : SharedString) (handler : Option Handler)
    (hnone : (routingTable calls).handlerOf method path = none) :
    Undone (routingTable calls) method path handler ↔ LeavesNoTrace calls method path handler := by
  rw [handlerOf_eq] at hnone
  have htable : ((routingTable calls).route method path handler).removeRoute method path =
      routingTable (calls ++ [RoutingCall.route method path handler] ++ [RoutingCall.removeRoute method path]) := by
    rw [routingTable_append, routingTable_append]
    rfl
  have hplaces (uri : Uri) : selectedPlace (calls ++ [RoutingCall.route method path handler] ++ [RoutingCall.removeRoute method path]) uri =
      selectedPlace (calls ++ [RoutingCall.route method path handler]) uri := by
    simp [selectedPlace, routedPatterns, routedPlaces]
  unfold Undone LeavesNoTrace HttpServerRequestRoutingHandler.getRoutePath
  simp only [htable, getRoute_eq, hplaces, heldHandler_routeRemove]
  constructor
  · intro hundone request
    have hmoved : selectedPlace (calls ++ [RoutingCall.route method path handler]) (Uri.parse request) =
        selectedPlace calls (Uri.parse request) ∨
          ∀ method', heldHandler calls method' (selectedPlace calls (Uri.parse request)) = none := by
      by_cases hsame : selectedPlace (calls ++ [RoutingCall.route method path handler]) (Uri.parse request) =
          selectedPlace calls (Uri.parse request)
      · exact Or.inl hsame
      · refine Or.inr fun method' => ?_
        rw [← hundone method' request, heldHandler_of_selectedPlace_ne hsame, ite_self]
    refine ⟨hmoved, fun hnode => ?_⟩
    obtain hsame | hempty := hmoved
    · have hstruck := hundone method request
      rw [hsame, if_pos ⟨rfl, Or.inr hnode⟩] at hstruck
      exact hstruck.symm
    · exact hempty method
  · intro htrace method' request
    obtain ⟨hmoved, hnode⟩ := htrace request
    by_cases hsame : selectedPlace (calls ++ [RoutingCall.route method path handler]) (Uri.parse request) =
        selectedPlace calls (Uri.parse request)
    · rw [hsame]
      split
      · rename_i hstruck
        obtain ⟨rfl, hfull | hfragments⟩ := hstruck
        · -- a full path is struck where it was routed, and no other path is filed under it
          rw [hfull]
          cases hheld : heldEntry calls method' (.fullPath path) with
          | none => simp [heldHandler, hheld]
          | some held =>
            have hisFull := isFullPath_of_mem_routedPlaces (mem_routedPlaces_of_heldEntry hheld)
            rw [← hnone, placeOf, if_pos hisFull]
        · exact (hnode hfragments).symm
      · rfl
    · rw [heldHandler_of_selectedPlace_ne hsame, ite_self, hmoved.resolve_left hsame]

def wildcardOnly : List (RoutingCall Nat) := [.route constants.GET (text "/a/*") (some 0)]

def postOnly : List (RoutingCall Nat) := [.route constants.POST (text "/a/b") (some 0)]

/-- Where the path was routed before, for another method, nothing is left behind. -/
theorem undone_iff_postOnly : Undone (routingTable postOnly) constants.GET (text "/a/b") (some 1) := by
  apply (undone_iff postOnly constants.GET (text "/a/b") (some 1) (by decide +kernel)).mpr
  have hbefore : routedPlaces postOnly = [.fullPath (text "/a/b")] := by decide +kernel
  have hafter : routedPlaces (postOnly ++ [RoutingCall.route constants.GET (text "/a/b") (some 1)]) =
      [.fullPath (text "/a/b"), .fullPath (text "/a/b")] := by decide +kernel
  intro request
  refine ⟨Or.inl (by simp [selectedPlace, routedPatterns, hbefore, hafter]), fun hnode => ?_⟩
  have hmethod : constants.GET ≠ constants.POST := by decide
  rw [hnode]
  simp [heldHandler, heldEntry, postOnly, RoutingCall.update, hmethod]

/-- The full path that was removed hides the pattern that matched it before. -/
theorem wildcardOnly_not_undone : ¬ ∀ (calls : List (RoutingCall Nat)) (method path : SharedString)
    (handler : Option Nat), (routingTable calls).handlerOf method path = none →
    Undone (routingTable calls) method path handler := by
  intro hclaim
  have hundone := hclaim wildcardOnly constants.GET (text "/a/b") (some 1) (by decide +kernel)
    constants.GET (text "/a/b")
  revert hundone
  decide +kernel

end cpv
