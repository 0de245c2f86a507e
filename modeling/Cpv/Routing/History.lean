import Mathlib.Data.List.Induction
import Cpv.Routing.Match

namespace cpv

variable {Handler : Type}

/-- Where a table files a path: under the full path, or at the node of the
    pattern's fragments. -/
inductive RoutingPlace where
  | fullPath (path : SharedString)
  | node (pathFragments : List SharedString)
  deriving DecidableEq

/-- The place that `route` files a path at. -/
def placeOf (path : SharedString) : RoutingPlace :=
  if isFullPath path then .fullPath path else .node (Uri.parse path).pathFragments

/-- What a map holds for a method after `set`: GET and POST are written again,
    any other method keeps what it has. -/
def setEntry (method : SharedString) (held : Option (Option Handler)) (handler : Option Handler) :
    Option (Option Handler) :=
  if method = constants.GET ∨ method = constants.POST then some handler else some (held.getD handler)

/-- What a call makes of the entry of a method at a place. A removal strikes
    both the full path and the node of the path's fragments. -/
def RoutingCall.update (method : SharedString) (place : RoutingPlace) (held : Option (Option Handler)) :
    RoutingCall Handler → Option (Option Handler)
  | route method' path handler =>
    if method = method' ∧ place = placeOf path then setEntry method held handler else held
  | removeRoute method' path =>
    if method = method' ∧ (place = .fullPath path ∨ place = .node (Uri.parse path).pathFragments) then none
    else held

/-- The entry that a sequence of calls leaves for a method at a place. -/
def heldEntry (calls : List (RoutingCall Handler)) (method : SharedString) (place : RoutingPlace) :
    Option (Option Handler) :=
  calls.foldl (RoutingCall.update method place) none

/-- The places that were ever routed to. They stay when their handlers are removed. -/
def routedPlaces (calls : List (RoutingCall Handler)) : List RoutingPlace :=
  calls.filterMap fun
    | .route _ path _ => some (placeOf path)
    | .removeRoute _ _ => none

def routedPatterns (calls : List (RoutingCall Handler)) : List (List SharedString) :=
  (routedPlaces calls).filterMap fun
    | .node pathFragments => some pathFragments
    | .fullPath _ => none

/-- The one place where the lookup of a request ends: its full path, if that was
    ever routed, else the pattern that its fragments select. -/
def selectedPlace (calls : List (RoutingCall Handler)) (uri : Uri) : Option RoutingPlace :=
  if .fullPath uri.path ∈ routedPlaces calls then some (.fullPath uri.path)
  else (selectPattern (routedPatterns calls) [] uri.pathFragments).map .node

/-- The handler for a method at the place where a lookup ends. -/
def heldHandler (calls : List (RoutingCall Handler)) (method : SharedString) (place : Option RoutingPlace) :
    Option Handler :=
  place.bind fun place => (heldEntry calls method place).join

/-- A handler map holds these entries. Of GET and POST only the handler counts. -/
structure MapHolds (map : HttpServerRequestRoutingHandlerMap Handler)
    (held : SharedString → Option (Option Handler)) : Prop where
  get : ∀ method, map.get method = (held method).join
  lookup : ∀ method, method ≠ constants.GET → method ≠ constants.POST → map.handlers.lookup method = held method

namespace MapHolds

variable {map : HttpServerRequestRoutingHandlerMap Handler} {held : SharedString → Option (Option Handler)}

theorem congr {held' : SharedString → Option (Option Handler)} (hmap : MapHolds map held)
    (hheld : ∀ method, held method = held' method) : MapHolds map held' :=
  funext hheld ▸ hmap

theorem empty : MapHolds ({} : HttpServerRequestRoutingHandlerMap Handler) fun _ => none where
  get := HttpServerRequestRoutingHandlerMap.get_empty
  lookup _ _ _ := rfl

theorem set (hmap : MapHolds map held) (method : SharedString) (handler : Option Handler) :
    MapHolds (map.set method handler) fun other =>
      if other = method then setEntry other (held other) handler else held other where
  get other := by
    rw [HttpServerRequestRoutingHandlerMap.get_set]
    by_cases hother : other = method
    · subst hother
      simp only [true_and, if_true, setEntry]
      by_cases hfixed : other = constants.GET ∨ other = constants.POST
      · rw [if_pos hfixed, if_pos (by tauto)]
        rfl
      · obtain ⟨hget, hpost⟩ := not_or.mp hfixed
        have hlookup := hmap.lookup other hget hpost
        have hmem : other ∈ map.handlers ↔ (held other).isSome := by rw [← hlookup, AList.lookup_isSome]
        simp only [hget, hpost, false_or, hmem, hmap.get]
        cases held other <;> rfl
    · rw [if_neg hother, if_neg fun h => hother h.1, hmap.get]
  lookup other hget hpost := by
    have hmem : other ∈ map.handlers ↔ (held other).isSome := by
      rw [← hmap.lookup other hget hpost, AList.lookup_isSome]
    rw [HttpServerRequestRoutingHandlerMap.lookup_set, hmap.lookup other hget hpost]
    by_cases hother : other = method
    · subst hother
      simp only [true_and, if_true, setEntry, hmem]
      cases held other <;> simp [hget, hpost]
    · rw [if_neg hother, if_neg fun h => hother h.1]

theorem remove (hmap : MapHolds map held) (method : SharedString) :
    MapHolds (map.remove method) fun other => if other = method then none else held other where
  get other := by
    rw [HttpServerRequestRoutingHandlerMap.get_remove, hmap.get]
    split <;> rfl
  lookup other hget hpost := by
    by_cases hother : other = method
    · subst hother
      rw [if_pos rfl]
      exact AList.lookup_erase _ _
    · rw [if_neg hother, ← hmap.lookup other hget hpost]
      exact AList.lookup_erase_ne hother

end MapHolds

/-- A table holds what a sequence of calls leaves. -/
structure Reflects (table : HttpServerRequestRoutingHandler Handler) (calls : List (RoutingCall Handler)) : Prop where
  fullPath_isSome : ∀ path, (table.fullPathRoutingMap.lookup path).isSome ↔ .fullPath path ∈ routedPlaces calls
  fullPath : ∀ path, MapHolds ((table.fullPathRoutingMap.lookup path).getD {}) fun method =>
    heldEntry calls method (.fullPath path)
  node_isSome : ∀ keys, keys ≠ [] → ((table.wildcardRoutingTree.valueAt keys).isSome ↔
    ∃ pattern ∈ routedPatterns calls, keys <+: pattern)
  node : ∀ keys, MapHolds ((table.wildcardRoutingTree.valueAt keys).getD {}) fun method =>
    heldEntry calls method (.node keys)

theorem heldEntry_append (calls : List (RoutingCall Handler)) (call : RoutingCall Handler) (method : SharedString)
    (place : RoutingPlace) :
    heldEntry (calls ++ [call]) method place = call.update method place (heldEntry calls method place) := by
  simp [heldEntry]

theorem mem_routedPatterns (calls : List (RoutingCall Handler)) (pathFragments : List SharedString) :
    pathFragments ∈ routedPatterns calls ↔ .node pathFragments ∈ routedPlaces calls := by
  unfold routedPatterns
  rw [List.mem_filterMap]
  constructor
  · rintro ⟨_ | keys, hplace, hkeys⟩
    · cases hkeys
    · obtain rfl := Option.some.inj hkeys
      exact hplace
  · exact fun hplace => ⟨_, hplace, rfl⟩

theorem placeOf_eq_fullPath {path other : SharedString} :
    placeOf path = .fullPath other ↔ isFullPath path = true ∧ path = other := by
  unfold placeOf
  split <;> simp_all

theorem placeOf_eq_node {path : SharedString} {keys : List SharedString} :
    placeOf path = .node keys ↔ isFullPath path = false ∧ (Uri.parse path).pathFragments = keys := by
  unfold placeOf
  split <;> simp_all

namespace Reflects

variable {table : HttpServerRequestRoutingHandler Handler} {calls : List (RoutingCall Handler)}

theorem empty : Reflects ({} : HttpServerRequestRoutingHandler Handler) [] where
  fullPath_isSome path := by simp [routedPlaces]
  fullPath path := MapHolds.empty
  node_isSome keys hkeys := by simp [Trie.valueAt_leaf, hkeys, routedPatterns, routedPlaces]
  node keys := by
    rw [Trie.valueAt_leaf]
    split <;> exact MapHolds.empty

theorem route (htable : Reflects table calls) (method path : SharedString) (handler : Option Handler) :
    Reflects (table.route method path handler) (calls ++ [RoutingCall.route method path handler]) := by
  have hplaces : routedPlaces (calls ++ [RoutingCall.route method path handler]) = routedPlaces calls ++ [placeOf path] := by
    simp [routedPlaces]
  have hset {map : HttpServerRequestRoutingHandlerMap Handler} {place : RoutingPlace} (hplace : place = placeOf path)
      (hmap : MapHolds map fun method => heldEntry calls method place) :
      MapHolds (map.set method handler) fun method' =>
        heldEntry (calls ++ [RoutingCall.route method path handler]) method' place :=
    (hmap.set method handler).congr fun other => by simp [heldEntry_append, RoutingCall.update, hplace]
  have hkeep {map : HttpServerRequestRoutingHandlerMap Handler} {place : RoutingPlace} (hplace : place ≠ placeOf path)
      (hmap : MapHolds map fun method => heldEntry calls method place) :
      MapHolds map fun method' => heldEntry (calls ++ [RoutingCall.route method path handler]) method' place :=
    hmap.congr fun other => by simp [heldEntry_append, RoutingCall.update, hplace]
  rw [HttpServerRequestRoutingHandler.route_eq]
  cases hfull : isFullPath path with
  | true =>
    have hplace : placeOf path = .fullPath path := placeOf_eq_fullPath.mpr ⟨hfull, rfl⟩
    refine ⟨fun other => ?_, fun other => ?_, fun keys hkeys => ?_, fun keys => ?_⟩
    · rw [if_pos rfl, HttpServerRequestRoutingHandler.routeFullPath_lookup, hplaces, hplace]
      have hold := htable.fullPath_isSome other
      by_cases hother : other = path
      · simp [hother]
      · simpa [hother] using hold
    · rw [if_pos rfl, HttpServerRequestRoutingHandler.routeFullPath_lookup]
      by_cases hother : other = path
      · rw [if_pos hother, hother]
        exact hset hplace.symm (htable.fullPath path)
      · rw [if_neg hother]
        exact hkeep (by simp [hplace, hother]) (htable.fullPath other)
    · simpa [mem_routedPatterns, hplaces, hplace, HttpServerRequestRoutingHandler.routeFullPath] using
        htable.node_isSome keys hkeys
    · exact hkeep (by simp [hplace]) (htable.node keys)
  | false =>
    have hplace : placeOf path = .node (Uri.parse path).pathFragments := placeOf_eq_node.mpr ⟨hfull, rfl⟩
    rw [if_neg Bool.false_ne_true]
    refine ⟨fun other => ?_, fun other => ?_, fun keys hkeys => ?_, fun keys => ?_⟩
    · simpa [hplaces, hplace] using htable.fullPath_isSome other
    · exact hkeep (by simp [hplace]) (htable.fullPath other)
    · rw [Trie.valueAt_alter]
      have hold := htable.node_isSome keys hkeys
      have hpatterns (pattern : List SharedString) : pattern ∈ routedPatterns (calls ++ [RoutingCall.route method path handler]) ↔
          pattern ∈ routedPatterns calls ∨ pattern = (Uri.parse path).pathFragments := by
        simp [mem_routedPatterns, hplaces, hplace]
      simp only [hpatterns]
      grind
    · rw [Trie.valueAt_alter]
      have hold := htable.node keys
      split
      · rename_i hkeys
        rw [hkeys] at hold ⊢
        exact hset hplace.symm hold
      · rename_i hkeys
        have hskip := hkeep (by simp [hplace, hkeys]) hold
        split <;> exact hskip

theorem removeRoute (htable : Reflects table calls) (method path : SharedString) :
    Reflects (table.removeRoute method path) (calls ++ [RoutingCall.removeRoute method path]) := by
  have hplaces : routedPlaces (calls ++ [RoutingCall.removeRoute method path]) = routedPlaces calls := by simp [routedPlaces]
  have hpatterns : routedPatterns (calls ++ [RoutingCall.removeRoute method path]) = routedPatterns calls := by
    rw [routedPatterns, hplaces, routedPatterns]
  have hremove {map : HttpServerRequestRoutingHandlerMap Handler} {place : RoutingPlace}
      (hplace : place = .fullPath path ∨ place = .node (Uri.parse path).pathFragments)
      (hmap : MapHolds map fun method => heldEntry calls method place) :
      MapHolds (map.remove method) fun method' => heldEntry (calls ++ [RoutingCall.removeRoute method path]) method' place :=
    (hmap.remove method).congr fun other => by simp [heldEntry_append, RoutingCall.update, hplace]
  have hkeep {map : HttpServerRequestRoutingHandlerMap Handler} {place : RoutingPlace}
      (hplace : ¬ (place = .fullPath path ∨ place = .node (Uri.parse path).pathFragments))
      (hmap : MapHolds map fun method => heldEntry calls method place) :
      MapHolds map fun method' => heldEntry (calls ++ [RoutingCall.removeRoute method path]) method' place :=
    hmap.congr fun other => by simp only [heldEntry_append, RoutingCall.update, hplace, and_false, if_false]
  have hempty : ({} : HttpServerRequestRoutingHandlerMap Handler).remove method = {} := by
    simp only [HttpServerRequestRoutingHandlerMap.remove, ite_self]
    rfl
  have hlookup (other : SharedString) : (table.removeRoute method path).fullPathRoutingMap.lookup other =
      if other = path then (table.fullPathRoutingMap.lookup other).map (·.remove method)
      else table.fullPathRoutingMap.lookup other := by
    simp only [HttpServerRequestRoutingHandler.removeRoute]
    cases hpath : table.fullPathRoutingMap.lookup path with
    | none => grind
    | some map =>
      by_cases hother : other = path
      · rw [hother, AList.lookup_insert, if_pos rfl, hpath, Option.map_some]
      · rw [AList.lookup_insert_ne hother, if_neg hother]
  refine ⟨fun other => ?_, fun other => ?_, fun keys hkeys => ?_, fun keys => ?_⟩
  · rw [hlookup, hplaces, ← htable.fullPath_isSome]
    split <;> simp
  · rw [hlookup]
    have hold := htable.fullPath other
    split
    · rename_i hother
      have hmap := hremove (Or.inl (by rw [hother])) hold
      cases hentry : table.fullPathRoutingMap.lookup other with
      | none => simpa [hentry, hempty] using hmap
      | some map => simpa [hentry] using hmap
    · rename_i hother
      exact hkeep (by simp [hother]) hold
  · rw [hpatterns, ← htable.node_isSome keys hkeys, HttpServerRequestRoutingHandler.removeRoute, Trie.valueAt_adjust]
    split <;> simp
  · rw [HttpServerRequestRoutingHandler.removeRoute, Trie.valueAt_adjust]
    have hold := htable.node keys
    split
    · rename_i hkeys
      have hmap := hremove (Or.inr (by rw [hkeys])) hold
      cases hentry : table.wildcardRoutingTree.valueAt keys with
      | none => simpa [hentry, hempty] using hmap
      | some map => simpa [hentry] using hmap
    · rename_i hkeys
      exact hkeep (by simp [hkeys]) hold

end Reflects

theorem routingTable_append (calls : List (RoutingCall Handler)) (call : RoutingCall Handler) :
    routingTable (calls ++ [call]) = call.apply (routingTable calls) := by
  simp [routingTable]

theorem routingTable_reflects (calls : List (RoutingCall Handler)) : Reflects (routingTable calls) calls := by
  induction calls using List.reverseRecOn with
  | nil => exact Reflects.empty
  | append_singleton calls call ih =>
    rw [routingTable_append]
    cases call with
    | route method path handler => exact ih.route method path handler
    | removeRoute method path => exact ih.removeRoute method path

/-- A lookup finds what the calls have left for the method at the one place
    where it ends. -/
theorem getRoute_eq (calls : List (RoutingCall Handler)) (method : SharedString) (uri : Uri) :
    (routingTable calls).getRoute method uri = heldHandler calls method (selectedPlace calls uri) := by
  have htable := routingTable_reflects calls
  rw [HttpServerRequestRoutingHandler.getRoute, selectedPlace]
  cases hmap : (routingTable calls).fullPathRoutingMap.lookup uri.path with
  | some map =>
    have hsome := htable.fullPath_isSome uri.path
    have hget := (htable.fullPath uri.path).get method
    rw [hmap] at hsome hget
    rw [if_pos (hsome.mp rfl)]
    exact hget
  | none =>
    have hnone := htable.fullPath_isSome uri.path
    have hnodes (keys : List SharedString) (hkeys : keys ≠ []) := htable.node_isSome keys hkeys
    simp only [← Trie.isSome_find] at hnodes
    rw [hmap] at hnone
    rw [if_neg fun hmem => by cases hnone.mpr hmem]
    rw [findForRoute_eq hnodes (show (routingTable calls).wildcardRoutingTree.find [] = some _ from rfl)]
    cases selectPattern (routedPatterns calls) [] uri.pathFragments with
    | none => rfl
    | some selected =>
      have hget := (htable.node selected).get method
      rw [Option.bind_some, Option.map_some, heldHandler, Option.bind_some, ← hget, Trie.valueAt]
      cases (routingTable calls).wildcardRoutingTree.find selected with
      | none => exact (HttpServerRequestRoutingHandlerMap.get_empty method).symm
      | some node => rfl

end cpv
