import Mathlib.Data.List.Induction
import Cpv.Routing.Table

namespace cpv

variable {Handler : Type}

namespace HttpServerRequestRoutingHandler

/-- What the fast path of `handle` relies on for a method and a raw url. The
    handler it finds under the url itself must not be hidden by a null handler
    set later; and where the url decodes to another path, the table must have
    the same handler for that path, in its full path entry if there is one,
    else in the node that its fragments lead to. -/
def FastPathAgrees (table : HttpServerRequestRoutingHandler Handler) (method url : SharedString) :
    Prop :=
  ∀ handler, (table.fullPathRoutingMap.lookup url).bind (·.getFast method) = some handler →
    let uri := Uri.parse url
    if uri.path = url then ((table.fullPathRoutingMap.lookup url).bind (·.get method)).isSome
    else match table.fullPathRoutingMap.lookup uri.path with
      | some map => map.get method = some handler
      | none => ∃ node, HttpServerRequestRoutingNode.findForRoute table.wildcardRoutingTree
          uri.pathFragments = some node ∧ node.value.get method = some handler

theorem getRoute_of_fullPath {table : HttpServerRequestRoutingHandler Handler} {uri : Uri}
    {map : HttpServerRequestRoutingHandlerMap Handler}
    (hmap : table.fullPathRoutingMap.lookup uri.path = some map) (method : SharedString) :
    table.getRoute method uri = map.get method := by
  rw [getRoute, hmap]

theorem getRoute_of_not_fullPath {table : HttpServerRequestRoutingHandler Handler} {uri : Uri}
    (hmap : table.fullPathRoutingMap.lookup uri.path = none) (method : SharedString)
    (handler : Handler) :
    table.getRoute method uri = some handler ↔
      ∃ node, HttpServerRequestRoutingNode.findForRoute table.wildcardRoutingTree uri.pathFragments =
        some node ∧ node.value.get method = some handler := by
  rw [getRoute, hmap]
  cases HttpServerRequestRoutingNode.findForRoute table.wildcardRoutingTree uri.pathFragments <;> simp

/-- The handler the fast path finds is the one `getRoute` returns exactly when
    the table agrees about the raw url. -/
theorem handle_eq_iff (table : HttpServerRequestRoutingHandler Handler) (request : HttpRequest) :
    table.handle request = table.getRoutePath request.method request.url ↔
      table.FastPathAgrees request.method request.url := by
  unfold handle getRoutePath FastPathAgrees
  cases hfast : (table.fullPathRoutingMap.lookup request.url).bind (·.getFast request.method) with
  | none => simp
  | some handler =>
    simp only [Option.some.injEq, forall_eq']
    rw [eq_comm]
    split
    · rename_i hpath
      obtain ⟨map, hmap, hfast⟩ := Option.bind_eq_some_iff.mp hfast
      rw [getRoute_of_fullPath (by rw [hpath]; exact hmap), hmap, Option.bind_some]
      constructor
      · intro hget
        rw [hget]
        rfl
      · intro hsome
        rw [HttpServerRequestRoutingHandlerMap.getFast_eq, Option.or_of_isSome hsome] at hfast
        exact hfast
    · split
      · rename_i map hmap
        rw [getRoute_of_fullPath hmap]
      · rename_i hmap
        exact getRoute_of_not_fullPath hmap request.method handler

end HttpServerRequestRoutingHandler

/-- `handle` passes every request to the handler that `getRoute` returns, and to
    the next handler when it returns none, exactly where the fast path agrees. -/
theorem handle_eq_getRoute_iff (calls : List (RoutingCall Handler)) (request : HttpRequest) :
    (routingTable calls).handle request =
        (routingTable calls).getRoutePath request.method request.url ↔
      (routingTable calls).FastPathAgrees request.method request.url :=
  (routingTable calls).handle_eq_iff request

def escapedRoute : List (RoutingCall Nat) := [.route constants.GET (text "/a%20b") (some 0)]

def escapedRequest : HttpRequest := { method := constants.GET, url := text "/a%20b" }

theorem handle_ne_getRoute_escaped :
    (routingTable escapedRoute).handle escapedRequest ≠
      (routingTable escapedRoute).getRoutePath escapedRequest.method escapedRequest.url := by
  decide +kernel

namespace HttpServerRequestRoutingHandlerMap

/-- No handler of the map is hidden by a null pointer set for its method. -/
def NoneHidden (map : HttpServerRequestRoutingHandlerMap Handler) : Prop :=
  ∀ method, (map.handlers.lookup method).join.isSome → (map.get method).isSome

theorem NoneHidden.empty : ({} : HttpServerRequestRoutingHandlerMap Handler).NoneHidden := by
  intro method hhandler
  cases hhandler

theorem NoneHidden.set {map : HttpServerRequestRoutingHandlerMap Handler} (hmap : map.NoneHidden)
    (method : SharedString) (handler : Handler) : (map.set method (some handler)).NoneHidden := by
  intro other hhandler
  rw [lookup_set] at hhandler
  rw [get_set]
  have hother := hmap other
  grind

theorem NoneHidden.remove {map : HttpServerRequestRoutingHandlerMap Handler} (hmap : map.NoneHidden)
    (method : SharedString) : (map.remove method).NoneHidden := by
  intro other hhandler
  by_cases hother : other = method
  · subst hother
    rw [HttpServerRequestRoutingHandlerMap.remove, AList.lookup_erase] at hhandler
    cases hhandler
  · rw [get_remove, if_neg hother]
    rw [HttpServerRequestRoutingHandlerMap.remove, AList.lookup_erase_ne hother] at hhandler
    exact hmap other hhandler

end HttpServerRequestRoutingHandlerMap

/-- The call registers no null handler. -/
def RoutingCall.NotNull : RoutingCall Handler → Prop
  | route _ _ handler => handler.isSome
  | removeRoute _ _ => True

/-- Without null handlers, nothing in the full path map is hidden. -/
theorem routingTable_noneHidden (calls : List (RoutingCall Handler)) (hcalls : ∀ call ∈ calls, call.NotNull) :
    ∀ path map, (routingTable calls).fullPathRoutingMap.lookup path = some map → map.NoneHidden := by
  induction calls using List.reverseRecOn with
  | nil =>
    intro path map hmap
    cases hmap
  | append_singleton calls call ih =>
    have ih := ih fun other hother => hcalls other (List.mem_append_left _ hother)
    have hcall := hcalls call (List.mem_append_right _ List.mem_cons_self)
    intro path map hmap
    rw [routingTable, List.foldl_append] at hmap
    change (RoutingCall.apply (routingTable calls) call).fullPathRoutingMap.lookup path = some map at hmap
    cases call with
    | route method pattern handler =>
      obtain ⟨handler, rfl⟩ := Option.isSome_iff_exists.mp hcall
      rw [RoutingCall.apply, HttpServerRequestRoutingHandler.route_eq] at hmap
      split at hmap
      · rw [HttpServerRequestRoutingHandler.routeFullPath_lookup] at hmap
        split at hmap
        · obtain rfl := Option.some.inj hmap
          cases hold : (routingTable calls).fullPathRoutingMap.lookup pattern with
          | none => exact HttpServerRequestRoutingHandlerMap.NoneHidden.empty.set method handler
          | some old => exact (ih pattern old hold).set method handler
        · exact ih path map hmap
      · exact ih path map hmap
    | removeRoute method pattern =>
      simp only [RoutingCall.apply, HttpServerRequestRoutingHandler.removeRoute] at hmap
      split at hmap
      · rename_i old hold
        by_cases hpath : path = pattern
        · rw [hpath, AList.lookup_insert] at hmap
          obtain rfl := Option.some.inj hmap
          exact (ih pattern old hold).remove method
        · rw [AList.lookup_insert_ne hpath] at hmap
          exact ih path map hmap
      · exact ih path map hmap

/-- For urls that are their own decoded path, and without null handlers, the
    fast path is only faster. -/
theorem handle_eq_getRoute_of_plain (calls : List (RoutingCall Handler))
    (hcalls : ∀ call ∈ calls, call.NotNull) (request : HttpRequest)
    (hplain : (Uri.parse request.url).path = request.url) :
    (routingTable calls).handle request =
      (routingTable calls).getRoutePath request.method request.url := by
  rw [HttpServerRequestRoutingHandler.handle_eq_iff]
  intro handler hfast
  rw [if_pos hplain]
  obtain ⟨map, hmap, hfast⟩ := Option.bind_eq_some_iff.mp hfast
  rw [hmap, Option.bind_some]
  rw [HttpServerRequestRoutingHandlerMap.getFast_eq] at hfast
  cases hget : map.get request.method with
  | some handler => rfl
  | none =>
    rw [hget, Option.none_or] at hfast
    have hsome := routingTable_noneHidden calls hcalls _ map hmap request.method (by rw [hfast]; rfl)
    rw [hget] at hsome
    exact hsome

end cpv
