import Cpv.Core.Trie
import Cpv.Http.Context
import Cpv.Utility.Uri

namespace cpv

variable {Handler : Type}

/-- Handler map associated with a single routing node. Handlers are pointers,
    `none` is the null pointer. -/
structure HttpServerRequestRoutingHandlerMap (Handler : Type) where
  getHandler : Option Handler := none
  postHandler : Option Handler := none
  handlers : StringMap (Option Handler) := ∅

namespace HttpServerRequestRoutingHandlerMap

/-- Get handler associated with given method, return nullptr for not exists -/
def get (map : HttpServerRequestRoutingHandlerMap Handler) (method : SharedString) : Option Handler :=
  if method = constants.GET then map.getHandler
  else if method = constants.POST then map.postHandler
  else (map.handlers.lookup method).join

/-- Associate handler with given method. A method that is in the table of
    handlers already keeps the handler it has there. -/
def set (map : HttpServerRequestRoutingHandlerMap Handler) (method : SharedString)
    (handler : Option Handler) : HttpServerRequestRoutingHandlerMap Handler where
  getHandler := if method = constants.GET then handler else map.getHandler
  postHandler := if method = constants.POST then handler else map.postHandler
  handlers := if method ∈ map.handlers then map.handlers else map.handlers.insert method handler

/-- Remove handler associated with given method -/
def remove (map : HttpServerRequestRoutingHandlerMap Handler) (method : SharedString) :
    HttpServerRequestRoutingHandlerMap Handler where
  getHandler := if method = constants.GET then none else map.getHandler
  postHandler := if method = constants.POST then none else map.postHandler
  handlers := map.handlers.erase method

/-- The handler `HttpServerRequestRoutingHandler::handle` takes from a map on
    its fast path. -/
def getFast (map : HttpServerRequestRoutingHandlerMap Handler) (method : SharedString) :
    Option Handler :=
  if method = constants.GET ∧ map.getHandler.isSome then map.getHandler
  else if method = constants.POST ∧ map.postHandler.isSome then map.postHandler
  else (map.handlers.lookup method).join

theorem get_empty (method : SharedString) :
    ({} : HttpServerRequestRoutingHandlerMap Handler).get method = none := by
  simp [get]

theorem POST_ne_GET : constants.POST ≠ constants.GET := by decide

/-- The fast path falls back to the table of handlers where `get` does not. -/
theorem getFast_eq (map : HttpServerRequestRoutingHandlerMap Handler) (method : SharedString) :
    map.getFast method = (map.get method).or (map.handlers.lookup method).join := by
  have hne := POST_ne_GET
  unfold getFast get
  by_cases hget : method = constants.GET
  · subst hget
    cases map.getHandler <;> simp [hne.symm]
  · by_cases hpost : method = constants.POST
    · subst hpost
      cases map.postHandler <;> simp [hne]
    · simp [hget, hpost]

theorem lookup_set (map : HttpServerRequestRoutingHandlerMap Handler) (method : SharedString)
    (handler : Option Handler) (other : SharedString) :
    (map.set method handler).handlers.lookup other =
      if other = method ∧ method ∉ map.handlers then some handler else map.handlers.lookup other := by
  simp only [set]
  split
  · rename_i hmem
    rw [if_neg fun h => h.2 hmem]
  · rename_i hmem
    by_cases hother : other = method
    · rw [hother, AList.lookup_insert, if_pos ⟨rfl, hmem⟩]
    · rw [AList.lookup_insert_ne hother, if_neg fun h => hother h.1]

theorem get_set (map : HttpServerRequestRoutingHandlerMap Handler) (method : SharedString)
    (handler : Option Handler) (other : SharedString) :
    (map.set method handler).get other =
      if other = method ∧ (method = constants.GET ∨ method = constants.POST ∨ method ∉ map.handlers)
      then handler else map.get other := by
  have hne := POST_ne_GET
  have hget : (map.set method handler).getHandler =
    if method = constants.GET then handler else map.getHandler := rfl
  have hpost : (map.set method handler).postHandler =
    if method = constants.POST then handler else map.postHandler := rfl
  unfold get
  rw [hget, hpost, lookup_set]
  grind

theorem get_remove (map : HttpServerRequestRoutingHandlerMap Handler) (method other : SharedString) :
    (map.remove method).get other = if other = method then none else map.get other := by
  unfold get remove
  by_cases hother : other = method
  · subst hother
    simp only [AList.lookup_erase, if_true]
    grind
  · rw [AList.lookup_erase_ne hother, if_neg hother]
    grind

end HttpServerRequestRoutingHandlerMap

/-- A single path fragment in the routing tree: its handler map and its childs
    by path fragment. -/
abbrev HttpServerRequestRoutingNode (Handler : Type) :=
  Trie SharedString (HttpServerRequestRoutingHandlerMap Handler)

/-- Find child node for given path fragments for route, return nullptr if not found -/
def HttpServerRequestRoutingNode.findForRoute (node : HttpServerRequestRoutingNode Handler) :
    List SharedString → Option (HttpServerRequestRoutingNode Handler)
  | [] => some node
  | pathFragment :: pathFragments =>
    match node.childs pathFragment with
    | some child => findForRoute child pathFragments
    | none =>
      match node.childs (text "**") with
      | some child => some child
      | none =>
        match node.childs (text "*") with
        | some child => findForRoute child pathFragments
        | none => none

/-- Request handler that use sub handler associated with request path to handle
    request: its routing table. -/
structure HttpServerRequestRoutingHandler (Handler : Type) where
  fullPathRoutingMap : StringMap (HttpServerRequestRoutingHandlerMap Handler) := ∅
  wildcardRoutingTree : HttpServerRequestRoutingNode Handler := Trie.leaf {}

def containsWildcard (pathFragments : List SharedString) : Bool :=
  pathFragments.any fun f => f == text "*" || f == text "**"

/-- Whether `route` files a path under full paths. -/
def isFullPath (path : SharedString) : Bool :=
  !path.contains (byte '*') || !containsWildcard (Uri.parse path).pathFragments

namespace HttpServerRequestRoutingHandler

/-- Associate handler with a full path -/
def routeFullPath (table : HttpServerRequestRoutingHandler Handler) (method path : SharedString)
    (handler : Option Handler) : HttpServerRequestRoutingHandler Handler :=
  let map := (table.fullPathRoutingMap.lookup path).getD {}
  { table with fullPathRoutingMap := table.fullPathRoutingMap.insert path (map.set method handler) }

/-- Associate handler with given method and path -/
def route (table : HttpServerRequestRoutingHandler Handler) (method path : SharedString)
    (handler : Option Handler) : HttpServerRequestRoutingHandler Handler :=
  if !path.contains (byte '*') then table.routeFullPath method path handler
  else
    let pathFragments := (Uri.parse path).pathFragments
    -- path contains * but not as a path fragment is a full path
    if !containsWildcard pathFragments then table.routeFullPath method path handler
    else { table with
      wildcardRoutingTree := table.wildcardRoutingTree.alter {} (·.set method handler) pathFragments }

/-- Remove associated handler with given method and path -/
def removeRoute (table : HttpServerRequestRoutingHandler Handler) (method path : SharedString) :
    HttpServerRequestRoutingHandler Handler where
  fullPathRoutingMap :=
    match table.fullPathRoutingMap.lookup path with
    | some map => table.fullPathRoutingMap.insert path (map.remove method)
    | none => table.fullPathRoutingMap
  wildcardRoutingTree :=
    table.wildcardRoutingTree.adjust (·.remove method) (Uri.parse path).pathFragments

/-- Get associated handler with given method and uri, return nullptr if not found -/
def getRoute (table : HttpServerRequestRoutingHandler Handler) (method : SharedString) (uri : Uri) :
    Option Handler :=
  match table.fullPathRoutingMap.lookup uri.path with
  | some map => map.get method
  | none =>
    match HttpServerRequestRoutingNode.findForRoute table.wildcardRoutingTree uri.pathFragments with
    | some node => node.value.get method
    | none => none

/-- Get associated handler with given method and path, return nullptr if not found -/
def getRoutePath (table : HttpServerRequestRoutingHandler Handler) (method path : SharedString) :
    Option Handler :=
  table.getRoute method (Uri.parse path)

/-- The handler that `handle` passes a request to, `none` for the next handler. -/
def handle (table : HttpServerRequestRoutingHandler Handler) (request : HttpRequest) :
    Option Handler :=
  -- optimize for fast path
  match (table.fullPathRoutingMap.lookup request.url).bind (·.getFast request.method) with
  | some handler => some handler
  | none => table.getRoute request.method (Uri.parse request.url)

theorem route_eq (table : HttpServerRequestRoutingHandler Handler) (method path : SharedString)
    (handler : Option Handler) :
    table.route method path handler =
      if isFullPath path then table.routeFullPath method path handler
      else { table with
        wildcardRoutingTree := table.wildcardRoutingTree.alter {} (·.set method handler)
          (Uri.parse path).pathFragments } := by
  by_cases hstar : path.contains (byte '*') = true
  · by_cases hwildcard : containsWildcard (Uri.parse path).pathFragments = true <;>
      simp only [route, isFullPath, hstar, hwildcard] <;> rfl
  · simp only [route, isFullPath, hstar]
    rfl

theorem routeFullPath_lookup (table : HttpServerRequestRoutingHandler Handler)
    (method path : SharedString) (handler : Option Handler) (other : SharedString) :
    (table.routeFullPath method path handler).fullPathRoutingMap.lookup other =
      if other = path then some (((table.fullPathRoutingMap.lookup path).getD {}).set method handler)
      else table.fullPathRoutingMap.lookup other := by
  unfold routeFullPath
  by_cases hother : other = path
  · subst hother
    rw [AList.lookup_insert, if_pos rfl]
  · rw [AList.lookup_insert_ne hother, if_neg hother]

end HttpServerRequestRoutingHandler

/-- A call that changes a routing table. -/
inductive RoutingCall (Handler : Type)
  | route (method path : SharedString) (handler : Option Handler)
  | removeRoute (method path : SharedString)

def RoutingCall.apply (table : HttpServerRequestRoutingHandler Handler) :
    RoutingCall Handler → HttpServerRequestRoutingHandler Handler
  | route method path handler => table.route method path handler
  | removeRoute method path => table.removeRoute method path

/-- The table that a sequence of calls builds. -/
def routingTable (calls : List (RoutingCall Handler)) : HttpServerRequestRoutingHandler Handler :=
  calls.foldl RoutingCall.apply {}

end cpv
