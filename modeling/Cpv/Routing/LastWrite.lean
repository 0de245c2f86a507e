import Cpv.Routing.Handle
import Cpv.Routing.Undo

namespace cpv

variable {Handler : Type}

/-- What a call says of a method at the place of its path: the handler it
    routes, or none where it removes it. -/
def RoutingCall.written (method : SharedString) (place : RoutingPlace) : RoutingCall Handler → Option (Option Handler)
  | route method' path handler => if method = method' ∧ place = placeOf path then some handler else none
  | removeRoute method' path => if method = method' ∧ place = placeOf path then some none else none

/-- What the last call for a method and a place says. -/
def lastWritten (calls : List (RoutingCall Handler)) (method : SharedString) (place : RoutingPlace) :
    Option (Option Handler) :=
  (calls.filterMap (·.written method place)).getLast?

/-- The place's path or pattern matches a request's path. -/
def RoutingPlace.Matches (uri : Uri) : RoutingPlace → Prop
  | fullPath path => uri.path = path
  | node pathFragments => matchesFragments pathFragments uri.pathFragments = true

instance (uri : Uri) : DecidablePred (RoutingPlace.Matches uri)
  | .fullPath _ => inferInstanceAs (Decidable (_ = _))
  | .node _ => inferInstanceAs (Decidable (_ = true))

/-- The request matches the place, and no other one that has a handler. -/
def OnlyMatch (calls : List (RoutingCall Handler)) (method : SharedString) (place : RoutingPlace) (uri : Uri) : Prop :=
  place.Matches uri ∧ ∀ other handler, lastWritten calls method other = some (some handler) →
    other.Matches uri → other = place

/-- A request that only this place matches is answered as the last call for the
    place says, by `getRoute` and by `handle`. -/
def LastWriteWins (calls : List (RoutingCall Handler)) (place : RoutingPlace) (request : HttpRequest) : Prop :=
  OnlyMatch calls request.method place (Uri.parse request.url) →
    ∀ written, lastWritten calls request.method place = some written →
      (routingTable calls).getRoutePath request.method request.url = written ∧
        (routingTable calls).handle request = written

/-- The call changes the entry of a method at a place, or would if there was one. -/
def RoutingCall.Touches (method : SharedString) (place : RoutingPlace) : RoutingCall Handler → Prop
  | route method' path _ => method = method' ∧ place = placeOf path
  | removeRoute method' path =>
    method = method' ∧ (place = .fullPath path ∨ place = .node (Uri.parse path).pathFragments)

/-- The last route of a handler to a place takes effect: the method is GET or
    POST, or the place held no other handler for it then; and nothing struck it
    later under another path. -/
def RouteHolds (calls : List (RoutingCall Handler)) (method : SharedString) (place : RoutingPlace)
    (handler : Handler) : Prop :=
  ∃ before path after, calls = before ++ RoutingCall.route method path (some handler) :: after ∧ place = placeOf path ∧
    (method = constants.GET ∨ method = constants.POST ∨
      ∀ earlier, heldEntry before method place = some (some earlier) → earlier = handler) ∧
    ∀ call ∈ after, ¬ call.Touches method place

/-- When the last call for the only matching place decides the answer: a route
    takes effect and the lookup ends at its place; and if the url is not its own
    decoded path, no other handler is held for the raw url as a full path. -/
def Decides (calls : List (RoutingCall Handler)) (place : RoutingPlace) (request : HttpRequest) : Prop :=
  OnlyMatch calls request.method place (Uri.parse request.url) →
    ∀ written, lastWritten calls request.method place = some written →
      (∀ handler, written = some handler → RouteHolds calls request.method place handler ∧
        selectedPlace calls (Uri.parse request.url) = some place) ∧
      ((Uri.parse request.url).path = request.url ∨
        ∀ handler, heldEntry calls request.method (.fullPath request.url) = some (some handler) →
          some handler = written)

theorem RoutingCall.update_of_not_touches {call : RoutingCall Handler} {method : SharedString} {place : RoutingPlace}
    (held : Option (Option Handler)) (hcall : ¬ call.Touches method place) : call.update method place held = held := by
  cases call with
  | route method' path handler => exact if_neg hcall
  | removeRoute method' path => exact if_neg hcall

theorem heldEntry_append_untouched (before : List (RoutingCall Handler)) {after : List (RoutingCall Handler)}
    {method : SharedString} {place : RoutingPlace} (hafter : ∀ call ∈ after, ¬ call.Touches method place) :
    heldEntry (before ++ after) method place = heldEntry before method place := by
  induction after using List.reverseRecOn with
  | nil => rw [List.append_nil]
  | append_singleton after call ih =>
    rw [List.forall_mem_append] at hafter
    rw [← List.append_assoc, heldEntry_append, RoutingCall.update_of_not_touches _ (hafter.2 call List.mem_cons_self)]
    exact ih hafter.1

theorem RoutingCall.touches_of_written {call : RoutingCall Handler} {method : SharedString} {place : RoutingPlace}
    {written : Option Handler} (hcall : call.written method place = some written) : call.Touches method place := by
  cases call with
  | route method' path handler =>
    simp only [RoutingCall.written] at hcall
    split at hcall
    · assumption
    · cases hcall
  | removeRoute method' path =>
    simp only [RoutingCall.written] at hcall
    split at hcall
    · rename_i hsame
      refine ⟨hsame.1, ?_⟩
      rw [hsame.2, placeOf]
      split
      · exact Or.inl rfl
      · exact Or.inr rfl
    · cases hcall

/-- Calls for other places can only strike an entry. -/
theorem heldEntry_append_unwritten (before : List (RoutingCall Handler)) {after : List (RoutingCall Handler)}
    {method : SharedString} {place : RoutingPlace} (hafter : ∀ call ∈ after, call.written method place = none) :
    heldEntry (before ++ after) method place = none ∨
      heldEntry (before ++ after) method place = heldEntry before method place ∧
        ∀ call ∈ after, ¬ call.Touches method place := by
  induction after using List.reverseRecOn with
  | nil =>
    rw [List.append_nil]
    exact Or.inr ⟨rfl, by simp⟩
  | append_singleton after call ih =>
    rw [List.forall_mem_append] at hafter
    rw [← List.append_assoc, heldEntry_append]
    by_cases htouches : call.Touches method place
    · have hunwritten := hafter.2 call List.mem_cons_self
      cases call with
      | route method' path handler =>
        rw [RoutingCall.written, if_pos ⟨htouches.1, htouches.2⟩] at hunwritten
        cases hunwritten
      | removeRoute method' path => exact Or.inl (if_pos htouches)
    · rw [RoutingCall.update_of_not_touches _ htouches]
      obtain hnone | ⟨hsame, hothers⟩ := ih hafter.1
      · exact Or.inl hnone
      · refine Or.inr ⟨hsame, ?_⟩
        simpa [or_imp, forall_and] using ⟨hothers, htouches⟩

theorem lastWritten_eq_some {calls : List (RoutingCall Handler)} {method : SharedString} {place : RoutingPlace}
    {written : Option Handler} (hlast : lastWritten calls method place = some written) :
    ∃ before call after, calls = before ++ call :: after ∧ call.written method place = some written ∧
      ∀ other ∈ after, other.written method place = none := by
  induction calls using List.reverseRecOn with
  | nil => cases hlast
  | append_singleton calls call ih =>
    cases hcall : call.written method place with
    | some handler =>
      obtain rfl : handler = written := by simpa [lastWritten, hcall] using hlast
      exact ⟨calls, call, [], rfl, hcall, by simp⟩
    | none =>
      obtain ⟨before, other, after, rfl, hother, hafter⟩ := ih (by simpa [lastWritten, hcall] using hlast)
      refine ⟨before, other, after ++ [call], by simp, hother, ?_⟩
      simpa [or_imp, forall_and] using ⟨hafter, hcall⟩

theorem lastWritten_eq_none {calls : List (RoutingCall Handler)} {method : SharedString} {place : RoutingPlace}
    (hlast : lastWritten calls method place = none) : ∀ call ∈ calls, call.written method place = none := by
  rw [lastWritten, List.getLast?_eq_none_iff, List.filterMap_eq_nil_iff] at hlast
  exact hlast

section

variable {calls : List (RoutingCall Handler)} {method : SharedString} {place : RoutingPlace}

theorem heldEntry_ne_null (hcalls : ∀ call ∈ calls, call.NotNull) : heldEntry calls method place ≠ some none := by
  induction calls using List.reverseRecOn with
  | nil => rintro ⟨⟩
  | append_singleton calls call ih =>
    rw [List.forall_mem_append] at hcalls
    have hold := ih hcalls.1
    have hcall := hcalls.2 call List.mem_cons_self
    rw [heldEntry_append]
    cases call with
    | route method' path handler =>
      obtain ⟨handler, rfl⟩ := Option.isSome_iff_exists.mp hcall
      simp only [RoutingCall.update, setEntry]
      cases hheld : heldEntry calls method place with
      | none => grind
      | some held => grind
    | removeRoute method' path =>
      simp only [RoutingCall.update]
      split
      · rintro ⟨⟩
      · exact hold

/-- A place whose last call removes the handler holds none. -/
theorem heldEntry_of_removed (hcalls : ∀ call ∈ calls, call.NotNull)
    (hlast : lastWritten calls method place = some none) : heldEntry calls method place = none := by
  obtain ⟨before, call, after, rfl, hcall, hafter⟩ := lastWritten_eq_some hlast
  have hstruck : heldEntry (before ++ [call]) method place = none := by
    have htouches := RoutingCall.touches_of_written hcall
    rw [heldEntry_append]
    cases call with
    | route method' path handler =>
      obtain rfl : handler = none := by
        rw [RoutingCall.written, if_pos ⟨htouches.1, htouches.2⟩] at hcall
        exact Option.some.inj hcall
      have hnotNull := hcalls _ (List.mem_append_right _ List.mem_cons_self)
      cases hnotNull
    | removeRoute method' path => exact if_pos htouches
  obtain hnone | ⟨hsame, -⟩ := heldEntry_append_unwritten (before ++ [call]) hafter
  · simpa using hnone
  · simpa [hstruck] using hsame

/-- A place that holds a handler was last routed to. -/
theorem lastWritten_of_heldEntry (hcalls : ∀ call ∈ calls, call.NotNull) {handler : Option Handler}
    (hheld : heldEntry calls method place = some handler) :
    ∃ routed, lastWritten calls method place = some (some routed) := by
  cases hlast : lastWritten calls method place with
  | none =>
    have hunwritten := heldEntry_append_unwritten [] (lastWritten_eq_none hlast)
    rw [List.nil_append, hheld] at hunwritten
    obtain hnone | ⟨hnone, -⟩ := hunwritten <;> cases hnone
  | some written =>
    cases written with
    | none =>
      rw [heldEntry_of_removed hcalls hlast] at hheld
      cases hheld
    | some routed => exact ⟨routed, rfl⟩

/-- What the place holds is the handler routed last exactly if that takes effect. -/
theorem heldEntry_iff_routeHolds (hcalls : ∀ call ∈ calls, call.NotNull) {handler : Handler}
    (hlast : lastWritten calls method place = some (some handler)) :
    heldEntry calls method place = some (some handler) ↔ RouteHolds calls method place handler := by
  constructor
  · intro hheld
    obtain ⟨before, call, after, rfl, hcall, hafter⟩ := lastWritten_eq_some hlast
    have hunwritten := heldEntry_append_unwritten (before ++ [call]) hafter
    rw [List.append_assoc, List.singleton_append, hheld] at hunwritten
    obtain hnone | ⟨hsame, huntouched⟩ := hunwritten
    · cases hnone
    have htouches := RoutingCall.touches_of_written hcall
    cases call with
    | removeRoute method' path =>
      rw [heldEntry_append, RoutingCall.update, if_pos ⟨htouches.1, htouches.2⟩] at hsame
      cases hsame
    | route method' path handler' =>
      obtain ⟨rfl, hplace⟩ := htouches
      obtain rfl : handler' = some handler := by
        rw [RoutingCall.written, if_pos ⟨rfl, hplace⟩] at hcall
        exact Option.some.inj hcall
      refine ⟨before, path, after, rfl, hplace, ?_, huntouched⟩
      rw [heldEntry_append, RoutingCall.update, if_pos ⟨rfl, hplace⟩, setEntry] at hsame
      by_cases hfixed : method = constants.GET ∨ method = constants.POST
      · tauto
      · refine Or.inr (Or.inr fun earlier hearlier => ?_)
        rw [if_neg hfixed, hearlier] at hsame
        simpa using hsame.symm
  · rintro ⟨before, path, after, rfl, hplace, heffect, huntouched⟩
    have hsame := heldEntry_append_untouched (before ++ [RoutingCall.route method path (some handler)]) huntouched
    rw [List.append_assoc, List.singleton_append] at hsame
    rw [hsame, heldEntry_append, RoutingCall.update, if_pos ⟨rfl, hplace⟩, setEntry]
    have hnotNull : heldEntry before method place ≠ some none :=
      heldEntry_ne_null fun call hcall => hcalls call (List.mem_append_left _ hcall)
    split
    · rfl
    · cases hheld : heldEntry before method place with
      | none => rfl
      | some held =>
        cases held with
        | none => exact absurd hheld hnotNull
        | some earlier =>
          obtain hget | hpost | hearlier := heffect
          · tauto
          · tauto
          · rw [hearlier earlier hheld]
            rfl

end

/-- The place where a lookup ends matches the request's path. -/
theorem selectedPlace_matches {calls : List (RoutingCall Handler)} {uri : Uri} {place : RoutingPlace}
    (hselected : selectedPlace calls uri = some place) : place.Matches uri := by
  unfold selectedPlace at hselected
  split at hselected
  · obtain rfl := Option.some.inj hselected
    rfl
  · obtain ⟨keys, hkeys, rfl⟩ := Option.map_eq_some_iff.mp hselected
    obtain ⟨rest, hrest, hmatches⟩ := selectPattern_matches hkeys
    rw [List.nil_append] at hrest
    rwa [← hrest] at hmatches

/-- Without null handlers, the fast path finds what is held for the raw url, and
    a lookup comes after it. -/
theorem handle_eq {calls : List (RoutingCall Handler)} (hcalls : ∀ call ∈ calls, call.NotNull) (request : HttpRequest) :
    (routingTable calls).handle request =
      (heldHandler calls request.method (some (.fullPath request.url))).or
        ((routingTable calls).getRoutePath request.method request.url) := by
  have hfast : ((routingTable calls).fullPathRoutingMap.lookup request.url).bind (·.getFast request.method) =
      heldHandler calls request.method (some (.fullPath request.url)) := by
    have hget := ((routingTable_reflects calls).fullPath request.url).get request.method
    rw [heldHandler, Option.bind_some, ← hget]
    cases hmap : (routingTable calls).fullPathRoutingMap.lookup request.url with
    | none => exact (HttpServerRequestRoutingHandlerMap.get_empty request.method).symm
    | some map =>
      have hnoneHidden := routingTable_noneHidden calls hcalls request.url map hmap request.method
      rw [Option.bind_some, HttpServerRequestRoutingHandlerMap.getFast_eq, Option.getD_some]
      cases hheld : map.get request.method with
      | some handler => rfl
      | none =>
        rw [hheld] at hnoneHidden
        rw [Option.none_or]
        cases hlookup : (map.handlers.lookup request.method).join with
        | none => rfl
        | some handler =>
          rw [hlookup] at hnoneHidden
          cases hnoneHidden rfl
  rw [HttpServerRequestRoutingHandler.handle, hfast, HttpServerRequestRoutingHandler.getRoutePath]
  cases heldHandler calls request.method (some (.fullPath request.url)) <;> rfl

/-- The last call for a place decides the answer to a request that only this
    place matches, exactly if the call takes effect and is where the lookup ends. -/
theorem lastWriteWins_iff (calls : List (RoutingCall Handler)) (hcalls : ∀ call ∈ calls, call.NotNull)
    (place : RoutingPlace) (request : HttpRequest) :
    LastWriteWins calls place request ↔ Decides calls place request := by
  have hheld {method : SharedString} {place : Option RoutingPlace} {handler : Handler} :
      heldHandler calls method place = some handler ↔
        ∃ found, place = some found ∧ heldEntry calls method found = some (some handler) := by
    cases place with
    | none => simp [heldHandler]
    | some found => simp [heldHandler, Option.join_eq_some_iff]
  unfold LastWriteWins Decides
  refine forall_congr' fun honly => forall_congr' fun written => forall_congr' fun hlast => ?_
  rw [handle_eq hcalls, HttpServerRequestRoutingHandler.getRoutePath, getRoute_eq]
  -- whatever a lookup finds is held at a place that matches, which is this one
  have hfound {handler : Handler}
      (hanswer : heldHandler calls request.method (selectedPlace calls (Uri.parse request.url)) = some handler) :
      selectedPlace calls (Uri.parse request.url) = some place ∧
        heldEntry calls request.method place = some (some handler) := by
    obtain ⟨found, hselected, hentry⟩ := hheld.mp hanswer
    obtain ⟨routed, hrouted⟩ := lastWritten_of_heldEntry hcalls hentry
    obtain rfl := honly.2 found routed hrouted (selectedPlace_matches hselected)
    exact ⟨hselected, hentry⟩
  constructor
  · rintro ⟨hanswer, hhandle⟩
    refine ⟨?_, Or.inr fun handler hraw => ?_⟩
    · rintro handler rfl
      obtain ⟨hselected, hentry⟩ := hfound hanswer
      exact ⟨(heldEntry_iff_routeHolds hcalls hlast).mp hentry, hselected⟩
    · rw [hheld.mpr ⟨_, rfl, hraw⟩, Option.some_or] at hhandle
      exact hhandle
  · rintro ⟨hroute, hraw⟩
    have hanswer : heldHandler calls request.method (selectedPlace calls (Uri.parse request.url)) = written := by
      cases written with
      | some handler =>
        obtain ⟨hholds, hselected⟩ := hroute handler rfl
        exact hheld.mpr ⟨place, hselected, (heldEntry_iff_routeHolds hcalls hlast).mpr hholds⟩
      | none =>
        cases hanswer : heldHandler calls request.method (selectedPlace calls (Uri.parse request.url)) with
        | none => rfl
        | some handler =>
          obtain ⟨-, hentry⟩ := hfound hanswer
          rw [heldEntry_of_removed hcalls hlast] at hentry
          cases hentry
    refine ⟨hanswer, ?_⟩
    cases hfast : heldHandler calls request.method (some (.fullPath request.url)) with
    | none => rwa [Option.none_or]
    | some handler =>
      rw [Option.some_or]
      obtain ⟨-, ⟨⟩, hentry⟩ := hheld.mp hfast
      obtain hplain | hraw := hraw
      · -- the raw url is the decoded path, where the lookup ends
        have hmem := mem_routedPlaces_of_heldEntry hentry
        rw [← hanswer, ← hfast, selectedPlace, hplain, if_pos hmem]
      · exact hraw handler hentry

/-- PUT is stored in the table of handlers only. -/
def putTwice : List (RoutingCall Nat) :=
  [.route (text "PUT") (text "/a") (some 0), .route (text "PUT") (text "/a") (some 1)]

def getTwice : List (RoutingCall Nat) :=
  [.route constants.GET (text "/a") (some 0), .route constants.GET (text "/a") (some 1)]

def requestOf (method : SharedString) : HttpRequest := { method, url := text "/a" }

theorem lastWriteWins_iff_getTwice : LastWriteWins getTwice (.fullPath (text "/a")) (requestOf constants.GET) := by
  apply (lastWriteWins_iff getTwice (by simp [getTwice, RoutingCall.NotNull]) _ _).mpr
  intro honly written hlast
  obtain rfl : some 1 = written := by
    have hwritten : lastWritten getTwice constants.GET (.fullPath (text "/a")) = some (some 1) := by decide +kernel
    exact Option.some.inj (hwritten.symm.trans hlast)
  refine ⟨?_, Or.inl (by decide +kernel)⟩
  rintro handler ⟨⟩
  exact ⟨⟨getTwice.take 1, text "/a", [], rfl, by decide +kernel, Or.inl rfl, by simp⟩, by decide +kernel⟩

/-- The second handler for PUT is dropped. -/
theorem putTwice_not_lastWriteWins : ¬ ∀ (calls : List (RoutingCall Nat)) (place : RoutingPlace) (request : HttpRequest),
    (∀ call ∈ calls, call.NotNull) → LastWriteWins calls place request := by
  intro hclaim
  have hwins := hclaim putTwice (.fullPath (text "/a")) (requestOf (text "PUT")) (by simp [putTwice, RoutingCall.NotNull])
  have honly : OnlyMatch putTwice (text "PUT") (.fullPath (text "/a")) (Uri.parse (text "/a")) := by
    have hplace : placeOf (text "/a") = .fullPath (text "/a") := by decide +kernel
    refine ⟨by decide +kernel, fun other handler hlast _ => ?_⟩
    obtain ⟨before, call, after, hcalls, hcall, -⟩ := lastWritten_eq_some hlast
    have hmem : call ∈ putTwice := hcalls ▸ List.mem_append_right before List.mem_cons_self
    have htouches := RoutingCall.touches_of_written hcall
    rw [← hplace]
    obtain rfl | rfl : call = _ ∨ call = _ := by simpa [putTwice] using hmem
    · exact htouches.2
    · exact htouches.2
  have hlast : lastWritten putTwice (text "PUT") (.fullPath (text "/a")) = some (some 1) := by decide +kernel
  have hanswer := (hwins honly (some 1) hlast).1
  revert hanswer
  decide +kernel

end cpv
