import RegistryConsole.Console.Basic
import RegistryConsole.Proofs.Console.Browser
import RegistryConsole.Proofs.Http.Header
/-!
# What persists between requests

The end of a request dresses its response and settles its session. Unless the server failed, a
browser that keeps its cookies then finds the very items that the request left (`itemsAt_next`):
they were saved under the id of its cookie, or nothing had to be saved, or nothing was left at all.
-/
namespace RegistryConsole

theorem Http.Response.set_redirect? {name : String} (h : "location" ≠ name) (value : String)
    (r : Http.Response) : (r.set name value).redirect? = r.redirect? := by
  rw [redirect?, set, Headers.get?_set_ne h]
  rfl

namespace Console

open SessionCookie

/-- The headers that every response is dressed with. -/
def dress (draws : Draws) (request : Http.Request) (response : Http.Response) : Http.Response :=
  (securityHeaders.foldl (fun r (name, value) => r.set name value) response).set requestIdHeader
    (requestId draws request)

private theorem foldl_set_get? {other : String} (headers : Http.Headers)
    (h : ∀ header ∈ headers, other ≠ header.1) (r : Http.Response) :
    (headers.foldl (fun r (name, value) => r.set name value) r).headers.get? other =
      r.headers.get? other := by
  induction headers generalizing r with
  | nil => rfl
  | cons header rest ih =>
      rw [List.foldl_cons, ih fun header' hmem => h header' (List.mem_cons_of_mem _ hmem)]
      exact Http.Headers.get?_set_ne (h header List.mem_cons_self) _ _

private theorem foldl_set_status (headers : Http.Headers) (r : Http.Response) :
    (headers.foldl (fun r (name, value) => r.set name value) r).status = r.status := by
  induction headers generalizing r with
  | nil => rfl
  | cons header rest ih => rw [List.foldl_cons, ih]; rfl

theorem dress_status (draws : Draws) (request : Http.Request) (r : Http.Response) :
    (dress draws request r).status = r.status :=
  foldl_set_status securityHeaders r

theorem dress_get? {other : String} (hid : other ≠ requestIdHeader)
    (h : ∀ header ∈ securityHeaders, other ≠ header.1) (draws : Draws) (request : Http.Request)
    (r : Http.Response) : (dress draws request r).headers.get? other = r.headers.get? other := by
  rw [dress]
  exact (Http.Headers.get?_set_ne hid _ _).trans (foldl_set_get? securityHeaders h r)

theorem dress_frame (draws : Draws) (request : Http.Request) (r : Http.Response) :
    ∃ headers, dress draws request r = { r with headers } := by
  have hfoldl (set : Http.Headers) (r : Http.Response) :
      ∃ headers, set.foldl (fun r (name, value) => r.set name value) r = { r with headers } := by
    induction set generalizing r with
    | nil => exact ⟨r.headers, rfl⟩
    | cons header rest ih => exact ih (r.set header.1 header.2)
  obtain ⟨headers, hheaders⟩ := hfoldl securityHeaders r
  rw [dress, hheaders]
  exact ⟨_, rfl⟩

theorem applySettlement_redirect? (c : Console) (now : Instant) (items : SessionRecord)
    (r : Http.Response) (settlement : Settlement) :
    (c.applySettlement now items r settlement).1.redirect? = r.redirect? := by
  cases settlement with
  | untouched => rfl
  | removed => exact Http.Response.set_redirect? (by decide) _ r
  | saved id => exact Http.Response.set_redirect? (by decide) _ r

theorem dress_redirect? (draws : Draws) (request : Http.Request) (r : Http.Response) :
    (dress draws request r).redirect? = r.redirect? := by
  have hget : (dress draws request r).headers.get? "location" = r.headers.get? "location" :=
    dress_get? (by decide) (by decide) draws request r
  rw [Http.Response.redirect?, dress_status, hget]
  rfl

variable (c : Console) (now : Instant) (draws : Draws) (request : Http.Request)
variable (place : Option (Route.Place × Route.Arguments)) (presented : Presented)
variable (r : Http.Response)

theorem finish_redirect? (visit : Option Visit) :
    (c.finish now draws request place presented r visit).1.redirect? = r.redirect? :=
  (dress_redirect? draws request _).trans (applySettlement_redirect? _ now _ r _)

/-- What a request leaves of the items it found; one that came to no guard has found none. -/
def left (visit : Option Visit) : Storage :=
  (visit.map fun v => v.navigation.storage).getD {}

/-- What becomes of the session of a request. -/
def settlementOf (presented : Presented) (draws : Draws) (status : Nat) (visit : Option Visit) :
    Settlement :=
  settle presented (visit.any fun v => v.navigation.hasSession) (left visit).changed
    (left visit).items status draws.sessionId

theorem settlementOf_of_unchanged (presented : Presented) (draws : Draws) (status : Nat)
    {visit : Option Visit} (h : (left visit).changed = false) :
    settlementOf presented draws status visit = .untouched ∨
      settlementOf presented draws status visit = .removed := by
  rw [settlementOf, settle, h]
  split
  · exact .inr rfl
  · exact .inl rfl

theorem finish_response (visit : Option Visit) :
    (c.finish now draws request place presented r visit).1 = dress draws request
      (c.applySettlement now (left visit).items r (settlementOf presented draws r.status visit)).1
    := by
  have happly (cache : Registry.RuntimeCache) (settlement : Settlement) :
      ({ c with cache }.applySettlement now (left visit).items r settlement).1 =
        (c.applySettlement now (left visit).items r settlement).1 := by
    cases settlement <;> rfl
  exact congrArg (dress draws request) (happly _ _)

theorem finish_frame (visit : Option Visit) :
    ∃ headers, (c.finish now draws request place presented r visit).1 = { r with headers } := by
  have happly (items : SessionRecord) (settlement : Settlement) :
      ∃ headers, (c.applySettlement now items r settlement).1 = { r with headers } := by
    cases settlement <;> exact ⟨_, rfl⟩
  obtain ⟨settled, hsettled⟩ := happly (left visit).items
    (settlementOf presented draws r.status visit)
  rw [finish_response, hsettled]
  exact dress_frame draws request { r with headers := settled }

theorem finish_status (visit : Option Visit) :
    (c.finish now draws request place presented r visit).1.status = r.status := by
  obtain ⟨headers, hheaders⟩ := finish_frame c now draws request place presented r visit
  rw [hheaders]

/-- The line that settles a session. -/
def lineOf (c : Console) (now : Instant) : Settlement → Option String
  | .untouched => none
  | .removed => some (removal now)
  | .saved id => some (text c.settings.server.secureCookies id)

theorem finish_setCookie (visit : Option Visit) (h : r.SetsNoCookie) :
    (c.finish now draws request place presented r visit).1.headers.get? "set-cookie" =
      c.lineOf now (settlementOf presented draws r.status visit) := by
  rw [finish_response]
  refine (dress_get? (by decide) (by decide) draws request _).trans ?_
  cases settlementOf presented draws r.status visit with
  | untouched => exact h
  | removed => exact Http.Headers.get?_set_self _ _ _
  | saved id => exact Http.Headers.get?_set_self _ _ _

/-- The records after a session was settled. -/
def recordsOf (c : Console) (items : SessionRecord) : Settlement → SessionRecords
  | .saved id => c.records.save id items
  | _ => c.records

theorem finish_records (visit : Option Visit) :
    (c.finish now draws request place presented r visit).2.records =
      c.recordsOf (left visit).items (settlementOf presented draws r.status visit) := by
  change (applySettlement _ now _ r (settlementOf presented draws r.status visit)).2.records = _
  cases settlementOf presented draws r.status visit <;> rfl

theorem finish_of_unchanged {visit : Option Visit} (hchanged : (left visit).changed = false)
    (hline : r.SetsNoCookie) :
    (c.finish now draws request place presented r visit).2.records = c.records ∧
      (c.finish now draws request place presented r visit).1.headers.get? "set-cookie" ∈
        [none, some (removal now)] := by
  have hset := finish_setCookie c now draws request place presented r visit hline
  rw [finish_records, hset]
  rcases settlementOf_of_unchanged presented draws r.status hchanged with hsettle | hsettle
  · rw [hsettle]
    exact ⟨rfl, List.mem_cons_self⟩
  · rw [hsettle]
    exact ⟨rfl, List.mem_cons_of_mem _ List.mem_cons_self⟩

/-- Of the console, the end of a request leaves all but the records as it was, except that it keeps
what the guard has obtained and counts and times the request once, with the status it was answered
with, and the decision of its guard. -/
theorem finish_console (visit : Option Visit) :
    ∃ records, (c.finish now draws request place presented r visit).2 =
      { c with
        cache := (visit.map fun v => v.navigation.cache).getD c.cache
        records
        counters := c.counters.map fun counters =>
          ((visit.map (·.outcome)).elim counters counters.countOutcome).countRequest
            ⟨request.method, (place.map (·.1.pattern.text)).getD Counters.unmatched,
              (c.finish now draws request place presented r visit).1.status⟩ draws.elapsed } := by
  have happly (c : Console) (items : SessionRecord) (settlement : Settlement) :
      ∃ records, (c.applySettlement now items r settlement).2 = { c with records } := by
    cases settlement <;> exact ⟨_, rfl⟩
  obtain ⟨records, hrecords⟩ := happly
    { c with cache := (visit.map fun v => v.navigation.cache).getD c.cache } (left visit).items
    (settlementOf presented draws r.status visit)
  exact ⟨records, congrArg (fun c' : Console => c'.count _ _ _) hrecords⟩

theorem finish_settings (visit : Option Visit) :
    (c.finish now draws request place presented r visit).2.settings = c.settings := by
  obtain ⟨records, hconsole⟩ := finish_console c now draws request place presented r visit
  rw [hconsole]

theorem finish_cache (visit : Option Visit) :
    (c.finish now draws request place presented r visit).2.cache =
      (visit.map fun v => v.navigation.cache).getD c.cache := by
  obtain ⟨records, hconsole⟩ := finish_console c now draws request place presented r visit
  rw [hconsole]

theorem finish_counted (visit : Option Visit) :
    (c.finish now draws request place presented r visit).2.counters =
      c.counters.map fun counters =>
        ((visit.map (·.outcome)).elim counters counters.countOutcome).countRequest
          ⟨request.method, (place.map (·.1.pattern.text)).getD Counters.unmatched,
            (c.finish now draws request place presented r visit).1.status⟩ draws.elapsed := by
  obtain ⟨records, hconsole⟩ := finish_console c now draws request place presented r visit
  rw [hconsole]

theorem finish_counters (visit : Option Visit) :
    (c.finish now draws request place presented r visit).2.counters.isSome =
      c.counters.isSome := by
  rw [finish_counted, Option.isSome_map]

theorem lookup_save_self (records : SessionRecords) (id : String) (record : SessionRecord) :
    (records.save id record).lookup id = some record := by
  rw [SessionRecords.save, Json.lookup_cons_ite, if_pos rfl]

def itemsAt (c : Console) (request : Http.Request) : SessionRecord :=
  (present request.headers c.records).record.getD []

private theorem settle_cases (p : Presented) (consulted changed : Bool) (items : SessionRecord)
    (status : Nat) (fresh : String) (hstatus : status < 500) :
    (settle p consulted changed items status fresh = .removed ∧ items = []) ∨
      settle p consulted changed items status fresh = .saved ((p.knownId consulted).getD fresh) ∨
      settle p consulted changed items status fresh = .untouched ∧
        (changed = false ∨ p.value = none ∧ items = []) := by
  rw [settle]
  cases hvoid : (p.knownId consulted).isNone && items.isEmpty with
  | true =>
      have hitems : items = [] := by
        simp only [Bool.and_eq_true, List.isEmpty_iff] at hvoid
        exact hvoid.2
      cases hvalue : p.value with
      | none => exact .inr (.inr ⟨by simp, .inr ⟨rfl, hitems⟩⟩)
      | some value => exact .inl ⟨by simp, hitems⟩
  | false =>
      cases changed with
      | false => exact .inr (.inr ⟨by simp, .inl rfl⟩)
      | true => exact .inr (.inl (by simp [hstatus]))

private theorem isId_knownId (headers : Http.Headers) (records : SessionRecords) {fresh : String}
    (hfresh : isId fresh = true) (consulted : Bool) :
    isId (((present headers records).knownId consulted).getD fresh) = true := by
  cases hid : (present headers records).knownId consulted with
  | none => exact hfresh
  | some id =>
      rw [Presented.knownId] at hid
      split at hid
      · cases hid
      · exact (Option.filter_eq_some_iff.mp hid).2

theorem settle_eq_saved {p : Presented} {consulted changed : Bool} {items : SessionRecord}
    {status : Nat} {fresh id : String}
    (h : settle p consulted changed items status fresh = .saved id) :
    p.id = some id ∨ id = fresh := by
  rw [settle] at h
  split at h
  · cases h
  · split at h
    · cases h
      cases hknown : p.knownId consulted with
      | none => exact .inr rfl
      | some known =>
          rw [Presented.knownId] at hknown
          split at hknown
          · cases hknown
          · exact .inl hknown
    · cases h

theorem kept_finish {visit : Option Visit} {value : String} (hline : r.SetsNoCookie)
    (hfresh : isId draws.sessionId = true)
    (h : kept none (c.finish now draws request place (present request.headers c.records) r
      visit).1 = some value) :
    Http.cookieValue? name request.headers = some value ∨ value = draws.sessionId := by
  have hset := finish_setCookie c now draws request place (present request.headers c.records) r
    visit hline
  cases hsettle : settlementOf (present request.headers c.records) draws r.status visit with
  | untouched =>
      rw [hsettle] at hset
      rw [kept_of_no_line _ hset] at h
      cases h
  | removed =>
      rw [hsettle] at hset
      rw [kept_of_removal _ hset] at h
      cases h
  | saved id =>
      rw [hsettle] at hset
      have hpresented := settle_eq_saved hsettle
      have hid : isId id = true := by
        rcases hpresented with hpresented | rfl
        · exact (Option.filter_eq_some_iff.mp hpresented).2
        · exact hfresh
      rw [kept_of_text _ hid hset] at h
      cases h
      exact hpresented.imp_left fun hpresented => (Option.filter_eq_some_iff.mp hpresented).1

/-- A browser that keeps its cookies finds the items that its last request left, unless the server
failed. The items were tracked from those that the request itself had found. -/
theorem itemsAt_next {v : Visit} {next : Http.Request} (hstatus : r.status < 500)
    (hline : r.SetsNoCookie) (hfresh : isId draws.sessionId = true)
    (htracks : Storage.Tracks { items := c.itemsAt request } v.navigation.storage)
    (hcookie : Http.cookieValue? name next.headers = kept (Http.cookieValue? name request.headers)
      (c.finish now draws request place (present request.headers c.records) r (some v)).1) :
    (c.finish now draws request place (present request.headers c.records) r (some v)).2.itemsAt
      next = v.navigation.storage.items := by
  have hset := finish_setCookie c now draws request place (present request.headers c.records) r
    (some v) hline
  have hleft : left (some v) = v.navigation.storage := rfl
  rw [itemsAt, finish_records, hleft]
  obtain ⟨hsettle, hitems⟩ | hsettle | ⟨hsettle, hkept⟩ := settle_cases
    (present request.headers c.records) v.navigation.hasSession v.navigation.storage.changed
    v.navigation.storage.items r.status draws.sessionId hstatus
  · rw [settlementOf, Option.any_some, hleft, hsettle] at hset ⊢
    rw [kept_of_removal _ hset] at hcookie
    simp [present, hcookie, hitems]
  · have hid := isId_knownId request.headers c.records hfresh
      v.navigation.hasSession
    rw [settlementOf, Option.any_some, hleft, hsettle] at hset ⊢
    rw [kept_of_text _ hid hset] at hcookie
    generalize ((present request.headers c.records).knownId v.navigation.hasSession).getD
      draws.sessionId = id at hid hcookie ⊢
    simp [present, hcookie, Option.filter_some_pos hid, recordsOf, lookup_save_self]
  · rw [settlementOf, Option.any_some, hleft, hsettle] at hset ⊢
    rw [kept_of_no_line _ hset] at hcookie
    obtain hchanged | ⟨hvalue, hitems⟩ := hkept
    · rw [(htracks hchanged).2, itemsAt, present, present, hcookie]
      rfl
    · have hnone : Http.cookieValue? name request.headers = none := hvalue
      simp [present, hcookie, hnone, hitems]

end Console

end RegistryConsole
