import RegistryConsole.Proofs.Registry.Dialogue
import RegistryConsole.Registry.Client
/-!
# Laws of clients

A call is one request at most, and its envelope is a function of the answer to that request.
-/
namespace RegistryConsole.Registry

open Dialogue

/-- The registry answered with a status of success. -/
def Answer.IsSuccess (answer : Answer) : Prop :=
  ∃ status body, answer = .response status body ∧ Envelope.isSuccess status = true

/-- What an answer tells: the data that its payload decodes to, if its status is one of success. -/
def Answer.told? {α : Type} (decode : Json.Decoder α) : Answer → Option α
  | .response status body =>
    if 200 ≤ status ∧ status < 300 then
      (decode (Keys.mapKeys Keys.toCamel (Client.payloadOf body))).toOption
    else none
  | _ => none

namespace Client

variable {σ α : Type} {registry : Responder σ}

/-- A request goes by a method to the address of a path. -/
def Sends (c : Client) (method : Method) (path : String) (request : Request) : Prop :=
  request.method = method ∧ Url.ofString? (c.urlFor path) = some request.url

/-- The address of a path, if requests can be sent to it. -/
def target? (c : Client) (path : String) : Option Url :=
  (Url.ofString? (c.urlFor path)).filter isSendable

theorem send_cases (c : Client) (method : Method) (path : String) (body : Option Json)
    (decode : Json.Decoder α) :
    (c.target? path = none ∧ ∃ e, c.send method path body decode = .done (transportFailure e)) ∨
      ∃ url, c.target? path = some url ∧ Url.ofString? (c.urlFor path) = some url ∧
        c.send method path body decode =
          .ask { method, url, cookie := c.cookie, body } fun answer =>
            .done (receive url decode answer) := by
  unfold send target?
  dsimp only
  split
  next haddress =>
    -- the failure is not looked into: its text goes through the reader of foreign addresses
    generalize ((Url.foreign? (c.urlFor path).toList).map fun text =>
      TransportError.unsendable (String.ofList text)).getD .noUrl = e
    exact .inl ⟨by rw [haddress]; rfl, e, rfl⟩
  next url haddress =>
    rw [haddress]
    split
    next hsend => exact .inr ⟨url, Option.filter_some_pos hsend, rfl, rfl⟩
    next hsend => exact .inl ⟨Option.filter_some_neg (eq_false_of_ne_true hsend), _, rfl⟩

theorem send_meets (c : Client) (method : Method) (path : String) (body : Option Json)
    (decode : Json.Decoder α) :
    (c.send method path body decode).Meets
      (fun r => c.Sends method path r ∧ r.cookie = c.cookie ∧ r.body = body) fun _ => True := by
  have h := c.send_cases method path body decode
  generalize c.send method path body decode = d at h ⊢
  obtain ⟨-, e, rfl⟩ | ⟨url, -, haddress, rfl⟩ := h
  · exact .done True.intro
  · exact .ask ⟨⟨rfl, haddress⟩, rfl, rfl⟩ fun _ => .done True.intro

theorem get_meets (c : Client) (path : String) (decode : Json.Decoder α) :
    (c.get path decode).Meets (c.Sends .get path) fun _ => True :=
  (c.send_meets .get path none decode).mono (fun _ h => h.1) fun _ _ => True.intro

theorem delete_meets (c : Client) (path : String) (decode : Json.Decoder α) :
    (c.delete path decode).Meets (c.Sends .delete path) fun _ => True :=
  (c.send_meets .delete path none decode).mono (fun _ h => h.1) fun _ _ => True.intro

theorem receive_of_not_isSuccess (url : Url) (decode : Json.Decoder α) {answer : Answer}
    (h : ¬ answer.IsSuccess) :
    ∃ message details, receive url decode answer = .error message details := by
  cases answer with
  | response status body =>
      have hstatus : ¬ Envelope.isSuccess status = true := fun hs => h ⟨status, body, rfl, hs⟩
      rw [receive, Envelope.ofResponse, if_neg hstatus]
      exact ⟨_, _, rfl⟩
  | nothing => exact ⟨_, _, rfl⟩
  | cutShort => exact ⟨_, _, rfl⟩

theorem receive_data? (url : Url) (decode : Json.Decoder α) (answer : Answer) :
    (receive url decode answer).data? = answer.told? decode := by
  cases answer with
  | response status body =>
      have hsuccess : Envelope.isSuccess status = true ↔ 200 ≤ status ∧ status < 300 := by
        simp only [Envelope.isSuccess, Bool.and_eq_true, decide_eq_true_eq]
      rw [receive, Answer.told?, Envelope.ofResponse]
      by_cases hstatus : 200 ≤ status ∧ status < 300
      · rw [if_pos hstatus, if_pos (hsuccess.mpr hstatus), typed]
        cases decode (Keys.mapKeys Keys.toCamel (payloadOf body)) <;> rfl
      · rw [if_neg hstatus, if_neg (mt hsuccess.mp hstatus)]
        rfl
  | nothing => rfl
  | cutShort => rfl

theorem told?_of_not_isSuccess (decode : Json.Decoder α) {answer : Answer}
    (h : ¬ answer.IsSuccess) : answer.told? decode = none := by
  cases answer with
  | response status body =>
      rw [Answer.told?, if_neg]
      intro hstatus
      refine h ⟨status, body, rfl, ?_⟩
      rwa [Envelope.isSuccess, Bool.and_eq_true, decide_eq_true_eq, decide_eq_true_eq]
  | nothing => rfl
  | cutShort => rfl

/-- An answer of success to a request for a truth value is taken for one only if it holds one. -/
theorem receive_bool (url : Url) {status : Nat} {body : List UInt8}
    (hstatus : Envelope.isSuccess status = true) :
    (∃ b, payloadOf body = .bool b ∧
        receive url Json.decodeBool (.response status body) = .ok b) ∨
      (¬ ∃ b, payloadOf body = .bool b) ∧
        ∃ message details, receive url Json.decodeBool (.response status body) =
          .error message details := by
  rw [receive, Envelope.ofResponse, if_pos hstatus]
  cases payloadOf body with
  | bool b => exact .inl ⟨b, rfl, rfl⟩
  | null | number _ | string _ | array _ | object _ => exact .inr ⟨nofun, _, _, rfl⟩

/-- The data that a get of a path ends with, given the answer to its request. -/
def dataOf (c : Client) (path : String) (decode : Json.Decoder α) (answer : Answer) : Option α :=
  (c.target? path).bind fun url => (receive url decode answer).data?

theorem data?_get (c : Client) (path : String) (decode : Json.Decoder α)
    (registry : Responder σ) (s : σ) :
    (∀ answer, (result registry (c.get path decode) s).data? = c.dataOf path decode answer) ∨
      ∃ request, c.Sends .get path request ∧ calls registry (c.get path decode) s = [request] ∧
        (result registry (c.get path decode) s).data? =
          c.dataOf path decode (registry s request).1 := by
  rw [get]
  have h := c.send_cases .get path none decode
  generalize c.send .get path none decode = d at h ⊢
  obtain ⟨htarget, e, rfl⟩ | ⟨url, htarget, haddress, rfl⟩ := h
  · left
    intro answer
    rw [dataOf, htarget]
    rfl
  · right
    refine ⟨⟨.get, url, c.cookie, none⟩, ⟨rfl, haddress⟩, rfl, ?_⟩
    rw [dataOf, htarget]
    rfl

theorem dataOf_of_not_isSuccess (c : Client) (path : String) (decode : Json.Decoder α)
    {answer : Answer} (h : ¬ answer.IsSuccess) : c.dataOf path decode answer = none := by
  rw [dataOf]
  cases c.target? path with
  | none => rfl
  | some url =>
      obtain ⟨message, details, he⟩ := receive_of_not_isSuccess url decode h
      rw [Option.bind_some, he]
      rfl

theorem data?_get_of_untold {c : Client} {path : String} {decode : Json.Decoder α} {s : σ}
    (h : Replies registry s (calls registry (c.get path decode) s) fun _ call given =>
      c.Sends .get path call → given.told? decode = none) :
    (result registry (c.get path decode) s).data? = none := by
  obtain hdata | ⟨request, hsends, hcalls, hdata⟩ := c.data?_get path decode registry s
  · rw [hdata .nothing]
    exact dataOf_of_not_isSuccess c path decode nofun
  · rw [hcalls] at h
    rw [hdata, dataOf, Option.bind_eq_none_iff]
    intro url _
    rw [receive_data?]
    exact h.head hsends

/-- A get whose request is given one answer, or fails where that is allowed, ends with the data of
that answer, or without any where that is allowed. -/
theorem data?_get_of_replies {c : Client} {path : String} {decode : Json.Decoder α} {s : σ}
    {answer : Answer} {p : List Request → Prop}
    (h : Replies registry s (calls registry (c.get path decode) s) fun history call given =>
      c.Sends .get path call → given = answer ∨ p history ∧ ¬ given.IsSuccess) :
    (result registry (c.get path decode) s).data? = c.dataOf path decode answer ∨
      p [] ∧ (result registry (c.get path decode) s).data? = none := by
  obtain hdata | ⟨request, hsends, hcalls, hdata⟩ := c.data?_get path decode registry s
  · exact .inl (hdata answer)
  · rw [hcalls] at h
    rw [hdata]
    obtain hgiven | ⟨hp, hfailed⟩ := h.head hsends
    · exact .inl (by rw [hgiven])
    · exact .inr ⟨hp, dataOf_of_not_isSuccess c path decode hfailed⟩

end Client

end RegistryConsole.Registry
