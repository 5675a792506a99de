import RegistryConsole.Proofs.Envelope.Details
import RegistryConsole.Proofs.Registry.Client
/-!
# What calls end with

A call sends the one request that its body and its path make, or none. It ends with data exactly if
the answer is complete, has a status of success and holds what is asked for; in every other case
it ends with a message of the catalogue and the details of what went wrong (`Call.envelope_iff`).
-/
namespace RegistryConsole.Registry.Client

open Dialogue Text Keys

variable {σ α : Type} {c : Client} {path : String} {decode : Json.Decoder α}

/-- What a body spells: null if there are only blanks in it, else its JSON value, else its text. -/
inductive Spells (body : List UInt8) : Json → Prop where
  | blank (h : ∀ b ∈ body, b ∈ [0x20, 0x9, 0xA, 0xC, 0xD]) : Spells body .null
  | json {v : Json} (hblank : ¬ ∀ b ∈ body, b ∈ [0x20, 0x9, 0xA, 0xC, 0xD])
      (h : Json.ofBytes? body = some v) : Spells body v
  | text (hblank : ¬ ∀ b ∈ body, b ∈ [0x20, 0x9, 0xA, 0xC, 0xD])
      (h : Json.ofBytes? body = none) : Spells body (.string (Utf8.decodeLossy body))

theorem all_isBlankOctet_iff {body : List UInt8} :
    body.all isBlankOctet = true ↔ ∀ b ∈ body, b ∈ [0x20, 0x9, 0xA, 0xC, 0xD] := by
  simp [isBlankOctet, or_assoc]

theorem spells_iff {body : List UInt8} {v : Json} : Spells body v ↔ payloadOf body = v := by
  constructor
  · intro h
    rw [payloadOf]
    cases h with
    | blank h => rw [if_pos (all_isBlankOctet_iff.mpr h)]
    | json hblank h => rw [if_neg (mt all_isBlankOctet_iff.mp hblank), h, Option.getD_some]
    | text hblank h => rw [if_neg (mt all_isBlankOctet_iff.mp hblank), h, Option.getD_none]
  · rintro rfl
    rw [payloadOf]
    split
    next h => exact .blank (all_isBlankOctet_iff.mp h)
    next h =>
      have hblank := mt all_isBlankOctet_iff.mpr h
      cases hread : Json.ofBytes? body with
      | none => exact .text hblank hread
      | some v => exact .json hblank hread

/-- Why requests cannot be sent to the address of a path. -/
inductive NoAddress (c : Client) (path : String) : TransportError → Prop where
  | noUrl (h : Url.ofString? (c.urlFor path) = none)
      (hforeign : Url.foreign? (c.urlFor path).toList = none) : NoAddress c path .noUrl
  | foreign {text : List Char} (h : Url.ofString? (c.urlFor path) = none)
      (hforeign : Url.foreign? (c.urlFor path).toList = some text) :
      NoAddress c path (.unsendable (String.ofList text))
  | unsendable {url : Url} (h : Url.ofString? (c.urlFor path) = some url)
      (hsend : isSendable url = false) : NoAddress c path (.unsendable url.messageText)

theorem target?_cases (c : Client) (path : String) :
    (∃ e, NoAddress c path e) ∨ ∃ url, c.target? path = some url := by
  cases h : Url.ofString? (c.urlFor path) with
  | none =>
      cases hforeign : Url.foreign? (c.urlFor path).toList with
      | none => exact .inl ⟨_, .noUrl h hforeign⟩
      | some text => exact .inl ⟨_, .foreign h hforeign⟩
  | some url =>
      cases hsend : isSendable url with
      | false => exact .inl ⟨_, .unsendable h hsend⟩
      | true => exact .inr ⟨url, by rw [target?, h, Option.filter_some_pos hsend]⟩

theorem send_of_noAddress {e : TransportError} (h : NoAddress c path e) (method : Method)
    (body : Option Json) : c.send method path body decode = .done (transportFailure e) := by
  unfold send
  cases h with
  | noUrl h hforeign => simp only [h, hforeign, Option.map_none, Option.getD_none]
  | foreign h hforeign => simp only [h, hforeign, Option.map_some, Option.getD_some]
  | unsendable h hsend => simp only [h, hsend, Bool.false_eq_true, if_false]

theorem send_of_target {url : Url} (h : c.target? path = some url) (method : Method)
    (body : Option Json) :
    c.send method path body decode =
      .ask { method, url, cookie := c.cookie, body } fun answer =>
        .done (receive url decode answer) := by
  obtain ⟨hnone, -⟩ | ⟨url', htarget, -, hsend⟩ := c.send_cases method path body decode
  · rw [h] at hnone
    cases hnone
  · obtain rfl : url = url' := Option.some.inj (h.symm.trans htarget)
    exact hsend

theorem receive_refused {url : Url} {status : Nat} {body : List UInt8} {payload : Json}
    {details : List String} (hstatus : ¬ (200 ≤ status ∧ status < 300))
    (hpayload : Spells body payload)
    (hdetails : Envelope.IsDetails (mapKeys toCamel payload) details) :
    receive url decode (.response status body) = .error (statusMessage status) details := by
  have hsuccess : ¬ Envelope.isSuccess status = true := by
    simpa only [Envelope.isSuccess, Bool.and_eq_true, decide_eq_true_eq] using hstatus
  rw [receive, Envelope.ofResponse, if_neg hsuccess, spells_iff.mp hpayload, Envelope.failed,
    typed, Option.map_some, Option.getD_some, Option.getD_some, Envelope.isDetails_iff.mp hdetails]

theorem receive_success (url : Url) {status : Nat} {body : List UInt8} {payload : Json}
    (hstatus : 200 ≤ status ∧ status < 300) (hpayload : Spells body payload) :
    receive url decode (.response status body) =
      typed decode (.ok (mapKeys toCamel payload)) := by
  have hsuccess : Envelope.isSuccess status = true := by
    simpa only [Envelope.isSuccess, Bool.and_eq_true, decide_eq_true_eq] using hstatus
  rw [receive, Envelope.ofResponse, if_pos hsuccess, spells_iff.mp hpayload]

/-- The calls of a client. Those that send a body may be given one that cannot be written. -/
inductive Call where
  | get
  | delete
  | post (body : Except EncodeError Json)
  | patch (body : Except EncodeError Json)

namespace Call

def method : Call → Method
  | get => .get
  | delete => .delete
  | post _ => .post
  | patch _ => .patch

/-- The body as it is sent, its keys in snake case. -/
def body : Call → Except EncodeError (Option Json)
  | get | delete => .ok none
  | post body | patch body => body.map fun v => some (mapKeys toSnake v)

def dialogue (c : Client) (path : String) (decode : Json.Decoder α) :
    Call → Dialogue (Envelope α)
  | get => c.get path decode
  | delete => c.delete path decode
  | post (.ok v) => c.post path v decode
  | patch (.ok v) => c.patch path v decode
  | post unwritten => c.sendBody .post path unwritten decode
  | patch unwritten => c.sendBody .patch path unwritten decode

/-- The one request of a call, if its body can be written and its path has an address. -/
def request? (c : Client) (path : String) (call : Call) : Option Request :=
  call.body.toOption.bind fun body =>
    (c.target? path).map fun url => { method := call.method, url, cookie := c.cookie, body }

/-- The text of what keeps a call from its data although no refusal was received. -/
inductive Fails (reply : Request → Answer) (c : Client) (path : String) (decode : Json.Decoder α)
    (call : Call) : String → Prop where
  | notWritten {e : EncodeError} (h : call.body = .error e) :
      Fails reply c path decode call ("failed to encode request body: " ++ e.message)
  | notAddressed {body : Option Json} {e : TransportError} (hbody : call.body = .ok body)
      (h : NoAddress c path e) : Fails reply c path decode call e.message
  | nothing {request : Request} (h : call.request? c path = some request)
      (hanswer : reply request = .nothing) :
      Fails reply c path decode call
        ("error sending request for url (" ++ request.url.messageText ++ ")")
  | cutShort {request : Request} (h : call.request? c path = some request)
      (hanswer : reply request = .cutShort) :
      Fails reply c path decode call "error decoding response body"
  | mismatch {request : Request} {status : Nat} {body : List UInt8} {payload : Json}
      {mismatch : Json.Mismatch} (h : call.request? c path = some request)
      (hanswer : reply request = .response status body) (hstatus : 200 ≤ status ∧ status < 300)
      (hpayload : Spells body payload)
      (hdecode : decode (mapKeys toCamel payload) = .error mismatch) :
      Fails reply c path decode call ("invalid response payload: " ++ mismatch.message)

/-- What a call ends with, by what becomes of its request. -/
inductive Outcome (reply : Request → Answer) (c : Client) (path : String)
    (decode : Json.Decoder α) (call : Call) : Envelope α → Prop where
  | ok {request : Request} {status : Nat} {body : List UInt8} {payload : Json} {data : α}
      (h : call.request? c path = some request) (hanswer : reply request = .response status body)
      (hstatus : 200 ≤ status ∧ status < 300) (hpayload : Spells body payload)
      (hdecode : decode (mapKeys toCamel payload) = .ok data) :
      Outcome reply c path decode call (.ok data)
  | refused {request : Request} {status : Nat} {body : List UInt8} {payload : Json}
      {details : List String} (h : call.request? c path = some request)
      (hanswer : reply request = .response status body)
      (hstatus : ¬ (200 ≤ status ∧ status < 300)) (hpayload : Spells body payload)
      (hdetails : Envelope.IsDetails (mapKeys toCamel payload) details) :
      Outcome reply c path decode call (.error (statusMessage status) details)
  | failed {text : String} (h : call.Fails reply c path decode text) :
      Outcome reply c path decode call (.error (statusMessage 500) [text])

variable {call : Call} {reply : Request → Answer}

theorem dialogue_of_body {body : Option Json} (h : call.body = .ok body) :
    call.dialogue c path decode = c.send call.method path body decode := by
  cases call with
  | get | delete =>
      obtain rfl : none = body := Except.ok.inj h
      rfl
  | post written | patch written =>
      cases written with
      | error e => cases h
      | ok v =>
          obtain rfl : some (mapKeys toSnake v) = body := Except.ok.inj h
          rfl

theorem dialogue_of_notWritten {e : EncodeError} (h : call.body = .error e) :
    call.dialogue c path decode =
      .done (.error (statusMessage 500) ["failed to encode request body: " ++ e.message]) := by
  cases call with
  | get | delete => cases h
  | post written | patch written =>
      cases written with
      | ok v => cases h
      | error e' =>
          obtain rfl : e' = e := Except.error.inj h
          rfl

theorem dialogue_of_request {request : Request} (h : call.request? c path = some request) :
    call.dialogue c path decode =
      .ask request fun answer => .done (receive request.url decode answer) := by
  rw [request?] at h
  obtain ⟨body, hbody, h⟩ := Option.bind_eq_some_iff.mp h
  obtain ⟨url, hurl, rfl⟩ := Option.map_eq_some_iff.mp h
  have hbody : call.body = .ok body := by
    cases hcall : call.body with
    | error e =>
        rw [hcall] at hbody
        cases hbody
    | ok body' =>
        rw [hcall] at hbody
        rw [Option.some.inj hbody]
  rw [dialogue_of_body hbody, send_of_target hurl]

theorem request?_cases (call : Call) (c : Client) (path : String) :
    (∃ e, call.body = .error e ∧ call.request? c path = none) ∨
      (∃ body e, call.body = .ok body ∧ NoAddress c path e ∧ call.request? c path = none) ∨
      ∃ request, call.request? c path = some request := by
  cases hbody : call.body with
  | error e => exact .inl ⟨e, rfl, by rw [request?, hbody]; rfl⟩
  | ok body =>
      obtain ⟨e, he⟩ | ⟨url, hurl⟩ := target?_cases c path
      · have htarget : c.target? path = none := by
          rw [target?]
          cases he with
          | noUrl h | foreign h => rw [h, Option.filter_none]
          | unsendable h hsend => rw [h, Option.filter_some_neg hsend]
        have hnone : call.request? c path = none := by
          rw [request?, hbody, htarget]
          rfl
        exact .inr (.inl ⟨body, e, rfl, he, hnone⟩)
      · have hrequest : call.request? c path =
            some { method := call.method, url, cookie := c.cookie, body } := by
          rw [request?, hbody, hurl]
          rfl
        exact .inr (.inr ⟨_, hrequest⟩)

theorem Outcome.result_eq {registry : Responder σ} {s : σ} {e : Envelope α}
    (h : call.Outcome (fun request => (registry s request).1) c path decode e) :
    result registry (call.dialogue c path decode) s = e := by
  cases h with
  | ok h hanswer hstatus hpayload hdecode =>
      rw [dialogue_of_request h, result_ask, result_done, hanswer,
        receive_success _ hstatus hpayload, typed, hdecode]
  | refused h hanswer hstatus hpayload hdetails =>
      rw [dialogue_of_request h, result_ask, result_done, hanswer,
        receive_refused hstatus hpayload hdetails]
  | failed h =>
      cases h with
      | notWritten h => rw [dialogue_of_notWritten h, result_done]
      | notAddressed hbody h =>
          rw [dialogue_of_body hbody, send_of_noAddress h, result_done]
          rfl
      | nothing h hanswer =>
          rw [dialogue_of_request h, result_ask, result_done, hanswer]
          rfl
      | cutShort h hanswer =>
          rw [dialogue_of_request h, result_ask, result_done, hanswer]
          rfl
      | mismatch h hanswer hstatus hpayload hdecode =>
          rw [dialogue_of_request h, result_ask, result_done, hanswer,
            receive_success _ hstatus hpayload, typed, hdecode]
          rfl

theorem exists_outcome (reply : Request → Answer) (c : Client) (path : String)
    (decode : Json.Decoder α) (call : Call) : ∃ e, call.Outcome reply c path decode e := by
  obtain ⟨e, hbody, -⟩ | ⟨body, e, hbody, he, -⟩ | ⟨request, h⟩ := call.request?_cases c path
  · exact ⟨_, .failed (.notWritten hbody)⟩
  · exact ⟨_, .failed (.notAddressed hbody he)⟩
  · cases hanswer : reply request with
    | nothing => exact ⟨_, .failed (.nothing h hanswer)⟩
    | cutShort => exact ⟨_, .failed (.cutShort h hanswer)⟩
    | response status body =>
        have hpayload : Spells body (payloadOf body) := spells_iff.mpr rfl
        by_cases hstatus : 200 ≤ status ∧ status < 300
        · cases hdecode : decode (mapKeys toCamel (payloadOf body)) with
          | ok data => exact ⟨_, .ok h hanswer hstatus hpayload hdecode⟩
          | error mismatch =>
              exact ⟨_, .failed (.mismatch h hanswer hstatus hpayload hdecode)⟩
        · exact ⟨_, .refused h hanswer hstatus hpayload (Envelope.isDetails_iff.mpr rfl)⟩

theorem result_eq_iff {registry : Responder σ} {s : σ} {e : Envelope α} :
    result registry (call.dialogue c path decode) s = e ↔
      call.Outcome (fun request => (registry s request).1) c path decode e := by
  refine ⟨?_, Outcome.result_eq⟩
  rintro rfl
  obtain ⟨e, he⟩ := exists_outcome (fun request => (registry s request).1) c path decode call
  rw [he.result_eq]
  exact he

theorem calls_eq (registry : Responder σ) (s : σ) (c : Client) (path : String)
    (decode : Json.Decoder α) (call : Call) :
    calls registry (call.dialogue c path decode) s = (call.request? c path).toList := by
  obtain ⟨e, hbody, hnone⟩ | ⟨body, e, hbody, he, hnone⟩ | ⟨request, h⟩ :=
    call.request?_cases c path
  · rw [dialogue_of_notWritten hbody, hnone, calls_done, Option.toList_none]
  · rw [dialogue_of_body hbody, send_of_noAddress he, hnone, calls_done, Option.toList_none]
  · rw [dialogue_of_request h, h, calls_ask, calls_done, Option.toList_some]

theorem data?_eq (registry : Responder σ) (s : σ) (c : Client) (path : String)
    (decode : Json.Decoder α) (call : Call) :
    (result registry (call.dialogue c path decode) s).data? =
      (call.request? c path).bind fun request => (registry s request).1.told? decode := by
  obtain ⟨e, hbody, hnone⟩ | ⟨body, e, hbody, he, hnone⟩ | ⟨request, h⟩ :=
    call.request?_cases c path
  · rw [dialogue_of_notWritten hbody, hnone]
    rfl
  · rw [dialogue_of_body hbody, send_of_noAddress he, hnone]
    rfl
  · rw [dialogue_of_request h, h, Option.bind_some, result_ask, result_done]
    exact receive_data? request.url decode _

/-- A call sends its request or none. It ends with data exactly if a complete answer of success
decodes to them. It ends with an error exactly if a complete answer refused it, with the message
of the status and the details of the payload, or else with the message of an internal error and the
one text of what failed. -/
theorem envelope_iff (registry : Responder σ) (s : σ) (c : Client) (path : String)
    (decode : Json.Decoder α) (call : Call) :
    calls registry (call.dialogue c path decode) s = (call.request? c path).toList ∧
      (∀ data, result registry (call.dialogue c path decode) s = .ok data ↔
        ∃ request status body payload, call.request? c path = some request ∧
          (registry s request).1 = .response status body ∧ (200 ≤ status ∧ status < 300) ∧
          Spells body payload ∧ decode (mapKeys toCamel payload) = .ok data) ∧
      ∀ message details,
        result registry (call.dialogue c path decode) s = .error message details ↔
          (∃ request status body payload, call.request? c path = some request ∧
            (registry s request).1 = .response status body ∧ ¬ (200 ≤ status ∧ status < 300) ∧
            Spells body payload ∧ message = statusMessage status ∧
            Envelope.IsDetails (mapKeys toCamel payload) details) ∨
          message = statusMessage 500 ∧ ∃ text, details = [text] ∧
            call.Fails (fun request => (registry s request).1) c path decode text := by
  refine ⟨calls_eq registry s c path decode call, fun data => ?_, fun message details => ?_⟩
  · rw [result_eq_iff]
    constructor
    · rintro ⟨h, hanswer, hstatus, hpayload, hdecode⟩
      exact ⟨_, _, _, _, h, hanswer, hstatus, hpayload, hdecode⟩
    · rintro ⟨request, status, body, payload, h, hanswer, hstatus, hpayload, hdecode⟩
      exact .ok h hanswer hstatus hpayload hdecode
  · rw [result_eq_iff]
    constructor
    · intro h
      cases h with
      | refused h hanswer hstatus hpayload hdetails =>
          exact .inl ⟨_, _, _, _, h, hanswer, hstatus, hpayload, rfl, hdetails⟩
      | failed h => exact .inr ⟨rfl, _, rfl, h⟩
    · rintro (⟨request, status, body, payload, h, hanswer, hstatus, hpayload, rfl, hdetails⟩ |
        ⟨rfl, text, rfl, h⟩)
      · exact .refused h hanswer hstatus hpayload hdetails
      · exact .failed h

end Call

end RegistryConsole.Registry.Client

namespace RegistryConsole.Registry

open Dialogue

variable {α : Type}

/-- A call is one request or none, and ends with the data that the answer to it tells. -/
structure Dialogue.Puts (d : Dialogue (Envelope α)) (decode : Json.Decoder α)
    (request? : Option Request) : Prop where
  calls : ∀ {σ : Type} (registry : Responder σ) (s : σ), calls registry d s = request?.toList
  data? : ∀ {σ : Type} (registry : Responder σ) (s : σ), (result registry d s).data? =
    request?.bind fun call => (registry s call).1.told? decode

theorem Client.Call.puts (call : Client.Call) (c : Client) (path : String)
    (decode : Json.Decoder α) :
    (call.dialogue c path decode).Puts decode (call.request? c path) where
  calls registry s := calls_eq registry s c path decode call
  data? registry s := data?_eq registry s c path decode call

theorem Dialogue.Puts.guard {d : Dialogue (Envelope α)} {decode : Json.Decoder α}
    {request? : Option Request} (h : d.Puts decode request?) (refused : Bool) (reason : String) :
    Puts (if refused then Client.refuse reason else d) decode
      (if refused then none else request?) := by
  cases refused with
  | true => exact ⟨fun _ _ => rfl, fun _ _ => rfl⟩
  | false => exact h

end RegistryConsole.Registry
