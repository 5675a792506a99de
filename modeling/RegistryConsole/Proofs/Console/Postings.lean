import RegistryConsole.Proofs.Console.FormCalls
import RegistryConsole.Proofs.Form.Validity
/-!
# Posted forms

A form of an admitted user that creates something reaches the registry exactly if it is valid: as
one request with the trimmed form, where there is an address for it. A form that is not valid is
shown again with its errors, and then nothing is put to the registry.
-/
namespace RegistryConsole

open Registry Dialogue Text

/-- A form that is posted to create something, with the authority it is posted to. -/
inductive Posting where
  | authority (form : AuthorityForm)
  | key (authority : String) (form : KeyForm)
  | apiKey (authority : String) (form : ApiKeyForm)

namespace Posting

def control : Posting → Control String
  | authority _ => .createAuthority
  | key a _ => .createKey a
  | apiKey a _ => .createApiKey a

def requirements : Posting → List Requirement
  | authority form => form.requirements
  | key _ form => form.requirements
  | apiKey _ form => form.requirements

def IsValid (p : Posting) : Prop :=
  ∀ r ∈ p.requirements, r.holds

/-- What the registry is sent of a form. -/
def body : Posting → Json
  | authority form => form.body
  | key _ form => form.body
  | apiKey _ form => form.body

/-- Whether an answer of the registry tells what was created. -/
def isTold : Posting → Answer → Bool
  | authority _, answer => (answer.told? Authority.decode).isSome
  | key .., answer => (answer.told? Key.decode).isSome
  | apiKey .., answer => (answer.told? ApiKey.decode).isSome

/-- The form is what the body of a request is decoded to. -/
def IsBodyOf (request : Http.Request) : Posting → Prop
  | authority form => Pages.formOf AuthorityForm.fields {} request = .ok form
  | key _ form => Pages.formOf KeyForm.fields {} request = .ok form
  | apiKey _ form => Pages.formOf ApiKeyForm.fields {} request = .ok form

/-- A request has the path that a form is posted to, the authority's identifier written in it with
or without escapes, and the form for its body. -/
structure CarriedBy (p : Posting) (request : Http.Request) : Prop where
  path : ∃ written : Control (List Char), request.path.toList = written.path ∧
    (∀ name ∈ written.names, '/' ∉ name) ∧
    written.map Percent.decodeText? = p.control.map some
  body : p.IsBodyOf request

/-- What the checks of a form find. -/
def errors : Posting → List FieldError
  | authority form => form.errors
  | key _ form => form.errors
  | apiKey _ form => form.errors

theorem errors_breaches (p : Posting) : Requirement.Breaches p.requirements p.errors := by
  cases p with
  | authority form => exact form.errors_breaches
  | key _ form => exact form.errors_breaches
  | apiKey _ form => exact form.errors_breaches

theorem errors_isEmpty_iff (p : Posting) : p.errors.isEmpty = true ↔ p.IsValid := by
  rw [List.isEmpty_iff]
  exact p.errors_breaches.eq_nil_iff

/-- The page that answers a posted form. -/
def page (p : Posting) (n : Navigation) : Dialogue Pages.Reply :=
  match p with
  | authority form =>
    Pages.submit n form.errors (Authorities.create n.clients.authorities form.toNew)
  | key a form => Pages.submit n form.errors (Keys.create n.clients.authorities a form.toNew)
  | apiKey a form => Pages.submit n form.errors (ApiKeys.create n.clients.authorities a form.toNew)

theorem answer_eq_page {p : Posting} {request : Http.Request}
    {written : Control (List Char)} (hbody : p.IsBodyOf request)
    (hwritten : written.map Percent.decodeText? = p.control.map some) (n : Navigation) :
    Pages.answer written.endpoint written.arguments request n = p.page n := by
  have hendpoint : written.endpoint = p.control.endpoint := by
    rw [← Control.endpoint_map Percent.decodeText? written, hwritten, Control.endpoint_map]
  have harguments := Control.decodeArguments_of_map hwritten
  rw [hendpoint]
  cases p with
  | authority form =>
      have hform : Pages.formOf AuthorityForm.fields {} request = .ok form := hbody
      simp only [control, Control.endpoint, Pages.answer, Pages.withForm, hform]
      rfl
  | key a form =>
      have hform : Pages.formOf KeyForm.fields {} request = .ok form := hbody
      simp only [control, Control.endpoint, Pages.answer, Pages.withArguments, harguments,
        Pages.withForm, hform]
      rfl
  | apiKey a form =>
      have hform : Pages.formOf ApiKeyForm.fields {} request = .ok form := hbody
      simp only [control, Control.endpoint, Pages.answer, Pages.withArguments, harguments,
        Pages.withForm, hform]
      rfl

section Page

variable {σ : Type} {n : Navigation} {userName : String}

private theorem page_of_not_isValid {p : Posting} (h : ¬ p.IsValid) (n : Navigation) :
    p.page n = Pages.settings n 422 p.errors "" := by
  have herrors : ¬ p.errors.isEmpty = true := mt p.errors_isEmpty_iff.mp h
  cases p with
  | authority form | key a form | apiKey a form => exact if_neg herrors

theorem page_settles {p : Posting} (h : p.IsValid) (huser : n.userName = .ok userName)
    (registry : Responder σ) (s : σ) :
    Pages.Settles registry s (p.page n) (p.control.request? n.clients (some p.body))
      ((p.control.request? n.clients (some p.body)).any fun call =>
        p.isTold (registry s call).1) := by
  have herrors : p.errors.isEmpty = true := p.errors_isEmpty_iff.mpr h
  cases p with
  | authority form =>
      have hputs := Control.createAuthority_puts n.clients form.toNew
      rw [form.mapKeys_toNew] at hputs
      exact Pages.submit_settles herrors hputs huser registry s
  | key a form =>
      have hputs := Control.createKey_puts n.clients a form.toNew
      rw [form.mapKeys_toNew] at hputs
      exact Pages.submit_settles herrors hputs huser registry s
  | apiKey a form =>
      have hputs := Control.createApiKey_puts n.clients a form.toNew
      rw [form.mapKeys_toNew] at hputs
      exact Pages.submit_settles herrors hputs huser registry s

end Page

end Posting

namespace Console

variable {σ : Type}

/-- A registry that tells of an authority whenever something is posted to it, and of nothing
else. -/
private def registering : Responder Unit := fun s call =>
  if call.method = .post then
    (.response 201 (Utf8.encode (Json.ofMembers [("name", .string "acme")]).text), s)
  else (.response 401 [], s)

private def posting (target body : String) : Http.Request where
  method := "POST"
  target
  headers := [("cookie", "id=AAAAAAAAAAAAAAAAAAAAAA"),
    ("content-type", "application/x-www-form-urlencoded")]
  body := Utf8.encode body

private theorem ok_of_toOption {ε α : Type} {e : Except ε α} {a : α} (h : e.toOption = some a) :
    e = .ok a := by
  cases e with
  | ok b => exact congrArg Except.ok (Option.some.inj h)
  | error _ => cases h

end Console

end RegistryConsole
