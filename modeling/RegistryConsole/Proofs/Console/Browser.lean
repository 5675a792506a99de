import RegistryConsole.Console.SessionCookie
import RegistryConsole.Http.Message
import RegistryConsole.Proofs.Text.Blank
import RegistryConsole.Proofs.Text.Case
import RegistryConsole.Proofs.Text.Split
/-!
# Browsers

What a browser makes of a response: the cookie it holds from then on, and where it goes next. A line
that sets the session cookie is read back as the id it was written for, and the line that takes the
cookie away leaves none.
-/
namespace RegistryConsole

open Text

namespace Http

/-- The cookie of a line that sets one: its name, and its value unless it is taken away at once. -/
def setCookie? (line : String) : Option (String × Option String) :=
  match split ';' line.toList with
  | [] => none
  | pair :: attributes =>
    match cut '=' pair with
    | (_, none) => none
    | (name, some value) =>
      some (String.ofList (trimChars name),
        if attributes.any (trimChars · = "Max-Age=0".toList) then none
        else some (String.ofList (trimChars value)))

/-- Where a response sends a browser. -/
def Response.redirect? (r : Response) : Option String :=
  if 300 ≤ r.status && r.status < 400 then r.headers.get? "location" else none

/-- Nothing is set before the end of a request. -/
def Response.SetsNoCookie (r : Response) : Prop :=
  r.headers.get? "set-cookie" = none

end Http

namespace SessionCookie

/-- The session cookie that a browser holds after a response. -/
def kept (held : Option String) (response : Http.Response) : Option String :=
  match (response.headers.get? "set-cookie").bind Http.setCookie? with
  | some (cookie, value) => if cookie = name then value else held
  | none => held

end SessionCookie

/-- A request by which a browser follows the redirect of a response, its cookies kept. -/
structure Http.Request.Follows (next request : Http.Request) (response : Http.Response) : Prop where
  method : next.method = "GET"
  target : response.redirect? = some next.target
  cookie : Http.cookieValue? SessionCookie.name next.headers =
    SessionCookie.kept (Http.cookieValue? SessionCookie.name request.headers) response

namespace SessionCookie

theorem isIdChar_not_blank {c : Char} (h : isIdChar c = true) : isBlank c = false ∧ c ≠ ';' := by
  constructor
  · simp only [isIdChar, Bool.or_eq_true, decide_eq_true_eq, isAlphanum_iff] at h
    rcases h with (hrange | rfl) | rfl
    · exact not_isBlank_of_visible (by omega) (by omega)
    · decide
    · decide
  · rintro rfl
    exact absurd h (by decide)

private theorem setCookie?_of_toList {line : String} {value rest : List Char}
    (hline : line.toList = 'i' :: 'd' :: '=' :: value ++ ';' :: rest)
    (hvalue : ∀ c ∈ value, isBlank c = false ∧ c ≠ ';') :
    Http.setCookie? line = some (name,
      if (split ';' rest).any (trimChars · = "Max-Age=0".toList) then none
      else some (String.ofList value)) := by
  have hpair : ';' ∉ 'i' :: 'd' :: '=' :: value := by
    simp only [List.mem_cons, not_or]
    exact ⟨by decide, by decide, by decide, fun h => (hvalue _ h).2 rfl⟩
  have hcut : cut '=' ('i' :: 'd' :: '=' :: value) = (['i', 'd'], some value) := by
    simp [cut]
  rw [Http.setCookie?, hline, split_append, split_of_not_mem hpair]
  simp only [List.cons_append, List.nil_append, hcut]
  rw [trimChars_of_no_blank fun c hc => (hvalue c hc).1]
  rfl

theorem setCookie?_text (secure : Bool) {id : String} (hid : isId id = true) :
    Http.setCookie? (text secure id) = some (name, some id) := by
  have hvalue : ∀ c ∈ id.toList, isBlank c = false ∧ c ≠ ';' := by
    simp only [isId, Bool.and_eq_true, List.all_eq_true] at hid
    intro c hc
    exact isIdChar_not_blank (hid.1.2 c hc)
  have hline : (text secure id).toList = 'i' :: 'd' :: '=' :: id.toList ++ ';' ::
      (" HttpOnly; SameSite=Strict; ".toList ++ (if secure then "Secure; " else "").toList ++
        "Path=/; Max-Age=86400".toList) := by
    simp [text, name, maxAge]
  rw [setCookie?_of_toList hline hvalue, if_neg (by cases secure <;> decide),
    String.ofList_toList]

theorem setCookie?_removal (now : Instant) :
    Http.setCookie? (removal now) = some (name, none) := by
  obtain ⟨date, hdate⟩ : ∃ date, removal now = name ++ "=; Path=/; Max-Age=0; Expires=" ++ date :=
    ⟨_, rfl⟩
  have hline : (removal now).toList = 'i' :: 'd' :: '=' :: [] ++ ';' ::
      (" Path=/; Max-Age=0".toList ++ ';' :: (" Expires=".toList ++ date.toList)) := by
    simp [hdate, name]
  have hage : (split ';' " Path=/; Max-Age=0".toList).any
      (trimChars · = "Max-Age=0".toList) = true := by
    decide
  rw [setCookie?_of_toList hline (by simp), split_append, List.any_append, hage, Bool.true_or,
    if_pos rfl]

variable {response : Http.Response} (held : Option String)

theorem kept_of_no_line (h : response.headers.get? "set-cookie" = none) :
    kept held response = held := by
  rw [kept, h]
  rfl

theorem kept_of_text {secure : Bool} {id : String} (hid : isId id = true)
    (h : response.headers.get? "set-cookie" = some (text secure id)) :
    kept held response = some id := by
  rw [kept, h, Option.bind_some, setCookie?_text secure hid]
  rfl

theorem kept_of_removal {now : Instant}
    (h : response.headers.get? "set-cookie" = some (removal now)) :
    kept held response = none := by
  rw [kept, h, Option.bind_some, setCookie?_removal now]
  rfl

end SessionCookie

end RegistryConsole
