import RegistryConsole.Url.Basic
/-!
# Addresses beyond the web

Addresses under schemes that no request can be sent to, in their normal form without user name and
password, as messages show them. Behind two slashes stands a host, which may be empty; behind one
a path; and anything else is opaque. Backslashes are slashes in addresses of files only.
-/
namespace RegistryConsole.Url

open Text

/-- Characters percent-encoded in an opaque address and in its host. -/
def inOpaqueSet (c : Char) : Bool :=
  c.toNat < 0x20 || c.toNat = 0x7F

def fileScheme : List Char := "file".toList

/-- Characters percent-encoded in the query of an address beyond the web. -/
def inForeignQuerySet (scheme : List Char) (c : Char) : Bool :=
  inQuerySet c && (c ≠ '\x27' || scheme = fileScheme)

/-- A host that is not looked up by name: between brackets eight numbers, else any text without
characters that end a host. -/
def opaqueHost? (s : List Char) : Option (List Char) :=
  match s with
  | '[' :: _ => (Host.ofChars? s).map Host.chars
  | _ =>
    if s.any fun c => Host.isForbidden c && c ≠ '%' && !(inOpaqueSet c && c.toNat ≠ 0) then none
    else some (Percent.encode inOpaqueSet s)

/-- Host and port of an address beyond the web. An empty host has neither a user nor a port. -/
def foreignAuthority? (authority : List Char) : Option (List Char) :=
  let (user, hostPort) := userInfo authority
  let (host, port) := hostAndPort false hostPort
  if host.isEmpty then
    if user.isSome || port.isSome then none else some []
  else
    -- No scheme beyond the web has a port of its own.
    match opaqueHost? host, port? (Nat.pow 2 16) port with
    | some host, some port => some (host ++ (port.map fun n => ':' :: decimal n).getD [])
    | _, _ => none

/-- The host of a file; the own machine is none. -/
def fileHost? (authority : List Char) : Option (List Char) :=
  if authority.isEmpty then some []
  else
    (Host.ofChars? authority).map fun host =>
      if host.chars = "localhost".toList then [] else host.chars

/-- A path between slashes, in its normal form. -/
def foreignPath (segments : List (List Char)) : List Char :=
  '/' :: join ['/'] ((resolveDots [] segments).map (Percent.encode inPathSet))

/-- What stands between the scheme and the query of an address. -/
def foreignBody? (scheme rest : List Char) : Option (List Char) :=
  if scheme = fileScheme then
    match rest.span isSlash with
    | (_ :: _ :: more, behind) =>
      let authority := if more.isEmpty then behind.takeWhile (!isSlash ·) else []
      let path := if more.isEmpty then behind.dropWhile (!isSlash ·) else more ++ behind
      (fileHost? authority).map fun host =>
        ['/', '/'] ++ host ++ foreignPath (splitPath (path.drop 1))
    | (lead, behind) => some (['/', '/'] ++ foreignPath (splitPath (lead.drop 1 ++ behind)))
  else
    match rest with
    | '/' :: '/' :: rest =>
      let path := rest.dropWhile (· ≠ '/')
      (foreignAuthority? (rest.takeWhile (· ≠ '/'))).map fun host =>
        ['/', '/'] ++ host ++ (if path.isEmpty then [] else foreignPath (split '/' (path.drop 1)))
    | '/' :: rest =>
      let path := foreignPath (split '/' rest)
      -- Two slashes would begin a host.
      some (if startsWith ['/', '/'] path then ['/', '.'] ++ path else path)
    | rest => some (Percent.encode inOpaqueSet rest)

/-- The normal form of an address whose scheme is none of the web's. -/
def foreign? (s : List Char) : Option (List Char) := do
  let (scheme, rest) ← scheme? (clean s)
  if (schemes.lookup scheme).isSome then none
  else
    let (rest, fragment) := cut '#' rest
    let (rest, query) := cut '?' rest
    let body ← foreignBody? scheme rest
    return scheme ++ ':' :: body ++
      (query.map fun q => '?' :: Percent.encode (inForeignQuerySet scheme) q).getD [] ++
      (fragment.map fun f => '#' :: Percent.encode inFragmentSet f).getD []

end RegistryConsole.Url
