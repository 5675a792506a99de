import RegistryConsole.Proofs.Text.Split
import RegistryConsole.Url.Basic
/-!
# Addresses below a base

What follows a slash has no say in the scheme and the host of an address. So if there is an address
at the slash behind a base, there is one at everything behind that slash, with the same scheme and
host (`ofChars?_below`).
-/
namespace RegistryConsole.Url

open Text

/-- What is before the query and the fragment. -/
def front (rest : List Char) : List Char :=
  (cut '?' (cut '#' rest).1).1

/-- What names the user, the host and the port: the text up to a slash, behind those it starts
with. -/
def authorityOf (rest : List Char) : List Char :=
  ((front rest).dropWhile isSlash).takeWhile (!isSlash ·)

theorem front_append (s : List Char) :
    (∃ r, ∀ t, front (s ++ t) = r) ∨ ∀ t, front (s ++ t) = s ++ front t := by
  obtain ⟨before, hbefore⟩ | hall := cut_append_fst '#' s
  · exact .inl ⟨(cut '?' before).1, fun t => by rw [front, hbefore]⟩
  · obtain ⟨before, hbefore⟩ | hquery := cut_append_fst '?' s
    · exact .inl ⟨before, fun t => by rw [front, hall, hbefore]⟩
    · exact .inr fun t => by rw [front, hall, hquery, front]

theorem front_slash (t : List Char) : front ('/' :: t) = '/' :: front t := by
  simp [front, cut]

theorem takeWhile_slash (s t : List Char) :
    (s ++ '/' :: t).takeWhile (!isSlash ·) = s.takeWhile (!isSlash ·) := by
  induction s with
  | nil => rfl
  | cons c s ih => rw [List.cons_append, List.takeWhile_cons, List.takeWhile_cons, ih]

theorem authorityOf_slash {s : List Char} (h : authorityOf (s ++ ['/']) ≠ []) (t : List Char) :
    authorityOf (s ++ '/' :: t) = authorityOf (s ++ ['/']) := by
  obtain ⟨r, hr⟩ | happend := front_append s
  · rw [authorityOf, authorityOf, hr, hr]
  · have hdrop (t : List Char) : authorityOf (s ++ '/' :: t) =
        if (s.dropWhile isSlash).isEmpty then
          (('/' :: front t).dropWhile isSlash).takeWhile (!isSlash ·)
        else (s.dropWhile isSlash).takeWhile (!isSlash ·) := by
      rw [authorityOf, happend, front_slash, List.dropWhile_append]
      split
      · rfl
      · rw [takeWhile_slash]
    rw [hdrop] at h ⊢
    split at h
    -- behind slashes alone the slash opens no authority but ends an empty one
    next => exact absurd rfl h
    next hs => rw [hdrop, if_neg hs, if_neg hs]

/-- There is an address, and it leads to a host by a scheme. -/
def LeadsTo (scheme : List Char) (host : Host) (address : Option Url) : Prop :=
  ∃ u, address = some u ∧ u.scheme = scheme ∧ u.host = host

/-- The authority alone decides where an address leads. -/
theorem ofParts?_leadsTo_iff {scheme scheme' rest : List Char} {schemePort : Nat} {host : Host} :
    LeadsTo scheme' host (ofParts? scheme schemePort rest) ↔ scheme = scheme' ∧
      Host.ofChars? (hostAndPort false (userInfo (authorityOf rest)).2).1 = some host ∧
        (port? schemePort (hostAndPort false (userInfo (authorityOf rest)).2).2).isSome := by
  rw [LeadsTo, authorityOf, front]
  unfold ofParts?
  dsimp only
  generalize ((cut '?' (cut '#' rest).1).1.dropWhile isSlash).takeWhile (!isSlash ·) = authority
  cases Host.ofChars? (hostAndPort false (userInfo authority).2).1 with
  | none => simp
  | some host' =>
      cases port? schemePort (hostAndPort false (userInfo authority).2).2 with
      | none => simp
      | some port => simp

theorem authorityOf_ne_nil {scheme scheme' rest : List Char} {schemePort : Nat} {host : Host}
    (h : LeadsTo scheme' host (ofParts? scheme schemePort rest)) : authorityOf rest ≠ [] := by
  intro hnil
  obtain ⟨-, hhost, -⟩ := ofParts?_leadsTo_iff.mp h
  have hnone : Host.ofChars? (hostAndPort false (userInfo []).2).1 = none := by decide
  rw [hnil, hnone] at hhost
  cases hhost

theorem ofParts?_below {scheme scheme' s : List Char} {schemePort : Nat} {host : Host}
    (h : LeadsTo scheme' host (ofParts? scheme schemePort (s ++ ['/']))) (t : List Char) :
    LeadsTo scheme' host (ofParts? scheme schemePort (s ++ '/' :: t)) := by
  have hauthority := authorityOf_slash (authorityOf_ne_nil h) t
  rw [ofParts?_leadsTo_iff] at h ⊢
  rwa [hauthority]

theorem dropWhile_append_cons {p : Char → Bool} {c : Char} (hc : p c = false) (s t : List Char) :
    (s ++ c :: t).dropWhile p = s.dropWhile p ++ c :: t := by
  rw [List.dropWhile_append, List.dropWhile_cons_of_neg (by simp [hc])]
  split
  next h =>
    rw [List.isEmpty_iff.mp h]
    rfl
  next => rfl

/-- What cleaning leaves in front of a slash. -/
def cleanHead (s : List Char) : List Char :=
  (s.dropWhile (·.toNat ≤ 0x20)).filter fun c => c ≠ '\t' && c ≠ '\n' && c ≠ '\r'

/-- What cleaning leaves behind a slash. -/
def cleanTail (t : List Char) : List Char :=
  (t.reverse.dropWhile (·.toNat ≤ 0x20)).reverse.filter fun c => c ≠ '\t' && c ≠ '\n' && c ≠ '\r'

theorem clean_slash (s t : List Char) :
    clean (s ++ '/' :: t) = cleanHead s ++ '/' :: cleanTail t := by
  have hslash : decide ('/'.toNat ≤ 0x20) = false := by decide
  rw [clean, dropWhile_append_cons hslash, List.reverse_append, List.reverse_cons,
    List.append_assoc, List.singleton_append, dropWhile_append_cons hslash, List.reverse_append,
    List.reverse_cons, List.reverse_reverse, List.append_assoc, List.singleton_append,
    List.filter_append, List.filter_cons_of_pos (by decide)]
  rfl

theorem scheme?_below {s scheme rest : List Char} (h : scheme? (s ++ ['/']) = some (scheme, rest)) :
    ∃ r, ∀ t, scheme? (s ++ '/' :: t) = some (scheme, r ++ '/' :: t) := by
  rw [scheme?] at h
  cases hcut : cut ':' s with
  | mk before after =>
      cases after with
      | none => simp [cut_append_none hcut, cut] at h
      | some r =>
          rw [cut_append_some hcut] at h
          have hbelow (t : List Char) := cut_append_some hcut ('/' :: t)
          cases before with
          | nil => cases h
          | cons c name =>
              dsimp only at h
              split at h
              next hname =>
                obtain ⟨rfl, -⟩ := Prod.mk.inj (Option.some.inj h)
                exact ⟨r, fun t => by rw [scheme?, hbelow]; exact if_pos hname⟩
              next => cases h

theorem ofChars?_slash {base scheme : List Char} {host : Host}
    (h : LeadsTo scheme host (ofChars? (base ++ ['/']))) :
    ∃ found port r, ∀ t,
      ofChars? (base ++ '/' :: t) = ofParts? found port (r ++ '/' :: cleanTail t) := by
  rw [ofChars?, clean_slash] at h
  cases hscheme : scheme? (cleanHead base ++ ['/']) with
  | none => simp [cleanTail, hscheme, LeadsTo] at h
  | some found =>
      obtain ⟨found, tail⟩ := found
      obtain ⟨r, hbelow⟩ := scheme?_below hscheme
      cases hport : schemes.lookup found with
      | none => simp [cleanTail, hscheme, hport, LeadsTo] at h
      | some port =>
          refine ⟨found, port, r, fun t => ?_⟩
          rw [ofChars?, clean_slash, hbelow]
          dsimp only
          rw [hport]

/-- Everything below a base leads where the base does. -/
theorem ofChars?_below {base scheme : List Char} {host : Host}
    (h : LeadsTo scheme host (ofChars? (base ++ ['/']))) (t : List Char) :
    LeadsTo scheme host (ofChars? (base ++ '/' :: t)) := by
  obtain ⟨found, port, r, hslash⟩ := ofChars?_slash h
  rw [hslash []] at h
  rw [hslash]
  exact ofParts?_below h (cleanTail t)

end RegistryConsole.Url
