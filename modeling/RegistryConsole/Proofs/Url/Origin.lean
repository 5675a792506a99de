import Mathlib.Data.List.TakeWhile
import RegistryConsole.Proofs.Url.Segments
/-!
# Origins

Scheme, host and port of an address are those that its authority names (`map_origin_ofParts?`),
which is what stands between the two slashes and the next slash, question mark or hash. So of a text
behind the name of a host only the lead counts, with which it goes on with that authority
(`origin_web`, `lead_name`), and of that only what is behind its last at sign (`originOf?_user`).
-/
namespace RegistryConsole.Url

open Text

/-- Where requests for an address go. -/
structure Origin where
  scheme : List Char
  host : Host
  port : Option Nat
  deriving DecidableEq, Repr

def origin (u : Url) : Origin :=
  { scheme := u.scheme, host := u.host, port := u.port }

/-- The origin that an authority names. -/
def originOf? (scheme : List Char) (schemePort : Nat) (authority : List Char) : Option Origin :=
  let (host, port) := hostAndPort false (userInfo authority).2
  match Host.ofChars? host, port? schemePort port with
  | some host, some port => some { scheme, host, port }
  | _, _ => none

theorem map_origin_ofParts? (scheme : List Char) (schemePort : Nat) (rest : List Char) :
    (ofParts? scheme schemePort rest).map origin =
      originOf? scheme schemePort (authorityOf rest) := by
  rw [originOf?, authorityOf, front]
  unfold ofParts?
  dsimp only
  generalize ((cut '?' (cut '#' rest).1).1.dropWhile isSlash).takeWhile (!isSlash ·) = authority
  cases Host.ofChars? (hostAndPort false (userInfo authority).2).1 with
  | none => rfl
  | some host =>
      cases port? schemePort (hostAndPort false (userInfo authority).2).2 <;> rfl

theorem originOf?_scheme {scheme authority : List Char} {schemePort : Nat} {o : Origin}
    (h : originOf? scheme schemePort authority = some o) : o.scheme = scheme := by
  unfold originOf? at h
  dsimp only at h
  split at h
  next =>
    cases h
    rfl
  next => cases h

theorem originOf?_user {user named : List Char} (h : '@' ∉ named) (scheme : List Char)
    (schemePort : Nat) :
    originOf? scheme schemePort (user ++ '@' :: named) = originOf? scheme schemePort named := by
  have hkeep : ∀ c ∈ named.reverse, decide (c ≠ '@') = true := by
    intro c hc
    rw [decide_eq_true_eq]
    rintro rfl
    exact h (List.mem_reverse.mp hc)
  have hnamed : (userInfo named).2 = named := by
    unfold userInfo
    dsimp only
    rw [List.takeWhile_eq_self_iff.mpr hkeep, List.dropWhile_eq_nil_iff.mpr hkeep,
      List.reverse_reverse]
  have huser : (userInfo (user ++ '@' :: named)).2 = named := by
    unfold userInfo
    dsimp only
    rw [List.reverse_append, List.reverse_cons, List.append_assoc,
      List.takeWhile_append_of_pos hkeep, List.dropWhile_append_of_pos hkeep]
    simp
  rw [originOf?, originOf?, hnamed, huser]

theorem originOf?_nil (scheme : List Char) (schemePort : Nat) :
    originOf? scheme schemePort [] = none := by
  have hnone : Host.ofChars? [] = none := by decide
  show (match Host.ofChars? [], port? schemePort none with
    | some host, some port => some (Origin.mk scheme host port)
    | _, _ => none) = none
  rw [hnone]

/-- Characters that do not end an authority. -/
def inAuthority (c : Char) : Bool :=
  !isSlash c && c ≠ '?' && c ≠ '#'

theorem isSlash_of_inAuthority {c : Char} (h : inAuthority c = true) : isSlash c = false := by
  rw [inAuthority, Bool.and_eq_true, Bool.and_eq_true, Bool.not_eq_true'] at h
  exact h.1.1

theorem cut_eq_takeWhile (sep : Char) (s : List Char) : (cut sep s).1 = s.takeWhile (· ≠ sep) := by
  induction s with
  | nil => rfl
  | cons c s ih =>
      rw [cut]
      by_cases hc : c = sep
      · simp [hc]
      · simp [hc, ih]

theorem front_eq_takeWhile (rest : List Char) :
    front rest = rest.takeWhile fun c => c ≠ '?' && c ≠ '#' := by
  rw [front, cut_eq_takeWhile, cut_eq_takeWhile, List.takeWhile_takeWhile]
  congr 1
  funext c
  simp only [decide_eq_true_eq, Bool.decide_and]

theorem authorityOf_slashes {rest : List Char} (h : ∀ c ∈ rest.head?, isSlash c = false) :
    authorityOf ('/' :: '/' :: rest) = rest.takeWhile inAuthority := by
  have hfront : front ('/' :: '/' :: rest) = '/' :: '/' :: front rest := by
    rw [front_slash, front_slash]
  have hrest : (front rest).dropWhile isSlash = front rest := by
    rw [dropWhile_eq_self_iff, front_eq_takeWhile, List.head?_takeWhile]
    exact fun c hc => h c (Option.filter_eq_some_iff.mp hc).1
  rw [authorityOf, hfront, List.dropWhile_cons_of_pos rfl, List.dropWhile_cons_of_pos rfl, hrest,
    front_eq_takeWhile, List.takeWhile_takeWhile]
  congr 1
  funext c
  simp [inAuthority, Bool.and_assoc]

/-- Web schemes that requests can be sent to, each with its port. -/
def sendableSchemes : List (List Char × Nat) :=
  [("http".toList, 80), ("https".toList, 443)]

theorem sendableSchemes_cases {scheme : List Char} {port : Nat}
    (h : (scheme, port) ∈ sendableSchemes) :
    (scheme = "http".toList ∧ port = 80) ∨ (scheme = "https".toList ∧ port = 443) := by
  simpa [sendableSchemes] using h

theorem scheme?_web {scheme : List Char} {port : Nat} (h : (scheme, port) ∈ sendableSchemes)
    (rest : List Char) : scheme? (scheme ++ ':' :: rest) = some (scheme, rest) ∧
      schemes.lookup scheme = some port := by
  obtain ⟨rfl, rfl⟩ | ⟨rfl, rfl⟩ := sendableSchemes_cases h
  · exact ⟨rfl, rfl⟩
  · exact ⟨rfl, rfl⟩

theorem clean_web {scheme : List Char} {port : Nat} (h : (scheme, port) ∈ sendableSchemes)
    (rest : List Char) :
    clean (scheme ++ "://".toList ++ rest) = scheme ++ ':' :: '/' :: '/' :: cleanTail rest := by
  have hclean := clean_slash (scheme ++ [':', '/']) rest
  have hhead : cleanHead (scheme ++ [':', '/']) = scheme ++ [':', '/'] := by
    obtain ⟨rfl, -⟩ | ⟨rfl, -⟩ := sendableSchemes_cases h
    · decide
    · decide
  rw [hhead, List.append_assoc, List.append_assoc] at hclean
  rw [List.append_assoc]
  exact hclean

/-- The part of a text that goes on with the authority it is put behind. -/
def lead (t : List Char) : List Char :=
  (cleanTail t).takeWhile inAuthority

/-- What follows the scheme names the origin with its lead. -/
theorem origin_web {scheme rest : List Char} {port : Nat}
    (hscheme : (scheme, port) ∈ sendableSchemes)
    (hrest : ∀ c ∈ (cleanTail rest).head?, isSlash c = false) :
    (ofChars? (scheme ++ "://".toList ++ rest)).map origin = originOf? scheme port (lead rest) := by
  obtain ⟨hread, hport⟩ := scheme?_web hscheme ('/' :: '/' :: cleanTail rest)
  rw [ofChars?, clean_web hscheme, hread]
  dsimp only
  rw [hport]
  dsimp only
  rw [map_origin_ofParts?, authorityOf_slashes hrest, lead]

theorem cleanTail_cons {c : Char} (hc : 0x20 < c.toNat) (t : List Char) :
    cleanTail (c :: t) = c :: cleanTail t := by
  have hstays : decide (c.toNat ≤ 0x20) = false := decide_eq_false (Nat.not_le.mpr hc)
  have hkept : (c ≠ '\t' && c ≠ '\n' && c ≠ '\r') = true := by
    have hne {d : Char} (hd : d.toNat ≤ 0x20) : c ≠ d := by
      rintro rfl
      exact Nat.not_le.mpr hc hd
    simp [hne (d := '\t') (by decide), hne (d := '\n') (by decide), hne (d := '\r') (by decide)]
  rw [cleanTail, List.reverse_cons, dropWhile_append_cons hstays, List.reverse_append,
    List.reverse_singleton, List.singleton_append]
  exact List.filter_cons_of_pos hkept

/-- A name of a host and its port, as far as an authority reads on behind it. -/
def IsName (name : List Char) : Prop :=
  ∀ c ∈ name, 0x20 < c.toNat ∧ inAuthority c = true

instance (name : List Char) : Decidable (IsName name) :=
  decidable_of_iff (name.all fun c => 0x20 < c.toNat && inAuthority c) (by simp [IsName])

theorem cleanTail_name {name : List Char} (h : IsName name) (t : List Char) :
    cleanTail (name ++ t) = name ++ cleanTail t := by
  induction name with
  | nil => rfl
  | cons c name ih =>
      obtain ⟨hc, hname⟩ := List.forall_mem_cons.mp h
      rw [List.cons_append, cleanTail_cons hc.1, ih hname, List.cons_append]

theorem lead_name {name : List Char} (h : IsName name) (t : List Char) :
    lead (name ++ t) = name ++ lead t := by
  rw [lead, cleanTail_name h, List.takeWhile_append_of_pos fun c hc => (h c hc).2, lead]

theorem cleanTail_breaks (t : List Char) : ∀ c ∈ cleanTail t, c ∉ ['\t', '\n', '\r'] := by
  intro c hc
  have hkept := (List.mem_filter.mp hc).2
  simp only [Bool.and_eq_true, decide_eq_true_eq] at hkept
  simp [hkept]

theorem cleanTail_slash {t : List Char} (hbreaks : ∀ c ∈ t, c ∉ ['\t', '\n', '\r']) :
    cleanTail (t ++ ['/']) = t ++ ['/'] := by
  rw [cleanTail_eq_self_iff, List.getLast?_concat, List.forall_mem_append,
    List.forall_mem_singleton]
  refine ⟨⟨hbreaks, by decide⟩, ?_⟩
  intro c hc
  obtain rfl : '/' = c := Option.some.inj hc
  decide

theorem lead_slash {t : List Char} (hbreaks : ∀ c ∈ t, c ∉ ['\t', '\n', '\r'])
    (h : ∀ c ∈ t, inAuthority c = true) : lead (t ++ ['/']) = t := by
  rw [lead, cleanTail_slash hbreaks, List.takeWhile_append_of_pos h]
  exact List.append_nil t

theorem lead_breaks (t : List Char) : ∀ c ∈ lead t, c ∉ ['\t', '\n', '\r'] :=
  fun c hc => cleanTail_breaks t c ((List.takeWhile_sublist _).subset hc)

theorem lead_inAuthority (t : List Char) : ∀ c ∈ lead t, inAuthority c = true :=
  fun _ hc => List.mem_takeWhile_imp hc

theorem lead_lead (t : List Char) : lead (lead t ++ ['/']) = lead t :=
  lead_slash (lead_breaks t) (lead_inAuthority t)

theorem lead_of_head? {t : List Char} (h : ∀ c ∈ t.head?, c ∈ ['/', '\\', '?', '#']) :
    lead t = [] := by
  cases t with
  | nil => rfl
  | cons c t =>
      have hends : ['/', '\\', '?', '#'].all (fun c => 0x20 < c.toNat && !inAuthority c) = true :=
        by decide
      have hend := List.all_eq_true.mp hends c (h c rfl)
      rw [Bool.and_eq_true, decide_eq_true_eq, Bool.not_eq_true'] at hend
      rw [lead, cleanTail_cons hend.1, List.takeWhile_cons_of_neg (by simp [hend.2])]

end RegistryConsole.Url
