import RegistryConsole.Artifact.Basic
import RegistryConsole.Proofs.Text.Case
import RegistryConsole.Proofs.Text.Split
/-!
# Links of artifacts

The parts of a link are the category of an artifact, the segments of its slug and perhaps a version,
all of them in small letters.
-/
namespace RegistryConsole

open Text

namespace Artifact

/-- Letters, digits and the signs that a name may have beside them. -/
def isNameChar (c : Char) : Bool :=
  c.isAlphanum || c = '.' || c = '-' || c = '_'

/-- A text that is no dots and has the characters of names only, and at least one. -/
structure IsName (s : String) : Prop where
  ne_empty : s ≠ ""
  ne_dot : s ≠ "."
  ne_dots : s ≠ ".."
  chars : ∀ c ∈ s.toList, isNameChar c = true

instance (s : String) : Decidable (IsName s) :=
  decidable_of_iff (s ≠ "" ∧ s ≠ "." ∧ s ≠ ".." ∧ s.toList.all isNameChar = true)
    ⟨fun h => ⟨h.1, h.2.1, h.2.2.1, List.all_eq_true.mp h.2.2.2⟩,
      fun h => ⟨h.ne_empty, h.ne_dot, h.ne_dots, List.all_eq_true.mpr h.chars⟩⟩

theorem isNameChar_iff {c : Char} : isNameChar c = true ↔
    (65 ≤ c.toNat ∧ c.toNat ≤ 90) ∨ (97 ≤ c.toNat ∧ c.toNat ≤ 122) ∨
      (48 ≤ c.toNat ∧ c.toNat ≤ 57) ∨ c.toNat = 46 ∨ c.toNat = 45 ∨ c.toNat = 95 := by
  have hdot : c = '.' ↔ c.toNat = 46 := Char.toNat_inj.symm
  have hdash : c = '-' ↔ c.toNat = 45 := Char.toNat_inj.symm
  have hunderscore : c = '_' ↔ c.toNat = 95 := Char.toNat_inj.symm
  simp only [isNameChar, Bool.or_eq_true, decide_eq_true_eq, isAlphanum_iff, hdot, hdash,
    hunderscore, or_assoc]

theorem isNameChar_ascii {c : Char} (h : isNameChar c = true) : c.toNat < 0x80 := by
  rw [isNameChar_iff] at h
  omega

theorem isNameChar_not_mem {c : Char} (h : isNameChar c = true) : c ∉ ['/', '?', '#', '%'] := by
  have hnone : ['/', '?', '#', '%'].all (fun d => !isNameChar d) = true := by decide
  intro hmem
  have hc := List.all_eq_true.mp hnone c hmem
  rw [h] at hc
  cases hc

theorem isNameChar_toLower {c : Char} (h : isNameChar c = true) :
    isNameChar c.toLower = true := by
  obtain hsame | ⟨hlow, hhigh, hshift⟩ := toLower_cases c
  · rwa [hsame]
  · rw [isNameChar_iff]
    omega

/-- The small form of a text of ASCII, as characters. -/
def lowered (s : String) : List Char :=
  s.toList.map Char.toLower

namespace IsName

variable {s : String}

theorem toLower_eq (h : IsName s) : toLower s = String.ofList (lowered s) :=
  toLower_of_ascii fun c hc => isNameChar_ascii (h.chars c hc)

theorem isNameChar_lowered (h : IsName s) {c : Char} (hc : c ∈ lowered s) :
    isNameChar c = true := by
  obtain ⟨d, hd, rfl⟩ := List.mem_map.mp hc
  exact isNameChar_toLower (h.chars d hd)

theorem lowered_ne_nil (h : IsName s) : lowered s ≠ [] := by
  intro hnil
  exact h.ne_empty (String.toList_eq_nil_iff.mp (List.map_eq_nil_iff.mp hnil))

theorem toLower_isEmpty (h : IsName s) : (toLower s).isEmpty = false := by
  rw [Bool.eq_false_iff, ne_eq, String.isEmpty_iff, h.toLower_eq]
  intro hempty
  exact h.lowered_ne_nil (String.toList_ofList.symm.trans (congrArg String.toList hempty))

theorem toLower_toLower (h : IsName s) : toLower (toLower s) = toLower s := by
  have hlower : ∀ c ∈ (toLower s).toList, c.toNat < 0x80 := by
    rw [h.toLower_eq, String.toList_ofList]
    exact fun c hc => isNameChar_ascii (h.isNameChar_lowered hc)
  rw [toLower_of_ascii hlower, h.toLower_eq, String.toList_ofList, lowered, List.map_map]
  congr 2
  funext c
  exact toLower_toLower_char c

end IsName

end Artifact

namespace Slug

open Artifact

variable {slug : Slug}

/-- The slug that names the same artifact in small letters. -/
def lower (s : Slug) : Slug :=
  ⟨toLower s.namespaceName, toLower s.name, s.provider.map toLower⟩

theorem lower_segments (s : Slug) : s.lower.segments = s.segments.map toLower := by
  rw [segments, segments, List.map_append, lower]
  cases s.provider <;> rfl

theorem lower_toLower (h : ∀ s ∈ slug.segments, IsName s) :
    slug.lower.segments.map toLower = slug.segments.map toLower := by
  rw [lower_segments, List.map_map]
  exact List.map_congr_left fun s hs => (h s hs).toLower_toLower

theorem lower_isEmpty (h : ∀ s ∈ slug.segments, IsName s) : slug.lower.isEmpty = false := by
  rw [isEmpty, lower_segments, List.any_map, List.any_eq_false]
  intro s hs
  rw [Function.comp_apply, (h s hs).toLower_isEmpty]
  exact Bool.false_ne_true

end Slug

namespace Artifact

/-- The names in the path to an artifact's page, at a version or without one. -/
def linkNames (a : Artifact) (version : Option String) : List String :=
  a.slug.segments ++ version.toList

def linkParts (a : Artifact) (version : Option String) : List String :=
  a.kind.category :: a.linkNames version

/-- The link to an artifact's page, at a version or without one. -/
def link (a : Artifact) (version : Option String) : String :=
  toLower ("/" ++ "/".intercalate (a.linkParts version))

variable {a : Artifact} {version : Option String}

theorem link_none (a : Artifact) : a.link none = toLower a.basePath := by
  simp [link, linkParts, linkNames, basePath, Slug.joined, Slug.segments, String.append_assoc]

theorem link_some (a : Artifact) (version : String) :
    a.link (some version) = a.versionUrl version := by
  cases hprovider : a.slug.provider <;>
    simp [link, linkParts, linkNames, versionUrl, basePath, Slug.joined, Slug.segments, hprovider,
      String.append_assoc]

theorem url_eq_link (a : Artifact) : a.url = a.link a.latest? := by
  rw [url]
  cases a.latest? with
  | none => exact a.link_none.symm
  | some version => exact (a.link_some version).symm

theorem forall_mem_linkNames {p : String → Prop} : (∀ s ∈ a.linkNames version, p s) ↔
    p a.namespaceName ∧ p a.name ∧ (∀ provider ∈ a.kind.provider?, p provider) ∧
      ∀ v ∈ version, p v := by
  have hnames : a.linkNames version =
      a.namespaceName :: a.name :: (a.kind.provider?.toList ++ version.toList) := rfl
  simp only [hnames, List.forall_mem_cons, List.forall_mem_append, Option.mem_toList,
    Option.mem_def]

theorem linkParts_isName (h : ∀ s ∈ a.linkNames version, IsName s) :
    ∀ s ∈ a.linkParts version, IsName s := by
  have hcategory : IsName a.kind.category := by
    cases a.kind with
    | provider => exact (by decide : IsName "providers")
    | module provider => exact (by decide : IsName "modules")
  exact List.forall_mem_cons.mpr ⟨hcategory, h⟩

theorem link_toList (h : ∀ s ∈ a.linkNames version, IsName s) :
    (a.link version).toList = '/' :: join ['/'] ((a.linkParts version).map lowered) := by
  have hpath : ("/" ++ "/".intercalate (a.linkParts version)).toList =
      '/' :: join ['/'] ((a.linkParts version).map String.toList) :=
    (String.toList_append ..).trans (congrArg ('/' :: ·) (toList_intercalate '/' _))
  have hascii : ∀ c ∈ ("/" ++ "/".intercalate (a.linkParts version)).toList, c.toNat < 0x80 := by
    rw [hpath]
    refine List.forall_mem_cons.mpr ⟨by decide, fun c hc => ?_⟩
    obtain rfl | ⟨part, hpart, hc⟩ := eq_or_mem_of_mem_join hc
    · decide
    · obtain ⟨s, hs, rfl⟩ := List.mem_map.mp hpart
      exact isNameChar_ascii ((linkParts_isName h s hs).chars c hc)
  rw [link, toLower_of_ascii hascii, String.toList_ofList, hpath, List.map_cons, map_join,
    List.map_map]
  rfl

theorem not_mem_of_linkParts (h : ∀ s ∈ a.linkNames version, IsName s) {part : List Char}
    (hpart : part ∈ (a.linkParts version).map lowered) {c : Char} (hc : c ∈ part) :
    c ∉ ['/', '?', '#', '%'] := by
  obtain ⟨s, hs, rfl⟩ := List.mem_map.mp hpart
  exact isNameChar_not_mem ((linkParts_isName h s hs).isNameChar_lowered hc)

end Artifact

end RegistryConsole
