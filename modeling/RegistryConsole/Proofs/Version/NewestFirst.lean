import RegistryConsole.Artifact.Basic
import RegistryConsole.Proofs.Version.Preorder
/-!
# Versions newest first

Versions are sorted by an order that is transitive only up to numbers too long to be counted with.
On a list where it is, sorting does all that is expected of it (`newestFirst_of_isConsistent`), and
it is on every list of bounded versions (`isConsistent_of_bounded`).
-/
namespace RegistryConsole

namespace Version

open Std

/-- The order is transitive on the versions of a list, whatever it is on others. -/
def IsConsistent (versions : List String) : Prop :=
  ∀ a ∈ versions, ∀ b ∈ versions, ∀ c ∈ versions,
    compareVersions a b ≠ .gt → compareVersions b c ≠ .gt → compareVersions a c ≠ .gt

/-- `sorted` holds the versions of a list and none comes before a later one, but those of one rank
stand in the order they have in the list. -/
structure NewestFirst (versions sorted : List String) : Prop where
  perm : sorted.Perm versions
  descending : sorted.Pairwise fun a b => compareVersions a b ≠ .lt
  stable : ∀ v ∈ versions, sorted.filter (compareVersions v · = .eq) =
    versions.filter (compareVersions v · = .eq)
  settled : newestFirst sorted = sorted

theorem compareVersions_ne_lt_iff {a b : String} :
    compareVersions a b ≠ .lt ↔ compareVersions b a ≠ .gt := by
  rw [compareVersions_swap a b]
  cases compareVersions a b <;> decide

theorem compareVersions_total (a b : String) :
    compareVersions a b ≠ .gt ∨ compareVersions b a ≠ .gt := by
  rw [compareVersions_swap a b]
  cases compareVersions a b <;> decide

theorem isConsistent_of_bounded {versions : List String}
    (h : ∀ s ∈ versions, ∀ v ∈ semantic? s, v.IsBounded) : IsConsistent versions := by
  intro a ha b hb c hc
  rw [compareVersions_of_bounded (h a ha) (h b hb), compareVersions_of_bounded (h b hb) (h c hc),
    compareVersions_of_bounded (h a ha) (h c hc)]
  intro hab hbc
  exact (ne_gt_trans_of_transCmp hab hbc).1

variable {versions : List String}

namespace IsConsistent

/-- The order that sorts, on the versions of one list. -/
private def notAfter (versions : List String) (a b : { v // v ∈ versions }) : Bool :=
  compareVersions b a != .gt

private theorem notAfter_iff {a b : { v // v ∈ versions }} :
    notAfter versions a b = true ↔ compareVersions b a ≠ .gt := by
  rw [notAfter, bne_iff_ne]

private theorem notAfter_trans (h : IsConsistent versions) (a b c : { v // v ∈ versions })
    (hab : notAfter versions a b = true) (hbc : notAfter versions b c = true) :
    notAfter versions a c = true := by
  rw [notAfter_iff] at hab hbc ⊢
  exact h c c.2 b b.2 a a.2 hbc hab

private theorem notAfter_total (a b : { v // v ∈ versions }) :
    (notAfter versions a b || notAfter versions b a) = true := by
  rw [Bool.or_eq_true, notAfter_iff, notAfter_iff]
  exact (compareVersions_total a.1 b.1).symm

/-- Only comparisons within the list count. -/
private theorem newestFirst_eq (versions : List String) :
    newestFirst versions = (versions.attach.mergeSort (notAfter versions)).map Subtype.val := by
  rw [List.map_mergeSort (s := fun a b => compareVersions b a != .gt), List.attach_map_subtype_val]
  · rfl
  · intro a _ b _
    rfl

theorem descending (h : IsConsistent versions) :
    (newestFirst versions).Pairwise fun a b => compareVersions a b ≠ .lt := by
  rw [newestFirst_eq, List.pairwise_map]
  refine (List.pairwise_mergeSort h.notAfter_trans notAfter_total versions.attach).imp ?_
  intro a b hab
  rw [compareVersions_ne_lt_iff]
  exact notAfter_iff.mp hab

theorem sublist_newestFirst (h : IsConsistent versions) {part : List String}
    (hpart : part.Sublist versions) (horder : part.Pairwise fun a b => compareVersions b a ≠ .gt) :
    part.Sublist (newestFirst versions) := by
  rw [← List.attach_map_subtype_val versions, List.sublist_map_iff] at hpart
  obtain ⟨part, hpart, rfl⟩ := hpart
  rw [List.pairwise_map] at horder
  rw [newestFirst_eq]
  exact (List.sublist_mergeSort h.notAfter_trans notAfter_total
    (horder.imp fun hab => notAfter_iff.mpr hab) hpart).map Subtype.val

theorem stable (h : IsConsistent versions) {v : String} (hv : v ∈ versions) :
    (newestFirst versions).filter (compareVersions v · = .eq) =
      versions.filter (compareVersions v · = .eq) := by
  have horder : (versions.filter (compareVersions v · = .eq)).Pairwise
      fun a b => compareVersions b a ≠ .gt := by
    refine List.pairwise_of_forall_mem_list fun a ha b hb => ?_
    obtain ⟨ha, hva⟩ := List.mem_filter.mp ha
    obtain ⟨hb, hvb⟩ := List.mem_filter.mp hb
    rw [decide_eq_true_eq] at hva hvb
    refine h b hb v hv a ha ?_ ?_
    · rw [compareVersions_swap v b, hvb]
      decide
    · rw [hva]
      decide
  have hpart :=
    (h.sublist_newestFirst List.filter_sublist horder).filter (compareVersions v · = .eq)
  rw [List.filter_filter] at hpart
  simp only [Bool.and_self] at hpart
  have hperm : (newestFirst versions).Perm versions := List.mergeSort_perm versions _
  exact (hpart.eq_of_length (hperm.filter _).length_eq.symm).symm

end IsConsistent

theorem newestFirst_of_isConsistent (h : IsConsistent versions) :
    NewestFirst versions (newestFirst versions) where
  perm := List.mergeSort_perm versions _
  descending := h.descending
  stable _ hv := h.stable hv
  settled := List.mergeSort_of_pairwise (h.descending.imp fun hab => by
    rw [bne_iff_ne]
    exact compareVersions_ne_lt_iff.mp hab)

end Version

namespace Artifact

/-- `a` is an artifact with its versions newest first, which puts the latest in front, and with
everything else as it is. -/
structure NewestFirst (told a : Artifact) : Prop where
  versions : Version.NewestFirst told.versions a.versions
  others : a = { told with versions := a.versions }
  latest?_eq_none : a.latest? = none ↔ told.versions = []
  latest : ∀ latest ∈ a.latest?, ∀ v ∈ told.versions, Version.compareVersions latest v ≠ .lt
  settled : a.normalized = a

theorem normalized_newestFirst {a : Artifact} (h : Version.IsConsistent a.versions) :
    a.NewestFirst a.normalized := by
  have hsorted : Version.NewestFirst a.versions a.normalized.versions :=
    Version.newestFirst_of_isConsistent h
  refine ⟨hsorted, rfl, ?_, ?_, ?_⟩
  · rw [latest?, List.head?_eq_none_iff, ← List.length_eq_zero_iff, hsorted.perm.length_eq,
      List.length_eq_zero_iff]
  · intro latest hlatest v hv
    obtain ⟨rest, hrest⟩ := List.head?_eq_some_iff.mp hlatest
    have hdescending := hsorted.descending
    have hmem := hsorted.perm.mem_iff.mpr hv
    rw [hrest] at hdescending hmem
    rcases List.mem_cons.mp hmem with rfl | hmem
    · have hself := or_self_iff.mp (Version.compareVersions_total v v)
      exact Version.compareVersions_ne_lt_iff.mpr hself
    · exact List.rel_of_pairwise_cons hdescending hmem
  · exact congrArg (fun versions => { a with versions }) hsorted.settled

end Artifact

end RegistryConsole
