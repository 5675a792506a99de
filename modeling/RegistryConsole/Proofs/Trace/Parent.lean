import RegistryConsole.Proofs.Text.Blank
import RegistryConsole.Proofs.Text.Hexadecimal
import RegistryConsole.Proofs.Text.Split
import RegistryConsole.Proofs.Text.Utf8
import RegistryConsole.Trace.Parent
/-!
# What is read as a trace parent

A text is a trace parent if it has, between blanks, the version, two ids of hexadecimal digits and
the flags with hyphens between them (`ofString?_eq_some_iff`). The flags are two digits, or one
behind a plus sign, which the reader of the number lets pass. A parent in its normal form is read
from its own text (`IsNormal.ofChars?_chars`).
-/
namespace RegistryConsole.Trace

open Text

/-- As many digits as asked for, in either case and not all of them zero. -/
structure IdText (width : Nat) (s : List Char) : Prop where
  length : s.length = width
  digits : ∀ c ∈ s, c.toLower ∈ hexDigits
  nonzero : ∃ c ∈ s, c ≠ '0'

theorem isId_iff {width : Nat} {s : List Char} : isId width s = true ↔ IdText width s := by
  simp only [isId, isHexDigit, Bool.and_eq_true, decide_eq_true_eq, List.all_eq_true,
    hexValue?_isSome_iff, List.any_eq_true, and_assoc]
  exact ⟨fun ⟨hlength, hdigits, hnonzero⟩ => ⟨hlength, hdigits, hnonzero⟩,
    fun h => ⟨h.length, h.digits, h.nonzero⟩⟩

theorem IdText.no_hyphen {width : Nat} {s : List Char} (h : IdText width s) : '-' ∉ s :=
  fun hmem => absurd (h.digits '-' hmem) (by decide)

theorem IdText.lowered {width : Nat} {s : List Char} (h : IdText width s) :
    IdText width (s.map Char.toLower) where
  length := by rw [List.length_map, h.length]
  digits := by
    intro c hc
    obtain ⟨d, hd, rfl⟩ := List.mem_map.mp hc
    rw [toLower_toLower_char]
    exact h.digits d hd
  nonzero := by
    obtain ⟨c, hc, hne⟩ := h.nonzero
    refine ⟨c.toLower, List.mem_map_of_mem hc, fun hzero => hne ?_⟩
    exact eq_of_toLower_eq hzero (by decide)

/-- The flags as two digits, or as one behind a plus sign. -/
inductive FlagsText : List Char → Nat → Prop where
  | digits {c d : Char} {m n : Nat} (hc : hexDigits[m]? = some c.toLower)
      (hd : hexDigits[n]? = some d.toLower) : FlagsText [c, d] (16 * m + n)
  | signed {d : Char} {n : Nat} (hd : hexDigits[n]? = some d.toLower) : FlagsText ['+', d] n

private theorem dropPlus_cons {c : Char} (h : c ≠ '+') (s : List Char) :
    dropPlus (c :: s) = c :: s :=
  dropPlus.eq_2 _ fun _ hplus => h (List.cons.inj hplus).1

theorem FlagsText.chars {s : List Char} {n : Nat} (h : FlagsText s n) :
    ∀ c ∈ s, c = '+' ∨ c.toLower ∈ hexDigits := by
  cases h with
  | digits hc hd =>
      simp [List.mem_of_getElem? hc, List.mem_of_getElem? hd]
  | signed hd => simp [List.mem_of_getElem? hd]

theorem FlagsText.lt {s : List Char} {n : Nat} (h : FlagsText s n) : n < 256 := by
  have hvalue {k : Nat} {c : Char} (h : hexDigits[k]? = some c) : k < 16 :=
    (List.getElem?_eq_some_iff.mp h).1
  cases h with
  | digits hc hd =>
      have hhigh := hvalue hc
      have hlow := hvalue hd
      omega
  | signed hd =>
      have hlow := hvalue hd
      omega

/-- Digits are octets each, so two octets are two characters. -/
private theorem exists_last {c : Char} {s : List Char} (hc : c.toNat < 0x80)
    (hs : ∀ d ∈ s, d.toLower ∈ hexDigits) (h : (Utf8.encodeChars (c :: s)).length = 2) :
    ∃ d, s = [d] := by
  have hascii : ∀ d ∈ c :: s, d.toNat < 0x80 :=
    List.forall_mem_cons.mpr ⟨hc, fun d hd => ascii_of_toLower_mem (hs d hd)⟩
  rw [Utf8.length_encodeChars_of_ascii hascii, List.length_cons] at h
  exact List.length_eq_one_iff.mp (by omega)

theorem FlagsText.of_flags? {s : List Char} {n : Nat} (h : flags? s = some n) :
    FlagsText s n := by
  rw [flags?] at h
  split at h
  next hoctets =>
    split at h
    next => cases h
    next hne =>
      have hdigits := digits_of_digitsValue? h
      cases s with
      | nil => exact absurd rfl hne
      | cons c s =>
          -- the plus sign is none of the digits that are read, but one of the two octets
          by_cases hplus : c = '+'
          · subst hplus
            obtain ⟨d, rfl⟩ := exists_last (by decide) hdigits hoctets
            obtain ⟨m, hm, hvalue⟩ := digitsValue?_cons_eq_some_iff.mp h
            obtain rfl : 0 * 16 + m = n := Option.some.inj hvalue
            rw [Nat.zero_mul, Nat.zero_add]
            exact .signed (hexValue?_eq_some_iff.mp hm)
          · rw [dropPlus_cons hplus] at h hdigits
            rw [List.forall_mem_cons] at hdigits
            obtain ⟨d, rfl⟩ := exists_last (ascii_of_toLower_mem hdigits.1) hdigits.2 hoctets
            obtain ⟨m, hm, h⟩ := digitsValue?_cons_eq_some_iff.mp h
            obtain ⟨k, hk, hvalue⟩ := digitsValue?_cons_eq_some_iff.mp h
            obtain rfl : (0 * 16 + m) * 16 + k = n := Option.some.inj hvalue
            rw [Nat.zero_mul, Nat.zero_add, Nat.mul_comm]
            exact .digits (hexValue?_eq_some_iff.mp hm) (hexValue?_eq_some_iff.mp hk)
  next => cases h

theorem FlagsText.flags?_eq {s : List Char} {n : Nat} (h : FlagsText s n) :
    flags? s = some n := by
  have hascii : ∀ c ∈ s, c.toNat < 0x80 := by
    intro c hc
    obtain rfl | hdigit := h.chars c hc
    · decide
    · exact ascii_of_toLower_mem hdigit
  rw [flags?, Utf8.length_encodeChars_of_ascii hascii]
  cases h with
  | @digits c d m k hc hd =>
      have hplus : c ≠ '+' := by
        rintro rfl
        exact absurd (List.mem_of_getElem? hc) (by decide)
      rw [dropPlus_cons hplus]
      refine digitsValue?_cons_eq_some_iff.mpr ⟨m, hexValue?_eq_some_iff.mpr hc, ?_⟩
      refine digitsValue?_cons_eq_some_iff.mpr ⟨k, hexValue?_eq_some_iff.mpr hd, ?_⟩
      rw [Nat.zero_mul, Nat.zero_add, Nat.mul_comm]
      rfl
  | @signed d k hd =>
      refine digitsValue?_cons_eq_some_iff.mpr ⟨n, hexValue?_eq_some_iff.mpr hd, ?_⟩
      rw [Nat.zero_mul, Nat.zero_add]
      rfl

theorem FlagsText.hexPadded {n : Nat} (h : n < 256) : FlagsText (hexPadded 2 n) n := by
  have hdigit {k : Nat} (hk : k < 16) : hexDigits[k]? = some (hexDigit k).toLower := by
    have h := getElem?_hexDigit hk
    rw [toLower_of_mem_hexDigits _ (List.mem_of_getElem? h), h]
  have hvalue : 16 * (n / 16 % 16) + n % 16 = n := by omega
  have hdigits := FlagsText.digits (hdigit (Nat.mod_lt (n / 16) (by decide)))
    (hdigit (Nat.mod_lt n (by decide)))
  rwa [hvalue] at hdigits

/-- The version, two ids and flags with hyphens between them. -/
def parentChars (traceId parentId flags : List Char) : List Char :=
  ['0', '0'] ++ '-' :: traceId ++ '-' :: parentId ++ '-' :: flags

private theorem parentChars_eq_join (traceId parentId flags : List Char) :
    parentChars traceId parentId flags = join ['-'] [version, traceId, parentId, flags] := by
  simp [parentChars, join, version]

namespace Parent

variable {s traceId parentId flags : List Char} {p : Parent} {n : Nat}

theorem parts_of_ofChars? (h : ofChars? s = some p) :
    ∃ traceId parentId flags, IsTrimmed s (parentChars traceId parentId flags) ∧
      IdText 32 traceId ∧ IdText 16 parentId ∧ FlagsText flags p.flags ∧
      p.traceId = traceId.map Char.toLower ∧ p.parentId = parentId.map Char.toLower := by
  rw [ofChars?] at h
  split at h
  next version' traceId parentId flags hsplit =>
    split at h
    next hparts =>
      simp only [Bool.and_eq_true, decide_eq_true_eq, isId_iff] at hparts
      obtain ⟨⟨rfl, htraceId⟩, hparentId⟩ := hparts
      obtain ⟨n, hflags, rfl⟩ := Option.map_eq_some_iff.mp h
      refine ⟨traceId, parentId, flags, ?_, htraceId, hparentId, .of_flags? hflags, rfl, rfl⟩
      rw [parentChars_eq_join, ← hsplit, join_split]
      exact trimChars_isTrimmed s
    next => cases h
  next => cases h

theorem ofChars?_of_parts (hs : IsTrimmed s (parentChars traceId parentId flags))
    (htraceId : IdText 32 traceId) (hparentId : IdText 16 parentId) (hflags : FlagsText flags n) :
    ofChars? s = some ⟨traceId.map Char.toLower, parentId.map Char.toLower, n⟩ := by
  have hno_hyphen : '-' ∉ flags := fun hmem => by
    obtain h | h := hflags.chars '-' hmem
    · cases h
    · exact absurd h (by decide)
  have hsplit : split '-' (trimChars s) = [version, traceId, parentId, flags] := by
    rw [hs.trimChars_eq, parentChars_eq_join]
    exact split_join (List.cons_ne_nil _ _)
      (by simp [version, htraceId.no_hyphen, hparentId.no_hyphen, hno_hyphen])
  simp only [ofChars?, hsplit, isId_iff.mpr htraceId, isId_iff.mpr hparentId, hflags.flags?_eq]
  rfl

/-- What is read as a trace parent, and as which one. -/
theorem ofString?_eq_some_iff (s : String) (p : Parent) :
    ofString? s = some p ↔ ∃ traceId parentId flags,
      IsTrimmed s.toList (parentChars traceId parentId flags) ∧
      IdText 32 traceId ∧ IdText 16 parentId ∧ FlagsText flags p.flags ∧
      p.traceId = traceId.map Char.toLower ∧ p.parentId = parentId.map Char.toLower := by
  constructor
  · exact parts_of_ofChars?
  · rintro ⟨traceId, parentId, flags, hs, htraceId, hparentId, hflags, htrace, hparent⟩
    obtain ⟨_, _, n⟩ := p
    dsimp only at htrace hparent hflags
    rw [htrace, hparent]
    exact ofChars?_of_parts hs htraceId hparentId hflags

/-- A plus sign before the one digit of the flags is let pass, though it is no digit. -/
theorem ofString?_signed_flags :
    ofString? "00-0af7651916cd43dd8448eb211c80319c-b7ad6b7169203331-+1" =
        some ⟨"0af7651916cd43dd8448eb211c80319c".toList, "b7ad6b7169203331".toList, 1⟩ ∧
      ¬ ∃ traceId parentId c d,
        IsTrimmed "00-0af7651916cd43dd8448eb211c80319c-b7ad6b7169203331-+1".toList
          (parentChars traceId parentId [c, d]) ∧
        IdText 32 traceId ∧ IdText 16 parentId ∧ c.toLower ∈ hexDigits ∧ d.toLower ∈ hexDigits := by
  constructor
  · decide +kernel
  · rintro ⟨traceId, parentId, c, d, hs, -, -, hc, -⟩
    have hlast := congrArg (fun s => s.reverse[1]?) hs.trimChars_eq
    have hplus : (trimChars "00-0af7651916cd43dd8448eb211c80319c-b7ad6b7169203331-+1".toList
        ).reverse[1]? = some '+' := by decide +kernel
    have hflag : (parentChars traceId parentId [c, d]).reverse[1]? = some c := by
      simp [parentChars]
    obtain rfl : '+' = c := Option.some.inj (hplus.symm.trans (hlast.trans hflag))
    exact absurd hc (by decide)

/-- A parent as it is written: ids of small digits and a byte of flags. -/
structure IsNormal (p : Parent) : Prop where
  traceId : IdText 32 p.traceId
  traceIdDigits : p.traceId ⊆ hexDigits
  parentId : IdText 16 p.parentId
  parentIdDigits : p.parentId ⊆ hexDigits
  flags : p.flags < 256

theorem isNormal_of_ofChars? (h : ofChars? s = some p) : p.IsNormal := by
  obtain ⟨traceId, parentId, flags, -, htraceId, hparentId, hflags, htrace, hparent⟩ :=
    parts_of_ofChars? h
  have hdigits {width : Nat} {s : List Char} (h : IdText width s) :
      s.map Char.toLower ⊆ hexDigits := by
    intro c hc
    obtain ⟨d, hd, rfl⟩ := List.mem_map.mp hc
    exact h.digits d hd
  exact {
    traceId := htrace ▸ htraceId.lowered
    traceIdDigits := htrace ▸ hdigits htraceId
    parentId := hparent ▸ hparentId.lowered
    parentIdDigits := hparent ▸ hdigits hparentId
    flags := hflags.lt }

theorem chars_eq (p : Parent) :
    p.chars = parentChars p.traceId p.parentId (hexPadded 2 p.flags) := rfl

namespace IsNormal

theorem chars_subset (h : p.IsNormal) : p.chars ⊆ '-' :: hexDigits := by
  have hflags := hexPadded_subset 2 p.flags
  have hversion : ['0', '0'] ⊆ '-' :: hexDigits := by decide
  rw [chars_eq, parentChars]
  refine List.append_subset.mpr ⟨List.append_subset.mpr ⟨List.append_subset.mpr
    ⟨hversion, ?_⟩, ?_⟩, ?_⟩
  · exact List.cons_subset_cons '-' h.traceIdDigits
  · exact List.cons_subset_cons '-' h.parentIdDigits
  · exact List.cons_subset_cons '-' hflags

theorem chars_length (h : p.IsNormal) : p.chars.length = 55 := by
  simp only [chars_eq, parentChars, List.length_append, List.length_cons, List.length_nil,
    h.traceId.length, h.parentId.length, hexPadded_length]

theorem ofChars?_chars (h : p.IsNormal) : ofChars? p.chars = some p := by
  have hblank : ∀ c ∈ p.chars, isBlank c = false := by
    intro c hc
    obtain rfl | hdigit := List.mem_cons.mp (h.chars_subset hc)
    · decide
    · exact not_isBlank_of_mem_hexDigits c hdigit
  have htrimmed : IsTrimmed p.chars p.chars :=
    trimChars_eq_iff.mp (trimChars_of_no_blank hblank)
  have hlower {s : List Char} (h : s ⊆ hexDigits) : s.map Char.toLower = s :=
    (List.map_congr_left fun c hc => toLower_of_mem_hexDigits c (h hc)).trans (List.map_id s)
  have hread := ofChars?_of_parts htrimmed h.traceId h.parentId (.hexPadded h.flags)
  rwa [hlower h.traceIdDigits, hlower h.parentIdDigits] at hread

end IsNormal

end Parent

end RegistryConsole.Trace
