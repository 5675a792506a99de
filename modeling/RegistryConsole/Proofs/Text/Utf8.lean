import RegistryConsole.Text.Utf8
/-!
# Reading UTF-8 back

Every text is read back from its octets. The first octet of a character tells how many follow it and
the range of the second one, which leaves out what a shorter sequence spells, the surrogates, and
what is beyond the last character.
-/
namespace RegistryConsole.Text.Utf8

private theorem lead_pair : ∀ k < 32, 2 ≤ k → ¬ (0xC0 + k).toUInt8 < 0x80 ∧
    lead (0xC0 + k).toUInt8 = some (0x80, 0xBF, 0) ∧ leadBits (0xC0 + k).toUInt8 0 = k := by
  decide

private theorem lead_triple : ∀ k < 16, ¬ (0xE0 + k).toUInt8 < 0x80 ∧
    lead (0xE0 + k).toUInt8 =
      some (if k = 0 then 0xA0 else 0x80, if k = 13 then 0x9F else 0xBF, 1) ∧
    leadBits (0xE0 + k).toUInt8 1 = k := by
  decide

private theorem lead_quadruple : ∀ k < 5, ¬ (0xF0 + k).toUInt8 < 0x80 ∧
    lead (0xF0 + k).toUInt8 =
      some (if k = 0 then 0x90 else 0x80, if k = 4 then 0x8F else 0xBF, 2) ∧
    leadBits (0xF0 + k).toUInt8 2 = k := by
  decide

private theorem toNat_tail : ∀ k < 0x40, (0x80 + k).toUInt8.toNat = 0x80 + k := by
  decide

private theorem pieces_lead {b : UInt8} {low high owed : Nat} (hascii : ¬ b < 0x80)
    (hlead : lead b = some (low, high, owed)) (rest : List UInt8) :
    pieces none (b :: rest) = pieces (some ⟨leadBits b owed, owed, low, high⟩) rest := by
  rw [pieces, if_neg hascii, hlead]

private theorem pieces_tail {bits owed low high k : Nat} (hk : k < 0x40) (hlow : low ≤ 0x80 + k)
    (hhigh : 0x80 + k ≤ high) (rest : List UInt8) :
    pieces (some ⟨bits, owed + 1, low, high⟩) ((0x80 + k).toUInt8 :: rest) =
      pieces (some ⟨bits * 0x40 + k, owed, 0x80, 0xBF⟩) rest := by
  have hbits : (0x80 + k) % 0x40 = k := by omega
  rw [pieces, toNat_tail k hk, if_pos (by simp [hlow, hhigh]), hbits]

private theorem pieces_last {bits low high k : Nat} (hk : k < 0x40) (hlow : low ≤ 0x80 + k)
    (hhigh : 0x80 + k ≤ high) (rest : List UInt8) :
    pieces (some ⟨bits, 0, low, high⟩) ((0x80 + k).toUInt8 :: rest) =
      .char (Char.ofNat (bits * 0x40 + k)) :: pieces none rest := by
  have hbits : (0x80 + k) % 0x40 = k := by omega
  rw [pieces, toNat_tail k hk, if_pos (by simp [hlow, hhigh]), hbits]

theorem pieces_encodeChar (c : Char) (rest : List UInt8) :
    pieces none (encodeChar c ++ rest) = .char c :: pieces none rest := by
  have hvalid : c.toNat < 0xD800 ∨ 0xDFFF < c.toNat ∧ c.toNat < 0x110000 := c.valid
  have hback : Char.ofNat c.toNat = c := Char.ofNat_toNat c
  generalize hn : c.toNat = n at hvalid hback
  simp only [encodeChar, hn]
  split
  next h =>
    have hoctet : n.toUInt8.toNat = n := by simp; omega
    have hascii : n.toUInt8 < 0x80 := by
      rw [UInt8.lt_iff_toNat_lt, hoctet]
      exact h
    rw [List.singleton_append, pieces, if_pos hascii, hoctet, hback]
  next h1 =>
    split
    next h =>
      obtain ⟨hascii, hlead, hbits⟩ := lead_pair (n / 0x40) (by omega) (by omega)
      have hsum : n / 0x40 * 0x40 + n % 0x40 = n := by omega
      rw [List.cons_append, pieces_lead hascii hlead, hbits, List.singleton_append,
        pieces_last (by omega) (by omega) (by omega), hsum, hback]
    next h2 =>
      split
      next h =>
        obtain ⟨hascii, hlead, hbits⟩ := lead_triple (n / 0x1000) (by omega)
        have hsum : (n / 0x1000 * 0x40 + n / 0x40 % 0x40) * 0x40 + n % 0x40 = n := by omega
        rw [List.cons_append, pieces_lead hascii hlead, hbits, List.cons_append,
          pieces_tail (by omega) (by split <;> omega) (by split <;> omega),
          List.singleton_append, pieces_last (by omega) (by omega) (by omega), hsum, hback]
      next h3 =>
        obtain ⟨hascii, hlead, hbits⟩ := lead_quadruple (n / 0x40000) (by omega)
        have hsum : ((n / 0x40000 * 0x40 + n / 0x1000 % 0x40) * 0x40 + n / 0x40 % 0x40) * 0x40 +
            n % 0x40 = n := by omega
        rw [List.cons_append, pieces_lead hascii hlead, hbits, List.cons_append,
          pieces_tail (by omega) (by split <;> omega) (by split <;> omega), List.cons_append,
          pieces_tail (by omega) (by omega) (by omega), List.singleton_append,
          pieces_last (by omega) (by omega) (by omega), hsum, hback]

theorem encodeChar_of_not_ascii {c : Char} (h : ¬ c.toNat < 0x80) :
    ∀ b ∈ encodeChar c, 0x80 ≤ b := by
  have hvalid : c.toNat < 0xD800 ∨ 0xDFFF < c.toNat ∧ c.toNat < 0x110000 := c.valid
  generalize hn : c.toNat = n at h hvalid
  have hle {k : Nat} (hlow : 0x80 ≤ k) (hhigh : k < 0x100) : 0x80 ≤ k.toUInt8 := by
    rw [UInt8.le_iff_toNat_le, Nat.toUInt8_eq, UInt8.toNat_ofNat', Nat.mod_eq_of_lt (by omega)]
    exact hlow
  simp only [encodeChar, hn, if_neg h]
  split
  next =>
    simp only [List.forall_mem_cons]
    exact ⟨hle (by omega) (by omega), hle (by omega) (by omega), nofun⟩
  next =>
    split
    next =>
      simp only [List.forall_mem_cons]
      exact ⟨hle (by omega) (by omega), hle (by omega) (by omega), hle (by omega) (by omega), nofun⟩
    next =>
      simp only [List.forall_mem_cons]
      exact ⟨hle (by omega) (by omega), hle (by omega) (by omega), hle (by omega) (by omega),
        hle (by omega) (by omega), nofun⟩

theorem encodeChars_cons (c : Char) (s : List Char) :
    encodeChars (c :: s) = encodeChar c ++ encodeChars s :=
  List.flatMap_cons

theorem encodeChars_append (s t : List Char) :
    encodeChars (s ++ t) = encodeChars s ++ encodeChars t :=
  List.flatMap_append

theorem length_encodeChars_of_ascii {s : List Char} (h : ∀ c ∈ s, c.toNat < 0x80) :
    (encodeChars s).length = s.length := by
  induction s with
  | nil => rfl
  | cons c s ih =>
      rw [List.forall_mem_cons] at h
      have hone : encodeChar c = [c.toNat.toUInt8] := if_pos h.1
      rw [encodeChars_cons, hone, List.singleton_append, List.length_cons, ih h.2, List.length_cons]

theorem pieces_encodeChars (s : List Char) : pieces none (encodeChars s) = s.map .char := by
  induction s with
  | nil => rfl
  | cons c rest ih =>
      rw [encodeChars, List.flatMap_cons, pieces_encodeChar, List.map_cons, ← ih, encodeChars]

theorem decodeChars?_encodeChars (s : List Char) : decodeChars? (encodeChars s) = some s := by
  rw [decodeChars?, pieces_encodeChars]
  induction s with
  | nil => rfl
  | cons c rest ih =>
      rw [List.map_cons, List.mapM_cons, ih]
      rfl

theorem encodeChars_sublist {s t : List Char} (h : s.Sublist t) :
    (encodeChars s).Sublist (encodeChars t) := by
  induction h with
  | slnil => exact .slnil
  | cons c _ ih => exact ih.trans (List.sublist_append_right (encodeChar c) _)
  | cons_cons c _ ih => exact ih.append_left (encodeChar c)

theorem encodeChars_inj {s t : List Char} (h : encodeChars s = encodeChars t) : s = t := by
  have hs := decodeChars?_encodeChars s
  rw [h, decodeChars?_encodeChars] at hs
  exact (Option.some.inj hs).symm

theorem eq_of_encodeChars_length_le {s t : List Char} (h : s.Sublist t)
    (hlength : (encodeChars t).length ≤ (encodeChars s).length) : s = t :=
  encodeChars_inj ((encodeChars_sublist h).eq_of_length_le hlength)

end RegistryConsole.Text.Utf8
