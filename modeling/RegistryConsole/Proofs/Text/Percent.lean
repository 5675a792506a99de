import RegistryConsole.Proofs.Text.Utf8
import RegistryConsole.Text.Percent
/-!
# Laws of percent-encoding

A text stands for the same octets before and after it is encoded, because neither the percent sign
nor a hexadecimal digit is ever encoded (`decode_encode`). It never stands for more octets than it
has, and for its own ones if there is no percent sign in it.
-/
namespace RegistryConsole.Text.Percent

open Utf8

/-- Whether the first two octets are hexadecimal digits. -/
def startsHex : List UInt8 → Bool
  | h :: l :: _ => (octetValue? h).isSome && (octetValue? l).isSome
  | _ => false

theorem decodeOctets_cons {b : UInt8} {bs : List UInt8} (h : b ≠ 0x25 ∨ startsHex bs = false) :
    decodeOctets (b :: bs) = b :: decodeOctets bs := by
  match bs with
  | [] | [_] => rfl
  | high :: low :: rest =>
      rw [decodeOctets]
      split
      next hb =>
        have hhex := h.resolve_left fun hne => hne hb
        rw [startsHex] at hhex
        split
        next h' l' =>
          rw [h', l'] at hhex
          cases hhex
        next => rfl
      next => rfl

theorem decodeOctets_percent {h l : UInt8} {high low : Nat} (hhigh : octetValue? h = some high)
    (hlow : octetValue? l = some low) (rest : List UInt8) :
    decodeOctets (0x25 :: h :: l :: rest) = (high * 16 + low).toUInt8 :: decodeOctets rest := by
  rw [decodeOctets, if_pos rfl, hhigh, hlow]

theorem upperHexDigit_octet : ∀ n < 16, ∃ b, Utf8.encodeChar (upperHexDigit n) = [b] ∧
    octetValue? b = some n := by
  intro n hn
  refine ⟨(upperHexDigit n).toNat.toUInt8, ?_⟩
  revert n
  decide

theorem encodeChars_encodeOctet (b : UInt8) :
    ∃ h l, encodeChars (encodeOctet b) = [0x25, h, l] ∧
      ∀ rest, decodeOctets (0x25 :: h :: l :: rest) = b :: decodeOctets rest := by
  have hb := b.toNat_lt
  obtain ⟨h, hh, hhigh⟩ := upperHexDigit_octet (b.toNat / 16) (by omega)
  obtain ⟨l, hl, hlow⟩ := upperHexDigit_octet (b.toNat % 16) (by omega)
  refine ⟨h, l, ?_, fun rest => ?_⟩
  · simp only [encodeChars, encodeOctet, List.flatMap_cons, List.flatMap_nil, hh, hl]
    rfl
  · have hvalue : (b.toNat / 16 * 16 + b.toNat % 16).toUInt8 = b := by
      rw [Nat.div_add_mod']
      exact UInt8.ofNat_toNat
    rw [decodeOctets_percent hhigh hlow, hvalue]

/-- An octet, or its three octets if it is one of those to encode. -/
def escape (p : UInt8 → Bool) (b : UInt8) : List UInt8 :=
  if p b then encodeChars (encodeOctet b) else [b]

/-- Encoded octets and others that are never encoded. -/
structure Escapable (p : UInt8 → Bool) : Prop where
  percent : p 0x25 = false
  hex : ∀ b, (octetValue? b).isSome → p b = false

variable {p : UInt8 → Bool}

theorem escape_cases (p : UInt8 → Bool) (b : UInt8) :
    escape p b = [b] ∨ ∃ h l, escape p b = [0x25, h, l] ∧
      ∀ rest, decodeOctets (0x25 :: h :: l :: rest) = b :: decodeOctets rest := by
  rw [escape]
  split
  next => exact .inr (encodeChars_encodeOctet b)
  next => exact .inl rfl

/-- A percent sign does not come to stand before two digits. -/
theorem startsHex_flatMap {bs : List UInt8} (h : startsHex bs = false) :
    startsHex (bs.flatMap (escape p)) = false := by
  have hpercent : octetValue? 0x25 = none := by decide
  match bs with
  | [] => rfl
  | [b] =>
      rw [List.flatMap_singleton]
      obtain hb | ⟨_, _, hb, -⟩ := escape_cases p b
      · rw [hb]
        rfl
      · rw [hb, startsHex, hpercent]
        rfl
  | b :: c :: bs =>
      rw [List.flatMap_cons, List.flatMap_cons]
      obtain hb | ⟨_, _, hb, -⟩ := escape_cases p b
      · obtain hc | ⟨_, _, hc, -⟩ := escape_cases p c
        · rw [hb, hc]
          exact h
        · simp [hb, hc, startsHex, hpercent]
      · simp [hb, startsHex, hpercent]

theorem Escapable.decodeOctets_flatMap (hp : Escapable p) (bs : List UInt8) :
    decodeOctets (bs.flatMap (escape p)) = decodeOctets bs := by
  induction hn : bs.length using Nat.strongRecOn generalizing bs with
  | _ n ih =>
      subst hn
      match bs with
      | [] => rfl
      | b :: bs =>
          by_cases hplain : b ≠ 0x25 ∨ startsHex bs = false
          · have hrest := ih bs.length (Nat.lt_succ_self _) bs rfl
            rw [List.flatMap_cons, decodeOctets_cons hplain, ← hrest]
            obtain hb | ⟨h, l, hb, hread⟩ := escape_cases p b
            · rw [hb, List.singleton_append]
              exact decodeOctets_cons (hplain.imp_right startsHex_flatMap)
            · rw [hb]
              exact hread _
          · -- a percent sign and its two digits are none of them encoded
            obtain ⟨hb, hhex⟩ := not_or.mp hplain
            obtain rfl := Decidable.not_not.mp hb
            match bs with
            | [] | [_] => exact absurd rfl hhex
            | h :: l :: rest =>
                rw [Bool.not_eq_false, startsHex, Bool.and_eq_true] at hhex
                obtain ⟨high, hhigh⟩ := Option.isSome_iff_exists.mp hhex.1
                obtain ⟨low, hlow⟩ := Option.isSome_iff_exists.mp hhex.2
                have hrest := ih rest.length (by simp only [List.length_cons]; omega) rest rfl
                simp only [List.flatMap_cons, escape, hp.percent, hp.hex h hhex.1,
                  hp.hex l hhex.2, Bool.false_eq_true, if_false, List.singleton_append]
                rw [decodeOctets_percent hhigh hlow, decodeOctets_percent hhigh hlow, hrest]

theorem decodeOctets_eq_or_lt (bs : List UInt8) :
    decodeOctets bs = bs ∨ (decodeOctets bs).length < bs.length := by
  fun_induction decodeOctets bs with
  | case1 => exact .inl rfl
  | case2 h l rest high low hhigh hlow ih =>
      right
      have hle : (decodeOctets rest).length ≤ rest.length :=
        ih.elim (fun heq => Nat.le_of_eq (congrArg _ heq)) Nat.le_of_lt
      simp only [List.length_cons]
      omega
  | case3 _ _ _ _ ih | case4 _ _ _ _ _ ih | case5 _ _ _ ih =>
      exact ih.imp (congrArg _) Nat.succ_lt_succ

/-- The octets that are encoded if the characters of a set are. -/
def octetSet (inSet : Char → Bool) (b : UInt8) : Bool :=
  0x80 ≤ b || inSet (Char.ofNat b.toNat)

theorem encodeChars_encodeChar (inSet : Char → Bool) (c : Char) :
    encodeChars (encodeChar inSet c) =
      (Utf8.encodeChar c).flatMap (escape (octetSet inSet)) := by
  by_cases hascii : c.toNat < 0x80
  · have hoctets : Utf8.encodeChar c = [c.toNat.toUInt8] := if_pos hascii
    have hback : c.toNat.toUInt8.toNat = c.toNat := by
      rw [Nat.toUInt8_eq, UInt8.toNat_ofNat', Nat.mod_eq_of_lt (by omega)]
    have hlow : ¬ 0x80 ≤ c.toNat.toUInt8 := by
      rw [UInt8.le_iff_toNat_le, hback]
      exact Nat.not_le.mpr hascii
    have hset : octetSet inSet c.toNat.toUInt8 = inSet c := by
      rw [octetSet, decide_eq_false hlow, hback, Char.ofNat_toNat, Bool.false_or]
    rw [encodeChar, decide_eq_false (Nat.not_le.mpr hascii), Bool.false_or, hoctets,
      List.flatMap_singleton, List.flatMap_singleton, escape, hset]
    split
    next => rfl
    next =>
      rw [encodeChars, List.flatMap_singleton]
      exact hoctets
  · have hhigh := encodeChar_of_not_ascii hascii
    have hescape : ∀ b ∈ Utf8.encodeChar c, escape (octetSet inSet) b =
        encodeChars (encodeOctet b) := by
      intro b hb
      rw [escape, octetSet, decide_eq_true (hhigh b hb), Bool.true_or, if_pos rfl]
    rw [encodeChar, decide_eq_true (Nat.le_of_not_lt hascii), Bool.true_or, if_pos rfl,
      encodeChars, List.flatMap_assoc, List.flatMap, List.flatMap, List.map_congr_left hescape]
    rfl

theorem encodeChars_encode (inSet : Char → Bool) (s : List Char) :
    encodeChars (encode inSet s) = (encodeChars s).flatMap (escape (octetSet inSet)) := by
  induction s with
  | nil => rfl
  | cons c s ih =>
      rw [encode, List.flatMap_cons, encodeChars_append, encodeChars_encodeChar]
      rw [encode] at ih
      rw [ih, encodeChars_cons, List.flatMap_append]

theorem decode_encode {inSet : Char → Bool} (h : Escapable (octetSet inSet)) (s : List Char) :
    decode (encode inSet s) = decode s := by
  rw [decode, decode, encodeChars_encode, h.decodeOctets_flatMap]

theorem decode_eq_or_lt (s : List Char) :
    decode s = encodeChars s ∨ (decode s).length < (encodeChars s).length :=
  decodeOctets_eq_or_lt _

theorem decode_ne_nil {s : List Char} (h : s ≠ []) : decode s ≠ [] := by
  have hoctets : encodeChars s ≠ [] := by
    intro hnil
    exact h (encodeChars_inj (hnil.trans rfl))
  rw [decode]
  generalize encodeChars s = bs at hoctets
  fun_cases decodeOctets bs with
  | case1 => contradiction
  | case2 | case3 | case4 | case5 => exact List.cons_ne_nil _ _

theorem decodeOctets_of_not_mem {bs : List UInt8} (h : 0x25 ∉ bs) : decodeOctets bs = bs := by
  induction bs with
  | nil => rfl
  | cons b bs ih =>
      rw [List.mem_cons, not_or] at h
      rw [decodeOctets_cons (.inl (Ne.symm h.1)), ih h.2]

theorem decode_of_not_mem {s : List Char} (h : '%' ∉ s) : decode s = encodeChars s := by
  refine decodeOctets_of_not_mem fun hmem => ?_
  obtain ⟨c, hc, hoctet⟩ := List.mem_flatMap.mp hmem
  by_cases hascii : c.toNat < 0x80
  · have hoctets : Utf8.encodeChar c = [c.toNat.toUInt8] := if_pos hascii
    rw [hoctets, List.mem_singleton] at hoctet
    have hcode : c.toNat = '%'.toNat := by
      have hnat := congrArg UInt8.toNat hoctet
      rw [Nat.toUInt8_eq, UInt8.toNat_ofNat', Nat.mod_eq_of_lt (by omega)] at hnat
      exact hnat.symm
    rw [Char.toNat_inj.mp hcode] at hc
    exact h hc
  · exact absurd (encodeChar_of_not_ascii hascii _ hoctet) (by decide)

theorem decodeText?_of_not_mem {s : List Char} (h : '%' ∉ s) :
    decodeText? s = some (String.ofList s) := by
  rw [decodeText?, decode_of_not_mem h, decode?, decodeChars?_encodeChars]
  rfl

end RegistryConsole.Text.Percent
