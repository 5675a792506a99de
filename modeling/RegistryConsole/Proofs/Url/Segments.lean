import RegistryConsole.Proofs.Text.Case
import RegistryConsole.Proofs.Text.Percent
import RegistryConsole.Proofs.Url.Below
/-!
# Segments of a path

What stands below a base is read as segments, and dot segments take others away. A list of texts
with slashes between them comes out as these segments exactly if each of them is a text that a
segment can hold (`ofChars?_segments_iff`): nothing on the way ever adds octets to a path, so a path
that comes out with all of its octets is the one that went in.
-/
namespace RegistryConsole.Url

open Text Utf8

theorem splitPath_ne_nil (s : List Char) : splitPath s ≠ [] := by
  cases s with
  | nil => exact List.cons_ne_nil _ _
  | cons c s =>
      rw [splitPath]
      split
      next => exact List.cons_ne_nil _ _
      next => split <;> exact List.cons_ne_nil _ _

theorem splitPath_slash (s t : List Char) {c : Char} (hc : isSlash c = true) :
    splitPath (s ++ c :: t) = splitPath s ++ splitPath t := by
  induction s with
  | nil => simp [splitPath, hc]
  | cons d s ih =>
      rw [List.cons_append, splitPath, splitPath, ih]
      split
      next => rfl
      next =>
        cases h : splitPath s with
        | nil => exact absurd h (splitPath_ne_nil s)
        | cons segment segments => rfl

theorem splitPath_of_no_slash {s : List Char} (h : ∀ c ∈ s, isSlash c = false) :
    splitPath s = [s] := by
  induction s with
  | nil => rfl
  | cons c s ih =>
      rw [List.forall_mem_cons] at h
      rw [splitPath, h.1, ih h.2]
      rfl

/-- The stack of segments behind one that others follow. -/
def pushSegment (before : List (List Char)) (segment : List Char) : List (List Char) :=
  if isDoubleDot segment then before.tail
  else if isSingleDot segment then before
  else segment :: before

theorem resolveDots_append {segments : List (List Char)} (h : segments ≠ [])
    (before first : List (List Char)) :
    resolveDots before (first ++ segments) =
      resolveDots (first.foldl pushSegment before) segments := by
  induction first generalizing before with
  | nil => rfl
  | cons segment first ih =>
      have hlast : (first ++ segments).isEmpty = false := by simp [h]
      rw [List.cons_append, resolveDots, List.foldl_cons, pushSegment, hlast]
      split
      next => exact ih _
      next =>
        split
        next => exact ih _
        next => exact ih _

theorem cut_of_append_none {sep : Char} {s t : List Char} (h : (cut sep (s ++ t)).2 = none) :
    ∀ t, cut sep (s ++ t) = (s ++ (cut sep t).1, (cut sep t).2) := by
  cases hs : cut sep s with
  | mk before after =>
      cases after with
      | none => exact cut_append_none hs
      | some after =>
          rw [cut_append_some hs] at h
          cases h

/-- The path of an address, from its first slash on. -/
def pathOf (rest : List Char) : List Char :=
  ((front rest).dropWhile isSlash).dropWhile (!isSlash ·)

theorem ofParts?_eq_some {scheme rest : List Char} {schemePort : Nat} {url : Url}
    (h : ofParts? scheme schemePort rest = some url) :
    url.path = segmentsOf (pathOf rest) ∧
      url.query = (cut '?' (cut '#' rest).1).2.map (Percent.encode inQuerySet) ∧
      url.fragment = (cut '#' rest).2.map (Percent.encode inFragmentSet) := by
  unfold ofParts? at h
  dsimp only at h
  split at h
  next =>
    cases h
    exact ⟨rfl, rfl, rfl⟩
  next => cases h

theorem exists_stack (s : List Char) : ∃ stack, ∀ t,
    segmentsOf (s.dropWhile (!isSlash ·) ++ '/' :: t) =
      (resolveDots stack (splitPath t)).map (Percent.encode inPathSet) := by
  cases h : s.dropWhile (!isSlash ·) with
  | nil => exact ⟨[], fun t => rfl⟩
  | cons c rest =>
      have hc : isSlash c = true := by
        have hhead := List.head?_dropWhile_not (!isSlash ·) s
        rw [h] at hhead
        simpa using hhead
      refine ⟨(splitPath rest).foldl pushSegment [], fun t => ?_⟩
      rw [← resolveDots_append (splitPath_ne_nil t), ← splitPath_slash rest t (c := '/') rfl]
      simp only [segmentsOf, List.cons_append, hc, if_true]

/-- What is below a base is read on the stack that the base's own path leaves. -/
theorem ofChars?_below_path {base : List Char} {root : Url}
    (h : ofChars? (base ++ ['/']) = some root) (hquery : root.query = none)
    (hfragment : root.fragment = none) :
    ∃ stack : List (List Char), root.path = (stack.reverse ++ [[]]).map (Percent.encode inPathSet) ∧
      ∀ t, ∃ url, ofChars? (base ++ '/' :: t) = some url ∧
        url.path = (resolveDots stack (splitPath (front (cleanTail t)))).map
          (Percent.encode inPathSet) ∧
        url.query = (cut '?' (cut '#' (cleanTail t)).1).2.map (Percent.encode inQuerySet) := by
  have hleads : LeadsTo root.scheme root.host (ofChars? (base ++ ['/'])) := ⟨root, h, rfl, rfl⟩
  obtain ⟨scheme, port, r, hslash⟩ := ofChars?_slash hleads
  have hroot : ofParts? scheme port (r ++ ['/']) = some root := (hslash []).symm.trans h
  obtain ⟨hpath, hq, hf⟩ := ofParts?_eq_some hroot
  rw [hfragment, eq_comm, Option.map_eq_none_iff] at hf
  have hmark := cut_of_append_none hf
  rw [hquery, eq_comm, Option.map_eq_none_iff, hmark] at hq
  have hquestion := cut_of_append_none hq
  have hfront (t : List Char) : front (r ++ '/' :: t) = r ++ '/' :: front t := by
    rw [front, hmark, hquestion, ← front_slash]
    rfl
  have hauthority : r.dropWhile isSlash ≠ [] := by
    intro hnil
    refine authorityOf_ne_nil ⟨root, hroot, rfl, rfl⟩ ?_
    rw [authorityOf, hfront, List.dropWhile_append, hnil]
    rfl
  have hpathOf (t : List Char) : pathOf (r ++ '/' :: t) =
      (r.dropWhile isSlash).dropWhile (!isSlash ·) ++ '/' :: front t := by
    rw [pathOf, hfront, List.dropWhile_append, if_neg (by simpa using hauthority),
      dropWhile_append_cons rfl]
  obtain ⟨stack, hstack⟩ := exists_stack (r.dropWhile isSlash)
  refine ⟨stack, ?_, fun t => ?_⟩
  · rw [hpath, hpathOf, hstack, ← List.reverse_cons]
    rfl
  · obtain ⟨url, hurl, -⟩ := ofChars?_below hleads t
    have hparts := hurl
    rw [hslash] at hparts
    obtain ⟨hpath, hq, -⟩ := ofParts?_eq_some hparts
    refine ⟨url, hurl, ?_, ?_⟩
    · rw [hpath, hpathOf, hstack]
    · rw [hq, hmark, hquestion]
      rfl

/-- The octets of segments with a slash behind each. -/
def weight : List (List UInt8) → Nat
  | [] => 0
  | segment :: segments => segment.length + 1 + weight segments

theorem weight_cons (segment : List UInt8) (segments : List (List UInt8)) :
    weight (segment :: segments) = segment.length + 1 + weight segments := rfl

theorem weight_append (segments segments' : List (List UInt8)) :
    weight (segments ++ segments') = weight segments + weight segments' := by
  induction segments with
  | nil => exact (Nat.zero_add _).symm
  | cons segment segments ih =>
      rw [List.cons_append, weight_cons, weight_cons, ih]
      exact (Nat.add_assoc ..).symm

theorem weight_reverse (segments : List (List UInt8)) :
    weight segments.reverse = weight segments := by
  induction segments with
  | nil => rfl
  | cons segment segments ih =>
      rw [List.reverse_cons, weight_append, ih, weight_cons, Nat.add_comm]
      rfl

theorem encodeChars_slash {c : Char} (hc : isSlash c = true) (s : List Char) :
    (encodeChars (c :: s)).length = (encodeChars s).length + 1 := by
  rw [isSlash, Bool.or_eq_true, decide_eq_true_eq, decide_eq_true_eq] at hc
  obtain rfl | rfl := hc <;> rfl

theorem weight_splitPath (s : List Char) :
    weight ((splitPath s).map encodeChars) = (encodeChars s).length + 1 := by
  induction s with
  | nil => rfl
  | cons c s ih =>
      rw [splitPath]
      split
      next hc =>
        rw [encodeChars_slash hc, List.map_cons, weight_cons, ih]
        exact Nat.add_comm 1 _
      next =>
        cases h : splitPath s with
        | nil => exact absurd h (splitPath_ne_nil s)
        | cons segment segments =>
            rw [h, List.map_cons, weight_cons] at ih
            simp only [List.map_cons, weight_cons, encodeChars_cons, List.length_append]
            omega

theorem weight_of_join {segments : List (List Char)} (h : segments ≠ []) :
    weight (segments.map encodeChars) = (encodeChars (join ['/'] segments)).length + 1 := by
  induction segments with
  | nil => exact absurd rfl h
  | cons segment segments ih =>
      cases segments with
      | nil => rfl
      | cons next segments =>
          rw [List.map_cons, weight_cons, ih (List.cons_ne_nil _ _), join_cons_cons,
            encodeChars_append,
            List.length_append, encodeChars_slash rfl]
          omega

theorem map_decode_eq_or_lt (segments : List (List Char)) :
    segments.map Percent.decode = segments.map encodeChars ∨
      weight (segments.map Percent.decode) < weight (segments.map encodeChars) := by
  induction segments with
  | nil => exact .inl rfl
  | cons segment segments ih =>
      simp only [List.map_cons, weight_cons]
      obtain hsegment | hsegment := Percent.decode_eq_or_lt segment
      · rw [hsegment]
        exact ih.imp (congrArg _) (Nat.add_lt_add_left · _)
      · have hle : weight (segments.map Percent.decode) ≤ weight (segments.map encodeChars) :=
          ih.elim (fun heq => Nat.le_of_eq (congrArg _ heq)) Nat.le_of_lt
        exact .inr (by omega)

theorem weight_tail_le (segments : List (List UInt8)) :
    weight segments.tail ≤ weight segments := by
  cases segments with
  | nil => exact Nat.le_refl _
  | cons segment segments => exact Nat.le_add_left _ _

theorem ne_nil_of_dots {segment : List Char}
    (h : isDoubleDot segment = true ∨ isSingleDot segment = true) : segment ≠ [] := by
  rintro rfl
  obtain h | h := h <;> exact absurd h (by decide)

theorem weight_map_decode_le (segments : List (List Char)) :
    weight (segments.map Percent.decode) ≤ weight (segments.map encodeChars) :=
  (map_decode_eq_or_lt segments).elim (fun heq => Nat.le_of_eq (congrArg _ heq)) Nat.le_of_lt

theorem resolveDots_eq_or_lt (before segments : List (List Char)) :
    resolveDots before segments = before.reverse ++ segments ∨
      weight ((resolveDots before segments).map Percent.decode) <
        weight (before.map Percent.decode) + weight (segments.map Percent.decode) := by
  induction segments generalizing before with
  | nil => exact .inl (List.append_nil _).symm
  | cons segment segments ih =>
      rw [List.map_cons, weight_cons]
      have htail := weight_tail_le (before.map Percent.decode)
      rw [← List.map_tail] at htail
      have hnil (stack : List (List Char)) :
          weight (([] :: stack).map Percent.decode) = 1 + weight (stack.map Percent.decode) := rfl
      -- a dot segment goes, and there is one empty segment for it at the most
      have hlost (stack : List (List Char))
          (hdots : isDoubleDot segment = true ∨ isSingleDot segment = true)
          (hstack : weight (stack.map Percent.decode) ≤ weight (before.map Percent.decode) + 1) :
          weight ((resolveDots stack segments).map Percent.decode) <
            weight (before.map Percent.decode) + ((Percent.decode segment).length + 1 +
              weight (segments.map Percent.decode)) := by
        have hpos := List.length_pos_iff.mpr (Percent.decode_ne_nil (ne_nil_of_dots hdots))
        obtain heq | hlt := ih stack
        · rw [heq, List.map_append, List.map_reverse, weight_append, weight_reverse]
          omega
        · omega
      rw [resolveDots]
      split
      next hdots =>
        refine .inr (hlost _ (.inl hdots) ?_)
        split
        next =>
          rw [hnil]
          omega
        next => omega
      next =>
        split
        next hdots =>
          refine .inr (hlost _ (.inr hdots) ?_)
          split
          next =>
            rw [hnil]
            omega
          next => omega
        next =>
          obtain heq | hlt := ih (segment :: before)
          · left
            rw [heq, List.reverse_cons, List.append_assoc, List.singleton_append]
          · right
            rw [List.map_cons, weight_cons] at hlt
            omega

theorem of_resolveDots {stack segments : List (List Char)} {s : List Char}
    (hs : s.Sublist (join ['/'] segments)) (hne : segments ≠ [])
    (h : (resolveDots stack (splitPath s)).map Percent.decode =
      stack.reverse.map Percent.decode ++ segments.map encodeChars) :
    s = join ['/'] segments ∧ splitPath s = segments ∧
      segments.map Percent.decode = segments.map encodeChars := by
  have hweight := congrArg weight h
  have hlength := (encodeChars_sublist hs).length_le
  have hsplit := weight_splitPath s
  have hjoin := weight_of_join hne
  rw [weight_append, List.map_reverse, weight_reverse] at hweight
  have hresolved : resolveDots stack (splitPath s) = stack.reverse ++ splitPath s := by
    refine (resolveDots_eq_or_lt stack (splitPath s)).resolve_right fun hlost => ?_
    have hle := weight_map_decode_le (splitPath s)
    omega
  rw [hresolved, List.map_append, List.append_cancel_left_eq] at h
  have hplain : (splitPath s).map Percent.decode = (splitPath s).map encodeChars := by
    refine (map_decode_eq_or_lt (splitPath s)).resolve_right fun hfewer => ?_
    rw [h] at hfewer
    omega
  have hsegments : splitPath s = segments :=
    (List.map_inj_right fun _ _ => encodeChars_inj).mp (hplain.symm.trans h)
  rw [hsegments] at hsplit hplain
  exact ⟨eq_of_encodeChars_length_le hs (by omega), hsegments, hplain⟩

theorem inPathSet_escapable : Percent.Escapable (Percent.octetSet inPathSet) where
  percent := by decide
  hex b h := by
    have hall : ∀ n < 256, (Percent.octetValue? n.toUInt8).isSome →
        Percent.octetSet inPathSet n.toUInt8 = false := by decide +kernel
    have hback : b.toNat.toUInt8 = b := UInt8.ofNat_toNat
    rw [← hback] at h ⊢
    exact hall b.toNat b.toNat_lt h

theorem front_sublist (t : List Char) : (front t).Sublist t :=
  (cut_sublist '?' _).trans (cut_sublist '#' t)

theorem front_eq_self_iff {t : List Char} : front t = t ↔ '#' ∉ t ∧ '?' ∉ t := by
  constructor
  · intro h
    have hcut : (cut '#' t).1 = t := by
      refine (cut_sublist '#' t).eq_of_length_le ?_
      have hle := (cut_sublist '?' (cut '#' t).1).length_le
      rwa [← front, h] at hle
    rw [front, hcut] at h
    exact ⟨cut_eq_self_iff.mp hcut, cut_eq_self_iff.mp h⟩
  · rintro ⟨hmark, hquestion⟩
    rw [front, cut_eq_self_iff.mpr hmark, cut_eq_self_iff.mpr hquestion]

theorem dropTail_sublist (t : List Char) :
    (t.reverse.dropWhile (·.toNat ≤ 0x20)).reverse.Sublist t := by
  have h := (List.dropWhile_sublist (l := t.reverse) (·.toNat ≤ 0x20)).reverse
  rwa [List.reverse_reverse] at h

theorem cleanTail_sublist (t : List Char) : (cleanTail t).Sublist t :=
  List.filter_sublist.trans (dropTail_sublist t)

theorem dropWhile_eq_self_iff {p : Char → Bool} {s : List Char} :
    s.dropWhile p = s ↔ ∀ c ∈ s.head?, p c = false := by
  cases s with
  | nil => simp
  | cons c s =>
      cases hc : p c with
      | true =>
          have hshort : ¬ s.dropWhile p = c :: s := by
            intro heq
            have hle := (List.dropWhile_sublist (l := s) p).length_le
            rw [heq, List.length_cons] at hle
            omega
          simp [List.dropWhile_cons_of_pos, hc, hshort]
      | false => simp [hc]

theorem dropTail_eq_self_iff {t : List Char} :
    (t.reverse.dropWhile (·.toNat ≤ 0x20)).reverse = t ↔ ∀ c ∈ t.getLast?, 0x20 < c.toNat := by
  rw [← List.reverse_inj, List.reverse_reverse, dropWhile_eq_self_iff, List.head?_reverse]
  simp only [decide_eq_false_iff_not, Nat.not_le]

theorem cleanTail_eq_self_iff {t : List Char} : cleanTail t = t ↔
    (∀ c ∈ t, c ∉ ['\t', '\n', '\r']) ∧ ∀ c ∈ t.getLast?, 0x20 < c.toNat := by
  have hkeep (c : Char) : (c ≠ '\t' && c ≠ '\n' && c ≠ '\r') = true ↔
      c ∉ ['\t', '\n', '\r'] := by simp [and_assoc]
  constructor
  · intro h
    have htail : (t.reverse.dropWhile (·.toNat ≤ 0x20)).reverse = t := by
      refine (dropTail_sublist t).eq_of_length_le ?_
      have hle := (List.filter_sublist (p := fun c => c ≠ '\t' && c ≠ '\n' && c ≠ '\r')
        (l := (t.reverse.dropWhile (·.toNat ≤ 0x20)).reverse)).length_le
      rwa [← cleanTail, h] at hle
    rw [cleanTail, htail, List.filter_eq_self] at h
    exact ⟨fun c hc => (hkeep c).mp (h c hc), dropTail_eq_self_iff.mp htail⟩
  · rintro ⟨hbreaks, hlast⟩
    rw [cleanTail, dropTail_eq_self_iff.mpr hlast, List.filter_eq_self]
    exact fun c hc => (hkeep c).mpr (hbreaks c hc)

theorem whole_iff {t : List Char} : front t = t ∧ cleanTail t = t ↔
    (∀ c ∈ t, c ∉ ['?', '#', '\t', '\n', '\r']) ∧ ∀ c ∈ t.getLast?, 0x20 < c.toNat := by
  have hmarks : (∀ c ∈ t, c ∉ ['?', '#', '\t', '\n', '\r']) ↔
      ('#' ∉ t ∧ '?' ∉ t) ∧ ∀ c ∈ t, c ∉ ['\t', '\n', '\r'] := by
    grind
  rw [hmarks, and_assoc, ← cleanTail_eq_self_iff, ← front_eq_self_iff]

theorem eq_self_of_front_cleanTail {t : List Char} (h : front (cleanTail t) = t) :
    front t = t ∧ cleanTail t = t := by
  have hclean : cleanTail t = t := by
    refine (cleanTail_sublist t).eq_of_length_le ?_
    have hle := (front_sublist (cleanTail t)).length_le
    rwa [h] at hle
  rw [hclean] at h
  exact ⟨h, hclean⟩

theorem no_slash_of_mem_splitPath {s t : List Char} (h : s ∈ splitPath t) :
    ∀ c ∈ s, isSlash c = false := by
  induction t generalizing s with
  | nil =>
      rw [splitPath, List.mem_singleton] at h
      subst h
      exact nofun
  | cons d t ih =>
      rw [splitPath] at h
      split at h
      next =>
        obtain rfl | h := List.mem_cons.mp h
        · exact nofun
        · exact ih h
      next hd =>
        cases ht : splitPath t with
        | nil => exact absurd ht (splitPath_ne_nil t)
        | cons segment segments =>
            rw [ht] at h ih
            obtain rfl | h := List.mem_cons.mp h
            · rw [List.forall_mem_cons]
              exact ⟨eq_false_of_ne_true hd, ih List.mem_cons_self⟩
            · exact ih (List.mem_cons_of_mem _ h)

theorem splitPath_join {segments : List (List Char)} (hne : segments ≠ [])
    (h : ∀ s ∈ segments, ∀ c ∈ s, isSlash c = false) :
    splitPath (join ['/'] segments) = segments := by
  induction segments with
  | nil => exact absurd rfl hne
  | cons segment segments ih =>
      rw [List.forall_mem_cons] at h
      cases segments with
      | nil => exact splitPath_of_no_slash h.1
      | cons next segments =>
          rw [join_cons_cons, splitPath_slash _ _ rfl, splitPath_of_no_slash h.1,
            ih (List.cons_ne_nil _ _) h.2, List.singleton_append]

/-- The texts for a dot. -/
def dots : List (List Char) :=
  [".".toList, "%2e".toList, "%2E".toList]

theorem isSingleDot_iff {s : List Char} :
    isSingleDot s = true ↔ s.map Char.toLower = ".".toList ∨ s.map Char.toLower = "%2e".toList := by
  simp [isSingleDot]

theorem mem_dots {s : List Char} (h : isSingleDot s = true) : s ∈ dots := by
  obtain hdot | hescape := isSingleDot_iff.mp h
  · obtain ⟨c, rest, rfl, hc, hrest⟩ := List.map_eq_cons_iff.mp hdot
    obtain rfl := List.map_eq_nil_iff.mp hrest
    obtain rfl := eq_of_toLower_eq hc (by decide)
    exact List.mem_cons_self
  · obtain ⟨c, rest, rfl, hc, hrest⟩ := List.map_eq_cons_iff.mp hescape
    obtain ⟨d, rest, rfl, hd, hrest⟩ := List.map_eq_cons_iff.mp hrest
    obtain ⟨e, rest, rfl, he, hrest⟩ := List.map_eq_cons_iff.mp hrest
    obtain rfl := List.map_eq_nil_iff.mp hrest
    obtain rfl := eq_of_toLower_eq hc (by decide)
    obtain rfl := eq_of_toLower_eq hd (by decide)
    obtain rfl | rfl := eq_of_toLower_eq_e he <;> decide

theorem isDoubleDot_cases {s : List Char} (h : isDoubleDot s = true) :
    ∃ a ∈ dots, ∃ b ∈ dots, s = a ++ b := by
  have hsmall : ∃ a b, isSingleDot a = true ∧ isSingleDot b = true ∧
      s.map Char.toLower = a.map Char.toLower ++ b.map Char.toLower := by
    simp only [isDoubleDot, Bool.or_eq_true, decide_eq_true_eq] at h
    obtain ((h | h) | h) | h := h
    · exact ⟨".".toList, ".".toList, rfl, rfl, h⟩
    · exact ⟨".".toList, "%2e".toList, rfl, rfl, h⟩
    · exact ⟨"%2e".toList, ".".toList, rfl, rfl, h⟩
    · exact ⟨"%2e".toList, "%2e".toList, rfl, rfl, h⟩
  obtain ⟨a, b, ha, hb, hab⟩ := hsmall
  obtain ⟨first, second, rfl, hfirst, hsecond⟩ := List.map_eq_append_iff.mp hab
  rw [isSingleDot_iff, ← hfirst, ← isSingleDot_iff] at ha
  rw [isSingleDot_iff, ← hsecond, ← isSingleDot_iff] at hb
  exact ⟨first, mem_dots ha, second, mem_dots hb, rfl⟩

theorem decode_of_dots {s : List Char} (h : isDoubleDot s = true ∨ isSingleDot s = true) :
    Percent.decode s = encodeChars ['.', '.'] ∨ Percent.decode s = encodeChars ['.'] := by
  obtain hdouble | hsingle := h
  · left
    have hall : ∀ a ∈ dots, ∀ b ∈ dots, Percent.decode (a ++ b) = encodeChars ['.', '.'] := by
      decide
    obtain ⟨a, ha, b, hb, rfl⟩ := isDoubleDot_cases hdouble
    exact hall a ha b hb
  · right
    have hall : ∀ a ∈ dots, Percent.decode a = encodeChars ['.'] := by decide
    exact hall s (mem_dots hsingle)

theorem resolveDots_of_no_dots {segments : List (List Char)}
    (h : ∀ s ∈ segments, ¬ (isDoubleDot s = true ∨ isSingleDot s = true))
    (before : List (List Char)) : resolveDots before segments = before.reverse ++ segments := by
  induction segments generalizing before with
  | nil => exact (List.append_nil _).symm
  | cons segment segments ih =>
      rw [List.forall_mem_cons, not_or] at h
      rw [resolveDots, if_neg h.1.1, if_neg h.1.2, ih h.2, List.reverse_cons, List.append_assoc,
        List.singleton_append]

/-- The characters that separate segments, end the path or are dropped. -/
def separators : List Char :=
  ['/', '\\', '?', '#', '\t', '\n', '\r']

/-- A text that a path can hold in one segment, without separators and without escapes. -/
structure IsSegment (s : List Char) : Prop where
  plain : ∀ c ∈ s, c ∉ separators
  unescaped : Percent.decode s = encodeChars s

instance (s : List Char) : Decidable (IsSegment s) :=
  decidable_of_iff (s.all (· ∉ separators) = true ∧ Percent.decode s = encodeChars s)
    ⟨fun h => ⟨by simpa using h.1, h.2⟩, fun h => ⟨by simpa using h.plain, h.unescaped⟩⟩

theorem not_mem_separators {c : Char} :
    c ∉ separators ↔ isSlash c = false ∧ c ∉ ['?', '#', '\t', '\n', '\r'] := by
  simp [separators, isSlash, and_assoc]

/-- Below a base without query and fragment, texts other than dots come out as the segments behind
the base's own, and without a query, exactly if each is one that a segment holds and the last does
not end in a blank or a control. -/
theorem ofChars?_segments_iff {base : List Char} {root : Url} {segments : List (List Char)}
    (h : ofChars? (base ++ ['/']) = some root) (hquery : root.query = none)
    (hfragment : root.fragment = none) (hne : segments ≠ [])
    (hdots : ∀ s ∈ segments, s ≠ ['.'] ∧ s ≠ ['.', '.']) :
    ∃ url, ofChars? (base ++ '/' :: join ['/'] segments) = some url ∧
      (url.query = none ∧ url.path.map Percent.decode =
          root.path.dropLast.map Percent.decode ++ segments.map encodeChars ↔
        (∀ s ∈ segments, IsSegment s) ∧
          ∀ c ∈ (join ['/'] segments).getLast?, 0x20 < c.toNat) := by
  obtain ⟨stack, hroot, hbelow⟩ := ofChars?_below_path h hquery hfragment
  obtain ⟨url, hurl, hpath, hq⟩ := hbelow (join ['/'] segments)
  have hdecode (l : List (List Char)) : (l.map (Percent.encode inPathSet)).map Percent.decode =
      l.map Percent.decode := by
    rw [List.map_map]
    exact List.map_congr_left fun s _ => Percent.decode_encode inPathSet_escapable s
  have hprefix : root.path.dropLast.map Percent.decode = stack.reverse.map Percent.decode := by
    rw [hroot, List.map_append, List.map_singleton, List.dropLast_concat, hdecode]
  refine ⟨url, hurl, ?_⟩
  rw [hpath, hq, hdecode, hprefix, Option.map_eq_none_iff]
  constructor
  · rintro ⟨-, hmain⟩
    have hsublist := (front_sublist _).trans (cleanTail_sublist (join ['/'] segments))
    obtain ⟨htext, hsplit, hplain⟩ := of_resolveDots hsublist hne hmain
    obtain ⟨hmarks, hlast⟩ := whole_iff.mp (eq_self_of_front_cleanTail htext)
    refine ⟨fun s hs => ⟨fun c hc => ?_, List.map_inj_left.mp hplain s hs⟩, hlast⟩
    have hslash := no_slash_of_mem_splitPath (by rwa [hsplit]) c hc
    have hsep : c ≠ '/' := by
      rintro rfl
      cases hslash
    exact not_mem_separators.mpr ⟨hslash, hmarks c ((mem_join_iff hsep).mpr ⟨s, hs, hc⟩)⟩
  · rintro ⟨hsegments, hlast⟩
    have hslash : ∀ s ∈ segments, ∀ c ∈ s, isSlash c = false := fun s hs c hc =>
      (not_mem_separators.mp ((hsegments s hs).plain c hc)).1
    have hmarks : ∀ c ∈ join ['/'] segments, c ∉ ['?', '#', '\t', '\n', '\r'] := by
      intro c hc
      by_cases hsep : c = '/'
      · rw [hsep]
        decide
      · obtain ⟨s, hs, hc⟩ := (mem_join_iff hsep).mp hc
        exact (not_mem_separators.mp ((hsegments s hs).plain c hc)).2
    have hnodots : ∀ s ∈ segments, ¬ (isDoubleDot s = true ∨ isSingleDot s = true) := by
      intro s hs hdot
      obtain hdouble | hsingle := decode_of_dots hdot
      · exact (hdots s hs).2 (encodeChars_inj ((hsegments s hs).unescaped.symm.trans hdouble))
      · exact (hdots s hs).1 (encodeChars_inj ((hsegments s hs).unescaped.symm.trans hsingle))
    obtain ⟨hfront, hclean⟩ := whole_iff.mpr ⟨hmarks, hlast⟩
    obtain ⟨hmark, hquestion⟩ := front_eq_self_iff.mp hfront
    rw [hclean, hfront, cut_of_not_mem hmark, cut_of_not_mem hquestion,
      splitPath_join hne hslash, resolveDots_of_no_dots hnodots, List.map_append]
    have hplain : segments.map Percent.decode = segments.map encodeChars :=
      List.map_congr_left fun s hs => (hsegments s hs).unescaped
    exact ⟨rfl, congrArg _ hplain⟩

end RegistryConsole.Url
