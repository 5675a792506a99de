import RegistryConsole.Keys.Casing
import RegistryConsole.Proofs.Json.Members
import Mathlib.Data.List.Nodup
/-!
# Round trips of keys

Keys in camel case are those without an underscore directly in front of a small letter: changing
to camel case gives no others, and leads back to them from snake case (`toCamel_restored`). Changing
to snake case leads back only to keys whose underscores stand where it would put them
(`toSnake_restored`). What holds of single keys carries over to values, whose members meet only if
their keys do.
-/
namespace RegistryConsole.Keys

open Json

private theorem exists_letter {c : Char} {first : Nat}
    (h : first ≤ c.toNat ∧ c.toNat ≤ first + 25) : ∃ n < 26, c = Char.ofNat (first + n) := by
  refine ⟨c.toNat - first, by omega, ?_⟩
  rw [Nat.add_sub_cancel' h.1, Char.ofNat_toNat]

private theorem exists_of_isLower {c : Char} (h : c.isLower = true) :
    ∃ n < 26, c = Char.ofNat ('a'.toNat + n) :=
  exists_letter ((Bool.and_eq_true_iff.mp h).imp of_decide_eq_true of_decide_eq_true)

private theorem exists_of_isUpper {c : Char} (h : c.isUpper = true) :
    ∃ n < 26, c = Char.ofNat ('A'.toNat + n) :=
  exists_letter (of_decide_eq_true h)

theorem toUpper_of_isLower {c : Char} (h : c.isLower = true) :
    c.toUpper.isUpper = true ∧ c.toUpper.toLower = c := by
  obtain ⟨n, hn, rfl⟩ := exists_of_isLower h
  revert n
  decide

theorem toLower_of_isUpper {c : Char} (h : c.isUpper = true) :
    c.toLower.isLower = true ∧ c.toLower.toUpper = c := by
  obtain ⟨n, hn, rfl⟩ := exists_of_isUpper h
  revert n
  decide

theorem isLower_of_isUpper {c : Char} (h : c.isUpper = true) : c.isLower = false := by
  obtain ⟨n, hn, rfl⟩ := exists_of_isUpper h
  revert n
  decide

theorem ne_underscore_of_isUpper {c : Char} (h : c.isUpper = true) : c ≠ '_' := by
  rintro rfl
  exact absurd h (by decide)

theorem ne_underscore_of_isLower {c : Char} (h : c.isLower = true) : c ≠ '_' := by
  rintro rfl
  exact absurd h (by decide)

theorem camelChars_pair {d : Char} (h : d.isLower = true) (rest : List Char) :
    camelChars ('_' :: d :: rest) = d.toUpper :: camelChars rest := by
  simp [camelChars, h]

theorem camelChars_cons {c : Char} {s : List Char}
    (h : ∀ d rest, c = '_' → s = d :: rest → d.isLower = false) :
    camelChars (c :: s) = c :: camelChars s := by
  cases s with
  | nil => rfl
  | cons d rest =>
      rw [camelChars, if_neg]
      intro hpair
      obtain ⟨hc, hd⟩ : c = '_' ∧ d.isLower = true := by simpa using hpair
      exact absurd hd (by rw [h d rest hc rfl]; decide)

theorem camelChars_cases (c : Char) (s : List Char) :
    ((∀ d rest, c = '_' → s = d :: rest → d.isLower = false) ∧
        camelChars (c :: s) = c :: camelChars s) ∨
      ∃ d rest, c = '_' ∧ s = d :: rest ∧ d.isLower = true ∧
        camelChars (c :: s) = d.toUpper :: camelChars rest := by
  by_cases h : ∃ d rest, c = '_' ∧ s = d :: rest ∧ d.isLower = true
  · obtain ⟨d, rest, rfl, rfl, hd⟩ := h
    exact .inr ⟨d, rest, rfl, rfl, hd, camelChars_pair hd rest⟩
  · have hpair : ∀ d rest, c = '_' → s = d :: rest → d.isLower = false := by
      intro d rest hc hs
      rw [Bool.eq_false_iff]
      exact fun hd => h ⟨d, rest, hc, hs, hd⟩
    exact .inl ⟨hpair, camelChars_cons hpair⟩

theorem snakeChars_pair {c d : Char} (hc : c.isLower = true) (hd : d.isUpper = true)
    (rest : List Char) :
    snakeChars (c :: d :: rest) = c :: '_' :: d.toLower :: snakeChars rest := by
  simp [snakeChars, hc, hd]

theorem snakeChars_cons {c : Char} {s : List Char}
    (h : ∀ d rest, c.isLower = true → s = d :: rest → d.isUpper = false) :
    snakeChars (c :: s) = c :: snakeChars s := by
  cases s with
  | nil => rfl
  | cons d rest =>
      rw [snakeChars, if_neg]
      intro hpair
      obtain ⟨hc, hd⟩ : c.isLower = true ∧ d.isUpper = true := by simpa using hpair
      exact absurd hd (by rw [h d rest hc rfl]; decide)

theorem exists_snakeChars (c : Char) (s : List Char) : ∃ rest, snakeChars (c :: s) = c :: rest := by
  cases s with
  | nil => exact ⟨[], rfl⟩
  | cons d rest =>
      rw [snakeChars]
      split <;> exact ⟨_, rfl⟩

/-- No underscore stands directly in front of a small letter. -/
def IsCamel (s : List Char) : Prop :=
  ∀ d, ['_', d] <:+: s → d.isLower = false

theorem isCamel_cons_iff {c : Char} {s : List Char} :
    IsCamel (c :: s) ↔
      (∀ d rest, c = '_' → s = d :: rest → d.isLower = false) ∧ IsCamel s := by
  constructor
  · intro h
    refine ⟨?_, fun d hd => h d (List.infix_cons hd)⟩
    rintro d rest rfl rfl
    exact h d ⟨[], rest, rfl⟩
  · rintro ⟨hhead, htail⟩ d hd
    obtain hd | hd := List.infix_cons_iff.mp hd
    · obtain ⟨rest, heq⟩ := hd
      obtain ⟨hc, hs⟩ := List.cons.inj heq
      exact hhead d rest hc.symm hs.symm
    · exact htail d hd

private theorem head_camelChars {d x : Char} {s rest : List Char} (hd : d.isLower = false)
    (h : camelChars (d :: s) = x :: rest) : x.isLower = false := by
  obtain ⟨-, heq⟩ | ⟨e, t, -, -, he, heq⟩ := camelChars_cases d s
  · rw [heq] at h
    obtain ⟨rfl, -⟩ := List.cons.inj h
    exact hd
  · rw [heq] at h
    obtain ⟨rfl, -⟩ := List.cons.inj h
    exact isLower_of_isUpper (toUpper_of_isLower he).1

theorem camelChars_isCamel (s : List Char) : IsCamel (camelChars s) := by
  fun_induction camelChars s with
  | case1 => exact fun d hd => absurd (List.infix_nil.mp hd) (List.cons_ne_nil _ _)
  | case2 c =>
      rw [isCamel_cons_iff]
      refine ⟨nofun, fun d hd => absurd (List.infix_nil.mp hd) (List.cons_ne_nil _ _)⟩
  | case3 c d rest hpair ih =>
      have hd : d.isLower = true := (Bool.and_eq_true_iff.mp hpair).2
      rw [isCamel_cons_iff]
      refine ⟨fun _ _ hc => ?_, ih⟩
      exact absurd hc (ne_underscore_of_isUpper (toUpper_of_isLower hd).1)
  | case4 c d rest hpair ih =>
      rw [isCamel_cons_iff]
      refine ⟨fun x t hc h => ?_, ih⟩
      have hd : d.isLower = false := by simpa [hc] using hpair
      exact head_camelChars hd h

/-- In front of a capital letter an underscore is put and taken away again, and there are no
others in front of small letters. -/
theorem camelChars_snakeChars {s : List Char} (h : IsCamel s) : camelChars (snakeChars s) = s := by
  fun_induction snakeChars s with
  | case1 => rfl
  | case2 c => rfl
  | case3 c d rest hpair ih =>
      obtain ⟨hc, hd⟩ := Bool.and_eq_true_iff.mp hpair
      have hrest : IsCamel rest := (isCamel_cons_iff.mp (isCamel_cons_iff.mp h).2).2
      obtain ⟨hlower, hback⟩ := toLower_of_isUpper hd
      have hfirst : c ≠ '_' := ne_underscore_of_isLower hc
      rw [camelChars_cons fun _ _ heq => absurd heq hfirst, camelChars_pair hlower, hback, ih hrest]
  | case4 c d rest hpair ih =>
      obtain ⟨hhead, htail⟩ := isCamel_cons_iff.mp h
      obtain ⟨t, ht⟩ := exists_snakeChars d rest
      rw [camelChars_cons, ih htail]
      intro x t' hc heq
      rw [ht] at heq
      obtain ⟨rfl, -⟩ := List.cons.inj heq
      exact hhead d rest hc rfl

theorem toCamel_toSnake {k : String} (h : IsCamel k.toList) : toCamel (toSnake k) = k := by
  rw [toCamel, toSnake, String.toList_ofList, camelChars_snakeChars h, String.ofList_toList]

theorem toCamel_isCamel (k : String) : IsCamel (toCamel k).toList := by
  rw [toCamel, String.toList_ofList]
  exact camelChars_isCamel _

theorem toCamel_toSnake_iff {k : String} : toCamel (toSnake k) = k ↔ IsCamel k.toList := by
  refine ⟨fun h => ?_, toCamel_toSnake⟩
  rw [← h]
  exact toCamel_isCamel _

theorem camelChars_of_isCamel {s : List Char} (h : IsCamel s) : camelChars s = s := by
  induction s with
  | nil => rfl
  | cons c s ih =>
      obtain ⟨hhead, htail⟩ := isCamel_cons_iff.mp h
      rw [camelChars_cons hhead, ih htail]

theorem toCamel_of_isCamel {k : String} (h : IsCamel k.toList) : toCamel k = k := by
  rw [toCamel, camelChars_of_isCamel h, String.ofList_toList]

/-- A text without capital letters. -/
def NoCapitals (s : List Char) : Prop :=
  ∀ c ∈ s, c.isUpper = false

instance (s : List Char) : Decidable (NoCapitals s) :=
  List.decidableBAll _ s

/-- A text that ends in a small letter with no underscore directly in front of it. -/
def EndsInLetter (s : List Char) : Prop :=
  ∃ front c, s = front ++ [c] ∧ c.isLower = true ∧ ¬ ['_'] <:+ front

/-- Every underscore in front of a small letter stands behind a small letter that has no
underscore directly in front of it. -/
def IsSnake (s : List Char) : Prop :=
  ∀ before d after, s = before ++ '_' :: d :: after → d.isLower = true → EndsInLetter before

theorem not_endsInLetter_nil : ¬ EndsInLetter [] := by
  rintro ⟨front, c, h, -⟩
  exact absurd h (by simp)

theorem endsInLetter_singleton {c : Char} : EndsInLetter [c] ↔ c.isLower = true := by
  constructor
  · rintro ⟨front, x, h, hx, -⟩
    obtain ⟨-, rfl⟩ : front = [] ∧ c = x := by
      cases front <;> simp_all
    exact hx
  · intro hc
    exact ⟨[], c, rfl, hc, by simp⟩

theorem endsInLetter_pair {b c : Char} : EndsInLetter [b, c] ↔ c.isLower = true ∧ b ≠ '_' := by
  have hsuffix : ['_'] <:+ [b] ↔ '_' = b := by simp [List.suffix_cons_iff]
  constructor
  · rintro ⟨front, x, h, hx, hfront⟩
    obtain ⟨rfl, rfl⟩ : [b] = front ∧ c = x := by
      have h : [b] ++ [c] = front ++ [x] := h
      simpa using List.append_inj' h rfl
    exact ⟨hx, fun hb => hfront (hsuffix.mpr hb.symm)⟩
  · rintro ⟨hc, hb⟩
    exact ⟨[b], c, rfl, hc, fun h => hb (hsuffix.mp h).symm⟩

theorem endsInLetter_cons {a b c : Char} {s : List Char} :
    EndsInLetter (a :: b :: c :: s) ↔ EndsInLetter (b :: c :: s) := by
  constructor
  · rintro ⟨front, x, h, hx, hfront⟩
    obtain _ | ⟨y, front⟩ := front
    · simp at h
    · exact ⟨front, x, (List.cons.inj h).2, hx, fun hs => hfront (hs.trans (List.suffix_cons _ _))⟩
  · rintro ⟨front, x, h, hx, hfront⟩
    refine ⟨a :: front, x, by rw [h]; rfl, hx, fun hs => ?_⟩
    obtain heq | hs := List.suffix_cons_iff.mp hs
    · obtain ⟨-, rfl⟩ := List.cons.inj heq
      simp at h
    · exact hfront hs

theorem endsInLetter_cons_iff {a : Char} {s : List Char} (hletter : s = [] → a.isLower = false)
    (hunderscore : ∀ b, s = [b] → b.isLower = true → a ≠ '_') :
    EndsInLetter (a :: s) ↔ EndsInLetter s := by
  match s with
  | [] =>
      rw [endsInLetter_singleton, hletter rfl]
      exact iff_of_false Bool.false_ne_true not_endsInLetter_nil
  | [b] =>
      rw [endsInLetter_pair, endsInLetter_singleton]
      exact ⟨And.left, fun hb => ⟨hb, hunderscore b rfl hb⟩⟩
  | b :: c :: s => exact endsInLetter_cons

theorem isSnake_append_iff (front : List Char) {s : List Char} (hfront : ∀ before d after,
      front ++ s = before ++ '_' :: d :: after → d.isLower = true →
        before.length < front.length → EndsInLetter before)
    (hs : ∀ before d after, s = before ++ '_' :: d :: after → d.isLower = true →
      (EndsInLetter (front ++ before) ↔ EndsInLetter before)) :
    IsSnake (front ++ s) ↔ IsSnake s := by
  constructor
  · intro h before d after heq hd
    refine (hs before d after heq hd).mp (h (front ++ before) d after ?_ hd)
    rw [heq, List.append_assoc]
  · intro h before d after heq hd
    by_cases hlen : before.length < front.length
    · exact hfront before d after heq hd hlen
    · obtain ⟨rest, rfl⟩ : front <+: before :=
        List.prefix_of_prefix_length_le ⟨s, rfl⟩ ⟨_, heq.symm⟩ (not_lt.mp hlen)
      rw [List.append_assoc, List.append_cancel_left_eq] at heq
      exact (hs rest d after heq hd).mpr (h rest d after heq hd)

theorem isSnake_cons_iff {c : Char} {s : List Char}
    (hpair : ∀ d rest, c = '_' → s = d :: rest → d.isLower = false)
    (hword : ∀ d rest, c.isLower = true → s = '_' :: d :: rest → d.isLower = false) :
    IsSnake (c :: s) ↔ IsSnake s := by
  refine isSnake_append_iff [c] ?_ ?_
  · intro before d after heq hd hlen
    obtain rfl : before = [] := List.length_eq_zero_iff.mp (Nat.lt_one_iff.mp hlen)
    obtain ⟨hc, hs⟩ := List.cons.inj heq
    exact absurd hd (by rw [hpair d after hc hs]; decide)
  · intro before d after heq hd
    refine endsInLetter_cons_iff ?_ ?_
    · rintro rfl
      rw [Bool.eq_false_iff]
      intro hc
      exact absurd hd (by rw [hword d after hc heq]; decide)
    · rintro b rfl hb hc
      exact absurd hb (by rw [hpair b _ hc heq]; decide)

theorem isSnake_word_iff {c e : Char} {rest : List Char} (hc : c.isLower = true)
    (he : e.isLower = true) : IsSnake (c :: '_' :: e :: rest) ↔ IsSnake rest := by
  have hbreak : ¬ EndsInLetter ['_', e] := by
    rw [endsInLetter_pair]
    exact fun h => h.2 rfl
  refine isSnake_append_iff [c, '_', e] ?_ ?_
  · intro before d after heq hd hlen
    match before with
    | [] => exact absurd (List.cons.inj heq).1 (ne_underscore_of_isLower hc)
    | [b] =>
        obtain ⟨rfl, -⟩ := List.cons.inj heq
        exact endsInLetter_singleton.mpr hc
    | [b, b'] =>
        simp only [List.cons_append, List.nil_append, List.cons.injEq] at heq
        exact absurd heq.2.2.1 (ne_underscore_of_isLower he)
  · intro before d after heq hd
    match before with
    | [] => exact iff_of_false (fun h => hbreak (endsInLetter_cons.mp h)) not_endsInLetter_nil
    | b :: before =>
        have hinner : EndsInLetter (e :: b :: before) ↔ EndsInLetter (b :: before) :=
          endsInLetter_cons_iff nofun fun _ _ _ => ne_underscore_of_isLower he
        exact (endsInLetter_cons.trans endsInLetter_cons).trans hinner

/-- Snake case puts an underscore behind a small letter only, and not behind one in front of which
it has just put another. -/
theorem snakeChars_camelChars_iff (s : List Char) (h : NoCapitals s) :
    snakeChars (camelChars s) = s ↔ IsSnake s := by
  match s with
  | [] => exact iff_of_true rfl fun before d after heq => by simp at heq
  | c :: s =>
      have hs : NoCapitals s := fun x hx => h x (List.mem_cons_of_mem _ hx)
      obtain ⟨hpair, hstays⟩ | ⟨d, rest, rfl, rfl, hd, htaken⟩ := camelChars_cases c s
      · rw [hstays]
        by_cases hword : ∃ d rest, c.isLower = true ∧ s = '_' :: d :: rest ∧ d.isLower = true
        · obtain ⟨d, rest, hc, rfl, hd⟩ := hword
          have hrest : NoCapitals rest :=
            fun x hx => hs x (List.mem_cons_of_mem _ (List.mem_cons_of_mem _ hx))
          obtain ⟨hupper, hback⟩ := toUpper_of_isLower hd
          rw [camelChars_pair hd, snakeChars_pair hc hupper, hback, isSnake_word_iff hc hd,
            ← snakeChars_camelChars_iff rest hrest]
          simp only [List.cons.injEq, true_and]
        · have hsmall : ∀ x t, c.isLower = true → camelChars s = x :: t → x.isUpper = false := by
            intro x t hc heq
            obtain _ | ⟨d, s⟩ := s
            · exact absurd heq.symm (List.cons_ne_nil _ _)
            · obtain ⟨-, hd⟩ | ⟨e, rest, rfl, rfl, he, -⟩ := camelChars_cases d s
              · obtain ⟨rfl, -⟩ := List.cons.inj (hd.symm.trans heq)
                exact hs d List.mem_cons_self
              · exact absurd ⟨e, rest, hc, rfl, he⟩ hword
          have hinner : ∀ d rest, c.isLower = true → s = '_' :: d :: rest → d.isLower = false := by
            intro d rest hc heq
            rw [Bool.eq_false_iff]
            exact fun hd => hword ⟨d, rest, hc, heq, hd⟩
          rw [snakeChars_cons hsmall, isSnake_cons_iff hpair hinner,
            ← snakeChars_camelChars_iff s hs]
          simp only [List.cons.injEq, true_and]
      · -- the capital letter comes out in front, where the underscore was
        obtain ⟨t, ht⟩ := exists_snakeChars d.toUpper (camelChars rest)
        rw [htaken, ht]
        refine iff_of_false (fun heq => ?_) fun hsnake => ?_
        · exact ne_underscore_of_isUpper (toUpper_of_isLower hd).1 (List.cons.inj heq).1
        · exact not_endsInLetter_nil (hsnake [] d rest rfl hd)
termination_by s.length

theorem toSnake_toCamel_iff {k : String} (h : NoCapitals k.toList) :
    toSnake (toCamel k) = k ↔ IsSnake k.toList := by
  rw [toSnake, toCamel, ← snakeChars_camelChars_iff _ h, ← String.toList_inj,
    String.toList_ofList, String.toList_ofList]

variable {f g : String → String}

theorem mapItems_eq (f : String → String) (items : List Json) :
    mapItems f items = items.map (mapKeys f) := by
  induction items with
  | nil => rfl
  | cons v rest ih => rw [mapItems, ih, List.map_cons]

theorem mapMembers_eq (f : String → String) (members : List (String × Json)) :
    mapMembers f members = members.map fun m => (f m.1, mapKeys f m.2) := by
  induction members with
  | nil => rfl
  | cons m rest ih =>
      obtain ⟨k, v⟩ := m
      rw [mapMembers, ih, List.map_cons]

theorem mapKeys_array (f : String → String) (items : List Json) :
    mapKeys f (.array items) = .array (items.map (mapKeys f)) := by
  rw [mapKeys, mapItems_eq]

theorem mapKeys_object (f : String → String) (members : List (String × Json)) :
    mapKeys f (.object members) = ofMembers (members.map fun m => (f m.1, mapKeys f m.2)) := by
  rw [mapKeys, mapMembers_eq]

theorem mapKeys_of_isScalar (f : String → String) {v : Json} (h : v.IsScalar) :
    mapKeys f v = v := by
  cases v with
  | array | object => exact h.elim
  | null | bool | number | string => rfl

theorem mapKeys_everywhere {q : String → Prop} (h : ∀ k, q (f k)) (v : Json) :
    (mapKeys f v).Ordered ∧ (mapKeys f v).EachKey q := by
  induction v using Json.inductionOn with
  | scalar v hv =>
      rw [mapKeys_of_isScalar f hv]
      exact ⟨ordered_of_isScalar hv, eachKey_of_isScalar hv⟩
  | array items ih =>
      rw [mapKeys_array, Ordered, EachKey, everywhere_array, everywhere_array]
      simp only [List.forall_mem_map]
      exact ⟨⟨True.intro, fun v hv => (ih v hv).1⟩, True.intro, fun v hv => (ih v hv).2⟩
  | object members ih =>
      rw [mapKeys_object]
      refine ⟨ofMembers_ordered ?_, ofMembers_eachKey ?_⟩
      · rw [List.forall_mem_map]
        exact fun m hm => (ih m hm).1
      · rw [List.forall_mem_map]
        exact fun m hm => ⟨h m.1, (ih m hm).2⟩

theorem mapKeys_of_fixed {v : Json} (hv : v.Ordered) (h : v.EachKey fun k => f k = k) :
    mapKeys f v = v := by
  induction v using Json.inductionOn with
  | scalar v hscalar => exact mapKeys_of_isScalar f hscalar
  | array items ih =>
      obtain ⟨-, hv⟩ := everywhere_array.mp hv
      obtain ⟨-, h⟩ := everywhere_array.mp h
      have hitems : items.map (mapKeys f) = items.map id :=
        List.map_congr_left fun v hmem => ih v hmem (hv v hmem) (h v hmem)
      rw [mapKeys_array, hitems, List.map_id]
  | object members ih =>
      obtain ⟨hsorted, hv⟩ := everywhere_object.mp hv
      obtain ⟨hkeys, h⟩ := everywhere_object.mp h
      have hmembers : members.map (fun m => (f m.1, mapKeys f m.2)) = members.map id :=
        List.map_congr_left fun m hmem =>
          Prod.ext (hkeys m hmem) (ih m hmem (hv m hmem) (h m hmem))
      rw [mapKeys_object, hmembers, List.map_id, ofMembers,
        sortMembers_eq_of_perm hsorted (.refl _)]

theorem mapKeys_object_perm {members : List (String × Json)} (hsorted : Sorted members)
    (h : ∀ m ∈ members, g (f m.1) = m.1) :
    ∃ changed, mapKeys f (.object members) = .object changed ∧
      changed.Perm (members.map fun m => (f m.1, mapKeys f m.2)) := by
  have hnodup : ((members.map fun m => (f m.1, mapKeys f m.2)).map Prod.fst).Nodup := by
    have hkeys := hsorted.nodup
    rw [List.map_map]
    change (members.map (f ∘ Prod.fst)).Nodup
    rw [← List.map_map]
    refine hkeys.map_on ?_
    simp only [List.mem_map, forall_exists_index, and_imp]
    rintro _ m hm rfl _ n hn rfl heq
    rw [← h m hm, heq, h n hn]
  rw [mapKeys_object]
  exact ⟨_, rfl, sortMembers_perm hnodup⟩

theorem mapKeys_ofMembers {members : List (String × Json)} (hkeys : (members.map Prod.fst).Nodup)
    (hchanged : (members.map fun m => f m.1).Nodup) (hscalar : ∀ m ∈ members, m.2.IsScalar) :
    mapKeys f (ofMembers members) = ofMembers (members.map fun m => (f m.1, m.2)) := by
  have hsorted : (sortMembers members).Perm members := sortMembers_perm hkeys
  have hvalues : (sortMembers members).map (fun m => (f m.1, mapKeys f m.2)) =
      (sortMembers members).map fun m => (f m.1, m.2) :=
    List.map_congr_left fun m hm =>
      Prod.ext rfl (mapKeys_of_isScalar f (hscalar m (hsorted.subset hm)))
  have hnodup : ((members.map fun m => (f m.1, m.2)).map Prod.fst).Nodup := by
    rw [List.map_map]
    exact hchanged
  rw [ofMembers, mapKeys_object, hvalues, ofMembers, ofMembers,
    sortMembers_eq_of_perm (sortMembers_sorted _)
      ((hsorted.map _).trans (sortMembers_perm hnodup).symm)]

theorem mapKeys_mapKeys {v : Json} (hv : v.Ordered) (h : v.EachKey fun k => g (f k) = k) :
    mapKeys g (mapKeys f v) = v := by
  induction v using Json.inductionOn with
  | scalar v hscalar => rw [mapKeys_of_isScalar f hscalar, mapKeys_of_isScalar g hscalar]
  | array items ih =>
      obtain ⟨-, hv⟩ := everywhere_array.mp hv
      obtain ⟨-, h⟩ := everywhere_array.mp h
      have hitems : items.map (mapKeys g ∘ mapKeys f) = items.map id :=
        List.map_congr_left fun v hmem => ih v hmem (hv v hmem) (h v hmem)
      rw [mapKeys_array, mapKeys_array, List.map_map, hitems, List.map_id]
  | object members ih =>
      obtain ⟨hsorted, hv⟩ := everywhere_object.mp hv
      obtain ⟨hkeys, h⟩ := everywhere_object.mp h
      obtain ⟨changed, heq, hperm⟩ := mapKeys_object_perm hsorted hkeys
      have hback : (members.map fun m => (f m.1, mapKeys f m.2)).map
          (fun m => (g m.1, mapKeys g m.2)) = members.map id := by
        rw [List.map_map]
        exact List.map_congr_left fun m hmem =>
          Prod.ext (hkeys m hmem) (ih m hmem (hv m hmem) (h m hmem))
      have hperm := hperm.map fun m => (g m.1, mapKeys g m.2)
      rw [hback, List.map_id] at hperm
      rw [heq, mapKeys_object, ofMembers, sortMembers_eq_of_perm hsorted hperm]

/-- What is in camel case comes back from snake case and stays in camel case, whatever the keys were
before. A single key comes back exactly if it is in camel case. -/
theorem toCamel_restored :
    (∀ v : Json, mapKeys toCamel (mapKeys toSnake (mapKeys toCamel v)) = mapKeys toCamel v ∧
        mapKeys toCamel (mapKeys toCamel v) = mapKeys toCamel v) ∧
      ∀ k : String, toCamel (toSnake k) = k ↔ IsCamel k.toList := by
  refine ⟨fun v => ?_, fun k => toCamel_toSnake_iff⟩
  obtain ⟨hordered, hback⟩ := mapKeys_everywhere
    (q := fun k => toCamel (toSnake k) = k) (fun k => toCamel_toSnake (toCamel_isCamel k)) v
  obtain ⟨-, hfixed⟩ := mapKeys_everywhere
    (q := fun k => toCamel k = k) (fun k => toCamel_of_isCamel (toCamel_isCamel k)) v
  exact ⟨mapKeys_mapKeys hordered hback, mapKeys_of_fixed hordered hfixed⟩

/-- A key without capital letters comes back from camel case exactly if its underscores stand where
snake case puts them. A value with such keys, its members in order as in all that is read, comes
back, and in between each of its objects has all of its members. -/
theorem toSnake_restored :
    (∀ k : String, NoCapitals k.toList → (toSnake (toCamel k) = k ↔ IsSnake k.toList)) ∧
      ∀ v : Json, v.Ordered → v.EachKey (fun k => NoCapitals k.toList ∧ IsSnake k.toList) →
        mapKeys toSnake (mapKeys toCamel v) = v ∧
          ∀ members, Within (.object members) v →
            ∃ changed, mapKeys toCamel (.object members) = .object changed ∧
              changed.Perm (members.map fun m => (toCamel m.1, mapKeys toCamel m.2)) := by
  refine ⟨fun k => toSnake_toCamel_iff, fun v hv h => ?_⟩
  have hback : v.EachKey fun k => toSnake (toCamel k) = k := by
    intro w hw
    have hkeys := h w hw
    cases w with
    | object members =>
        exact fun m hm => (toSnake_toCamel_iff (hkeys m hm).1).mpr (hkeys m hm).2
    | null | bool | number | string | array => exact True.intro
  refine ⟨mapKeys_mapKeys hv hback, fun members hw => ?_⟩
  exact mapKeys_object_perm (hv _ hw) (hback _ hw)

/-- A payload as the registry writes it. -/
def authorityPayload : Json :=
  .object [("api_keys", .array [.object [("id", .string "1"), ("key_name", .string "ci")]]),
    ("policy_url", .string "https://example.com")]

private theorem authorityPayload_ordered : authorityPayload.Ordered := by
  simp only [authorityPayload, Ordered, everywhere_object, everywhere_array, everywhere_string,
    InOrder, List.forall_mem_cons, List.not_mem_nil, IsEmpty.forall_iff, implies_true, and_true,
    true_and]
  decide

private theorem authorityPayload_keys :
    authorityPayload.EachKey fun k => NoCapitals k.toList ∧ IsSnake k.toList := by
  have hback : ∀ k ∈ ["api_keys", "id", "key_name", "policy_url"],
      NoCapitals k.toList ∧ toSnake (toCamel k) = k := by
    decide
  have hkey : ∀ k ∈ ["api_keys", "id", "key_name", "policy_url"],
      NoCapitals k.toList ∧ IsSnake k.toList := by
    intro k hk
    obtain ⟨hcapitals, hk⟩ := hback k hk
    exact ⟨hcapitals, (toSnake_toCamel_iff hcapitals).mp hk⟩
  simp only [List.forall_mem_cons] at hkey
  simp only [authorityPayload, EachKey, everywhere_object, everywhere_array, everywhere_string,
    KeysMeet, List.forall_mem_cons, List.not_mem_nil, IsEmpty.forall_iff, implies_true, and_true,
    hkey]

/-- The underscore behind a digit does not come back. -/
theorem toSnake_restored_authority :
    (NoCapitals "key1_name".toList ∧ toSnake (toCamel "key1_name") = "key1Name" ∧
        ¬ IsSnake "key1_name".toList) ∧
      authorityPayload.Ordered ∧
      authorityPayload.EachKey (fun k => NoCapitals k.toList ∧ IsSnake k.toList) ∧
      mapKeys toSnake (mapKeys toCamel authorityPayload) = authorityPayload := by
  have hcapitals : NoCapitals "key1_name".toList := by decide
  have hlost : toSnake (toCamel "key1_name") = "key1Name" := by decide
  refine ⟨⟨hcapitals, hlost, ?_⟩, authorityPayload_ordered, authorityPayload_keys,
    (toSnake_restored.2 _ authorityPayload_ordered authorityPayload_keys).1⟩
  rw [← toSnake_restored.1 "key1_name" hcapitals, hlost]
  decide

end RegistryConsole.Keys
