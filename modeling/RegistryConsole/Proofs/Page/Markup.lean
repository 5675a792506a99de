import RegistryConsole.Page.Markup
/-!
# The characters of a page

A page is written piece by piece. A text that is put into it has none of the characters that begin
or end a tag or a quoted value, and one that has no signs is written as it is.
-/
namespace RegistryConsole.Markup

theorem chars_append (m m' : Markup) : (m ++ m').chars = m.chars ++ m'.chars :=
  List.flatMap_append

theorem chars_lit (source : String) : (lit source).chars = source.toList :=
  List.append_nil _

theorem chars_put (text : String) : (put text).chars = escape text.toList :=
  List.append_nil _

theorem chars_infix {m m' : Markup} (h : m <:+: m') : m.chars <:+: m'.chars := by
  obtain ⟨before, later, rfl⟩ := h
  exact ⟨chars before, chars later, by rw [chars_append, chars_append]⟩

theorem infix_each {α : Type} {items : List α} {markup : α → Markup} {item : α}
    (h : item ∈ items) : markup item <:+: each items markup := by
  obtain ⟨before, later, rfl⟩ := List.append_of_mem h
  exact ⟨before.flatMap markup, later.flatMap markup, by simp [each]⟩

/-- The characters that are written by references. -/
def signs : List Char := ['&', '<', '>', '"', '\x27']

theorem escapeChar_of_not_mem {c : Char} (h : c ∉ signs) : escapeChar c = [c] := by
  simp only [signs, List.mem_cons, List.not_mem_nil, or_false, not_or] at h
  simp only [escapeChar, h, if_false]

theorem escape_of_not_mem {s : List Char} (h : ∀ c ∈ s, c ∉ signs) : escape s = s := by
  induction s with
  | nil => rfl
  | cons c s ih =>
      rw [List.forall_mem_cons] at h
      have hs : s.flatMap escapeChar = s := ih h.2
      rw [escape, List.flatMap_cons, escapeChar_of_not_mem h.1, hs]
      rfl

/-- A text opens and closes nothing. -/
theorem not_mem_escape {c : Char} (h : c ∈ ['<', '>', '"', '\x27']) (s : List Char) :
    c ∉ escape s := by
  rw [escape, List.mem_flatMap]
  rintro ⟨d, -, hc⟩
  by_cases hd : d ∈ signs
  · have hnone : signs.all (fun d => (escapeChar d).all (· ∉ ['<', '>', '"', '\x27'])) = true := by
      decide
    have hwritten := List.all_eq_true.mp (List.all_eq_true.mp hnone d hd) c hc
    exact of_decide_eq_true hwritten h
  · rw [escapeChar_of_not_mem hd, List.mem_singleton] at hc
    subst hc
    exact hd (List.mem_cons_of_mem _ h)

end RegistryConsole.Markup
