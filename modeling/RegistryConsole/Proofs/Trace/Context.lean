import RegistryConsole.Proofs.Http.Header
import RegistryConsole.Proofs.Trace.Parent
import RegistryConsole.Trace.Context
/-!
# Trace contexts between services

What a request carries of a span is taken over as it was written, and whatever is taken over is in
the normal form, so that the logs of all services name one trace alike (`extract?_normalForm`).
-/
namespace RegistryConsole.Trace

open Text

variable {span : SpanContext} {headers : Http.Headers} {p : Parent} {text : String}

theorem Parent.ofString?_text (h : p.IsNormal) : ofString? p.text = some p := by
  rw [ofString?, Parent.text, String.toList_ofList, h.ofChars?_chars]

theorem Parent.text_length (h : p.IsNormal) : p.text.length = 55 := by
  rw [Parent.text, String.length_ofList, h.chars_length]

theorem Parent.IsNormal.text_chars (h : p.IsNormal) :
    ∀ c ∈ p.text.toList, Http.isTextChar c = true ∧ c.toNat < 0x80 ∧ c.toLower = c := by
  have hdigits : ∀ c ∈ hexDigits, Http.isTextChar c = true ∧ c.toNat < 0x80 ∧ c.toLower = c :=
    forall_mem_hexDigits (by decide)
  intro c hc
  rw [Parent.text, String.toList_ofList] at hc
  obtain rfl | hdigit := List.mem_cons.mp (h.chars_subset hc)
  · decide
  · exact hdigits c hdigit

theorem Parent.toLower_text (h : p.IsNormal) : toLower p.text = p.text := by
  have hlower : p.text.toList.map Char.toLower = p.text.toList :=
    (List.map_congr_left fun c hc => (h.text_chars c hc).2.2).trans (List.map_id _)
  rw [toLower_of_ascii fun c hc => (h.text_chars c hc).2.1, hlower, String.ofList_toList]

theorem extract?_of_get? (h : p.IsNormal) (hheader : headers.get? parentHeader = some p.text) :
    extract? headers = some p.text := by
  have hvalue : Http.textValue? p.text = some p.text :=
    Http.textValue?_eq_some_iff.mpr ⟨rfl, fun c hc => (h.text_chars c hc).1⟩
  rw [extract?, hheader, Option.bind_some, hvalue, Option.bind_some, Parent.ofString?_text h,
    Option.map_some]

theorem parent_of_extract? (h : extract? headers = some text) :
    ∃ value p, headers.get? parentHeader = some value ∧ Parent.ofString? value = some p ∧
      p.text = text := by
  obtain ⟨value, hvalue, h⟩ := Option.bind_eq_some_iff.mp h
  obtain ⟨value', hheader, htext⟩ := Option.bind_eq_some_iff.mp hvalue
  obtain ⟨rfl, -⟩ := Http.textValue?_eq_some_iff.mp htext
  obtain ⟨p, hp, rfl⟩ := Option.map_eq_some_iff.mp h
  exact ⟨value', p, hheader, hp, rfl⟩

/-- Ids of a hundred and twenty-eight and of sixty-four bits, neither of them zero, and a byte of
flags. -/
structure SpanContext.IsValid (span : SpanContext) : Prop where
  traceId_pos : 0 < span.traceId
  traceId_lt : span.traceId < 2 ^ 128
  spanId_pos : 0 < span.spanId
  spanId_lt : span.spanId < 2 ^ 64
  flags_lt : span.flags < 2 ^ 8

/-- The digits of a parent's ids are those of the ids of a span, and the flags are its flags. -/
structure Parent.Names (p : Parent) (span : SpanContext) : Prop where
  traceId : digitsValue? hexValue? 16 0 p.traceId = some span.traceId
  parentId : digitsValue? hexValue? 16 0 p.parentId = some span.spanId
  flags : p.flags = span.flags

theorem idText_hexPadded {width n : Nat} (hpos : 0 < n) (h : n < 16 ^ width) :
    IdText width (hexPadded width n) where
  length := hexPadded_length width n
  digits := by
    intro c hc
    have hdigit := hexPadded_subset width n hc
    rwa [toLower_of_mem_hexDigits c hdigit]
  nonzero := exists_hexPadded_ne_zero hpos h

theorem SpanContext.IsValid.exists_parent (h : span.IsValid) :
    ∃ p, Parent.ofSpan? span = some p ∧ p.IsNormal ∧ p.Names span := by
  have htraceId : span.traceId < 16 ^ 32 := h.traceId_lt
  have hspanId : span.spanId < 16 ^ 16 := h.spanId_lt
  have hvalid : ¬ (span.traceId = 0 || span.spanId = 0) = true := by
    simp [Nat.pos_iff_ne_zero.mp h.traceId_pos, Nat.pos_iff_ne_zero.mp h.spanId_pos]
  refine ⟨_, if_neg hvalid, ?_, ?_⟩
  · exact {
      traceId := idText_hexPadded h.traceId_pos htraceId
      traceIdDigits := hexPadded_subset 32 span.traceId
      parentId := idText_hexPadded h.spanId_pos hspanId
      parentIdDigits := hexPadded_subset 16 span.spanId
      flags := h.flags_lt }
  · exact {
      traceId := digitsValue?_hexPadded_of_lt htraceId
      parentId := digitsValue?_hexPadded_of_lt hspanId
      flags := rfl }

theorem inject_get? (h : Parent.ofSpan? span = some p) (headers : Http.Headers) :
    (inject span headers).get? parentHeader = some p.text := by
  have hother : parentHeader ≠ stateHeader := by decide
  rw [inject, h]
  dsimp only
  split
  · exact Http.Headers.get?_set_self _ _ _
  · rw [Http.Headers.get?_set_ne hother, Http.Headers.get?_set_self]

/-- What is passed on is taken over as it was written, and what is taken over is in the normal
form. -/
theorem extract?_normalForm :
    (∀ (span : SpanContext) (headers : Http.Headers), span.IsValid →
      ∃ text p, (inject span headers).get? parentHeader = some text ∧
        extract? (inject span headers) = some text ∧
        Parent.ofString? text = some p ∧ p.Names span) ∧
      ∀ (headers : Http.Headers) (text : String), extract? headers = some text →
        text.length = 55 ∧ toLower text = text ∧
          ∃ value p, headers.get? parentHeader = some value ∧ Parent.ofString? value = some p ∧
            Parent.ofString? text = some p ∧ p.text = text := by
  constructor
  · intro span headers hspan
    obtain ⟨p, hp, hnormal, hnames⟩ := hspan.exists_parent
    have hheader := inject_get? hp headers
    exact ⟨p.text, p, hheader, extract?_of_get? hnormal hheader, Parent.ofString?_text hnormal,
      hnames⟩
  · intro headers text h
    obtain ⟨value, p, hheader, hvalue, rfl⟩ := parent_of_extract? h
    have hnormal := Parent.isNormal_of_ofChars? hvalue
    exact ⟨Parent.text_length hnormal, Parent.toLower_text hnormal, value, p, hheader, hvalue,
      Parent.ofString?_text hnormal, rfl⟩

/-- A span whose ids begin with zeros. -/
def lowSpan : SpanContext :=
  ⟨0x0af7651916cd43dd8448eb211c80319c, 0x07ad6b7169203331, 1, [("rojo", "00f067aa0ba902b7")]⟩

/-- Two trace parents, the first between blanks, in capital letters and with a sign. -/
def twiceTold : Http.Headers :=
  [("accept", "text/html"),
    ("traceparent", "\t00-0AF7651916CD43DD8448EB211C80319C-B7AD6B7169203331-+A "),
    ("traceparent", "00-0af7651916cd43dd8448eb211c80319c-b7ad6b7169203331-01")]

/-- A span whose ids begin with zeros, and a header that is not in the normal form. -/
theorem extract?_normalForm_lowSpan :
    lowSpan.IsValid ∧
      (∃ text p, (inject lowSpan twiceTold).get? parentHeader = some text ∧
        extract? (inject lowSpan twiceTold) = some text ∧
        Parent.ofString? text = some p ∧ p.Names lowSpan) ∧
      extract? twiceTold = some "00-0af7651916cd43dd8448eb211c80319c-b7ad6b7169203331-0a" ∧
      "00-0af7651916cd43dd8448eb211c80319c-b7ad6b7169203331-0a".length = 55 ∧
      ∃ value p, twiceTold.get? parentHeader = some value ∧ Parent.ofString? value = some p ∧
        p.text = "00-0af7651916cd43dd8448eb211c80319c-b7ad6b7169203331-0a" := by
  have hvalid : lowSpan.IsValid := by constructor <;> decide
  have hextract : extract? twiceTold =
      some "00-0af7651916cd43dd8448eb211c80319c-b7ad6b7169203331-0a" := by decide +kernel
  obtain ⟨hpassed, htaken⟩ := extract?_normalForm
  obtain ⟨hlength, -, value, p, hheader, hvalue, -, htext⟩ := htaken twiceTold _ hextract
  exact ⟨hvalid, hpassed lowSpan twiceTold hvalid, hextract, hlength, value, p, hheader, hvalue,
    htext⟩

end RegistryConsole.Trace
