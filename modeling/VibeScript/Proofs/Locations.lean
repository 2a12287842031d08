import VibeScript.Proofs.ByteOrder
import VibeScript.Proofs.Remarks

/-!
Where a report points to. Offsets count bytes, so what lies between two of them is a `slice` of the
bytes of the source. A line divides its source (`Source.Division`), and from that division all its
numbers can be read off: the line breaks before it, the bytes before it, the bytes and the
characters of its text (`located_of_division`). The lines and the line ends between them make up the
whole source (`charted_lines`).

The failure of a run is about one of these lines, and so is every diagnostic of a check, with the
span and the text of the line (`located_reports`).
-/

namespace VibeScript

/-! ### Bytes -/

namespace Text

theorem bytes_append (s t : Text) : bytes (s ++ t) = bytes s ++ bytes t := List.flatMap_append

theorem length_bytes (t : Text) : (bytes t).length = byteLength t := by
  induction t with
  | nil => rfl
  | cons c t ih =>
    rw [byteLength_cons, ← ih, ← String.length_utf8EncodeChar c, bytes, List.flatMap_cons,
      List.length_append, List.length_map]
    rfl

/-- The bytes of a text from one offset up to another. -/
def slice (start stop : Nat) (t : Text) : List Nat := ((bytes t).take stop).drop start

/-- From the end of one part of a text to the end of the next stands the next part. -/
theorem slice_append (a b c : Text) :
    slice (byteLength a) (byteLength (a ++ b)) (a ++ (b ++ c)) = bytes b := by
  rw [slice, ← List.append_assoc, bytes_append (a ++ b), ← length_bytes (a ++ b), List.take_left,
    bytes_append, ← length_bytes, List.drop_left]

/-- Only a line break has the byte of a line break in its encoding. -/
theorem count_utf8_break (v : Nat) : (utf8 v).count '\n'.toNat = if v = 10 then 1 else 0 := by
  have hbreak : '\n'.toNat = 10 := rfl
  rw [hbreak]
  unfold utf8
  split
  case isTrue => by_cases hv : v = 10 <;> simp [hv]
  case isFalse hlow =>
    rw [if_neg (show ¬ v = 10 by omega), List.count_eq_zero]
    -- All bytes of a longer encoding are large.
    split
    · simp only [List.mem_cons, List.not_mem_nil, or_false, not_or]
      omega
    · split <;> simp only [List.mem_cons, List.not_mem_nil, or_false, not_or] <;> omega

/-- The line breaks of a text are the bytes of a line break among its bytes. -/
theorem count_bytes_break (t : Text) : (bytes t).count '\n'.toNat = t.count '\n' := by
  induction t with
  | nil => rfl
  | cons c t ih =>
    have hc : c.toNat = 10 ↔ c = '\n' := by rw [← Char.toNat_inj]; rfl
    have hcons : bytes (c :: t) = utf8 c.toNat ++ bytes t := by
      rw [← utf8EncodeChar_eq_utf8]
      rfl
    rw [hcons, List.count_append, ih, count_utf8_break, List.count_cons]
    simp only [hc, beq_iff_eq]
    omega

end Text

/-! ### Lines -/

/-- Whether a line is where it says: its number is counted in the line breaks before its start, and
the source has the text of the line, and no more than that line, between its start and its end. -/
structure SourceLine.Located (source : Text) (l : SourceLine) : Prop where
  number : l.number = 1 + (Text.slice 0 l.span.start.offset source).count '\n'.toNat
  start_line : l.span.start.line = l.number
  stop_line : l.span.stop.line = l.number
  bytes : Text.slice l.span.start.offset l.span.stop.offset source = Text.bytes l.raw
  oneLine : '\n' ∉ l.raw
  last : l.raw.getLast? ≠ some '\r'
  start_column : l.span.start.column = 1
  stop_column : l.span.stop.column = 1 + l.raw.length
  start_le : l.span.start.offset ≤ l.span.stop.offset
  stop_le : l.span.stop.offset ≤ Text.byteLength source

/-- Where the first of some lines begins, or else the source ends. -/
def Source.next (source : Text) : List SourceLine → Nat
  | [] => Text.byteLength source
  | l :: _ => l.span.start.offset

/-- What holds of lines that make up a source. -/
structure Charted (source : Text) (lines : List SourceLine) : Prop where
  /-- Each line is where it says. -/
  located : ∀ l ∈ lines, l.Located source
  /-- The first line begins where the source begins. -/
  first : Source.next source lines = 0
  /-- Between the end of a line and the next line are carriage returns and one line break, which may
  be missing at the end of the source only. -/
  between : ∀ before l after, lines = before ++ l :: after → ∃ returns closing,
    Text.slice l.span.stop.offset (Source.next source after) source =
      Text.bytes (List.replicate returns '\r' ++ closing) ∧
    l.span.stop.offset ≤ Source.next source after ∧
    (closing = ['\n'] ∨ closing = [] ∧ after = [])

namespace Source

/-! ### The parts of a division -/

section

variable {source : Text} (d : Division source)

theorem Division.slice_head : Text.slice 0 (Text.byteLength d.head) source = Text.bytes d.head := by
  have hslice := Text.slice_append [] d.head
    (d.raw ++ (List.replicate d.returns '\r' ++ (d.closing ++ d.tail)))
  rw [List.nil_append, List.nil_append, ← d.join] at hslice
  exact hslice

theorem Division.slice_raw :
    Text.slice (Text.byteLength d.head) (Text.byteLength d.head + Text.byteLength d.raw) source =
      Text.bytes d.raw := by
  have hslice := Text.slice_append d.head d.raw
    (List.replicate d.returns '\r' ++ (d.closing ++ d.tail))
  rw [← d.join, Text.byteLength_append] at hslice
  exact hslice

theorem Division.slice_end :
    Text.slice (Text.byteLength d.head + Text.byteLength d.raw) (Text.byteLength d.front) source =
      Text.bytes (List.replicate d.returns '\r' ++ d.closing) := by
  have hslice := Text.slice_append (d.head ++ d.raw) (List.replicate d.returns '\r' ++ d.closing)
    d.tail
  rw [List.append_assoc, List.append_assoc, List.append_assoc, ← d.join,
    Text.byteLength_append] at hslice
  exact hslice

theorem Division.byteLength_front : Text.byteLength d.front = Text.byteLength d.head +
    Text.byteLength d.raw + Text.byteLength (List.replicate d.returns '\r' ++ d.closing) := by
  rw [front, Text.byteLength_append, Text.byteLength_append, Nat.add_assoc]

theorem Division.byteLength_eq :
    Text.byteLength source = Text.byteLength d.front + Text.byteLength d.tail := by
  rw [← Text.byteLength_append, d.front_append_tail]

/-- The line of a division is where it says. -/
theorem located_of_division {number : Nat} (hnumber : number = 1 + d.head.count '\n') :
    (⟨number, d.raw, .ofLine number (Text.byteLength d.head) d.raw⟩ : SourceLine).Located
      source where
  number := by
    rw [hnumber, ← Text.count_bytes_break, ← d.slice_head]
    rfl
  start_line := rfl
  stop_line := rfl
  bytes := d.slice_raw
  oneLine := d.raw_oneLine
  last := d.raw_last
  start_column := rfl
  stop_column := rfl
  start_le := Nat.le_add_right ..
  stop_le := by
    have hfront := d.byteLength_front
    have hsource := d.byteLength_eq
    simp only [Span.ofLine, Span.ofText, Position.advance]
    omega

end

/-! ### All lines -/

/-- Lines begin where they are placed. If there are none, the source has to end there. -/
theorem next_place {source tail : Text} {number offset : Nat}
    (h : tail = [] → Text.byteLength source = offset) :
    next source (place number offset (physicalLines tail)) = offset := by
  cases hlines : physicalLines tail with
  | nil =>
    by_cases htail : tail = []
    · exact h htail
    · exact absurd hlines (physicalLines_ne_nil htail)
  | cons r rs => rfl

/-- The lines of a source make it up. -/
theorem charted_lines (source : Text) : Charted source (lines source) where
  located := by
    intro l hl
    obtain ⟨before, after, hsplit⟩ := List.append_of_mem hl
    obtain ⟨d, _, hcount, rfl, _⟩ := exists_division hsplit
    rw [Nat.zero_add]
    exact located_of_division d (by rw [hcount])
  first := next_place fun h => by rw [h]; rfl
  between := by
    intro before l after hsplit
    obtain ⟨d, _, _, rfl, rfl⟩ := exists_division hsplit
    rw [Nat.zero_add, Nat.zero_add]
    have hnext : next source (place (1 + before.length + 1) (Text.byteLength d.front)
        (physicalLines d.tail)) = Text.byteLength d.front := by
      refine next_place fun htail => ?_
      rw [d.byteLength_eq, htail]
      rfl
    refine ⟨d.returns, d.closing, ?_, ?_, ?_⟩
    · rw [hnext]
      exact d.slice_end
    · rw [hnext, d.byteLength_front]
      exact Nat.le_add_right ..
    · rcases d.closing_cases with hclosing | ⟨hclosing, htail⟩
      · exact .inl hclosing
      · exact .inr ⟨hclosing, by rw [htail]; rfl⟩

end Source

/-! ### Reports -/

/-- Whether a failure is about a line of a source: it has the number, the span and the text of the
line, also in the fault if that is about the form of the line, and its label is within the
source. -/
structure Failure.About (source : Text) (f : Failure) (l : SourceLine) : Prop where
  line : f.line = l.number
  span : f.span = l.span
  text : f.text = Text.trim l.raw
  malformed : ∀ kind t, f.fault = .malformed kind t → t = Text.trim l.raw
  label : f.label = (l.span.start.offset, Text.byteLength l.raw)
  label_le : f.label.1 + f.label.2 ≤ Text.byteLength source

/-- Whether a diagnostic is about a line: it has the span and the text of the line, also in the
message if it is an error. -/
structure Diagnostic.About (d : Diagnostic) (l : SourceLine) : Prop where
  line : d.line = l.number
  span : d.span = l.span
  context : d.context = some (Text.trim l.raw)
  message : d.severity = .error →
    ∃ kind, d.message = Fault.complaint kind ++ ": " ++ Text.trim l.raw

/-- A line that stands where it says spans its own bytes. -/
theorem SourceLine.Located.length_span {source : Text} {l : SourceLine} (h : l.Located source) :
    l.span.length = Text.byteLength l.raw := by
  have hbytes := congrArg List.length h.bytes
  have hle := h.start_le
  have hstop := h.stop_le
  rw [Text.slice, List.length_drop, List.length_take, Text.length_bytes,
    Text.length_bytes] at hbytes
  rw [Span.length]
  omega

/-- The failure of a run is about one of the lines of the source. -/
theorem exists_about_of_failure {source : Text} {f : Failure}
    (hf : (execute source).failure = some f) : ∃ l ∈ Source.lines source, f.About source l := by
  obtain ⟨before, l, after, fault, hls, _, hl, rfl⟩ := Context.exists_break rfl hf
  have hstatement : l ∈ Source.statementLines source := by rw [hls]; simp
  have hmem : l ∈ Source.lines source := (List.mem_filter.1 hstatement).1
  have hlocated := (Source.charted_lines source).located l hmem
  refine ⟨l, hmem, ⟨rfl, rfl, rfl, ?malformed, ?label, ?label_le⟩⟩
  case malformed =>
    rintro kind t rfl
    rcases Context.error_cases_of_carryOut hl with hp | ⟨st, _, hst⟩
    · obtain ⟨kind', hfault⟩ := Statement.exists_malformed_of_parse hp
      cases hfault
      rfl
    · have := Statement.isSyntax_of_outcome hst
      cases this
  case label =>
    rw [Failure.label, ← hlocated.length_span]
    rfl
  case label_le =>
    have hstart := hlocated.start_le
    have hstop := hlocated.stop_le
    simp only [Failure.label, SourceLine.fail, Span.length]
    omega

/-- Every diagnostic of a report is about one of the lines reported on. -/
theorem Validation.Reported.exists_about {file : Text} {above ls : List SourceLine}
    {ds : List Diagnostic} (h : Reported file above ls ds)
    (hls : ∀ l ∈ ls, l.span.start.line = l.number) {d : Diagnostic} (hd : d ∈ ds) :
    ∃ l ∈ ls, d.About l := by
  obtain ⟨before, l, after, rfl, hd⟩ := h.mem_iff.1 hd
  have hl : l ∈ before ++ l :: after := List.mem_append_cons_self
  refine ⟨l, hl, ?_⟩
  rcases hd with ⟨fault, hp, rfl⟩ | ⟨_, head, st, _, _, _, rfl⟩
  · obtain ⟨kind, rfl⟩ := Statement.exists_malformed_of_parse hp
    exact ⟨hls l hl, rfl, rfl, fun _ => ⟨kind, rfl⟩⟩
  · exact ⟨hls l hl, rfl, rfl, fun h => by cases h⟩

/-- Reported locations are true. The lines of a source make it up and are where they say, the
failure of a run is about one of them, and so is every diagnostic of a check. -/
theorem located_reports (source file : Text) :
    Charted source (Source.lines source) ∧
    (∀ f, (execute source).failure = some f → ∃ l ∈ Source.lines source, f.About source l) ∧
    ∀ d ∈ validate source file, ∃ l ∈ Source.lines source, d.About l := by
  refine ⟨Source.charted_lines source, fun f hf => exists_about_of_failure hf, fun d hd => ?_⟩
  have hreport := Validation.reported_remarksFrom file Validation.remembers_nil
    (Source.statementLines source)
  obtain ⟨l, hl, hdl⟩ := hreport.exists_about (fun l hl =>
    (Source.charted_lines source).located l (List.mem_filter.1 hl).1 |>.start_line) hd
  exact ⟨l, (List.mem_filter.1 hl).1, hdl⟩

/-- A letter of two bytes and two carriage returns stand before a malformed line of six bytes: it
begins behind thirteen bytes, where the run fails and the check reports it. -/
theorem located_report_behind_two_returns :
    ∃ f d, (execute "shout \"é\"\r\r\n  vibe\r").failure = some f ∧ f.label = (13, 6) ∧
      d ∈ validate "shout \"é\"\r\r\n  vibe\r" "f" ∧
      (∃ l ∈ Source.lines "shout \"é\"\r\r\n  vibe\r",
        f.About "shout \"é\"\r\r\n  vibe\r" l) ∧
      ∃ l ∈ Source.lines "shout \"é\"\r\r\n  vibe\r", d.About l := by
  obtain ⟨_, hfailure, hvalidate⟩ := located_reports "shout \"é\"\r\r\n  vibe\r" "f"
  have hlabel : (execute "shout \"é\"\r\r\n  vibe\r").failure.map Failure.label = some (13, 6) := by
    decide +kernel
  obtain ⟨f, hf, hlabel⟩ := Option.map_eq_some_iff.1 hlabel
  have hne : validate "shout \"é\"\r\r\n  vibe\r" "f" ≠ [] := by decide +kernel
  obtain ⟨d, hd⟩ := List.exists_mem_of_ne_nil _ hne
  exact ⟨f, d, hf, hlabel, hd, hfailure f hf, hvalidate d hd⟩

end VibeScript
