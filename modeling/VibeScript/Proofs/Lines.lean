import VibeScript.Source

/-!
Where the lines of a source stand. A source is no line at all, one line that no break ends, or a
line with its break in front of a source (`lineInduction`).

Lines are numbered in ascending order (`pairwise_number_place`). Behind a line break a source has
the lines that it has on its own, further down by the lines and the bytes in front of them
(`statementLines_append_break`), and in front of a line it has the lines before that one
(`statementLines_takeBytes`).
-/

namespace VibeScript

/-! ### Further down -/

/-- The place that is further down by lines and bytes. -/
def Position.shift (lines bytes : Nat) (p : Position) : Position :=
  ⟨p.line + lines, p.column, p.offset + bytes⟩

/-- The stretch that is further down by lines and bytes. -/
def Span.shift (lines bytes : Nat) (s : Span) : Span :=
  ⟨s.start.shift lines bytes, s.stop.shift lines bytes⟩

/-- The same line further down. -/
def SourceLine.shift (lines bytes : Nat) (l : SourceLine) : SourceLine :=
  ⟨l.number + lines, l.raw, l.span.shift lines bytes⟩

theorem Span.shift_ofLine (lines bytes number offset : Nat) (t : Text) :
    (ofLine number offset t).shift lines bytes = ofLine (number + lines) (offset + bytes) t := by
  simp only [shift, ofLine, ofText, Position.shift, Position.advance, Span.mk.injEq,
    Position.mk.injEq, true_and]
  omega

@[simp] theorem SourceLine.text_shift (lines bytes : Nat) (l : SourceLine) :
    (l.shift lines bytes).text = l.text := rfl

@[simp] theorem SourceLine.isStatement_shift (lines bytes : Nat) (l : SourceLine) :
    (l.shift lines bytes).isStatement = l.isStatement := rfl

namespace Text

/-- As much of a text from its start on as fits into so many bytes. -/
def takeBytes : Nat → Text → Text
  | _, [] => []
  | n, c :: t => if c.utf8Size ≤ n then c :: takeBytes (n - c.utf8Size) t else []

/-- The bytes of the beginning of a text lead back to that beginning. -/
theorem takeBytes_append (s t : Text) : takeBytes (byteLength s) (s ++ t) = s := by
  induction s with
  | nil =>
    cases t with
    | nil => rfl
    | cons c t =>
      have hc : 0 < c.utf8Size := Char.utf8Size_pos c
      rw [List.nil_append, takeBytes, byteLength_nil, if_neg (by omega)]
  | cons c s ih =>
    rw [List.cons_append, takeBytes, byteLength_cons, if_pos (by omega), Nat.add_sub_cancel_left,
      ih]

end Text

namespace Source

/-! ### Line by line -/

@[simp] theorem physicalLines_nil : physicalLines [] = [] := rfl

theorem physicalLines_cons (c : Char) (t : Text) :
    physicalLines (c :: t) = pushFront c (physicalLines t) := rfl

/-- A line with its break comes before the lines of what follows. -/
theorem physicalLines_line {r : Text} (hr : '\n' ∉ r) (rest : Text) :
    physicalLines (r ++ '\n' :: rest) = r :: physicalLines rest := by
  induction r with
  | nil => simp [physicalLines_cons, pushFront]
  | cons c r ih =>
    have hc : c ≠ '\n' := fun e => hr (e ▸ List.mem_cons_self)
    have hr' : '\n' ∉ r := fun m => hr (List.mem_cons_of_mem _ m)
    rw [List.cons_append, physicalLines_cons, ih hr', pushFront, if_neg hc]

/-- A text without a break is one line. -/
theorem physicalLines_last {r : Text} (hr : '\n' ∉ r) (hne : r ≠ []) : physicalLines r = [r] := by
  induction r with
  | nil => exact absurd rfl hne
  | cons c r ih =>
    have hc : c ≠ '\n' := fun e => hr (e ▸ List.mem_cons_self)
    have hr' : '\n' ∉ r := fun m => hr (List.mem_cons_of_mem _ m)
    rw [physicalLines_cons]
    cases r with
    | nil => rw [physicalLines_nil, pushFront, if_neg hc]
    | cons d r => rw [ih hr' (List.cons_ne_nil d r), pushFront, if_neg hc]

/-- What holds of no text, of a line that no break ends, and of a line with its break in front of
every text of which it holds, holds of every text. -/
@[elab_as_elim]
theorem lineInduction {motive : Text → Prop} (source : Text) (empty : motive [])
    (last : ∀ r, '\n' ∉ r → r ≠ [] → motive r)
    (line : ∀ r rest, '\n' ∉ r → motive rest → motive (r ++ '\n' :: rest)) : motive source := by
  by_cases hmem : '\n' ∈ source
  · obtain ⟨r, rest, hsource, hr⟩ := List.eq_append_cons_of_mem hmem
    have : rest.length < source.length := by
      rw [hsource, List.length_append, List.length_cons]; omega
    rw [hsource]
    exact line r rest hr (lineInduction rest empty last line)
  · by_cases hne : source = []
    · rw [hne]; exact empty
    · exact last source hmem hne
termination_by source.length

theorem physicalLines_ne_nil {t : Text} (ht : t ≠ []) : physicalLines t ≠ [] := by
  induction t using lineInduction with
  | empty => exact absurd rfl ht
  | last r hr hne => rw [physicalLines_last hr hne]; exact List.cons_ne_nil _ _
  | line r rest hr _ => rw [physicalLines_line hr]; exact List.cons_ne_nil _ _

/-- A line break divides the lines of a source. -/
theorem physicalLines_append_break (a b : Text) :
    physicalLines (a ++ '\n' :: b) = physicalLines (a ++ ['\n']) ++ physicalLines b := by
  induction a using lineInduction with
  | empty => rfl
  | last r hr _ => rw [physicalLines_line hr, physicalLines_line hr]; rfl
  | line r rest hr ih =>
    rw [List.append_assoc, List.append_assoc, List.cons_append, List.cons_append,
      physicalLines_line hr, physicalLines_line hr, ih, List.cons_append]

/-- A text that a break ends has as many lines as breaks. -/
theorem length_physicalLines_break (a : Text) :
    (physicalLines (a ++ ['\n'])).length = a.count '\n' + 1 := by
  induction a using lineInduction with
  | empty => rfl
  | last r hr _ => rw [physicalLines_line hr, List.count_eq_zero.2 hr]; rfl
  | line r rest hr ih =>
    rw [List.append_assoc, List.cons_append, physicalLines_line hr, List.length_cons, ih,
      List.count_append, List.count_eq_zero.2 hr, List.count_cons_self, Nat.zero_add]

/-- The bytes of lines, each with a break behind it. -/
def extent (ls : List Text) : Nat := Text.byteLength (ls.flatMap (· ++ ['\n']))

@[simp] theorem extent_nil : extent [] = 0 := rfl

theorem extent_cons (r : Text) (ls : List Text) :
    extent (r :: ls) = Text.byteLength r + 1 + extent ls := by
  rw [extent, List.flatMap_cons, Text.byteLength_append, Text.byteLength_append]
  rfl

/-- A text that a break ends is as long as its lines. -/
theorem extent_physicalLines_break (a : Text) :
    extent (physicalLines (a ++ ['\n'])) = Text.byteLength a + 1 := by
  rw [extent, flatMap_physicalLines, if_pos (by simp), Text.byteLength_append]
  rfl

/-! ### Numbers and spans -/

@[simp] theorem place_nil (number offset : Nat) : place number offset [] = [] := rfl

theorem place_cons (number offset : Nat) (r : Text) (ls : List Text) :
    place number offset (r :: ls) =
      ⟨number, withoutReturns r, .ofLine number offset (withoutReturns r)⟩ ::
        place (number + 1) (offset + Text.byteLength r + 1) ls := rfl

/-- The second of two runs of lines stands behind the lines and the bytes of the first. -/
theorem place_append (number offset : Nat) (ls ms : List Text) :
    place number offset (ls ++ ms) =
      place number offset ls ++ place (number + ls.length) (offset + extent ls) ms := by
  induction ls generalizing number offset with
  | nil => rfl
  | cons r ls ih =>
    have hlines : number + 1 + ls.length = number + (r :: ls).length := by
      rw [List.length_cons]; omega
    have hbytes : offset + Text.byteLength r + 1 + extent ls = offset + extent (r :: ls) := by
      rw [extent_cons]; omega
    rw [List.cons_append, place_cons, ih, hlines, hbytes, place_cons, List.cons_append]

/-- Lines that begin further down are the same lines, all further down. -/
theorem place_shift (number offset lines bytes : Nat) (ls : List Text) :
    place (number + lines) (offset + bytes) ls =
      (place number offset ls).map (SourceLine.shift lines bytes) := by
  induction ls generalizing number offset with
  | nil => rfl
  | cons r ls ih =>
    have hlines : number + lines + 1 = number + 1 + lines := by omega
    have hbytes : offset + bytes + Text.byteLength r + 1 =
        offset + Text.byteLength r + 1 + bytes := by omega
    rw [place_cons, place_cons, List.map_cons, hlines, hbytes, ih, SourceLine.shift,
      Span.shift_ofLine]

/-- The first lines stand where they stand without those behind them. -/
theorem take_place (number offset k : Nat) (ls : List Text) :
    (place number offset ls).take k = place number offset (ls.take k) := by
  induction ls generalizing number offset k with
  | nil => rw [List.take_nil, place_nil, List.take_nil]
  | cons r ls ih =>
    cases k with
    | zero => rfl
    | succ k => rw [place_cons, List.take_succ_cons, ih, List.take_succ_cons, place_cons]

/-- A line knows its number, which is not less than that of the first line. -/
theorem number_of_mem_place {number offset : Nat} {ls : List Text} {l : SourceLine}
    (h : l ∈ place number offset ls) : number ≤ l.number ∧ l.span.start.line = l.number := by
  induction ls generalizing number offset with
  | nil => cases h
  | cons r ls ih =>
    rw [place_cons] at h
    rcases List.mem_cons.1 h with rfl | h
    · exact ⟨Nat.le_refl _, rfl⟩
    · obtain ⟨hle, hline⟩ := ih h
      exact ⟨by omega, hline⟩

/-- The numbers of lines ascend. -/
theorem pairwise_number_place (number offset : Nat) (ls : List Text) :
    (place number offset ls).Pairwise fun l m => l.number < m.number := by
  induction ls generalizing number offset with
  | nil => exact .nil
  | cons r ls ih =>
    rw [place_cons]
    refine List.pairwise_cons.2 ⟨fun m hm => ?_, ih ..⟩
    exact (number_of_mem_place hm).1

/-- Lines are numbered one after the other. -/
theorem map_number_place (number offset : Nat) (ls : List Text) :
    (place number offset ls).map SourceLine.number = List.range' number ls.length := by
  induction ls generalizing number offset with
  | nil => rfl
  | cons r ls ih => rw [place_cons, List.map_cons, ih, List.length_cons, List.range'_succ]

/-- A statement begins on the line that has its number. -/
theorem line_of_mem_statementLines {source : Text} {l : SourceLine}
    (h : l ∈ statementLines source) : l.span.start.line = l.number :=
  (number_of_mem_place (List.mem_filter.1 h).1).2

/-- The statements behind a statement have larger numbers. -/
theorem number_lt_of_statementLines {source : Text} {before after : List SourceLine}
    {l m : SourceLine} (h : statementLines source = before ++ l :: after) (hm : m ∈ after) :
    l.number < m.number := by
  have hsorted : (statementLines source).Pairwise fun l m => l.number < m.number :=
    (pairwise_number_place 1 0 _).filter _
  rw [h] at hsorted
  obtain ⟨_, hafter, _⟩ := List.pairwise_append.1 hsorted
  exact (List.pairwise_cons.1 hafter).1 m hm

section Numbered

variable {source : Text} {before before' between after after' : List SourceLine}
  {l l' : SourceLine}

/-- From a statement on there is no other with its number. -/
theorem eq_nil_of_number_eq (h : statementLines source = before ++ l :: after)
    (hrest : l :: after = between ++ l' :: after') (hnumber : l.number = l'.number) :
    between = [] := by
  cases between with
  | nil => rfl
  | cons m ms =>
    obtain ⟨rfl, rfl⟩ := List.cons.inj hrest
    have hlt : l.number < l'.number := number_lt_of_statementLines h List.mem_append_cons_self
    omega

/-- The number of a statement tells where it stands among the others. -/
theorem eq_of_number_eq (h : statementLines source = before ++ l :: after)
    (h' : statementLines source = before' ++ l' :: after') (hnumber : l.number = l'.number) :
    before = before' ∧ l = l' := by
  rcases List.append_eq_append_iff.1 (h.symm.trans h') with
    ⟨between, rfl, hrest⟩ | ⟨between, rfl, hrest⟩
  · have hnil := eq_nil_of_number_eq h hrest hnumber
    rw [hnil] at hrest ⊢
    exact ⟨(List.append_nil _).symm, (List.cons.inj hrest).1⟩
  · have hnil := eq_nil_of_number_eq h' hrest hnumber.symm
    rw [hnil] at hrest ⊢
    exact ⟨List.append_nil _, (List.cons.inj hrest).1.symm⟩

end Numbered

/-! ### Sources put together -/

/-- A break at the end of a source adds no statement. -/
theorem filter_place_break (number offset : Nat) (a : Text) :
    (place number offset (physicalLines (a ++ ['\n']))).filter SourceLine.isStatement =
      (place number offset (physicalLines a)).filter SourceLine.isStatement := by
  induction a using lineInduction generalizing number offset with
  | empty => rfl
  | last r hr hne => rw [physicalLines_line hr, physicalLines_last hr hne, physicalLines_nil]
  | line r rest hr ih =>
    rw [List.append_assoc, List.cons_append, physicalLines_line hr, physicalLines_line hr,
      place_cons, place_cons, List.filter_cons, List.filter_cons, ih]

/-- Behind a line break stand the statements of what follows, further down. -/
theorem statementLines_append_break (a b : Text) :
    statementLines (a ++ '\n' :: b) =
      statementLines a ++ (statementLines b).map
        (SourceLine.shift (a.count '\n' + 1) (Text.byteLength a + 1)) := by
  have hcomp : SourceLine.isStatement ∘
      SourceLine.shift (a.count '\n' + 1) (Text.byteLength a + 1) = SourceLine.isStatement :=
    funext fun l => SourceLine.isStatement_shift _ _ l
  rw [statementLines, lines, physicalLines_append_break, place_append, List.filter_append,
    filter_place_break, length_physicalLines_break, extent_physicalLines_break, place_shift,
    List.filter_map, hcomp]
  rfl

/-! ### Sources divided at a line -/

theorem exists_returns (r : Text) : ∃ n, r = withoutReturns r ++ List.replicate n '\r' := by
  have hrun : r.reverse.takeWhile (· == '\r') =
      List.replicate (r.reverse.takeWhile (· == '\r')).length '\r' := by
    refine List.eq_replicate_iff.2 ⟨rfl, fun c hc => ?_⟩
    have hc := List.all_eq_true.1 (List.all_takeWhile (p := (· == '\r'))) c hc
    exact beq_iff_eq.1 hc
  refine ⟨(r.reverse.takeWhile (· == '\r')).length, ?_⟩
  rw [withoutReturns, Text.dropEndWhile, ← List.reverse_replicate, ← hrun, ← List.reverse_append,
    List.takeWhile_append_dropWhile, List.reverse_reverse]

theorem not_mem_withoutReturns {r : Text} (hr : '\n' ∉ r) : '\n' ∉ withoutReturns r := by
  have hbegin : withoutReturns r <+: r := Text.dropEndWhile_prefix _ r
  exact fun h => hr (hbegin.subset h)

theorem getLast?_withoutReturns (r : Text) : (withoutReturns r).getLast? ≠ some '\r' := by
  have hhead := List.head?_dropWhile_not (· == '\r') r.reverse
  rw [withoutReturns, Text.dropEndWhile, List.getLast?_reverse]
  intro h
  rw [h] at hhead
  cases hhead

/-- A source divided at one of its lines: what stands before the line, its text, the carriage
returns and the line break that end it, and what stands behind it. -/
structure Division (source : Text) where
  head : Text
  raw : Text
  returns : Nat
  closing : Text
  tail : Text
  raw_oneLine : '\n' ∉ raw
  raw_last : raw.getLast? ≠ some '\r'
  join : source = head ++ (raw ++ (List.replicate returns '\r' ++ (closing ++ tail)))
  /-- Only the end of the source may stand in for the line break. -/
  closing_cases : closing = ['\n'] ∨ closing = [] ∧ tail = []

/-- The source up to the end of the line. -/
def Division.front {source : Text} (d : Division source) : Text :=
  d.head ++ (d.raw ++ (List.replicate d.returns '\r' ++ d.closing))

theorem Division.front_append_tail {source : Text} (d : Division source) :
    d.front ++ d.tail = source := by
  have hjoin := d.join
  simp only [front, List.append_assoc] at hjoin ⊢
  exact hjoin.symm

/-- A line divides the source, with the lines before it and behind it in the parts before it and
behind it. -/
theorem exists_division {number offset : Nat} {source : Text} {before after : List SourceLine}
    {l : SourceLine} (h : place number offset (physicalLines source) = before ++ l :: after) :
    ∃ d : Division source, place number offset (physicalLines d.head) = before ∧
      before.length = d.head.count '\n' ∧
      l = ⟨number + before.length, d.raw,
        .ofLine (number + before.length) (offset + Text.byteLength d.head) d.raw⟩ ∧
      after = place (number + before.length + 1) (offset + Text.byteLength d.front)
        (physicalLines d.tail) := by
  induction source using lineInduction generalizing number offset before with
  | empty => rw [physicalLines_nil, place_nil] at h; simp at h
  | last r hr hne =>
    rw [physicalLines_last hr hne, place_cons, place_nil] at h
    obtain ⟨n, hn⟩ := exists_returns r
    cases before with
    | nil =>
      obtain ⟨rfl, rfl⟩ := List.cons.inj h
      exact ⟨⟨[], withoutReturns r, n, [], [], not_mem_withoutReturns hr, getLast?_withoutReturns r,
        by simpa using hn, .inr ⟨rfl, rfl⟩⟩, rfl, rfl, rfl, rfl⟩
    | cons k ks => simp at h
  | line r rest hr ih =>
    rw [physicalLines_line hr, place_cons] at h
    have hbreak : Char.utf8Size '\n' = 1 := rfl
    cases before with
    | nil =>
      obtain ⟨rfl, rfl⟩ := List.cons.inj h
      obtain ⟨n, hn⟩ := exists_returns r
      refine ⟨⟨[], withoutReturns r, n, ['\n'], rest, not_mem_withoutReturns hr,
        getLast?_withoutReturns r, ?_, .inl rfl⟩, rfl, rfl, rfl, ?_⟩
      · rw [List.nil_append, ← List.append_assoc, ← hn]
        rfl
      · have hlength : Text.byteLength (withoutReturns r ++ (List.replicate n '\r' ++ ['\n'])) =
            Text.byteLength r + 1 := by
          rw [← List.append_assoc, ← hn, Text.byteLength_append]
          rfl
        exact congrArg (fun k => place (number + 1) (offset + k) (physicalLines rest)) hlength.symm
    | cons k ks =>
      obtain ⟨rfl, hks⟩ := List.cons.inj h
      obtain ⟨d, hbefore, hcount, hl, hafter⟩ := ih hks
      have hnumber : number + 1 + ks.length = number + (ks.length + 1) := by omega
      refine ⟨⟨r ++ '\n' :: d.head, d.raw, d.returns, d.closing, d.tail, d.raw_oneLine, d.raw_last,
        ?_, d.closing_cases⟩, ?_, ?_, ?_, ?_⟩
      · rw [List.append_assoc, List.cons_append, ← d.join]
      · rw [physicalLines_line hr, place_cons, hbefore]
      · rw [List.count_append, List.count_eq_zero.2 hr, List.count_cons_self, ← hcount,
          List.length_cons, Nat.zero_add]
      · have hoffset : offset + Text.byteLength r + 1 + Text.byteLength d.head =
            offset + Text.byteLength (r ++ '\n' :: d.head) := by
          rw [Text.byteLength_append, Text.byteLength_cons]
          omega
        rw [hl, List.length_cons, hnumber, hoffset]
      · rw [hafter, List.length_cons, hnumber]
        congr 1
        simp only [Division.front, Text.byteLength_append, Text.byteLength_cons]
        omega

/-- A line divides the source into what stands before it and the rest, which begins with it. -/
theorem exists_append_of_place {number offset : Nat} {source : Text}
    {before after : List SourceLine} {l : SourceLine}
    (h : place number offset (physicalLines source) = before ++ l :: after) :
    ∃ head tail, source = head ++ tail ∧ place number offset (physicalLines head) = before ∧
      l.span.start.offset = offset + Text.byteLength head ∧ l.number = number + before.length := by
  obtain ⟨d, hbefore, _, rfl, _⟩ := exists_division h
  exact ⟨d.head, _, d.join, hbefore, rfl, rfl⟩

/-- A statement divides the lines of the source, and with them its statements. -/
theorem exists_lines_of_statementLines {source : Text} {before after : List SourceLine}
    {l : SourceLine} (h : statementLines source = before ++ l :: after) :
    ∃ front back, lines source = front ++ l :: back ∧
      front.filter SourceLine.isStatement = before ∧ l.isStatement = true := by
  obtain ⟨ls, ms, hlines, hls, hms⟩ := List.filter_eq_append_iff.1 h
  obtain ⟨blanks, back, rfl, hblanks, hl, _⟩ := List.filter_eq_cons_iff.1 hms
  refine ⟨ls ++ blanks, back, by rw [hlines, List.append_assoc], ?_, hl⟩
  rw [List.filter_append, hls, List.filter_eq_nil_iff.2 hblanks, List.append_nil]

/-- The source in front of a statement holds the statements before it, and ends where it begins. -/
theorem statementLines_takeBytes {source : Text} {before after : List SourceLine} {l : SourceLine}
    (h : statementLines source = before ++ l :: after) :
    Text.byteLength (Text.takeBytes l.span.start.offset source) = l.span.start.offset ∧
      statementLines (Text.takeBytes l.span.start.offset source) = before := by
  obtain ⟨front, back, hlines, hfront, _⟩ := exists_lines_of_statementLines h
  obtain ⟨head, tail, rfl, hhead, hoffset, _⟩ := exists_append_of_place hlines
  rw [Nat.zero_add] at hoffset
  rw [hoffset, Text.takeBytes_append, statementLines, lines, hhead]
  exact ⟨rfl, hfront⟩

/-- Sources that agree on their lines up to a statement agree on the statements up to it. -/
theorem statementLines_of_take {source other : Text} {before after : List SourceLine}
    {l : SourceLine} (h : statementLines source = before ++ l :: after)
    (hother : (physicalLines other).take l.number = (physicalLines source).take l.number) :
    ∃ rest, statementLines other = before ++ l :: rest := by
  obtain ⟨front, back, hlines, hfront, hl⟩ := exists_lines_of_statementLines h
  obtain ⟨_, _, _, _, _, hnumber⟩ := exists_append_of_place hlines
  have hlen : l.number = (front ++ [l]).length := by
    rw [hnumber, List.length_append, List.length_singleton]; omega
  have htake : (lines other).take l.number = front ++ [l] := by
    rw [lines, take_place, hother, ← take_place, ← lines, hlines, List.append_cons, hlen,
      List.take_left]
  obtain ⟨rest, hrest⟩ : ∃ rest, lines other = front ++ [l] ++ rest :=
    ⟨(lines other).drop l.number, by rw [← htake, List.take_append_drop]⟩
  refine ⟨rest.filter SourceLine.isStatement, ?_⟩
  rw [statementLines, hrest, List.append_assoc, List.filter_append, hfront, List.singleton_append,
    List.filter_cons_of_pos hl]

end Source

end VibeScript
