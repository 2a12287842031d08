import VibeScript.Proofs.Grammar

/-!
The shapes of the kinds as patterns. A shape is a list of parts, and a text has the shape if it can
be divided into them, to its last character. Where it can be divided in several ways, a longer run
goes before a shorter one, from the first part on (`captures`): a part gives characters back only if
the parts behind it would not fit otherwise.

A run gives nothing back if what is behind it cannot begin with one of its characters
(`captures_run`). In the shapes, this is so for all parts but the blanks in front of an expression.
Whatever these give back is blank, and it is cut off again (`captures_tail`). So the readers of
statements, which give nothing back, read what the shapes capture (`parse_eq_captures`), and the
four operations may share one shape.
-/

namespace VibeScript

open Text (Stops isBlank isWordChar)

/-! ### Parts -/

/-- All ways to cut a text behind a run of `p` at its start, the longest run first. -/
def Text.cuts (p : Char → Bool) : Text → List (Text × Text)
  | [] => [([], [])]
  | c :: t => (if p c then (cuts p t).map fun cut => (c :: cut.1, cut.2) else []) ++ [([], c :: t)]

/-- A part of a shape. -/
inductive Part where
  /-- One of some texts, an earlier one rather than a later one. -/
  | oneOf (texts : List Text)
  /-- A run of a class of characters that is not shorter than `least`. It may be captured. -/
  | run (p : Char → Bool) (least : Nat) (captured : Bool)

namespace Part

def blanks : Part := run isBlank 0 false

def gap : Part := run isBlank 1 false

def word : Part := run isWordChar 1 true

/-- Anything on one line. -/
def tail : Part := run (· != '\n') 1 true

/-- What a part captures at the start of a text, and what it leaves, for all ways in which it
fits. -/
def ways : Part → Text → List (List Text × Text)
  | oneOf texts, t => texts.filterMap fun given => (Statement.after? given t).map ([], ·)
  | run p least captured, t =>
    ((Text.cuts p t).filter fun cut => least ≤ cut.1.length).map fun cut =>
      (if captured then [cut.1] else [], cut.2)

end Part

/-- What the parts of a shape capture of a text that has the shape. -/
def captures : List Part → Text → Option (List Text)
  | [], t => if t = [] then some [] else none
  | part :: parts, t =>
    (part.ways t).findSome? fun way => (captures parts way.2).map (way.1 ++ ·)

/-! ### What is captured -/

theorem Text.append_of_mem_cuts {p : Char → Bool} {t : Text} {cut : Text × Text}
    (h : cut ∈ cuts p t) : t = cut.1 ++ cut.2 := by
  induction t generalizing cut with
  | nil => rw [List.mem_singleton.1 h]; rfl
  | cons c t ih =>
    rw [cuts] at h
    rcases List.mem_append.1 h with h | h
    · split at h
      · obtain ⟨cut, hcut, rfl⟩ := List.mem_map.1 h
        exact congrArg (c :: ·) (ih hcut)
      · cases h
    · rw [List.mem_singleton.1 h]
      rfl

/-- A part captures of what it takes, and it leaves the rest. -/
theorem Part.append_of_mem_ways {part : Part} {t : Text} {way : List Text × Text}
    (h : way ∈ part.ways t) : ∃ taken, t = taken ++ way.2 ∧ ∀ u ∈ way.1, u = taken := by
  cases part with
  | oneOf texts =>
    obtain ⟨given, _, hgiven⟩ := List.mem_filterMap.1 h
    obtain ⟨rest, hrest, rfl⟩ := Option.map_eq_some_iff.1 hgiven
    exact ⟨given, Statement.after?_eq_some_iff.1 hrest, by simp⟩
  | run p least captured =>
    obtain ⟨cut, hcut, rfl⟩ := List.mem_map.1 h
    refine ⟨cut.1, Text.append_of_mem_cuts (List.mem_filter.1 hcut).1, fun u hu => ?_⟩
    dsimp only at hu
    split at hu
    · exact List.mem_singleton.1 hu
    · cases hu

/-- What is captured of a text is part of it. -/
theorem infix_of_captures {parts : List Part} {t : Text} {captured : List Text}
    (h : captures parts t = some captured) : ∀ u ∈ captured, u <:+: t := by
  induction parts generalizing t captured with
  | nil =>
    rw [captures] at h
    split at h <;> cases h
    simp
  | cons part parts ih =>
    obtain ⟨way, hway, hsome⟩ := List.exists_of_findSome?_eq_some h
    obtain ⟨rest, hrest, rfl⟩ := Option.map_eq_some_iff.1 hsome
    obtain ⟨taken, rfl, htaken⟩ := Part.append_of_mem_ways hway
    intro u hu
    rcases List.mem_append.1 hu with hu | hu
    · rw [htaken u hu]
      exact (List.prefix_append ..).isInfix
    · exact (ih hrest u hu).trans (List.suffix_append ..).isInfix

/-! ### Runs that give nothing back -/

/-- The longest run comes first, and what any other leaves begins with a character of the class. -/
theorem Text.exists_cuts (p : Char → Bool) (t : Text) :
    ∃ others, cuts p t = (t.takeWhile p, t.dropWhile p) :: others ∧
      ∀ cut ∈ others, ∃ c u, cut.2 = c :: u ∧ p c = true := by
  induction t with
  | nil => exact ⟨[], rfl, by simp⟩
  | cons c t ih =>
    obtain ⟨others, hcuts, hothers⟩ := ih
    cases hc : p c with
    | false => exact ⟨[], by simp [cuts, hc], by simp⟩
    | true =>
      refine ⟨others.map (fun cut => (c :: cut.1, cut.2)) ++ [([], c :: t)], ?_, fun cut h => ?_⟩
      · simp [cuts, hc, hcuts]
      · rcases List.mem_append.1 h with h | h
        · obtain ⟨cut, hmem, rfl⟩ := List.mem_map.1 h
          exact hothers cut hmem
        · rw [List.mem_singleton.1 h]
          exact ⟨c, t, rfl, hc⟩

/-- Whether no text that begins with a character of a class has a shape. -/
def Bars (parts : List Part) (p : Char → Bool) : Prop :=
  ∀ c u, p c = true → captures parts (c :: u) = none

section

variable {p q : Char → Bool} {parts : List Part} {least : Nat} {captured : Bool} {t : Text}

/-- A run in front of a shape that bars its class gives nothing back. -/
theorem captures_run (h : Bars parts p) :
    captures (.run p least captured :: parts) t =
      if least ≤ (t.takeWhile p).length then
        (captures parts (t.dropWhile p)).map ((if captured then [t.takeWhile p] else []) ++ ·)
      else none := by
  obtain ⟨others, hcuts, hothers⟩ := Text.exists_cuts p t
  have hrest : ∀ cut ∈ others, captures parts cut.2 = none := by
    intro cut hcut
    obtain ⟨c, u, hu, hc⟩ := hothers cut hcut
    rw [hu]
    exact h c u hc
  have hnone : ((others.filter fun cut => least ≤ cut.1.length).map fun cut =>
      (if captured then [cut.1] else [], cut.2)).findSome?
        (fun way => (captures parts way.2).map (way.1 ++ ·)) = none := by
    rw [List.findSome?_eq_none_iff]
    intro way hway
    obtain ⟨cut, hcut, rfl⟩ := List.mem_map.1 hway
    rw [hrest cut (List.mem_filter.1 hcut).1]
    rfl
  rw [captures, Part.ways, hcuts]
  by_cases hleast : least ≤ (t.takeWhile p).length
  · rw [List.filter_cons_of_pos (by simpa using hleast), List.map_cons, List.findSome?_cons, hnone,
      if_pos hleast]
    cases captures parts (t.dropWhile p) <;> rfl
  · rw [List.filter_cons_of_neg (by simpa using hleast), hnone, if_neg hleast]

theorem captures_oneOf_singleton {given : Text} :
    captures (.oneOf [given] :: parts) t = (Statement.after? given t).bind (captures parts) := by
  rw [captures, Part.ways]
  cases hafter : Statement.after? given t with
  | none => simp [hafter]
  | some u => cases hu : captures parts u <;> simp [hafter, hu]

/-- A run that cannot be empty bars every class that its own class has nothing of. -/
theorem bars_run (h : ∀ c, q c = true → p c = false) :
    Bars (.run p (least + 1) captured :: parts) q := by
  intro c u hc
  simp [captures, Part.ways, Text.cuts, h c hc]

/-- A run that may be empty bars what is barred behind it. -/
theorem bars_run_zero (h : ∀ c, q c = true → p c = false) (hparts : Bars parts q) :
    Bars (.run p 0 captured :: parts) q := by
  intro c u hc
  simp [captures, Part.ways, Text.cuts, h c hc, hparts c u hc]

theorem bars_oneOf {d : Char} {given : Text} (h : q d = false) :
    Bars (.oneOf [d :: given] :: parts) q := by
  intro c u hc
  have hne : d ≠ c := by
    rintro rfl
    rw [h] at hc
    cases hc
  rw [captures_oneOf_singleton, Statement.after?, if_neg (by simp [hne])]
  rfl

end

/-! ### Readers -/

section

variable {p : Char → Bool} {parts : List Part} {t : Text}

theorem captures_blanks (h : Bars parts isBlank) :
    captures (.blanks :: parts) t = captures parts (t.dropWhile isBlank) := by
  rw [Part.blanks, captures_run h, if_pos (Nat.zero_le _)]
  simp

theorem captures_gap (h : Bars parts isBlank) :
    captures (.gap :: parts) t = (Statement.afterGap? t).bind (captures parts) := by
  rw [Part.gap, captures_run h]
  cases t with
  | nil => rfl
  | cons c t => cases hc : isBlank c <;> simp [Statement.afterGap?, hc]

theorem captures_word (h : Bars parts isWordChar) :
    captures (.word :: parts) t =
      (Statement.word? t).bind fun read => (captures parts read.2).map (read.1 :: ·) := by
  rw [Part.word, captures_run h, Statement.word?]
  cases t.takeWhile isWordChar <;> simp

theorem captures_tail : captures [.tail] t = if t = [] ∨ '\n' ∈ t then none else some [t] := by
  have hbars : Bars [] (· != '\n') := fun _ _ _ => rfl
  rw [Part.tail, captures_run hbars]
  by_cases hmem : '\n' ∈ t
  · obtain ⟨r, rest, rfl, hr⟩ := List.eq_append_cons_of_mem hmem
    have hstop : Stops (· != '\n') ('\n' :: rest) := Text.stops_cons.2 rfl
    simp [Text.dropWhile_run (Text.not_mem_iff_all_ne.1 hr) hstop, captures]
  · have hall := Text.not_mem_iff_all_ne.1 hmem
    have hstop : Stops (· != '\n') [] := fun _ h => by cases h
    have htake := Text.takeWhile_run hall hstop
    have hdrop := Text.dropWhile_run hall hstop
    rw [List.append_nil] at htake hdrop
    cases t with
    | nil => rfl
    | cons c t => simp [htake, hdrop, captures, hmem]

/-! ### Runs that may give back -/

theorem captures_run_zero :
    captures (.run p 0 false :: parts) t =
      (Text.cuts p t).findSome? fun cut => captures parts cut.2 := by
  have hall : ((Text.cuts p t).filter fun cut => 0 ≤ cut.1.length) = Text.cuts p t :=
    List.filter_eq_self.2 fun cut _ => by simp
  rw [captures, Part.ways, hall, List.findSome?_map]
  simp [Function.comp_def]

theorem captures_run_zero_cons {c : Char} :
    captures (.run p 0 false :: parts) (c :: t) =
      if p c then (captures (.run p 0 false :: parts) t).or (captures parts (c :: t))
      else captures parts (c :: t) := by
  rw [captures_run_zero, captures_run_zero, Text.cuts]
  cases p c <;> simp [List.findSome?_append, List.findSome?_map, Function.comp_def]

/-- Behind one character of its class a run that cannot be empty may be empty. -/
theorem captures_run_one_cons {c : Char} :
    captures (.run p 1 false :: parts) (c :: t) =
      if p c then captures (.run p 0 false :: parts) t else none := by
  rw [captures_run_zero, captures, Part.ways, Text.cuts]
  cases hc : p c with
  | false => simp
  | true =>
    have hall : ((Text.cuts p t).map fun cut => (c :: cut.1, cut.2)).filter
        (fun cut => 1 ≤ cut.1.length) = (Text.cuts p t).map fun cut => (c :: cut.1, cut.2) := by
      refine List.filter_eq_self.2 fun cut h => ?_
      obtain ⟨cut, _, rfl⟩ := List.mem_map.1 h
      simp
    rw [if_pos rfl, if_pos rfl, List.filter_append, hall]
    simp [List.findSome?_map, Function.comp_def]

/-- Only a line break keeps an expression from being read. -/
theorem Statement.mem_of_expression?_eq_none (hne : t ≠ []) (h : expression? t = none) :
    '\n' ∈ t := by
  unfold expression? at h
  split at h
  · split at h
    · cases h
    · rename_i hlast
      have hbreak : t.getLast hne = '\n' := by
        simpa [List.getLast?_eq_some_getLast hne] using hlast
      rw [← hbreak]
      exact List.getLast_mem hne
  · split at h
    · rename_i hmem
      exact (List.dropWhile_suffix isBlank).subset (List.contains_iff_mem.1 hmem)
    · cases h

/-- An expression is read behind the blanks, or else at the last of them. -/
theorem Statement.expression?_cons {c : Char} :
    expression? (c :: t) =
      if isBlank c then
        (expression? t).or (if '\n' ∈ c :: t then none else some (Text.trim (c :: t)))
      else if '\n' ∈ c :: t then none else some (Text.trim (c :: t)) := by
  cases hc : isBlank c with
  | false => simp [expression?, Text.trim, Text.trimStart, hc]
  | true =>
    rw [if_pos rfl]
    cases t with
    | nil =>
      by_cases hbreak : c = '\n'
      · subst hbreak
        rfl
      · have htrim : Text.trim [c] = [] := by
          rw [Text.trim, Text.trimStart, List.dropWhile_cons_of_pos hc]
          rfl
        simp [expression?, hc, hbreak, Ne.symm hbreak, htrim]
    | cons d t =>
      have hcons : expression? (c :: d :: t) = expression? (d :: t) := by
        rw [expression?, List.dropWhile_cons_of_pos hc, List.getLast?_cons_cons, expression?]
      rw [hcons]
      cases hnone : expression? (d :: t) with
      | some e => rfl
      | none =>
        have hmem := mem_of_expression?_eq_none (List.cons_ne_nil d t) hnone
        rw [if_pos (List.mem_cons_of_mem c hmem)]
        rfl

/-- Blanks in front of an expression give back what they have to, and it is cut off again. -/
theorem captures_blanks_tail :
    (captures [.blanks, .tail] t).map (List.map Text.trim) =
      (Statement.expression? t).map ([·]) := by
  rw [Part.blanks]
  induction t with
  | nil => rfl
  | cons c t ih =>
    rw [captures_run_zero_cons, captures_tail, Statement.expression?_cons]
    cases isBlank c with
    | false => by_cases hmem : '\n' ∈ c :: t <;> simp [hmem]
    | true =>
      rw [if_pos rfl, if_pos rfl, Option.map_or, Option.map_or, ih]
      by_cases hmem : '\n' ∈ c :: t <;> simp [hmem]

theorem captures_gap_tail :
    (captures [.gap, .tail] t).map (List.map Text.trim) =
      (Statement.gapExpression? t).map ([·]) := by
  rw [Part.gap]
  cases t with
  | nil => rfl
  | cons c t =>
    rw [captures_run_one_cons, Statement.gapExpression?]
    split
    · exact captures_blanks_tail
    · rfl

end

/-! ### The shapes of the kinds -/

namespace StatementKind

/-- The shape of a kind. The operations have one in common. -/
def shape : StatementKind → List Part
  | declare => [.oneOf [declare.keyword], .gap, .word, .blanks, .oneOf ["="], .blanks, .tail]
  | shout => [.oneOf [shout.keyword], .gap, .tail]
  | arithmetic _ =>
    [.oneOf ([.add, .sub, .mult, .div].map Operator.word), .gap, .word, .gap, .word, .gap, .tail]
  | grind => [.oneOf [grind.keyword], .gap, .tail]
  | compare => [.oneOf [compare.keyword], .gap, .word, .gap, .oneOf ["same"], .gap, .tail]
  | keep => [.oneOf [keep.keyword], .gap, .word, .gap, .oneOf ["high"], .gap, .tail]

/-- The statement of a kind that has what is captured as its names and, without the blanks at its
ends, as its expression. -/
def fill (k : StatementKind) (captured : List Text) : Statement :=
  let name (i : Nat) : Text := captured.getD i []
  let expression (i : Nat) : Text := Text.trim (name i)
  match k with
  | declare => .declare (name 0) (expression 1)
  | shout => .shout (expression 0)
  | arithmetic op => .arithmetic op (name 0) (name 1) (expression 2)
  | grind => .grind (expression 0)
  | compare => .compare (name 0) (expression 1)
  | keep => .keep (name 0) (expression 1)

end StatementKind

/-! ### The shapes behind the words -/

theorem isWordChar_eq_false_of_isBlank {c : Char} (h : isBlank c = true) :
    isWordChar c = false := by
  rw [Bool.eq_false_iff]
  intro hword
  rw [Text.isBlank_eq_false_of_isWordChar hword] at h
  cases h

/-- A gap bars words. -/
theorem bars_gap (parts : List Part) : Bars (.gap :: parts) isWordChar :=
  bars_run fun _ => Text.isBlank_eq_false_of_isWordChar

section

open Statement

variable {α : Type} {parts : List Part} {t : Text} (f : List Text → α)

theorem map_gap_word (hbars : Bars parts isWordChar) :
    (captures (.gap :: .word :: parts) t).map f =
      (gapWord? t).bind fun read => (captures parts read.2).map fun captured =>
        f (read.1 :: captured) := by
  have hword : Bars (.word :: parts) isBlank := bars_run fun _ => isWordChar_eq_false_of_isBlank
  rw [captures_gap hword, gapWord?, Option.map_bind, Option.bind_assoc]
  refine Option.bind_congr fun u _ => ?_
  rw [Function.comp_apply, captures_word hbars, Option.map_bind]
  exact Option.bind_congr fun read _ => Option.map_map ..

theorem map_given {given : Text} :
    (captures (.oneOf [given] :: parts) t).map f =
      (after? given t).bind fun u => (captures parts u).map f := by
  rw [captures_oneOf_singleton, Option.map_bind]
  rfl

theorem map_gap_given {d : Char} {given : Text} (hd : isBlank d = false) :
    (captures (.gap :: .oneOf [d :: given] :: parts) t).map f =
      (afterGap? t).bind fun u => (after? (d :: given) u).bind fun v =>
        (captures parts v).map f := by
  rw [captures_gap (bars_oneOf hd), Option.map_bind]
  exact Option.bind_congr fun u _ => map_given f

/-- What is made of an expression at the end. -/
theorem map_expression {read : Option Text}
    (h : (captures parts t).map (List.map Text.trim) = read.map ([·])) (f : Text → α) :
    ((captures parts t).map fun captured => f (Text.trim (captured.getD 0 []))) = read.map f := by
  have hget : ∀ captured : List Text,
      Text.trim (captured.getD 0 []) = (captured.map Text.trim).getD 0 [] := by
    intro captured
    cases captured <;> rfl
  calc (captures parts t).map (fun captured => f (Text.trim (captured.getD 0 [])))
      = ((captures parts t).map (List.map Text.trim)).map
        fun captured => f (captured.getD 0 []) := by
        simp only [Option.map_map, Function.comp_def, hget]
    _ = (read.map ([·])).map fun captured => f (captured.getD 0 []) := by rw [h]
    _ = read.map f := by cases read <;> rfl

end

namespace Statement

/-- What a shape captures behind its words is what the reader of its kind reads there. -/
theorem map_fill_captures (k : StatementKind) (t : Text) :
    (captures k.shape.tail t).map k.fill = shape? k t := by
  cases k with
  | declare =>
    have hblanks : Bars [.oneOf ["="], .blanks, .tail] isBlank := bars_oneOf rfl
    have hword : Bars [.blanks, .oneOf ["="], .blanks, .tail] isWordChar :=
      bars_run_zero (fun _ => Text.isBlank_eq_false_of_isWordChar) (bars_oneOf rfl)
    refine (map_gap_word _ hword).trans (Option.bind_congr fun read _ => ?_)
    rw [captures_blanks hblanks, map_given]
    refine Option.bind_congr fun u _ => ?_
    exact (map_expression captures_blanks_tail (declare read.1)).trans Option.map_eq_bind
  | shout => exact map_expression captures_gap_tail shout
  | arithmetic op =>
    refine (map_gap_word _ (bars_gap _)).trans (Option.bind_congr fun target _ => ?_)
    refine (map_gap_word _ (bars_gap _)).trans (Option.bind_congr fun source _ => ?_)
    exact (map_expression captures_gap_tail (arithmetic op target.1 source.1)).trans
      Option.map_eq_bind
  | grind => exact map_expression captures_gap_tail grind
  | compare =>
    refine (map_gap_word _ (bars_gap _)).trans (Option.bind_congr fun name _ => ?_)
    refine (map_gap_given _ rfl).trans ?_
    refine Option.bind_congr fun u _ => Option.bind_congr fun v _ => ?_
    exact (map_expression captures_gap_tail (compare name.1)).trans Option.map_eq_bind
  | keep =>
    refine (map_gap_word _ (bars_gap _)).trans (Option.bind_congr fun name _ => ?_)
    refine (map_gap_given _ rfl).trans ?_
    refine Option.bind_congr fun u _ => Option.bind_congr fun v _ => ?_
    exact (map_expression captures_gap_tail (keep name.1)).trans Option.map_eq_bind

theorem captures_keyword {given : Text} (parts : List Part) (u : Text) :
    captures (.oneOf [given] :: parts) (given ++ u) = captures parts u := by
  rw [captures_oneOf_singleton, after?_eq_some_iff.2 rfl]
  rfl

/-- The shape of the operations reads the word of any of them. -/
theorem captures_operator (op : Operator) (parts : List Part) (v : Text) :
    captures (.oneOf ([.add, .sub, .mult, .div].map Operator.word) :: parts)
      (op.word ++ ' ' :: v) = captures parts (' ' :: v) := by
  have hways : (Part.oneOf ([.add, .sub, .mult, .div].map Operator.word)).ways
      (op.word ++ ' ' :: v) = [([], ' ' :: v)] := by
    cases op <;> rfl
  rw [captures, hways]
  cases hv : captures parts (' ' :: v) <;> simp [hv]

/-- The words of a kind are read by its shape. -/
theorem captures_shape (k : StatementKind) (v : Text) :
    captures k.shape (k.keyword ++ ' ' :: v) = captures k.shape.tail (' ' :: v) := by
  cases k with
  | arithmetic op => exact captures_operator op _ v
  | _ => exact captures_keyword _ _

/-- A line is read as its kind has it by what the shape of this kind captures. -/
theorem parse_eq_captures (line : Text) :
    parse line =
      match StatementKind.classify line with
      | none => .error (.malformed none line)
      | some k =>
        match captures k.shape line with
        | none => .error (.malformed (some k) line)
        | some captured => .ok (k.fill captured) := by
  rw [parse]
  cases hk : StatementKind.classify line with
  | none => rfl
  | some k =>
    obtain ⟨v, rfl⟩ := StatementKind.opens_iff.1 (StatementKind.classify_eq_some_iff.1 hk)
    simp only
    rw [List.drop_left, captures_shape, ← map_fill_captures]
    cases captures k.shape.tail (' ' :: v) <;> rfl

end Statement

end VibeScript
