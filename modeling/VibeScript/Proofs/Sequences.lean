import VibeScript.Proofs.Cutting
import VibeScript.Terminal

/-!
What is left of a text for terminals without its escape sequences. `withoutSequences` takes out
every piece from an escape character with a `[` behind it to the next `m`. A text shows as another
one (`Shows`) if the other one is left of it, whatever follows; so what is put together shows as its
parts do. A text without escape characters shows as itself, an escape sequence as nothing, and a
stretch of such a text as it is without colour (`shows_paintWith`).
-/

namespace VibeScript

namespace Terminal

/-- The text without every piece from an escape character with a `[` behind it to the next `m`. -/
def withoutSequences : Text → Text
  | [] => []
  | c :: t =>
    if c = '\x1B' ∧ t.head? = some '[' ∧ 'm' ∈ t then
      withoutSequences ((t.dropWhile (· != 'm')).drop 1)
    else c :: withoutSequences t
termination_by t => t.length
decreasing_by
  · have := (List.dropWhile_suffix (· != 'm') (l := t)).length_le
    simp only [List.length_drop, List.length_cons]
    omega
  · exact Nat.lt_succ_self _

/-- Whether, without escape sequences, one text is the other, whatever follows. -/
def Shows (s t : Text) : Prop := ∀ rest, withoutSequences (s ++ rest) = t ++ withoutSequences rest

variable {s s' t t' : Text}

/-! ### Texts that are put together -/

theorem Shows.withoutSequences_eq (h : Shows s t) : withoutSequences s = t := by
  have hend := h []
  rwa [List.append_nil, withoutSequences, List.append_nil] at hend

theorem shows_nil : Shows [] [] := fun _ => rfl

theorem Shows.append (h : Shows s t) (h' : Shows s' t') : Shows (s ++ s') (t ++ t') := by
  intro rest
  rw [List.append_assoc, h, h', List.append_assoc]

theorem shows_flatMap {α : Type} {f g : α → Text} {as : List α}
    (h : ∀ a ∈ as, Shows (f a) (g a)) : Shows (as.flatMap f) (as.flatMap g) := by
  induction as with
  | nil => exact shows_nil
  | cons a as ih =>
    obtain ⟨ha, has⟩ := List.forall_mem_cons.1 h
    exact ha.append (ih has)

/-- A text without escape characters shows as itself. -/
theorem shows_self (ht : '\x1B' ∉ t) : Shows t t := by
  intro rest
  induction t with
  | nil => rfl
  | cons c t ih =>
    obtain ⟨hc, ht⟩ := not_or.1 (mt List.mem_cons.2 ht)
    rw [List.cons_append, withoutSequences, if_neg fun h => hc h.1.symm, ih ht, List.cons_append]

/-! ### Stretches -/

theorem not_mem_intercalate {c : Char} {sep : Text} (hsep : c ∉ sep) {ts : List Text}
    (h : ∀ t ∈ ts, c ∉ t) : c ∉ sep.intercalate ts := by
  induction ts with
  | nil => exact List.not_mem_nil
  | cons t ts ih =>
    obtain ⟨ht, hts⟩ := List.forall_mem_cons.1 h
    cases ts with
    | nil => rwa [List.intercalate_singleton]
    | cons u ts =>
      rw [List.intercalate_cons_cons]
      exact List.not_mem_append (List.not_mem_append ht hsep) (ih hts)

/-- An escape sequence shows as nothing. -/
theorem shows_sequence {codes : List Text} (h : ∀ code ∈ codes, 'm' ∉ code) :
    Shows (sequence codes) [] := by
  intro rest
  have hbody : 'm' ∉ '[' :: [';'].intercalate codes :=
    List.not_mem_cons_of_ne_of_not_mem (by decide) (not_mem_intercalate (by decide) h)
  have hend : sequence codes ++ rest =
      '\x1B' :: ('[' :: [';'].intercalate codes ++ 'm' :: rest) := by
    simp only [sequence, List.append_assoc, List.cons_append, List.nil_append]
  rw [hend, withoutSequences, if_pos ⟨rfl, rfl, by simp⟩,
    Text.dropWhile_run (Text.not_mem_iff_all_ne.1 hbody) (Text.stops_cons.2 rfl), List.drop_one,
    List.tail_cons, List.nil_append]

theorem not_mem_code {style : Style} {code : Text} (h : code ∈ style.codes) : 'm' ∉ code := by
  have flag {on : Bool} {digit : Char} (hdigit : 'm' ≠ digit)
      (h : code ∈ if on then [[digit]] else []) : 'm' ∉ code := by
    split at h
    · rw [List.mem_singleton.1 h]
      exact mt List.mem_singleton.1 hdigit
    · cases h
  have colour (c : Colour) : 'm' ∉ Style.colourCode c := by cases c <;> decide
  simp only [Style.codes, List.mem_append] at h
  rcases h with ((hbold | hdimmed) | hitalic) | hcolour
  · exact flag (by decide) hbold
  · exact flag (by decide) hdimmed
  · exact flag (by decide) hitalic
  · obtain ⟨c, _, rfl⟩ := Option.map_eq_some_iff.1 (Option.mem_toList.1 hcolour)
    exact colour c

/-- Nothing is reset in a text without escape characters. -/
theorem reopen_eq_self (opening : Text) (ht : '\x1B' ∉ t) : reopen opening t = t := by
  induction t with
  | nil => rfl
  | cons c t ih =>
    obtain ⟨hc, ht⟩ := not_or.1 (mt List.mem_cons.2 ht)
    rw [reopen, ih ht]
    rintro _ rfl
    exact absurd rfl hc

/-- A stretch shows as it is without colour. -/
theorem shows_paintWith {pad : Text → Text} (hpad : ∀ t, '\x1B' ∉ t → '\x1B' ∉ pad t)
    (coloured : Bool) (style : Style) (ht : '\x1B' ∉ t) :
    Shows (paintWith pad coloured style t) (paintWith pad false style t) := by
  have htext : Shows (pad t) (pad t) := shows_self (hpad t ht)
  unfold paintWith
  split
  · have hopening : Shows (sequence style.codes) [] := shows_sequence fun _ => not_mem_code
    have hclosing : Shows reset [] := shows_sequence (by decide)
    rw [reopen_eq_self _ ht]
    simpa using (hopening.append htext).append hclosing
  · exact htext

theorem Shows.text (h : Shows s t) {u : Text} (hu : '\x1B' ∉ u) : Shows (s ++ u) (t ++ u) :=
  h.append (shows_self hu)

section

variable (coloured : Bool) (style : Style)

theorem shows_paint (ht : '\x1B' ∉ t) : Shows (paint coloured style t) (paint false style t) :=
  shows_paintWith (fun _ h => h) coloured style ht

theorem Shows.painted (h : Shows s t) {u : Text} (hu : '\x1B' ∉ u) :
    Shows (s ++ paint coloured style u) (t ++ paint false style u) :=
  h.append (shows_paint coloured style hu)

theorem shows_padEnd (width : Nat) (ht : '\x1B' ∉ t) :
    Shows (paintWith (padEnd width) coloured style t) (paintWith (padEnd width) false style t) := by
  refine shows_paintWith (fun u hu => ?_) coloured style ht
  exact List.not_mem_append hu (by simp)

theorem shows_padStart (width : Nat) (ht : '\x1B' ∉ t) :
    Shows (paintWith (padStart width) coloured style t)
      (paintWith (padStart width) false style t) := by
  refine shows_paintWith (fun u hu => ?_) coloured style ht
  exact List.not_mem_append (by simp) hu

/-- A highlighted source shows as it is without colour: tokens are made of its characters only. -/
theorem shows_highlight (ht : '\x1B' ∉ t) : Shows (highlight coloured t) (highlight false t) := by
  refine shows_flatMap fun piece hpiece => shows_paint coloured _ fun hmem => ht ?_
  rw [← Token.flatMap_text_pieces t]
  exact List.mem_flatMap.2 ⟨piece, hpiece, hmem⟩

end

end Terminal

end VibeScript
