import VibeScript.Highlight
import VibeScript.Proofs.Bindings
import VibeScript.Proofs.Kinds
import VibeScript.Proofs.Remarks
import VibeScript.Report

/-!
Where the control characters of what is reported come from. A run and a check have none but those of
their source and of the name of their file (`lacks_execute`, `lacks_of_mem_validate`), since
statements, faults and warnings bring in none. Documents for machines have none but the line breaks
between their lines, whatever they are about (`Json.not_mem_text`): between quotes, a control
character is spelled out. HTML has those of its source and of its classes (`not_mem_highlight`).
-/

namespace VibeScript

open Text (Visible)

variable {c : Char}

/-! ### Runs -/

theorem Source.raw_subset {source : Text} {l : SourceLine} (h : l ∈ lines source) :
    l.raw ⊆ source := by
  obtain ⟨before, after, hlines⟩ := List.append_of_mem h
  obtain ⟨d, _, _, rfl, _⟩ := exists_division hlines
  intro e he
  rw [d.join]
  simp [he]

theorem Source.not_mem_text {source : Text} (hsource : c ∉ source) {l : SourceLine}
    (h : l ∈ statementLines source) : c ∉ l.text :=
  fun hmem => hsource (raw_subset (List.mem_filter.1 h).1 (Text.trim_subset l.raw hmem))

/-- A run brings in no control character. -/
theorem lacks_execute (hc : c.toNat < 0x20) {source : Text} (hsource : c ∉ source) :
    (execute source).Lacks c := by
  refine (Context.lacks_start c).runFrom hc fun l hl st hst hmem => ?_
  exact Source.not_mem_text hsource hl ((Statement.infix_of_parse hst).2.subset hmem)

/-! ### Diagnostics -/

/-- Whether a character is in no text of a diagnostic. -/
structure Diagnostic.Lacks (c : Char) (d : Diagnostic) : Prop where
  code : c ∉ d.code
  message : c ∉ d.message
  file : c ∉ d.file
  context : ∀ t ∈ d.context, c ∉ t
  help : ∀ t ∈ d.help, c ∉ t

theorem StatementKind.visible_keyword (k : StatementKind) : Visible k.keyword := by
  have hall : ∀ k ∈ all, Visible k.keyword := by decide
  exact hall k (mem_all k)

theorem Fault.visible_complaint (kind : Option StatementKind) : Visible (complaint kind) := by
  have hall : ∀ kind ∈ kinds, Visible (complaint kind) := by decide +kernel
  exact hall kind (mem_kinds kind)

section

variable (hc : c.toNat < 0x20) {file : Text} (hfile : c ∉ file)
include hc hfile

theorem Validation.ErrorAbout.lacks {l : SourceLine} (hl : c ∉ l.text) {d : Diagnostic}
    (h : ErrorAbout file l d) : d.Lacks c := by
  have given {t : Text} (ht : Visible t) : c ∉ t := ht.not_mem hc
  obtain ⟨fault, hp, rfl⟩ := h
  obtain ⟨kind, rfl⟩ := Statement.exists_malformed_of_parse hp
  have hcode : Visible "E001" := by decide
  have hcolon : Visible ": " := by decide
  have hmessage : c ∉ Fault.complaint kind ++ ": " ++ l.text := List.not_mem_append
    (List.not_mem_append (given (Fault.visible_complaint kind)) (given hcolon)) hl
  refine ⟨given hcode, hmessage, hfile, by simpa using hl, fun t ht => ?_⟩
  obtain rfl := Option.some.inj ht
  exact given (Text.visible_toList rfl (by decide +kernel))

theorem Validation.WarningAbout.lacks {before : List SourceLine} {l : SourceLine} (hl : c ∉ l.text)
    {d : Diagnostic} (h : WarningAbout file before l d) : d.Lacks c := by
  have given {t : Text} (ht : Visible t) : c ∉ t := ht.not_mem hc
  obtain ⟨_, head, st, _, _, _, rfl⟩ := h
  have hcode : Visible "W001" := by decide
  have hmessage : Visible ("Indented line is not a body of `" ++ st.kind.keyword ++ "` on line " ++
      Text.ofNat head.number ++ "; it runs once") := by
    refine Visible.append (Visible.append (Visible.append (Visible.append ?_
      st.kind.visible_keyword) ?_) (Text.visible_ofNat _)) ?_
    all_goals exact Text.visible_toList rfl (by decide +kernel)
  refine ⟨given hcode, given hmessage, hfile, by simpa using hl, fun t ht => ?_⟩
  obtain rfl := Option.some.inj ht
  exact given (Text.visible_toList rfl (by decide +kernel))

/-- A check brings in no control character. -/
theorem lacks_of_mem_validate {source : Text} (hsource : c ∉ source) {d : Diagnostic}
    (hd : d ∈ validate source file) : d.Lacks c := by
  obtain ⟨before, l, after, hls, habout⟩ := Validation.mem_validate_iff.1 hd
  have hmem : l ∈ Source.statementLines source := by rw [hls]; exact List.mem_append_cons_self
  have hl := Source.not_mem_text hsource hmem
  rcases habout with herror | hwarning
  · exact herror.lacks hc hfile hl
  · exact hwarning.lacks hc hfile hl

end

/-! ### Documents -/

namespace Json

theorem visible_escapeChar (d : Char) : Visible (escapeChar d) := by
  have hhex : ∀ n < 16, 0x20 ≤ (hexDigit n).toNat := by decide
  unfold escapeChar
  split
  case h_8 =>
    split
    · rename_i hd
      refine Visible.append (by decide) ?_
      simpa [Visible] using ⟨hhex _ (by omega), hhex _ (by omega)⟩
    · rename_i hd
      simpa [Visible] using hd
  all_goals decide

/-- Between quotes there is no control character. -/
theorem visible_quote (s : Text) : Visible (quote s) := by
  have hinner : Visible (s.flatMap escapeChar) := by
    intro d hd
    obtain ⟨e, _, he⟩ := List.mem_flatMap.1 hd
    exact visible_escapeChar e d he
  exact Visible.append (Visible.append (s := ['"']) (by decide) hinner) (by decide)

theorem visible_ofNumber (n : Number) : Visible (ofNumber n) := by
  unfold ofNumber
  split
  · decide
  · split
    · exact Layout.visible_signed _ _ _
    · decide

theorem ne_of_visible (hc : c.toNat < 0x20) {d : Char} (hd : 0x20 ≤ d.toNat) : c ≠ d := by
  rintro rfl
  omega

section

variable (hc : c.toNat < 0x20) (hbreak : c ≠ '\n')
include hc hbreak

theorem not_mem_newLine (level : Nat) : c ∉ newLine level := by
  have hspaces := (Text.visible_replicate (d := ' ') (by decide) (2 * level)).not_mem hc
  simpa [newLine, hbreak] using hspaces

mutual

theorem not_mem_write (level : Nat) (j : Json) : c ∉ j.write level := by
  have given {t : Text} (ht : Visible t) : c ∉ t := ht.not_mem hc
  have hnew := not_mem_newLine hc hbreak
  cases j with
  | null =>
    have hnull : Visible "null" := by decide
    exact given hnull
  | boolean b =>
    have hyes : Visible "true" := by decide
    have hno : Visible "false" := by decide
    cases b with
    | true => exact given hyes
    | false => exact given hno
  | count n => exact given (Text.visible_ofNat n)
  | number n => exact given (visible_ofNumber n)
  | string s => exact given (visible_quote s)
  | list items =>
    cases items with
    | nil =>
      have hempty : Visible ['[', ']'] := by decide
      exact given hempty
    | cons item items =>
      have hitem := not_mem_write (level + 1) item
      have hitems := not_mem_writeItems (level + 1) items
      have hopen : c ≠ '[' := ne_of_visible hc (by decide)
      have hclose : c ≠ ']' := ne_of_visible hc (by decide)
      simp [write, hnew, hitem, hitems, hopen, hclose]
  | object members =>
    cases members with
    | nil =>
      have hempty : Visible ['{', '}'] := by decide
      exact given hempty
    | cons member members =>
      obtain ⟨name, value⟩ := member
      have hvalue := not_mem_write (level + 1) value
      have hmembers := not_mem_writeMembers (level + 1) members
      have hname := given (visible_quote name)
      have hopen : c ≠ '{' := ne_of_visible hc (by decide)
      have hclose : c ≠ '}' := ne_of_visible hc (by decide)
      have hcolon : c ≠ ':' := ne_of_visible hc (by decide)
      have hspace : c ≠ ' ' := ne_of_visible hc (by decide)
      simp [write, hnew, hvalue, hmembers, hname, hopen, hclose, hcolon, hspace]

theorem not_mem_writeItems (level : Nat) (items : List Json) : c ∉ writeItems level items := by
  cases items with
  | nil => exact List.not_mem_nil
  | cons item items =>
    have hitem := not_mem_write level item
    have hitems := not_mem_writeItems level items
    have hcomma : c ≠ ',' := ne_of_visible hc (by decide)
    simp [writeItems, not_mem_newLine hc hbreak, hitem, hitems, hcomma]

theorem not_mem_writeMembers (level : Nat) (members : List (Text × Json)) :
    c ∉ writeMembers level members := by
  cases members with
  | nil => exact List.not_mem_nil
  | cons member members =>
    obtain ⟨name, value⟩ := member
    have hvalue := not_mem_write level value
    have hmembers := not_mem_writeMembers level members
    have hname := (visible_quote name).not_mem hc
    have hcomma : c ≠ ',' := ne_of_visible hc (by decide)
    have hcolon : c ≠ ':' := ne_of_visible hc (by decide)
    have hspace : c ≠ ' ' := ne_of_visible hc (by decide)
    simp [writeMembers, not_mem_newLine hc hbreak, hvalue, hmembers, hname, hcomma, hcolon, hspace]

end

/-- A document has no control character but line breaks. -/
theorem not_mem_text (j : Json) : c ∉ j.text := not_mem_write hc hbreak 0 j

end

end Json

/-! ### HTML -/

theorem Html.mem_of_mem_escape (hc : c.toNat < 0x20) {t : Text} (h : c ∈ escape t) : c ∈ t := by
  obtain ⟨d, hd, hmem⟩ := List.mem_flatMap.1 h
  have given {u : Text} (hu : Visible u) : c ∉ u := hu.not_mem hc
  unfold escapeChar at hmem
  split at hmem
  case h_6 => rwa [List.mem_singleton.1 hmem]
  all_goals exact absurd hmem (given (by decide))

/-- HTML brings in no control character. -/
theorem not_mem_highlight (hc : c.toNat < 0x20) {theme : Theme}
    (htheme : ∀ kind, c ∉ theme.classOf kind) {source : Text} (hsource : c ∉ source) :
    c ∉ highlight theme source := by
  intro hmem
  obtain ⟨piece, hpiece, hmem⟩ := List.mem_flatMap.1 hmem
  have htext : c ∉ Html.escape piece.text := by
    intro h
    refine hsource ?_
    rw [← Token.flatMap_text_pieces source]
    exact List.mem_flatMap.2 ⟨piece, hpiece, Html.mem_of_mem_escape hc h⟩
  have hclass : c ∉ Html.escape (theme.classOf piece.kind) :=
    fun h => htheme piece.kind (Html.mem_of_mem_escape hc h)
  have given {t : Text} (ht : Visible t) : c ∉ t := ht.not_mem hc
  unfold Html.mark at hmem
  split at hmem
  · exact htext hmem
  · refine absurd hmem (List.not_mem_append (List.not_mem_append (List.not_mem_append
      (List.not_mem_append (given ?_) hclass) (given ?_)) htext) (given ?_)) <;> decide

end VibeScript
