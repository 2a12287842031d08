import VibeScript.Proofs.Characters
import VibeScript.Proofs.ExitCode
import VibeScript.Proofs.Operands
import VibeScript.Proofs.Sequences

/-!
Colour only decorates. Every printer puts together stretches, each of which shows as it is without
colour (`Terminal.shows_paintWith`), so what it prints does too. Documents and HTML have no
stretches at all. So in colour a command line has the exit code of its plain answer, and without its
escape sequences the coloured output is the plain one (`colour_decorates`).

All this is about sources, file names and classes without escape characters. That no other ones are
printed in runs, diagnostics and documents is known already; the texts of the guide and of the
samples are gone through.
-/

namespace VibeScript

open CommandLine
open Terminal
open Text (Visible visible_toList)

namespace Print

variable (coloured : Bool)

theorem shows_line {s t : Text} (h : Shows s t) : Shows (line s) (line t) :=
  h.text (by decide)

/-! ### Runs -/

theorem shows_binding {b : Binding} (hname : '\x1B' ∉ b.name) (hvalue : '\x1B' ∉ b.value.literal) :
    Shows (binding coloured b) (binding false b) := by
  have htype : '\x1B' ∉ ("(" ++ b.value.type.name ++ ")" : Text) := by
    cases b.value.type <;> decide
  exact shows_line <| shows_self (by decide)
    |>.painted coloured _ hname |>.text (by decide)
    |>.painted coloured _ htype |>.text (by decide)
    |>.text hvalue

theorem shows_run {source : Text} (hsource : '\x1B' ∉ source) :
    Shows (run coloured (execute source)) (run false (execute source)) := by
  have hlacks := lacks_execute (by decide) hsource
  have htidy : (execute source).Tidy := Context.tidy_start.runFrom _
  refine Shows.append (shows_flatMap fun l hl => shows_line (shows_self (hlacks.output l hl))) ?_
  unfold bindings
  split
  · exact shows_nil
  · have hhead := shows_line (shows_paint coloured .strong (t := "Variables") (by decide))
    refine ((shows_line shows_nil).append hhead).append (shows_flatMap fun b hb => ?_)
    have hget := (Store.get?_eq_some_iff _ b.name b.value).2 hb
    have hword := Text.visible_of_isWord (htidy.isWord_name _ _ hget)
    exact shows_binding coloured (hword.not_mem (by decide))
      (Value.not_mem_literal (by decide) (hlacks.value _ _ hget))

/-! ### Checks -/

theorem shows_excerpt (number : Nat) {source : Text} (hsource : '\x1B' ∉ source) :
    Shows (excerpt coloured number source) (excerpt false number source) := by
  have hnumber : '\x1B' ∉ Text.ofNat number := (Text.visible_ofNat number).not_mem (by decide)
  have hbar : Shows (line ("   " ++ margin coloured ['|'])) (line ("   " ++ margin false ['|'])) :=
    shows_line <| shows_self (by decide) |>.painted coloured _ (by decide)
  refine (hbar.append (shows_line ?_)).append hbar
  exact shows_padStart coloured _ 3 hnumber
    |>.text (by decide) |>.painted coloured _ (by decide) |>.text (by decide)
    |>.text hsource

theorem shows_help {hint : Text} (hhint : '\x1B' ∉ hint) :
    Shows (help coloured hint) (help false hint) :=
  shows_line <| shows_self (by decide)
    |>.painted coloured _ (by decide) |>.text (by decide)
    |>.painted coloured _ (by decide) |>.text (by decide)
    |>.text hhint

theorem shows_diagnostic {d : Diagnostic} (hd : d.Lacks '\x1B') :
    Shows (diagnostic coloured d) (diagnostic false d) := by
  have hseverity : '\x1B' ∉ d.severity.name := by cases d.severity <;> decide
  have hcode : '\x1B' ∉ ("[" ++ d.code ++ "]" : Text) :=
    List.not_mem_append (List.not_mem_append (by decide) hd.code) (by decide)
  have hnumber (n : Nat) : '\x1B' ∉ Text.ofNat n := (Text.visible_ofNat n).not_mem (by decide)
  unfold diagnostic
  refine Shows.append (Shows.append (Shows.append (Shows.append ?head ?place) ?context) ?help)
    (shows_line shows_nil)
  case head =>
    exact shows_line <| shows_paint coloured _ hseverity
      |>.painted coloured _ hcode |>.painted coloured _ (by decide) |>.text (by decide)
      |>.text hd.message
  case place =>
    exact shows_line <| shows_self (by decide)
      |>.painted coloured _ (by decide) |>.text (by decide)
      |>.text hd.file |>.text (by decide)
      |>.text (hnumber _) |>.text (by decide) |>.text (hnumber _)
  case context =>
    cases hcontext : d.context with
    | none => exact shows_nil
    | some source => exact shows_excerpt coloured _ (hd.context source hcontext)
  case help =>
    cases hhelp : d.help with
    | none => exact shows_nil
    | some hint => exact shows_help coloured (hd.help hint hhelp)

theorem shows_finished {file : Text} (hfile : '\x1B' ∉ file) (warnings : Nat) :
    Shows (finished coloured file warnings) (finished false file warnings) := by
  have hsuccess := (visible_success warnings).not_mem (c := '\x1B') (by decide)
  exact shows_line <| shows_paint coloured _ (by decide)
    |>.text (by decide) |>.text hfile |>.text (by decide) |>.text hsuccess

/-! ### The guide and the samples -/

theorem visible_features : ∀ f ∈ Guide.features,
    ∀ t ∈ f.id :: f.title :: f.description :: f.form :: f.snippets, Visible t := by
  simp only [Guide.features, List.forall_mem_cons, List.not_mem_nil, false_implies, implies_true,
    and_true]
  and_intros
  all_goals exact visible_toList rfl (by decide +kernel)

theorem visible_samples : ∀ s ∈ Guide.samples,
    ∀ t ∈ [s.title, s.description, s.category, s.slug], Visible t := by
  decide +kernel

theorem visible_categories : ∀ name ∈ Guide.categories, Visible name := by
  decide +kernel

theorem not_mem_sampleCode : ∀ s ∈ Guide.samples, '\x1B' ∉ s.code := by
  decide +kernel

/-- No entry of the guide has an escape character. -/
theorem not_mem_feature {f : Feature} (hf : f ∈ Guide.features) :
    '\x1B' ∉ f.id ∧ '\x1B' ∉ f.title ∧ '\x1B' ∉ f.description ∧ '\x1B' ∉ f.form ∧
      ∀ t ∈ f.snippets, '\x1B' ∉ t := by
  have hlacks (t) (ht) : '\x1B' ∉ t := (visible_features f hf t ht).not_mem (by decide)
  simpa only [List.forall_mem_cons] using hlacks

/-- No sample has an escape character. -/
theorem not_mem_sample {s : Sample} (hs : s ∈ Guide.samples) :
    '\x1B' ∉ s.title ∧ '\x1B' ∉ s.description ∧ '\x1B' ∉ s.category ∧ '\x1B' ∉ s.slug := by
  have hlacks (t) (ht) : '\x1B' ∉ t := (visible_samples s hs t ht).not_mem (by decide)
  simp only [List.forall_mem_cons] at hlacks
  obtain ⟨htitle, hdescription, hcategory, hslug, -⟩ := hlacks
  exact ⟨htitle, hdescription, hcategory, hslug⟩

theorem shows_heading (style : Style) {t : Text} (ht : '\x1B' ∉ t) :
    Shows (line (paint coloured style t)) (line (paint false style t)) :=
  shows_line (shows_paint coloured style ht)

theorem shows_featureLine {f : Feature} (hf : f ∈ Guide.features) :
    Shows (featureLine coloured f) (featureLine false f) := by
  obtain ⟨hid, htitle, hdescription, -⟩ := not_mem_feature hf
  exact shows_line <| (shows_self (by decide)).append (shows_padEnd coloured _ 14 hid)
    |>.text (by decide) |>.text htitle |>.text (by decide)
    |>.painted coloured _ (List.not_mem_append (by decide) hdescription)

theorem shows_feature {f : Feature} (hf : f ∈ Guide.features) :
    Shows (feature coloured f) (feature false f) := by
  obtain ⟨-, htitle, hdescription, hform, hsnippets⟩ := not_mem_feature hf
  have hspace : Shows "  " "  " := shows_self (by decide)
  have hcode {t : Text} (ht : '\x1B' ∉ t) :=
    shows_line (hspace.append (shows_highlight coloured ht))
  have hsyntax := shows_heading coloured .strong (t := "Syntax") (by decide)
  have hexamples := shows_heading coloured .strong (t := "Examples") (by decide)
  exact (shows_heading coloured (.boldIn .green) htitle).text
      (u := line f.description) (List.not_mem_append hdescription (by decide))
    |>.append (shows_line shows_nil) |>.append hsyntax |>.append (hcode hform)
    |>.append (shows_line shows_nil) |>.append hexamples
    |>.append (shows_flatMap fun t ht => hcode (hsnippets t ht))

theorem shows_slug {s : Sample} (hs : '\x1B' ∉ s.slug) : Shows (slug coloured s) (slug false s) :=
  shows_padEnd coloured _ 24 hs

theorem shows_category {name : Text} (hname : name ∈ Guide.categories) :
    Shows (category coloured name) (category false name) := by
  have hname := (visible_categories name hname).not_mem (c := '\x1B') (by decide)
  have hhead : Shows (line ("  " ++ paint coloured (.boldIn .yellow) name))
      (line ("  " ++ paint false (.boldIn .yellow) name)) :=
    shows_line <| shows_self (by decide) |>.painted coloured _ hname
  refine hhead.append (shows_flatMap fun s hs => ?_)
  obtain ⟨-, hdescription, -, hslug⟩ := not_mem_sample (List.mem_filter.1 hs).1
  exact shows_line <| (shows_self (by decide)).append (shows_slug coloured hslug)
    |>.text (by decide) |>.painted coloured _ hdescription

theorem shows_guide : Shows (guide coloured) (guide false) := by
  have hguide := shows_heading coloured .strong (t := "Language Guide") (by decide)
  have hexamples := shows_heading coloured .strong (t := "Examples") (by decide)
  exact hguide.append (shows_flatMap fun f hf => shows_featureLine coloured hf)
    |>.append (shows_line shows_nil) |>.append hexamples
    |>.append (shows_flatMap fun name hname => shows_category coloured hname)

theorem shows_samples : Shows (samples coloured) (samples false) := by
  refine shows_flatMap fun s hs => ?_
  obtain ⟨-, hdescription, hcategory, hslug⟩ := not_mem_sample hs
  have hlabel := List.not_mem_append (List.not_mem_append (s := ['[']) (by decide) hcategory)
    (t := [']']) (by decide)
  exact shows_line <| (shows_self (by decide)).append (shows_slug coloured hslug)
    |>.text (by decide) |>.text hdescription |>.text (by decide) |>.painted coloured _ hlabel

theorem shows_sample {s : Sample} (hs : s ∈ Guide.samples) :
    Shows (sample coloured s (execute s.code)) (sample false s (execute s.code)) := by
  obtain ⟨htitle, -⟩ := not_mem_sample hs
  have hcode := not_mem_sampleCode s hs
  have hhead := shows_paint coloured (.boldIn .green) (t := "Example") (by decide)
    |>.text (u := " ") (by decide) |>.text htitle
  exact (shows_line hhead).append (shows_line shows_nil)
    |>.append (shows_line (shows_highlight coloured hcode)) |>.append (shows_line shows_nil)
    |>.append (shows_run coloured hcode)

theorem shows_version : Shows version version :=
  shows_line (shows_self ((visible_toList rfl (by decide +kernel)).not_mem (by decide)))

theorem shows_overview : Shows overview overview := by
  refine shows_flatMap fun t ht => shows_line (shows_self (Visible.not_mem ?_ (by decide)))
  revert t
  simp only [List.forall_mem_cons, List.not_mem_nil, false_implies, implies_true, and_true]
  and_intros
  all_goals exact visible_toList rfl (by decide +kernel)

end Print

/-! ### Answers -/

/-- Whether two answers have one exit code, and the output of one shows as that of the other. -/
structure Answer.Decorates (a plain : Answer) : Prop where
  exit_eq : a.exit = plain.exit
  shows : Shows a.stdout plain.stdout

namespace CommandLine

variable {files : Files} (coloured : Bool) {file : Text}

/-- A command that cannot be carried out says nothing on the output. -/
theorem decorates_refuse (message : Text) :
    (refuse coloured message).Decorates (refuse false message) := ⟨rfl, shows_nil⟩

theorem decorates_withSource {act plain : Text → Answer}
    (h : ∀ source, files file = .ok source → (act source).Decorates (plain source)) :
    (withSource files coloured file act).Decorates (withSource files false file plain) := by
  unfold withSource
  split
  · exact h _ ‹_›
  · exact decorates_refuse coloured _

/-- Documents are never coloured, and have no escape characters. -/
theorem shows_document (j : Json) : Shows (Print.line j.text) (Print.line j.text) :=
  Print.shows_line (shows_self (Json.not_mem_text (by decide) (by decide) j))

section

variable {source : Text} (hsource : '\x1B' ∉ source)
include hsource

theorem decorates_run (format : OutputFormat) :
    (run coloured format source).Decorates (run false format source) := by
  cases format with
  | json => exact ⟨rfl, shows_document _⟩
  | human => exact ⟨rfl, Print.shows_run coloured hsource⟩

theorem decorates_check (format : OutputFormat) (hfile : '\x1B' ∉ file) :
    (check coloured format file source).Decorates (check false format file source) := by
  cases format with
  | json => exact ⟨rfl, shows_document _⟩
  | human =>
    have hremarks := shows_flatMap fun d hd =>
      Print.shows_diagnostic coloured (lacks_of_mem_validate (by decide) hfile hsource (d := d) hd)
    have hshown (coloured : Bool) :=
      (shown_printCheck coloured file (validate source file)).stdout_eq
    have hstdout : Shows (printCheck coloured file (validate source file)).1
        (printCheck false file (validate source file)).1 := by
      rw [hshown coloured, hshown false]
      split
      · exact hremarks.append (Print.shows_finished coloured hfile _)
      · exact hremarks.append shows_nil
    exact ⟨rfl, hstdout⟩

theorem decorates_highlightSource {theme : Theme} (htheme : ∀ kind, '\x1B' ∉ theme.classOf kind)
    (format : HighlightFormat) :
    (highlightSource coloured theme format source).Decorates
      (highlightSource false theme format source) := by
  cases format with
  | html =>
    exact ⟨rfl, Print.shows_line (shows_self (not_mem_highlight (by decide) htheme hsource))⟩
  | ansi => exact ⟨rfl, Print.shows_line (shows_highlight coloured hsource)⟩

end

theorem decorates_guide (id : Option Text) : (guide coloured id).Decorates (guide false id) := by
  unfold guide
  split
  · exact ⟨rfl, Print.shows_guide coloured⟩
  · split
    · exact ⟨rfl, Print.shows_feature coloured (List.mem_of_find?_eq_some ‹_›)⟩
    · exact decorates_refuse coloured _

theorem decorates_examples (name : Option Text) :
    (examples coloured name).Decorates (examples false name) := by
  unfold examples
  split
  · exact ⟨rfl, Print.shows_samples coloured⟩
  · split
    · exact ⟨rfl, Print.shows_sample coloured (List.mem_of_find?_eq_some ‹_›)⟩
    · exact decorates_refuse coloured _

/-! ### Command lines -/

/-- Whether there is no escape character in the arguments of a command line, in the files that can
be read or in the classes that are configured. -/
structure Unescaped (files : Files) (args : List Text) : Prop where
  argument : ∀ arg ∈ args, '\x1B' ∉ arg
  content : ∀ path content, files path = .ok content → '\x1B' ∉ content
  className : ∀ i config, Arguments.read args = .ok i →
    loadConfig files (i.config.getD defaultConfig) = .ok config →
      ∀ kind, '\x1B' ∉ config.highlight.classOf kind

theorem decorates_carryOut (hfiles : ∀ path content, files path = .ok content → '\x1B' ∉ content)
    {config : Config} (htheme : ∀ kind, '\x1B' ∉ config.highlight.classOf kind) {c : Command}
    (hfile : ∀ file, Command.file? c = some file → '\x1B' ∉ file) :
    (carryOut files coloured config c).Decorates (carryOut files false config c) := by
  cases c with
  | run file format =>
    exact decorates_withSource coloured fun source h =>
      decorates_run coloured (hfiles file source h) _
  | check file format =>
    exact decorates_withSource coloured fun source h =>
      decorates_check coloured (hfiles file source h) _ (hfile file rfl)
  | tokens file =>
    exact decorates_withSource coloured fun source _ => ⟨rfl, shows_document _⟩
  | highlight file format =>
    exact decorates_withSource coloured fun source h =>
      decorates_highlightSource coloured (hfiles file source h) htheme format
  | guide id => exact decorates_guide coloured id
  | examples name => exact decorates_examples coloured name

theorem decorates_answer {args : List Text} (h : Unescaped files args) :
    (answer files coloured args).Decorates (answer files false args) := by
  unfold answer
  split
  · rename_i i hread
    unfold invoke
    split
    · exact decorates_refuse coloured _
    · rename_i config hconfig
      exact decorates_carryOut _ h.content (h.className i config hread hconfig)
        fun file hfile => h.argument file (Arguments.file_mem_of_read hread hfile)
  · exact ⟨rfl, Print.shows_version⟩
  · exact ⟨rfl, Print.shows_overview⟩
  · exact ⟨rfl, shows_nil⟩

/-- A source that is printed with highlighting but without colour is printed as it is. -/
theorem stdout_highlight_off {args : List Text} {path : Option Text} {file source : Text}
    {config : Config} (hread : Arguments.read args = .ok ⟨path, .highlight file .ansi⟩)
    (hconfig : loadConfig files (path.getD defaultConfig) = .ok config)
    (hsource : files file = .ok source) (hoff : (coloured && config.output.color) = false) :
    (answer files coloured args).stdout = source ++ ['\n'] := by
  simp only [answer, hread, invoke, hconfig, carryOut, withSource, hsource, highlightSource, hoff,
    highlight_off]
  rfl

end CommandLine

/-- Colour only decorates. Where neither arguments nor files nor configured classes have escape
characters, a command line has the same exit code with and without colour, and the coloured output
without its escape sequences is the plain one. Printed with highlighting for terminals, a file is
its own text and a line break wherever colour is off. -/
theorem colour_decorates (files : Files) (args : List Text) :
    (Unescaped files args →
      (answer files true args).exit = (answer files false args).exit ∧
        withoutSequences (answer files true args).stdout = (answer files false args).stdout) ∧
    ∀ path file config source coloured,
      Arguments.read args = .ok ⟨path, .highlight file .ansi⟩ →
      loadConfig files (path.getD defaultConfig) = .ok config →
      files file = .ok source →
      (coloured && config.output.color) = false →
        (answer files coloured args).stdout = source ++ ['\n'] := by
  constructor
  · intro h
    have hdecorates := decorates_answer true h
    exact ⟨hdecorates.exit_eq, hdecorates.shows.withoutSequences_eq⟩
  · intro path file config source coloured hread hconfig hsource hoff
    exact stdout_highlight_off coloured hread hconfig hsource hoff

/-- A file with a binding and an open string, highlighted. -/
theorem colour_decorates_open_string :
    let source : Text := "vibe x = \"a"
    let files : Files := fun path => if path = ['f'] then .ok source else .error .missing
    let args : List Text := [("highlight" : Text), "f"]
    Unescaped files args ∧
      (answer files true args).exit = (answer files false args).exit ∧
      withoutSequences (answer files true args).stdout = (answer files false args).stdout ∧
      (answer files true args).stdout ≠ (answer files false args).stdout ∧
      Arguments.read args = .ok ⟨none, .highlight "f" .ansi⟩ ∧
      loadConfig files "kang.toml" = .ok .standard ∧
      files "f" = .ok source ∧
      (answer files false args).stdout = source ++ ['\n'] := by
  intro source files args
  have hread : Arguments.read args = .ok ⟨none, .highlight "f" .ansi⟩ := by rfl
  have hconfig : loadConfig files "kang.toml" = .ok .standard := by rfl
  have hsource : files "f" = .ok source := by rfl
  have hplain : Unescaped files args := by
    refine ⟨by decide, fun path content h => ?_, fun i config hi hc kind => ?_⟩
    · have hnone : '\x1B' ∉ source := by decide
      simp only [files] at h
      split at h <;> cases h
      exact hnone
    · rw [hread] at hi
      cases hi
      cases hconfig.symm.trans hc
      cases kind <;> decide
  have hcoloured : (answer files true args).stdout ≠ (answer files false args).stdout := by
    decide +kernel
  obtain ⟨hexit, hshows⟩ := (colour_decorates files args).1 hplain
  exact ⟨hplain, hexit, hshows, hcoloured, hread, hconfig, hsource,
    (colour_decorates files args).2 none "f" .standard source false hread hconfig hsource rfl⟩

end VibeScript
