import VibeScript.Text

/-!
The guide to the language: its features, one entry each, and sample programs by category. Entries
and samples are found by name in any letter case, blanks around the name aside.
-/

namespace VibeScript

/-- A sample program. -/
structure Sample where
  title : Text
  description : Text
  category : Text
  code : Text
  deriving DecidableEq, Repr

/-- An entry of the guide. -/
structure Feature where
  id : Text
  title : Text
  description : Text
  /-- The form of the statements that the entry is about. -/
  form : Text
  /-- Statements of the entry; a statement may need names that it does not bind itself. -/
  snippets : List Text
  deriving DecidableEq, Repr

namespace Guide

/-- Lines, with a line break between each and the next. -/
def joinLines (lines : List Text) : Text := ['\n'].intercalate lines

/-- The sample programs. -/
def samples : List Sample :=
  [{ title := "Hello World"
     description := "Basic output statement"
     category := "basics"
     code := "shout \"Hello, World!\"" },
   { title := "Variables"
     description := "Declaring and using variables"
     category := "variables"
     code := joinLines
       ["vibe name = \"KANG\"", "vibe version = 1.0", "shout name", "shout version"] },
   { title := "Arithmetic Operations"
     description := "Basic math operations"
     category := "arithmetic"
     code := joinLines
       ["vibe x = 10", "vibe y = 5", "add result x y", "shout result", "sub difference x y",
        "shout difference"] },
   { title := "Loops"
     description := "Repeating operations"
     category := "loops"
     code := joinLines
       ["vibe count = 0", "grind 5", "    shout \"Looping...\"", "    add count count 1"] },
   { title := "Conditionals"
     description := "Making decisions"
     category := "conditionals"
     code := joinLines
       ["vibe score = 85", "fr score same 85", "    shout \"Perfect score!\""] },
   { title := "Complex Example"
     description := "Combining multiple features"
     category := "advanced"
     code := joinLines
       ["vibe count = 0", "grind 5", "    shout \"Looping...\"", "    add count count 1", "",
        "fr count same 5", "    shout \"Count reached 5!\"", "", "keep vibing count high 0"] }]

/-- The entries of the guide. -/
def features : List Feature :=
  [{ id := "variables"
     title := "Variables"
     description := "Store and manipulate data using the 'vibe' keyword"
     form := "vibe variable_name = value"
     snippets := ["vibe name = \"John\"", "vibe age = 25", "vibe isActive = true"] },
   { id := "print"
     title := "Print Statement"
     description := "Output text or variable values using 'shout'"
     form := "shout value_or_variable"
     snippets := ["shout \"Hello World\"", "shout variable_name", "shout 42"] },
   { id := "arithmetic"
     title := "Arithmetic Operations"
     description := "Perform mathematical operations"
     form := "operation target source value"
     snippets :=
       ["add result x 5", "sub difference y 3", "mult product a b", "div quotient num 2"] },
   { id := "loops"
     title := "Loops"
     description := "Repeat operations using 'grind'"
     form := "grind count"
     snippets := ["grind 5", "grind variable_name"] },
   { id := "conditionals"
     title := "Conditional Statements"
     description := "Make decisions using 'fr' and 'same'"
     form := "fr variable same value"
     snippets := ["fr x same 10", "fr name same \"John\"", "fr isReady same true"] },
   { id := "custom"
     title := "Custom Keywords"
     description := "Special KANG expressions"
     form := "keep vibing variable high value"
     snippets := ["keep vibing energy high 100", "keep vibing mood high \"happy\""] }]

/-- The categories of the samples, in the order in which they first appear. -/
def categories : List Text := (samples.map Sample.category).eraseDups

/-- The samples of a category. -/
def inCategory (category : Text) : List Sample := samples.filter fun s => s.category == category

end Guide

/-- The short name of a sample: its title in lower case, with dashes for spaces. -/
def Sample.slug (s : Sample) : Text :=
  (Text.lower s.title).map fun c => if c == ' ' then '-' else c

namespace Guide

/-- A name without the blanks around it, in lower case. -/
def wanted (name : Text) : Text := Text.lower (Text.trim name)

/-- The entry of an id. -/
def feature? (id : Text) : Option Feature := features.find? fun f => f.id == wanted id

/-- The sample of a title or of a short name. -/
def sample? (name : Text) : Option Sample :=
  samples.find? fun s => Text.lower s.title == wanted name || s.slug == wanted name

end Guide

end VibeScript
