import RuntimeValues.Diagnostic.Code

/-!
# The text of an error

The text has up to four parts, each on lines of its own: a title with the context, the
code with the message, the help and the note. An empty help and an empty note are left out
together with their line break. Colour touches the title only. How a text is made red is not
decided here: `renderWith` is given the function that does it.
-/

namespace RuntimeValues

set_option autoImplicit false

/-- How the text of an error is drawn. -/
structure RenderOptions where
  colored : Bool := true
  showTitle : Bool := true
deriving DecidableEq

/-- Titled and without escape codes, for logs. -/
def RenderOptions.plain : RenderOptions where
  colored := false

/-- The title of an error that arose in this context. An unknown context is not named. -/
def Context.title (c : Context) : String :=
  if c.phrase = "" then "[Error]" else "[Error while " ++ c.phrase ++ "]"

namespace Diagnostic

variable {κ : Type} [Cause κ]

def titlePart (red : String → String) (options : RenderOptions) (d : Diagnostic κ) : String :=
  if options.showTitle then
    (if options.colored then red d.details.context.title else d.details.context.title) ++ "\n"
  else ""

def headline (d : Diagnostic κ) : String := d.code ++ ": " ++ d.message

def helpPart (d : Diagnostic κ) : String :=
  if d.help = "" then "" else "\nHelp: " ++ d.help

def notePart (d : Diagnostic κ) : String :=
  if d.details.note = "" then "" else "\nNote: " ++ d.details.note

/-- The text of an error, with `red` to make a text red. -/
def renderWith (red : String → String) (options : RenderOptions) (d : Diagnostic κ) : String :=
  d.titlePart red options ++ d.headline ++ d.helpPart ++ d.notePart

end Diagnostic

/-- What is relied on where a text is made red: the text stands between the escape codes for red
and for the default colour. Nothing is said of a text that has escape codes itself. -/
def WritesRedCodes (red : String → String) : Prop :=
  ∀ text : String, '\x1b' ∉ text.toList → red text = "\x1b[31m" ++ text ++ "\x1b[0m"

/-- The plain way to make a text red on a terminal. -/
def escapeRed (text : String) : String := "\x1b[31m" ++ text ++ "\x1b[0m"

/-- The text of an error on a terminal. -/
def Diagnostic.render {κ : Type} [Cause κ] (options : RenderOptions) (d : Diagnostic κ) : String :=
  d.renderWith escapeRed options

end RuntimeValues
