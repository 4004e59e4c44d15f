import RuntimeValues.Value.Fault
import RuntimeValues.Proofs.Diagnostic.PlainText

/-!
# The layout of the text of an error

The text of an error is a list of parts with a line break between any two of them. The headline is
always there, the title if it is asked for, the help and the note if there are any. The line breaks
between the parts are the only ones that are added to those of the texts themselves, and colour
changes nothing but the title. Nothing is assumed of the texts: they may be of several lines or
look like other parts. What is assumed of the function that makes a text red is `WritesRedCodes`,
and only where the coloured title is looked at.
-/

namespace RuntimeValues

set_option autoImplicit false

namespace Text

/-- A part that is left out if there is nothing to say. -/
def labelled (label text : String) : List String := if text = "" then [] else [label ++ text]

end Text

namespace Context

end Context

theorem WritesRedCodes.title {red : String → String} (hred : WritesRedCodes red) (c : Context) :
    red c.title = "\x1b[31m" ++ c.title ++ "\x1b[0m" := hred c.title c.escape_not_mem_title

namespace Diagnostic

variable {κ : Type} (red : String → String)

def shownTitle (options : RenderOptions) (d : Diagnostic κ) : List String :=
  if options.showTitle then
    [if options.colored then red d.details.context.title else d.details.context.title]
  else []

variable [Cause κ]

/-- What the text of an error consists of. -/
def parts (options : RenderOptions) (d : Diagnostic κ) : List String :=
  d.shownTitle red options ++ (d.code ++ ": " ++ d.message) ::
    (Text.labelled "Help: " d.help ++ Text.labelled "Note: " d.details.note)

end Diagnostic

end RuntimeValues
