import RuntimeValues.Diagnostic.Render
import RuntimeValues.Proofs.Text.Separator

/-!
# What the plain text of an error tells

The plain text of an error has its title and its headline on a line each, and the help and the
note after them. If the message is a single line, the text can be taken apart again into the
context, the code, the message and what follows, and the note can be told from the help once
the help is known. Nothing is asked of the note, since it comes last.
-/

namespace RuntimeValues

set_option autoImplicit false

theorem Context.title_injective {c d : Context} (h : c.title = d.title) : c = d := by
  revert h
  cases c <;> cases d <;> simp [title, phrase]

theorem Context.newline_not_mem_title (c : Context) : '\n' ∉ c.title.toList := by
  cases c <;> simp [title, phrase]

theorem Context.escape_not_mem_title (c : Context) : '\x1b' ∉ c.title.toList := by
  cases c <;> simp [title, phrase]

theorem Cause.eq_letter_or_isDigit {κ : Type} [Cause κ] {cause : κ} {c : Char}
    (h : c ∈ (code cause).toList) : c = 'E' ∨ c.isDigit = true := by
  rw [code, String.toList_append] at h
  rcases List.mem_append.mp h with hletter | hdigit
  · exact .inl (List.mem_singleton.mp hletter)
  · exact .inr (Text.isDigit_of_mem_zeroPadded hdigit)

theorem Cause.codeNumber_eq {κ κ' : Type} [Cause κ] [Cause κ'] {cause : κ} {cause' : κ'}
    (h : code cause = code cause') : codeNumber cause = codeNumber cause' :=
  Text.zeroPadded_injective ((String.append_right_inj "E").mp h)

namespace Diagnostic

/-- An error is its cause, its context and its note. -/
theorem eq_of_parts {κ : Type} {d e : Diagnostic κ} (hcause : d.cause = e.cause)
    (hcontext : d.details.context = e.details.context) (hnote : d.details.note = e.details.note) :
    d = e := by
  obtain ⟨cause, context, note⟩ := d
  obtain ⟨cause', context', note'⟩ := e
  cases hcause
  cases hcontext
  cases hnote
  rfl

variable {κ κ' : Type} {d : Diagnostic κ} {e : Diagnostic κ'}

theorem opens_notePart (d : Diagnostic κ) : Text.Opens '\n' d.notePart := by
  rw [notePart]
  split
  · exact Text.opens_empty _
  · exact Text.opens_append_of_head rfl _

theorem notePart_inj (h : d.notePart = e.notePart) : d.details.note = e.details.note := by
  simp only [notePart] at h
  split at h
  next hd =>
    split at h
    next he => rw [hd, he]
    next => simp at h
  next =>
    split at h
    next => simp at h
    next => exact (String.append_right_inj "\nNote: ").mp h

variable [Cause κ] [Cause κ']

theorem not_mem_code {c : Char} (hletter : c ≠ 'E') (hdigit : ¬ c.isDigit = true) :
    c ∉ d.code.toList := by
  intro h
  rcases Cause.eq_letter_or_isDigit h with heq | his
  · exact hletter heq
  · exact hdigit his

theorem newline_not_mem_headline (h : '\n' ∉ d.message.toList) : '\n' ∉ d.headline.toList := by
  have hcode : '\n' ∉ d.code.toList := not_mem_code (by decide) (by decide)
  simp [headline, hcode, h]

theorem opens_helpPart (d : Diagnostic κ) : Text.Opens '\n' d.helpPart := by
  rw [helpPart]
  split
  · exact Text.opens_empty _
  · exact Text.opens_append_of_head rfl _

/-- The plain text has no colour, so it does not depend on how a text is made red. -/
theorem renderWith_plain (red : String → String) (d : Diagnostic κ) :
    d.renderWith red .plain =
      d.details.context.title ++ ("\n" ++ (d.headline ++ (d.helpPart ++ d.notePart))) := by
  simp [renderWith, titlePart, RenderOptions.plain, String.append_assoc]

theorem headline_inj (h : d.headline = e.headline) : d.code = e.code ∧ d.message = e.message := by
  have hparts : d.code ++ (": " ++ d.message) = e.code ++ (": " ++ e.message) := by
    simpa only [headline, String.append_assoc] using h
  have hopens : ∀ message, Text.Opens ':' (": " ++ message) :=
    fun message => Text.opens_append_of_head rfl message
  obtain ⟨hcode, hrest⟩ := Text.append_inj_of_opens (not_mem_code (by decide) (by decide))
    (not_mem_code (by decide) (by decide)) (hopens _) (hopens _) hparts
  exact ⟨hcode, (String.append_right_inj ": ").mp hrest⟩

/-- The lines of the plain text tell the context, the code and the message, and are followed by
the same help and note. -/
theorem parts_of_plain (hd : '\n' ∉ d.message.toList) (he : '\n' ∉ e.message.toList)
    {red red' : String → String} (h : d.renderWith red .plain = e.renderWith red' .plain) :
    d.details.context = e.details.context ∧ d.code = e.code ∧ d.message = e.message ∧
      d.helpPart ++ d.notePart = e.helpPart ++ e.notePart := by
  rw [renderWith_plain, renderWith_plain] at h
  obtain ⟨htitle, hbelow⟩ := Text.append_inj_of_opens (Context.newline_not_mem_title _)
    (Context.newline_not_mem_title _) (Text.opens_append_of_head rfl _)
    (Text.opens_append_of_head rfl _) h
  obtain ⟨hheadline, hrest⟩ := Text.append_inj_of_opens (newline_not_mem_headline hd)
    (newline_not_mem_headline he) (Text.opens_append (opens_helpPart d) (opens_notePart d))
    (Text.opens_append (opens_helpPart e) (opens_notePart e))
    ((String.append_right_inj "\n").mp hbelow)
  obtain ⟨hcode, hmessage⟩ := headline_inj hheadline
  exact ⟨Context.title_injective htitle, hcode, hmessage, hrest⟩

/-- The note can be told from the help once the help is known. -/
theorem note_of_help (hhelp : d.help = e.help)
    (h : d.helpPart ++ d.notePart = e.helpPart ++ e.notePart) :
    d.details.note = e.details.note := by
  have hpart : d.helpPart = e.helpPart := by simp only [helpPart, hhelp]
  rw [hpart] at h
  exact notePart_inj ((String.append_right_inj e.helpPart).mp h)

/-- Help that is one line ends where the note begins. -/
theorem help_and_note_of_lines (hd : d.help ≠ "") (he : e.help ≠ "")
    (hline : '\n' ∉ d.help.toList) (hline' : '\n' ∉ e.help.toList)
    (h : d.helpPart ++ d.notePart = e.helpPart ++ e.notePart) :
    d.help = e.help ∧ d.details.note = e.details.note := by
  rw [helpPart, helpPart, if_neg hd, if_neg he, String.append_assoc, String.append_assoc] at h
  obtain ⟨hhelp, hnote⟩ := Text.append_inj_of_opens hline hline' (opens_notePart d)
    (opens_notePart e) ((String.append_right_inj "\nHelp: ").mp h)
  exact ⟨hhelp, notePart_inj hnote⟩

end Diagnostic

end RuntimeValues
