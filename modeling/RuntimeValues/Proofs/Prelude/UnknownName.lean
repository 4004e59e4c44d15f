import RuntimeValues.Prelude.Error
import RuntimeValues.Proofs.Diagnostic.PlainText
import RuntimeValues.Proofs.Text.Enumeration

/-!
# What the error of an unknown name tells

The error of a name that is not there keeps the available names in the order of their bytes. So
it says nothing about the order they came in, and everything else: if the names are single lines
and none of the available ones holds a backquote, the plain text tells the name, how often each
available name was given, the context and the note. Nothing is asked of the notes.
-/

namespace RuntimeValues

set_option autoImplicit false

namespace UnknownName

variable {cause cause' : UnknownName}

/-- The names are single lines, and no available one holds a backquote. -/
def Legible (cause : UnknownName) : Prop :=
  '\n' ∉ cause.name.toList ∧
    ∀ item ∈ cause.available, '\n' ∉ item.toList ∧ '\x60' ∉ item.toList

theorem Legible.sorted {name : String} {available : List String} (h : Legible ⟨name, available⟩) :
    Legible ⟨name, Text.sorted available⟩ :=
  ⟨h.1, fun item hitem => h.2 item ((Text.sorted_perm available).mem_iff.mp hitem)⟩

theorem Legible.newline_not_mem_message (h : cause.Legible) : '\n' ∉ cause.message.toList := by
  unfold message
  simp [h.1]

theorem name_of_message (h : cause.message = cause'.message) : cause.name = cause'.name :=
  (String.append_right_inj "no prelude named `").mp ((String.append_left_inj "`").mp h)

theorem help_ne_empty (cause : UnknownName) : cause.help ≠ "" := by
  unfold help
  simp

theorem Legible.newline_not_mem_help (h : cause.Legible) : '\n' ∉ cause.help.toList := by
  have hitems : '\n' ∉ (Text.enumerate "and" "`" "`" cause.available).toList :=
    Text.not_mem_enumerate (by decide) (by simp) (by simp) (by simp)
      fun item hitem => (h.2 item hitem).1
  unfold help
  simp [hitems]

theorem Legible.available_of_help (h : cause.Legible) (h' : cause'.Legible)
    (heq : cause.help = cause'.help) : cause.available = cause'.available := by
  have hitems := (String.append_right_inj "Available preludes are ").mp
    ((String.append_left_inj ".").mp heq)
  have hmark : "`".toList.head? = some '\x60' := rfl
  exact Text.enumerate_injective hmark (fun item hitem => (h.2 item hitem).2)
    (fun item hitem => (h'.2 item hitem).2) hitems

end UnknownName

namespace PreludeError

/-- The plain text tells everything about an error that is legible. -/
theorem eq_of_plain {d e : PreludeError} (hd : d.cause.Legible) (he : e.cause.Legible)
    {red red' : String → String} (h : d.renderWith red .plain = e.renderWith red' .plain) :
    d = e := by
  obtain ⟨hcontext, -, hmessage, hrest⟩ := Diagnostic.parts_of_plain (d := d) (e := e)
    hd.newline_not_mem_message he.newline_not_mem_message h
  obtain ⟨hhelp, hnote⟩ := Diagnostic.help_and_note_of_lines (d := d) (e := e)
    (UnknownName.help_ne_empty _) (UnknownName.help_ne_empty _)
    hd.newline_not_mem_help he.newline_not_mem_help hrest
  have hcause : d.cause = e.cause := by
    rw [UnknownName.mk.injEq]
    exact ⟨UnknownName.name_of_message hmessage, hd.available_of_help he hhelp⟩
  exact Diagnostic.eq_of_parts hcause hcontext hnote

theorem unknownName_eq_of_perm (name : String) {available available' : List String}
    (h : available.Perm available') : unknownName name available = unknownName name available' := by
  rw [unknownName, unknownName, Text.sorted_eq_sorted_iff.mpr h]

/-- The error of an unknown name keeps the one arrangement of the available names that is in the
order of their bytes, so it is the same error in whatever order they came in. Two such errors,
changed on their way in whatever manner, have the same plain text exactly if they have the same
name, the same available names, each as often, the same context and the same note. -/
theorem unknown_name_told_by_text :
    (∀ name available,
      (unknownName name available).cause.name = name ∧
      (unknownName name available).cause.available.Perm available ∧
      ((unknownName name available).cause.available.Pairwise
        fun s t => Text.utf8 s ≤ Text.utf8 t) ∧
      ∀ arranged : List String, arranged.Perm available →
        (arranged.Pairwise fun s t => Text.utf8 s ≤ Text.utf8 t) →
        arranged = (unknownName name available).cause.available) ∧
    (∀ name available available', available.Perm available' →
      (unknownName name available).cause = (unknownName name available').cause ∧
      (unknownName name available).message = (unknownName name available').message ∧
      (unknownName name available).help = (unknownName name available').help ∧
      ∀ changes red options,
        ((unknownName name available).applyAll changes).renderWith red options =
          ((unknownName name available').applyAll changes).renderWith red options) ∧
    ∀ name name' available available' changes changes' d e red red',
      d = (unknownName name available).applyAll changes →
      e = (unknownName name' available').applyAll changes' →
      UnknownName.Legible ⟨name, available⟩ → UnknownName.Legible ⟨name', available'⟩ →
      (d.renderWith red .plain = e.renderWith red' .plain ↔
        name = name' ∧ available.Perm available' ∧ d.details.context = e.details.context ∧
          d.details.note = e.details.note) := by
  refine ⟨fun name available => ⟨rfl, Text.sorted_perm available, Text.pairwise_sorted available,
    fun arranged => Text.eq_sorted_of_perm⟩, fun name available available' hperm => ?_, ?_⟩
  · rw [unknownName_eq_of_perm name hperm]
    exact ⟨rfl, rfl, rfl, fun changes red options => rfl⟩
  · intro name name' available available' changes changes' d e red red' hd he hlegible hlegible'
    have hcause : d.cause = ⟨name, Text.sorted available⟩ := by
      rw [hd, Diagnostic.cause_applyAll]
      rfl
    have hcause' : e.cause = ⟨name', Text.sorted available'⟩ := by
      rw [he, Diagnostic.cause_applyAll]
      rfl
    constructor
    · intro hplain
      have heq : d = e := by
        refine eq_of_plain ?_ ?_ hplain
        · rw [hcause]
          exact hlegible.sorted
        · rw [hcause']
          exact hlegible'.sorted
      have hnames := hcause.symm.trans ((congrArg Diagnostic.cause heq).trans hcause')
      obtain ⟨hname, havailable⟩ := UnknownName.mk.inj hnames
      exact ⟨hname, Text.sorted_eq_sorted_iff.mp havailable, by rw [heq], by rw [heq]⟩
    · rintro ⟨rfl, hperm, hcontext, hnote⟩
      have hcauses : d.cause = e.cause := by
        rw [hcause, hcause', Text.sorted_eq_sorted_iff.mpr hperm]
      rw [Diagnostic.eq_of_parts hcauses hcontext hnote, Diagnostic.renderWith_plain,
        Diagnostic.renderWith_plain]

/-- Names that hold commas and the conjunction, one of them twice. -/
def awkwardNames : List String := ["and", "a, b", "z", "and"]

def awkwardNamesReordered : List String := ["z", "and", "and", "a, b"]

theorem unknown_name_told_by_text_awkwardNames :
    UnknownName.Legible ⟨"x` and `y", awkwardNames⟩ ∧
      ((unknownName "x` and `y" awkwardNames).applyAll [.setNote "n"]).renderWith id .plain =
        ((unknownName "x` and `y" awkwardNamesReordered).applyAll [.setNote "m",
          .offerContext (some .buildingList), .setNote "n"]).renderWith escapeRed .plain ∧
      ((unknownName "x` and `y" awkwardNames).applyAll [.setNote "n"]).renderWith id .plain ≠
        ((unknownName "x` and `y" ["and", "a, b", "z"]).applyAll
          [.setNote "n"]).renderWith id .plain := by
  obtain ⟨-, -, htold⟩ := unknown_name_told_by_text
  have hlegible : UnknownName.Legible ⟨"x` and `y", awkwardNames⟩ := by
    simp [UnknownName.Legible, awkwardNames]
  have hreordered : UnknownName.Legible ⟨"x` and `y", awkwardNamesReordered⟩ := by
    simp [UnknownName.Legible, awkwardNamesReordered]
  have honce : UnknownName.Legible ⟨"x` and `y", ["and", "a, b", "z"]⟩ := by
    simp [UnknownName.Legible]
  refine ⟨hlegible, ?_, fun hplain => ?_⟩
  · exact (htold _ _ _ _ _ _ _ _ _ _ rfl rfl hlegible hreordered).mpr ⟨rfl, by decide, rfl, rfl⟩
  · obtain ⟨-, hperm, -, -⟩ := (htold _ _ _ _ _ _ _ _ _ _ rfl rfl hlegible honce).mp hplain
    exact absurd hperm (by decide)

end PreludeError

end RuntimeValues
