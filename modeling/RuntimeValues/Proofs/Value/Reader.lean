import RuntimeValues.Value.Text

/-!
# Reading texts of values

The text of a value tells everything about the value but the identities of its functions.
`Reader.read` gets the value back from the text. It goes through the text from its end and
keeps the values that it has read. A word is complete where a separator stands before it, so
numbers end where their word ends, and the word `pair` after a parenthesis takes the two
values that were read last.
-/

namespace RuntimeValues

set_option autoImplicit false

/-- The value with one and the same function in place of all functions. -/
def Value.anonymous : Value → Value
  | pair first second => pair first.anonymous second.anonymous
  | function _ => function 0
  | number n => number n
  | boolean b => boolean b
  | null => null

/-- A text that is being read from its end: the letters of the word under way, and the values
that come after it in the text. -/
structure Reader where
  word : List Char
  values : List Value
deriving DecidableEq

namespace Reader

def isSeparator (c : Char) : Bool := c = ' ' || c = '(' || c = ')'

def isNumeral (c : Char) : Bool := c = '-' || c.isDigit

/-- The integer that is written in decimal with these letters. -/
def integer : List Char → Int
  | '-' :: digits => -(Nat.ofDigitChars 10 digits 0 : Int)
  | digits => (Nat.ofDigitChars 10 digits 0 : Int)

/-- The words that are not numbers. -/
def vocabulary : List (List Char × Value) :=
  [("true".toList, .boolean true), ("false".toList, .boolean false), ("null".toList, .null),
    ("function".toList, .function 0)]

/-- The value that a word stands for. -/
def valueOf (word : List Char) : Option Value :=
  if word.all isNumeral then some (.number (Int64.ofInt (integer word)))
  else vocabulary.lookup word

theorem not_isSeparator_of_isNumeral {c : Char} (h : isNumeral c = true) :
    ¬ isSeparator c = true := by
  intro hc
  simp only [isSeparator, Bool.or_eq_true, decide_eq_true_eq] at hc
  rcases hc with (rfl | rfl) | rfl <;> exact absurd h (by decide)

theorem toList_repr (n : Int) :
    n.repr.toList =
      if 0 ≤ n then Nat.toDigits 10 n.toNat else '-' :: Nat.toDigits 10 (-n).toNat := by
  rw [Int.repr_eq_if]
  split
  next => exact Nat.toList_repr
  next =>
    rw [String.toList_append, Nat.toList_repr]
    rfl

theorem isNumeral_of_mem_repr {n : Int} {c : Char} (h : c ∈ n.repr.toList) : isNumeral c = true := by
  have hdigits : ∀ m : Nat, c ∈ Nat.toDigits 10 m → isNumeral c = true := by
    intro m hc
    have hdigit := Nat.isDigit_of_mem_toDigits (by decide) (by decide) hc
    rw [isNumeral, hdigit, Bool.or_true]
  rw [toList_repr] at h
  split at h
  next => exact hdigits _ h
  next =>
    rcases List.mem_cons.mp h with rfl | hc
    · rfl
    · exact hdigits _ hc

theorem integer_repr (n : Int) : integer n.repr.toList = n := by
  rw [toList_repr]
  split
  next hn =>
    rw [integer, Nat.ofDigitChars_ten_toDigits, Int.toNat_of_nonneg hn]
    intro digits hminus
    have hmem : '-' ∈ Nat.toDigits 10 n.toNat := by
      rw [hminus]
      exact List.mem_cons_self
    have hdigit := Nat.isDigit_of_mem_toDigits (by decide) (by decide) hmem
    exact absurd hdigit (by decide)
  next hn =>
    rw [integer, Nat.ofDigitChars_ten_toDigits]
    omega

/-- Numbers down to the least one are read as they are written. -/
theorem valueOf_repr (n : Int64) : valueOf n.toInt.repr.toList = some (.number n) := by
  have hall : n.toInt.repr.toList.all isNumeral = true :=
    List.all_eq_true.mpr fun c hc => isNumeral_of_mem_repr hc
  rw [valueOf, if_pos hall, integer_repr, Int64.ofInt_toInt]

/-- A word is complete, unless none is under way. -/
def endWord (r : Reader) : Option Reader :=
  match r.word with
  | [] => some r
  | word => (valueOf word).map fun v => ⟨[], v :: r.values⟩

/-- A pair is complete: its members are the values that were read last. -/
def endPair : Reader → Option Reader
  | ⟨['p', 'a', 'i', 'r'], first :: second :: rest⟩ => some ⟨[], .pair first second :: rest⟩
  | _ => none

/-- Reads the letter before those that were read. -/
def take (c : Char) (r : Reader) : Option Reader :=
  if c = '(' then r.endPair
  else if isSeparator c then r.endWord
  else some ⟨c :: r.word, r.values⟩

/-- Reads letters, the last one first. -/
def takeAll (letters : List Char) (r : Reader) : Option Reader := letters.foldrM take r

/-- The value whose text this is. Words and spaces that no value is written with are not let
through: the value that was read has to have this very text. -/
def read (text : String) : Option Value :=
  match (takeAll text.toList ⟨[], []⟩).bind endWord with
  | some ⟨[], [v]⟩ => if v.text = text then some v else none
  | _ => none

theorem takeAll_append (first second : List Char) (r : Reader) :
    takeAll (first ++ second) r = (takeAll second r).bind (takeAll first) :=
  List.foldrM_append

theorem takeAll_cons (c : Char) (letters : List Char) (r : Reader) :
    takeAll (c :: letters) r = (takeAll letters r).bind (take c) :=
  List.foldrM_cons

/-- Letters that are no separators belong to one word. -/
theorem takeAll_word {letters : List Char} (h : letters.any isSeparator = false)
    (word : List Char) (values : List Value) :
    takeAll letters ⟨word, values⟩ = some ⟨letters ++ word, values⟩ := by
  induction letters with
  | nil => rfl
  | cons c rest ih =>
    rw [List.any_cons, Bool.or_eq_false_iff] at h
    obtain ⟨hc, hrest⟩ := h
    have hopen : c ≠ '(' := by
      rintro rfl
      exact absurd hc (by decide)
    rw [takeAll_cons, ih hrest]
    simp [take, hopen, hc]

/-- Wherever the letters stand in a text, they are read as this value. -/
def Reads (letters : List Char) (v : Value) : Prop :=
  ∀ values, (takeAll letters ⟨[], values⟩).bind endWord = some ⟨[], v :: values⟩

theorem reads_word {letters : List Char} {v : Value} (h : letters.any isSeparator = false)
    (hv : valueOf letters = some v) (hne : letters ≠ []) : Reads letters v := by
  intro values
  rw [takeAll_word h, List.append_nil, Option.bind_some]
  cases letters with
  | nil => exact absurd rfl hne
  | cons c rest => simp [endWord, hv]

theorem Reads.after_space {letters : List Char} {v : Value} (h : Reads letters v)
    (values : List Value) : takeAll (' ' :: letters) ⟨[], values⟩ = some ⟨[], v :: values⟩ := by
  have htake : take ' ' = endWord := rfl
  rw [takeAll_cons, htake, h values]

theorem reads_pair {first second : List Char} {a b : Value} (hfirst : Reads first a)
    (hsecond : Reads second b) :
    Reads ("(pair".toList ++ (' ' :: first ++ (' ' :: second ++ [')']))) (.pair a b) := by
  intro values
  have hclose : takeAll [')'] ⟨[], values⟩ = some ⟨[], values⟩ := rfl
  have hmembers : takeAll (' ' :: first ++ (' ' :: second ++ [')'])) ⟨[], values⟩ =
      some ⟨[], a :: b :: values⟩ := by
    rw [takeAll_append, takeAll_append, hclose, Option.bind_some, hsecond.after_space,
      Option.bind_some, hfirst.after_space]
  rw [takeAll_append, hmembers]
  rfl

theorem reads_text (v : Value) : Reads v.text.toList v.anonymous := by
  induction v with
  | number n =>
    refine reads_word (List.any_eq_false.mpr fun c hc => ?_) (valueOf_repr n) ?_
    · exact not_isSeparator_of_isNumeral (isNumeral_of_mem_repr hc)
    · rw [Value.text, toList_repr]
      split
      · exact Nat.toDigits_ne_nil
      · exact List.cons_ne_nil _ _
  | boolean b => cases b <;> exact reads_word (by decide) (by decide) (by decide)
  | null => exact reads_word (by decide) (by decide) (by decide)
  | function _ =>
    show Reads "function".toList (.function 0)
    exact reads_word (by decide) (by decide) (by decide)
  | pair first second hfirst hsecond =>
    have htext : (Value.pair first second).text.toList =
        "(pair".toList ++ (' ' :: first.text.toList ++ (' ' :: second.text.toList ++ [')'])) := by
      simp [Value.text]
    rw [htext]
    exact reads_pair hfirst hsecond

end Reader

theorem Value.text_anonymous (v : Value) : v.anonymous.text = v.text := by
  induction v with
  | pair first second hfirst hsecond => rw [anonymous, text, hfirst, hsecond, text]
  | number _ | boolean _ | null | function _ => rfl

namespace Reader

theorem read_text (v : Value) : read v.text = some v.anonymous := by
  rw [read, reads_text v []]
  exact if_pos v.text_anonymous

theorem text_of_read {text : String} {v : Value} (h : read text = some v) : v.text = text := by
  simp only [read] at h
  split at h
  · split at h
    next htext =>
      obtain rfl := Option.some.inj h
      exact htext
    next => cases h
  · cases h

/-- What is read are the texts of values, and nothing else. -/
theorem read_eq_some_iff (text : String) (v : Value) :
    read text = some v ↔ v.text = text ∧ v.anonymous = v := by
  constructor
  · intro h
    have htext := text_of_read h
    rw [← htext, read_text] at h
    exact ⟨htext, Option.some.inj h⟩
  · rintro ⟨rfl, hv⟩
    rw [read_text, hv]

end Reader

/-- Two values have the same text only if they differ in nothing but the identities of their
functions. Reading a text gives the value back up to those, and no other text can be read. -/
theorem Value.serialize_uniquely_readable :
    (∀ a b : Value, a.serialize = b.serialize ↔ a.anonymous = b.anonymous) ∧
    (∀ v : Value, Reader.read v.serialize = some v.anonymous) ∧
    ∀ (text : String) (v : Value),
      Reader.read text = some v ↔ v.serialize = text ∧ v.anonymous = v := by
  have hread : ∀ v : Value, Reader.read v.serialize = some v.anonymous := by
    intro v
    rw [serialize_eq_text, Reader.read_text]
  refine ⟨fun a b => ⟨fun h => ?_, fun h => ?_⟩, hread, fun text v => ?_⟩
  · have hvalues : some a.anonymous = some b.anonymous := by rw [← hread a, ← hread b, h]
    exact Option.some.inj hvalues
  · rw [serialize_eq_text, serialize_eq_text, ← text_anonymous a, ← text_anonymous b, h]
  · rw [serialize_eq_text, Reader.read_eq_some_iff]

example : Reader.read "(pair -5 (pair (pair 12 true) function))" =
    some (.pair (.number (-5)) (.pair (.pair (.number 12) (.boolean true)) (.function 0))) := by
  decide

end RuntimeValues
