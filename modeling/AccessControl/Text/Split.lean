/-!
# Cutting and joining text

A text is cut at every occurrence of a separator character, so there is always one piece more
than there are separators, and joining the pieces gives the text back.  The other functions find,
remove or replace one fixed pattern; matches are taken from the left and do not overlap.
-/

namespace AccessControl.Text

/-- The pieces of a text between the separators. -/
def pieces (separator : Char) : List Char → List (List Char)
  | [] => [[]]
  | c :: rest =>
    if c = separator then [] :: pieces separator rest
    else
      match pieces separator rest with
      | [] => [[c]]
      | first :: more => (c :: first) :: more

/-- The pieces written one after the other with the separator between them. -/
def joined (separator : Char) : List (List Char) → List Char
  | [] => []
  | [piece] => piece
  | piece :: next :: more => piece ++ separator :: joined separator (next :: more)

theorem pieces_ne_nil (separator : Char) (text : List Char) : pieces separator text ≠ [] := by
  cases text with
  | nil => simp [pieces]
  | cons c rest =>
    by_cases h : c = separator
    · simp [pieces, h]
    · simp only [pieces, h, if_false]
      split <;> simp

/-- Cutting a text loses nothing. -/
theorem joined_pieces (separator : Char) (text : List Char) :
    joined separator (pieces separator text) = text := by
  induction text with
  | nil => rfl
  | cons c rest ih =>
    have ne := pieces_ne_nil separator rest
    obtain ⟨first, more, shape⟩ := List.exists_cons_of_ne_nil ne
    rw [shape] at ih
    by_cases h : c = separator
    · subst h
      simp [pieces, shape, joined, ih]
    · cases more with
      | nil =>
        simp only [joined] at ih
        simp [pieces, h, shape, joined, ih]
      | cons next others =>
        simp only [joined] at ih
        simp [pieces, h, shape, joined, ih]

/-- No piece holds a separator. -/
theorem not_mem_of_mem_pieces {separator : Char} {text piece : List Char}
    (h : piece ∈ pieces separator text) : separator ∉ piece := by
  induction text generalizing piece with
  | nil => simp_all [pieces]
  | cons c rest ih =>
    obtain ⟨first, more, shape⟩ := List.exists_cons_of_ne_nil (pieces_ne_nil separator rest)
    by_cases hc : c = separator
    · simp only [pieces, hc, if_true, List.mem_cons] at h
      rcases h with rfl | h
      · simp
      · exact ih h
    · simp only [pieces, hc, if_false, shape, List.mem_cons] at h
      rcases h with rfl | h
      · have : separator ∉ first := ih (by simp [shape])
        simp [Ne.symm hc, this]
      · exact ih (by simp [shape, h])

/-- The pieces of a text between the separators. -/
def split (separator : Char) (text : String) : List String :=
  (pieces separator text.toList).map String.ofList

/-- The texts written one after the other with the separator between them. -/
def join (separator : Char) (texts : List String) : String :=
  String.ofList (joined separator (texts.map String.toList))

/-- Whether the pattern occurs somewhere in the text. -/
def occursIn (pattern : List Char) : List Char → Bool
  | [] => pattern.isEmpty
  | c :: rest => pattern.isPrefixOf (c :: rest) || occursIn pattern rest

/-- Whether the pattern occurs somewhere in the text. -/
def contains (text pattern : String) : Bool :=
  occursIn pattern.toList text.toList

/-- What stands before the first occurrence of the pattern; the whole text if there is none. -/
def beforeChars (pattern : List Char) : List Char → List Char
  | [] => []
  | c :: rest =>
    if pattern.isPrefixOf (c :: rest) then [] else c :: beforeChars pattern rest

/-- What stands before the first occurrence of the pattern; the whole text if there is none. -/
def before (pattern text : String) : String :=
  String.ofList (beforeChars pattern.toList text.toList)

/-- Replaces the occurrences of a pattern; `skip` characters of the last match are still to be
passed over. -/
def replaceChars (pattern replacement : List Char) : (skip : Nat) → List Char → List Char
  | _, [] => []
  | skip + 1, _ :: rest => replaceChars pattern replacement skip rest
  | 0, c :: rest =>
    if pattern.isPrefixOf (c :: rest) then
      replacement ++ replaceChars pattern replacement (pattern.length - 1) rest
    else c :: replaceChars pattern replacement 0 rest

/-- The text with each occurrence of a non-empty pattern replaced, from the left and in one pass:
what the replacement makes is not looked at again. -/
def replace (pattern replacement text : String) : String :=
  String.ofList (replaceChars pattern.toList replacement.toList 0 text.toList)

/-- What follows the pattern at the start of the text, if the text starts with it. -/
def afterChars? : (pattern text : List Char) → Option (List Char)
  | [], text => some text
  | _ :: _, [] => none
  | p :: pattern, c :: text => if p = c then afterChars? pattern text else none

/-- What precedes the ending, if the text ends with it. -/
def stripEnding? (ending text : String) : Option String :=
  (afterChars? ending.toList.reverse text.toList.reverse).map
    fun rest => String.ofList rest.reverse

theorem afterChars?_eq_some_iff {pattern text rest : List Char} :
    afterChars? pattern text = some rest ↔ text = pattern ++ rest := by
  induction pattern generalizing text with
  | nil => simp [afterChars?, eq_comm]
  | cons p pattern ih =>
    cases text with
    | nil => simp [afterChars?]
    | cons c text =>
      by_cases h : p = c
      · simp [afterChars?, h, ih]
      · simp [afterChars?, h, Ne.symm h]

example : split ':' "a::b" = ["a", "", "b"] := by decide
example : replace "//" "/" "a////b///" = "a//b//" := by decide
example : stripEnding? ":*" "a:*:*" = some "a:*" := by decide

end AccessControl.Text
