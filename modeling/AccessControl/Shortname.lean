import AccessControl.Invalid
import AccessControl.Text.Blank

/-!
# Shortnames

The names of users, groups, roles, permissions and entries.  Names are written unescaped into
keys, tokens and paths, so a name may hold none of the characters that separate their parts, and
it may not be blank.
-/

namespace AccessControl

/-- Whether keys, tokens or paths use the character between their parts. -/
def isReserved (c : Char) : Bool :=
  c = ':' || c = '|' || c = '/' || c = '*'

/-- A text that can serve as a name. -/
def IsShortname (text : String) : Prop :=
  Text.isAllBlank text = false ∧ text.toList.find? isReserved = none

instance (text : String) : Decidable (IsShortname text) :=
  inferInstanceAs (Decidable (_ ∧ _))

/-- A name: not blank, and without reserved characters. -/
structure Shortname where
  text : String
  valid : IsShortname text
  deriving DecidableEq

namespace Shortname

/-- The name with the given text, or why it is none.  A blank text is reported first, then the
first reserved character. -/
def parse (text : String) : Except Invalid Shortname :=
  if blank : Text.isAllBlank text = true then .error .blankShortname
  else
    match reserved : text.toList.find? isReserved with
    | some c => .error (.reservedCharacter text c)
    | none => .ok ⟨text, by simpa using blank, reserved⟩

instance : Repr Shortname := ⟨fun name => reprPrec name.text⟩

theorem ext {a b : Shortname} (h : a.text = b.text) : a = b := by
  cases a; cases b; simp_all

/-- Exactly the valid texts are names, and each names itself. -/
theorem parse_eq_ok_iff {text : String} {name : Shortname} :
    parse text = .ok name ↔ name.text = text := by
  constructor
  · intro h
    unfold parse at h
    split at h
    · simp at h
    · split at h
      · simp at h
      · cases h; rfl
  · rintro rfl
    obtain ⟨text, blank, reserved⟩ := name
    unfold parse
    split
    · simp_all
    · split
      · simp_all
      · rfl

end Shortname

end AccessControl
