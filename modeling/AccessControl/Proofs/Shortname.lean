import AccessControl.Shortname

/-!
# Names inside keys, tokens and paths

What a name is free of is what keys, tokens, filters and paths put between their parts.
-/

namespace AccessControl

/-- A text without the characters that stand between the parts of tokens and between filters. -/
def Text.IsPlain (text : String) : Prop := ':' ∉ text.toList ∧ '|' ∉ text.toList

instance (text : String) : Decidable (Text.IsPlain text) := inferInstanceAs (Decidable (_ ∧ _))

namespace Shortname

/-- The reserved characters do not occur in a name. -/
theorem not_mem_of_isReserved (name : Shortname) {c : Char} (reserved : isReserved c = true) :
    c ∉ name.text.toList := by
  intro member
  exact List.find?_eq_none.mp name.valid.2 c member reserved

theorem text_ne_empty (name : Shortname) : name.text ≠ "" := by
  intro empty
  have blank := name.valid.1
  rw [empty] at blank
  exact absurd blank (by decide)

theorem isPlain (name : Shortname) : Text.IsPlain name.text :=
  ⟨name.not_mem_of_isReserved (by decide), name.not_mem_of_isReserved (by decide)⟩

/-- No name is the segment that stands for any owner. -/
theorem text_ne_star (name : Shortname) : name.text ≠ "*" := by
  intro same
  have absent := name.not_mem_of_isReserved (c := '*') (by decide)
  rw [same] at absent
  exact absent (by decide)

end Shortname

end AccessControl
