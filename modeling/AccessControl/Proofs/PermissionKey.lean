import AccessControl.PermissionKey
import AccessControl.Proofs.Shortname
import AccessControl.Proofs.Text.Split

/-!
# Written keys

A key is written as its parts with colons between them, and a text is read as a key exactly if cutting
it at the colons gives the parts of that key.  So reading and writing undo each other where neither the
space nor the subpath holds a colon, and a key with a colon in one of them is written as what is no key.
-/

namespace AccessControl

namespace Vocabulary

/-- A word is read exactly from its spelling. -/
theorem parse_eq_ok_iff {value : String} {type : ResourceType} :
    parse value = .ok type ↔ type.name = value := by
  constructor
  · intro read
    unfold parse at read
    split at read
    · next word found =>
      have spelled := List.find?_some found
      rw [Except.ok.inj read] at spelled
      exact eq_of_beq spelled
    · cases read
  · rintro rfl
    cases type <;> rfl

end Vocabulary

theorem ResourceType.isPlain_name (type : ResourceType) : Text.IsPlain type.name := by
  cases type <;> decide

namespace Text

variable {separator : Char}

/-- A text is cut into one piece exactly if it holds no separator. -/
theorem length_split_eq_one_iff {text : String} :
    (split separator text).length = 1 ↔ separator ∉ text.toList := by
  constructor
  · intro single member
    obtain ⟨piece, cut⟩ := List.length_eq_one_iff.mp single
    have isPiece : text ∈ split separator text := by simp [cut, eq_of_split_eq_singleton cut]
    exact not_mem_of_mem_split isPiece member
  · intro absent
    rw [split_of_not_mem absent, List.length_singleton]

theorem length_split_pos (separator : Char) (text : String) : 0 < (split separator text).length :=
  List.length_pos_iff.mpr (split_ne_nil text)

end Text

namespace PermissionKey

variable {key read : PermissionKey} {value : String}

/-- The parts of the written form, in order. -/
def segments (key : PermissionKey) : List String := [key.space, key.subpath, key.type.name]

theorem text_eq_join (key : PermissionKey) : key.text = Text.join ':' key.segments := rfl

/-- A text is read as a key exactly if cutting it at the colons gives the key's parts. -/
theorem parse_eq_ok_iff : parse value = .ok key ↔ Text.split ':' value = key.segments := by
  obtain ⟨keySpace, keySubpath, keyType⟩ := key
  unfold parse
  split
  · next space subpath type shape =>
    rw [shape, segments, List.cons.injEq, List.cons.injEq, List.cons.injEq]
    cases parsed : (Vocabulary.parse type : Except Invalid ResourceType) with
    | error cause =>
        have notWord : keyType.name ≠ type := fun same => by
          rw [Vocabulary.parse_eq_ok_iff.mpr same] at parsed
          cases parsed
        simp [bind, Except.bind, notWord.symm]
    | ok word =>
        obtain rfl := Vocabulary.parse_eq_ok_iff.mp parsed
        simp only [bind, Except.bind, pure, Except.pure, Except.ok.injEq, PermissionKey.mk.injEq,
          and_true]
        exact and_congr_right' (and_congr_right' ⟨congrArg _, ResourceType.name_injective⟩)
  · next notThree =>
    constructor
    · nofun
    · exact fun shape => absurd shape (notThree _ _ _)

/-- What is read as a key is the key's written form. -/
theorem text_of_parse (parsed : parse value = .ok key) : key.text = value := by
  rw [text_eq_join, ← parse_eq_ok_iff.mp parsed, Text.join_split]

/-- Whether the parts of a key can be told apart in its written form. -/
def IsLegible (key : PermissionKey) : Prop :=
  ':' ∉ key.space.toList ∧ ':' ∉ key.subpath.toList

instance (key : PermissionKey) : Decidable key.IsLegible :=
  inferInstanceAs (Decidable (_ ∧ _))

theorem split_text_key (key : PermissionKey) :
    Text.split ':' key.text =
      Text.split ':' key.space ++ (Text.split ':' key.subpath ++ [key.type.name]) := by
  rw [text, Text.split_join (by simp)]
  simp [Text.split_of_not_mem key.type.isPlain_name.1]

/-- The space and the subpath of a key are cut into a piece each exactly if the key is legible. -/
theorem length_pieces_eq_two_iff :
    (Text.split ':' key.space).length + (Text.split ':' key.subpath).length = 2 ↔ key.IsLegible := by
  have spacePieces := Text.length_split_pos ':' key.space
  have subpathPieces := Text.length_split_pos ':' key.subpath
  rw [IsLegible, ← Text.length_split_eq_one_iff, ← Text.length_split_eq_one_iff]
  omega

theorem parse_text_of_isLegible (legible : key.IsLegible) : parse key.text = .ok key := by
  rw [parse_eq_ok_iff, split_text_key, Text.split_of_not_mem legible.1,
    Text.split_of_not_mem legible.2]
  rfl

/-- Legible keys are told apart by their written forms. -/
theorem eq_of_text_eq {other : PermissionKey} (legible : key.IsLegible)
    (otherLegible : other.IsLegible) (same : key.text = other.text) : key = other := by
  have parsed := parse_text_of_isLegible legible
  rw [same, parse_text_of_isLegible otherLegible] at parsed
  exact (Except.ok.inj parsed).symm

/-- A key that was read from its written form is legible. -/
theorem isLegible_of_parse (parsed : parse value = .ok key) : key.IsLegible := by
  have plain : ∀ part ∈ key.segments, ':' ∉ part.toList := fun part isPart =>
    Text.not_mem_of_mem_split (parse_eq_ok_iff.mp parsed ▸ isPart)
  exact ⟨plain key.space (by simp [segments]), plain key.subpath (by simp [segments])⟩

theorem parse_text_of_not_isLegible (illegible : ¬ key.IsLegible) :
    parse key.text = .error (.keySegments key.text) := by
  have pieces : (Text.split ':' key.text).length ≠ 3 := by
    rw [split_text_key, List.length_append, List.length_append, List.length_singleton]
    rw [← length_pieces_eq_two_iff] at illegible
    omega
  unfold parse
  split
  · next three =>
    rw [three] at pieces
    exact absurd rfl pieces
  · rfl

/-- A written key is read as that key if it is legible, and not read at all otherwise. -/
theorem parse_text_eq_ok_iff : parse key.text = .ok read ↔ key.IsLegible ∧ read = key := by
  by_cases legible : key.IsLegible
  · simp [parse_text_of_isLegible legible, legible, eq_comm]
  · simp [parse_text_of_not_isLegible legible, legible]

end PermissionKey

end AccessControl
