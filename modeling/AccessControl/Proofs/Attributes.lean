import AccessControl.Attributes
import AccessControl.Proofs.Ordered
import AccessControl.Proofs.Text.Split

/-!
# Positions of attributes

A payload is a tree of maps, and whatever it carries stands at a position: behind the names that lead
there from the root.  Flattening keeps the positions that hold something other than a map, under their
dotted paths, and of several positions with one path the last in depth-first order.
-/

namespace AccessControl

namespace Json

/-- Whether a document is a map. -/
def isMap : Json → Bool
  | .obj _ => true
  | _ => false

end Json

namespace Attributes

/-! ## Positions -/

/-- What a payload carries, with the names that lead there. -/
structure Position where
  names : List String
  value : Json

namespace Position

/-- The same position as seen from above a member of that name. -/
def under (name : String) (position : Position) : Position :=
  ⟨name :: position.names, position.value⟩

/-- The names that lead to a position, joined by dots. -/
def path (position : Position) : String := Text.join '.' position.names

/-- Whether something other than a map stands at a position. -/
def isLeaf (position : Position) : Bool := !position.value.isMap

end Position

mutual

/-- The positions at and below a document, depth first. -/
def positionsIn : Json → List Position
  | .obj members => ⟨[], .obj members⟩ :: positions members
  | value => [⟨[], value⟩]

/-- The positions of a payload, depth first. -/
def positions : Members → List Position
  | [] => []
  | (name, value) :: rest => (positionsIn value).map (.under name) ++ positions rest

end

/-- Whether nothing but maps is to be found in a document. -/
def IsHollow (value : Json) : Prop := ∀ position ∈ positionsIn value, position.isLeaf = false

mutual

theorem induct {motive : Members → Prop} (holds : Json → Prop)
    (leaf : ∀ value : Json, value.isMap = false → holds value)
    (map : ∀ members, motive members → holds (.obj members)) (nil : motive [])
    (cons : ∀ name value rest, holds value → motive rest → motive ((name, value) :: rest)) :
    (value : Json) → holds value
  | .obj members => map members (induct_members holds leaf map nil cons members)
  | .null => leaf _ rfl
  | .bool _ => leaf _ rfl
  | .int _ => leaf _ rfl
  | .float _ => leaf _ rfl
  | .str _ => leaf _ rfl
  | .arr _ => leaf _ rfl

/-- Maps are gone through member by member; all other documents are alike. -/
theorem induct_members {motive : Members → Prop} (holds : Json → Prop)
    (leaf : ∀ value : Json, value.isMap = false → holds value)
    (map : ∀ members, motive members → holds (.obj members)) (nil : motive [])
    (cons : ∀ name value rest, holds value → motive rest → motive ((name, value) :: rest)) :
    (members : Members) → motive members
  | [] => nil
  | (name, value) :: rest =>
      cons name value rest (induct holds leaf map nil cons value)
        (induct_members holds leaf map nil cons rest)

end

variable {value : Json} {members : Members} {position inner : Position} {field : String}

theorem positionsIn_of_isMap_eq_false (leaf : value.isMap = false) :
    positionsIn value = [⟨[], value⟩] := by
  cases value with
  | obj members => cases leaf
  | _ => rfl

/-- Every document stands at its own root. -/
theorem root_mem_positionsIn (value : Json) : ⟨[], value⟩ ∈ positionsIn value := by
  cases value <;> simp [positionsIn]

theorem names_ne_nil (isPosition : position ∈ positions members) : position.names ≠ [] := by
  induction members with
  | nil => cases isPosition
  | cons first rest ih =>
      rcases List.mem_append.mp isPosition with inFirst | inRest
      · obtain ⟨inner, -, rfl⟩ := List.mem_map.mp inFirst
        exact List.cons_ne_nil _ _
      · exact ih inRest

/-- The position that is reached by going on from another one. -/
def Position.goOn (position inner : Position) : Position :=
  ⟨position.names ++ inner.names, inner.value⟩

/-- What stands below a position of a payload stands in the payload. -/
theorem goOn_mem_positions (isPosition : position ∈ positions members)
    (isInner : inner ∈ positionsIn position.value) : position.goOn inner ∈ positions members := by
  induction members using induct_members (fun value => ∀ position ∈ positionsIn value,
      inner ∈ positionsIn position.value → position.goOn inner ∈ positionsIn value)
    generalizing position with
  | leaf value isLeaf position isPosition isInner =>
      rw [positionsIn_of_isMap_eq_false isLeaf, List.mem_singleton] at isPosition
      rw [isPosition] at isInner ⊢
      exact isInner
  | map members ih position isPosition isInner =>
      rcases List.mem_cons.mp isPosition with rfl | deeper
      · exact isInner
      · exact List.mem_cons_of_mem _ (ih deeper isInner)
  | nil => cases isPosition
  | cons name value rest ihValue ihRest =>
      rcases List.mem_append.mp isPosition with inValue | inRest
      · obtain ⟨below, isBelow, rfl⟩ := List.mem_map.mp inValue
        exact List.mem_append_left _ (List.mem_map_of_mem (ihValue below isBelow isInner))
      · exact List.mem_append_right _ (ihRest inRest isInner)

/-- Whether a position is at a field or below it. -/
def Position.Reaches (position : Position) (field : String) : Prop :=
  position.path = field ∨ ∃ rest, position.path = field ++ "." ++ rest

/-- Going on from below a field stays below it. -/
theorem Position.Reaches.goOn (reaches : position.Reaches field) (named : position.names ≠ []) :
    (position.goOn inner).Reaches field := by
  by_cases atPosition : inner.names = []
  · simpa [Position.Reaches, Position.path, Position.goOn, atPosition] using reaches
  · have further : (position.goOn inner).path = position.path ++ "." ++ inner.path :=
      Text.join_append named atPosition
    rw [Position.Reaches, further]
    rcases reaches with atField | ⟨rest, below⟩
    · exact .inr ⟨inner.path, by rw [atField]⟩
    · exact .inr ⟨rest ++ "." ++ inner.path, by simp only [below, String.append_assoc]⟩

/-! ## Flattening -/

theorem leaves_of_isMap_eq_false (leaf : value.isMap = false) (path : String) :
    leaves path value = [(path, value)] := by
  cases value with
  | obj members => cases leaf
  | _ => rfl

theorem join_below {parent : Option String} {name : String} {names : List String} :
    Text.join '.' (below parent name :: names) = Text.join '.' (parent.toList ++ name :: names) := by
  cases parent with
  | none => rfl
  | some parent =>
      cases names with
      | nil => simp [below, Text.join, Text.joined]
      | cons next more =>
        apply String.toList_inj.mp
        simp [below, Text.joined]

/-- The leaves of a payload are its positions without those that hold maps. -/
theorem memberLeaves_eq (parent : Option String) (members : Members) :
    memberLeaves parent members =
      ((positions members).filter Position.isLeaf).map fun position =>
        (Text.join '.' (parent.toList ++ position.names), position.value) := by
  induction members using induct_members (fun value => ∀ path, leaves path value =
      ((positionsIn value).filter Position.isLeaf).map fun position =>
        (Text.join '.' (path :: position.names), position.value))
    generalizing parent with
  | leaf value isLeaf path =>
      rw [leaves_of_isMap_eq_false isLeaf, positionsIn_of_isMap_eq_false isLeaf]
      simp [Position.isLeaf, isLeaf, Text.join, Text.joined]
  | map members ih path =>
      rw [leaves, ih, positionsIn]
      rfl
  | nil => rfl
  | cons name value rest ihValue ihRest =>
      rw [memberLeaves, ihValue, ihRest, positions, List.filter_append, List.map_append,
        List.filter_map, List.map_map]
      simp only [Function.comp_def, Position.under, join_below]
      rfl

/-- A leaf is the last of its path if none of the positions after it is another. -/
inductive IsLastLeaf : List Position → Position → Prop where
  | here {position : Position} {after : List Position} (leaf : position.isLeaf = true)
      (last : ∀ later ∈ after, later.isLeaf = true → later.path ≠ position.path) :
      IsLastLeaf (position :: after) position
  | later {first position : Position} {after : List Position} (last : IsLastLeaf after position) :
      IsLastLeaf (first :: after) position

/-- The last leaf of a path is found by cutting the positions at it. -/
theorem isLastLeaf_iff {among : List Position} :
    IsLastLeaf among position ↔
      ∃ before after, among = before ++ position :: after ∧ position.isLeaf = true ∧
        ∀ later ∈ after, later.isLeaf = true → later.path ≠ position.path := by
  constructor
  · intro last
    induction last with
    | here leaf last => exact ⟨[], _, rfl, leaf, last⟩
    | @later first position after last ih =>
        obtain ⟨before, behind, rfl, isLast⟩ := ih
        exact ⟨first :: before, behind, rfl, isLast⟩
  · rintro ⟨before, after, rfl, leaf, last⟩
    induction before with
    | nil => exact .here leaf last
    | cons first rest ih => exact .later ih

/-- What the leaves among some positions carry, by their paths. -/
def gathered (among : List Position) : Dict String Json :=
  .ofList ((among.filter Position.isLeaf).map fun position => (position.path, position.value))

theorem flatten_eq_gathered (members : Members) : flatten members = gathered (positions members) := by
  rw [flatten, memberLeaves_eq none]
  rfl

variable {path : String} {among : List Position}

/-- A path is gathered exactly if a leaf has it. -/
theorem mem_gathered_iff :
    path ∈ gathered among ↔
      ∃ position ∈ among, position.isLeaf = true ∧ position.path = path := by
  rw [gathered, Std.ExtTreeMap.mem_ofList, List.contains_iff_mem]
  simp [and_assoc]

theorem getElem?_gathered_cons (first : Position) (rest : List Position) :
    (gathered (first :: rest))[path]? =
      (gathered rest)[path]?.or
        (if first.isLeaf = true ∧ first.path = path then some first.value else none) := by
  by_cases isLeaf : first.isLeaf = true
  · rw [gathered, List.filter_cons_of_pos isLeaf, List.map_cons, Dict.getElem?_ofList_cons]
    simp [gathered, isLeaf]
  · rw [gathered, List.filter_cons_of_neg isLeaf]
    simp [gathered, isLeaf]

/-- What is gathered at a path stands at the last leaf that has it. -/
theorem getElem?_gathered_eq_some_iff :
    (gathered among)[path]? = some value ↔
      ∃ position, IsLastLeaf among position ∧ position.path = path ∧ position.value = value := by
  induction among with
  | nil =>
      constructor
      · intro found
        simp [gathered] at found
      · rintro ⟨position, last, -⟩
        cases last
  | cons first rest ih =>
      rw [getElem?_gathered_cons]
      constructor
      · intro found
        rcases Option.or_eq_some_iff.mp found with inRest | ⟨notInRest, isFirst⟩
        · obtain ⟨position, last, atPath⟩ := ih.mp inRest
          exact ⟨position, .later last, atPath⟩
        · have noLater : ∀ later ∈ rest, later.isLeaf = true → later.path ≠ path := by
            intro later isLater leaf atPath
            have carried : path ∈ gathered rest := mem_gathered_iff.mpr ⟨later, isLater, leaf, atPath⟩
            rw [Dict.mem_iff_exists_getElem?, notInRest] at carried
            simp at carried
          split at isFirst
          · next isLeaf =>
            obtain ⟨leaf, rfl⟩ := isLeaf
            exact ⟨first, .here leaf noLater, rfl, Option.some.inj isFirst⟩
          · cases isFirst
      · rintro ⟨position, last, rfl, rfl⟩
        cases last with
        | here leaf noLater =>
            have notInRest : (gathered rest)[first.path]? = none := by
              refine Std.ExtTreeMap.getElem?_eq_none fun carried => ?_
              obtain ⟨later, isLater, isLeaf, atPath⟩ := mem_gathered_iff.mp carried
              exact noLater later isLater isLeaf atPath
            simp [notInRest, leaf]
        | later last => rw [ih.mpr ⟨position, last, rfl, rfl⟩, Option.some_or]

end Attributes

end AccessControl
