import AccessControl.Proofs.Attributes
import AccessControl.Proofs.Json.Records
import Mathlib.Data.String.Basic

/-!
# Which leaves flattening keeps

A position of a payload is a key path that leads somewhere in it.  If the members of every map are in
the order of their names, the positions are gone through in the order of their key paths, compared name
by name.  Flattening joins the names of a key path by dots, and names may hold dots themselves, so
leaves at different depths can have one dotted path.  Of these the one with the last key path is kept.
-/

namespace AccessControl.Attributes

variable {name : String} {names : List String} {value held : Json} {members : Members}
  {position : Position}

/-- What stands in a document behind the names of a key path. -/
def valueAt? : (names : List String) → Json → Option Json
  | [], document => some document
  | name :: names, document => (document.member? name).bind (valueAt? names)

/-- Whether the key path of a position leads to its value in a payload. -/
def Position.StandsIn (position : Position) (members : Members) : Prop :=
  valueAt? position.names (.obj members) = some position.value

/-! ## Positions as key paths -/

theorem positions_eq_flatMap :
    positions members =
      members.flatMap fun member => (positionsIn member.2).map (.under member.1) := by
  induction members with
  | nil => rfl
  | cons first rest ih => rw [positions, ih, List.flatMap_cons]

/-- A position of a payload lies under one of the members. -/
theorem mem_positions_iff :
    position ∈ positions members ↔
      ∃ member ∈ members, ∃ inner ∈ positionsIn member.2, inner.under member.1 = position := by
  simp only [positions_eq_flatMap, List.mem_flatMap, List.mem_map]

theorem cons_mem_positions_iff :
    ⟨name :: names, held⟩ ∈ positions members ↔
      ∃ value, (name, value) ∈ members ∧ ⟨names, held⟩ ∈ positionsIn value := by
  rw [mem_positions_iff]
  constructor
  · intro isPosition
    obtain ⟨member, isMember, inner, isInner, same⟩ := isPosition
    cases same
    exact ⟨member.2, isMember, isInner⟩
  · intro isPosition
    obtain ⟨value, isMember, isInner⟩ := isPosition
    exact ⟨(name, value), isMember, _, isInner, rfl⟩

theorem eq_of_root_mem_positionsIn (isRoot : ⟨[], held⟩ ∈ positionsIn value) : value = held := by
  cases value with
  | obj members =>
      cases List.mem_cons.mp isRoot with
      | inl same => exact (congrArg Position.value same).symm
      | inr isBelow => exact absurd rfl (names_ne_nil isBelow)
  | _ => exact (congrArg Position.value (List.mem_singleton.mp isRoot)).symm

/-- The positions of a document in normal form are what its key paths lead to. -/
theorem mem_positionsIn_iff (isNormal : value.IsNormal) :
    ⟨names, held⟩ ∈ positionsIn value ↔ valueAt? names value = some held := by
  induction names generalizing value with
  | nil =>
      rw [valueAt?, Option.some.injEq]
      constructor
      · exact eq_of_root_mem_positionsIn
      · intro same
        exact same ▸ root_mem_positionsIn value
  | cons name names ih =>
      cases value with
      | obj members =>
          obtain ⟨ascending, inForm⟩ := Json.isNormal_obj.mp isNormal
          have found (value : Json) : members.lookup name = some value ↔ (name, value) ∈ members :=
            ⟨Fields.mem_of_lookup, Fields.lookup_of_mem ascending.nodup⟩
          rw [positionsIn, List.mem_cons, or_iff_right (by simp), cons_mem_positions_iff, valueAt?,
            Json.member?, Option.bind_eq_some_iff]
          refine exists_congr fun value => ?_
          rw [found]
          exact and_congr_right fun isMember => ih (inForm _ isMember)
      | _ => simp [positionsIn, valueAt?, Json.member?]

/-- The positions of a payload are the key paths that lead somewhere in it. -/
theorem mem_positions_iff_standsIn (isNormal : (Json.obj members).IsNormal) :
    position ∈ positions members ↔ position.names ≠ [] ∧ position.StandsIn members := by
  rw [Position.StandsIn, ← mem_positionsIn_iff isNormal, positionsIn, List.mem_cons]
  constructor
  · intro isPosition
    exact ⟨names_ne_nil isPosition, .inr isPosition⟩
  · intro isBelow
    cases isBelow.2 with
    | inl isRoot => exact absurd (congrArg Position.names isRoot) isBelow.1
    | inr isPosition => exact isPosition

/-- A payload is a map, so no leaf stands at its root. -/
theorem Position.StandsIn.names_ne_nil (stands : position.StandsIn members)
    (isLeaf : position.isLeaf = true) : position.names ≠ [] := by
  intro atRoot
  rw [StandsIn, atRoot, valueAt?, Option.some.injEq] at stands
  rw [Position.isLeaf, ← stands] at isLeaf
  cases isLeaf

/-! ## Their order -/

/-- Positions are gone through in the order of their key paths: one that leads to others before them,
and otherwise by the first names in which they differ. -/
theorem pairwise_positions (isNormal : (Json.obj members).IsNormal) :
    (positions members).Pairwise fun earlier later => earlier.names < later.names := by
  induction members using induct_members (fun value => value.IsNormal →
      (positionsIn value).Pairwise fun earlier later => earlier.names < later.names) with
  | leaf value isLeaf isNormal =>
      rw [positionsIn_of_isMap_eq_false isLeaf]
      exact List.pairwise_singleton ..
  | map members ih isNormal =>
      rw [positionsIn]
      refine List.pairwise_cons.mpr ⟨fun position isPosition => ?_, ih isNormal⟩
      obtain ⟨first, more, shape⟩ := List.exists_cons_of_ne_nil (names_ne_nil isPosition)
      exact shape ▸ List.nil_lt_cons first more
  | nil => exact List.Pairwise.nil
  | cons name value rest ihValue ihRest =>
      obtain ⟨ascending, inForm⟩ := Json.isNormal_obj.mp isNormal
      obtain ⟨smallest, restAscending⟩ := List.pairwise_cons.mp ascending
      obtain ⟨valueInForm, restInForm⟩ := List.forall_mem_cons.mp inForm
      rw [positions]
      refine List.pairwise_append.mpr ⟨?_, ihRest (Json.isNormal_obj.mpr ⟨restAscending, restInForm⟩), ?_⟩
      · refine List.pairwise_map.mpr ((ihValue valueInForm).imp fun less => ?_)
        exact List.cons_lt_cons_iff.mpr (.inr ⟨rfl, less⟩)
      · intro earlier isEarlier later isLater
        obtain ⟨inner, -, rfl⟩ := List.mem_map.mp isEarlier
        obtain ⟨member, isMember, other, -, rfl⟩ := mem_positions_iff.mp isLater
        have less : name < member.1 := compare_lt_iff_lt.mp (smallest member isMember)
        exact List.cons_lt_cons_iff.mpr (.inl less)

/-! ## Flattening -/

/-- Flattening keeps exactly the leaves, and of the leaves with one dotted path the last.  The positions
are gone through in the order of their key paths, and are all that key paths lead to below the root. -/
theorem flatten_keeps_last_leaves {attributes : Members}
    (isNormal : (Json.obj attributes).IsNormal) :
    ((positions attributes).Pairwise fun earlier later => earlier.names < later.names) ∧
    (∀ position, position ∈ positions attributes ↔
      position.names ≠ [] ∧ position.StandsIn attributes) ∧
    (∀ path, path ∈ flatten attributes ↔
      ∃ position : Position, position.StandsIn attributes ∧ position.isLeaf = true ∧
        position.path = path) ∧
    ∀ path value, (flatten attributes)[path]? = some value ↔
      ∃ before last after, positions attributes = before ++ last :: after ∧ last.isLeaf = true ∧
        last.path = path ∧ last.value = value ∧
        ∀ later ∈ after, later.isLeaf = true → later.path ≠ path := by
  refine ⟨pairwise_positions isNormal, fun _ => mem_positions_iff_standsIn isNormal, ?_, ?_⟩
  · intro path
    rw [flatten_eq_gathered, mem_gathered_iff]
    constructor
    · intro isKept
      obtain ⟨position, isPosition, isLeaf, atPath⟩ := isKept
      exact ⟨position, ((mem_positions_iff_standsIn isNormal).mp isPosition).2, isLeaf, atPath⟩
    · intro isLeafAt
      obtain ⟨position, stands, isLeaf, atPath⟩ := isLeafAt
      have isPosition := (mem_positions_iff_standsIn isNormal).mpr ⟨stands.names_ne_nil isLeaf, stands⟩
      exact ⟨position, isPosition, isLeaf, atPath⟩
  · intro path value
    rw [flatten_eq_gathered, getElem?_gathered_eq_some_iff]
    constructor
    · intro isKept
      obtain ⟨last, isLast, rfl, rfl⟩ := isKept
      obtain ⟨before, after, cut, isLeaf, noneAfter⟩ := isLastLeaf_iff.mp isLast
      exact ⟨before, last, after, cut, isLeaf, rfl, rfl, noneAfter⟩
    · intro isLast
      obtain ⟨before, last, after, cut, isLeaf, rfl, rfl, noneAfter⟩ := isLast
      exact ⟨last, isLastLeaf_iff.mpr ⟨before, after, cut, isLeaf, noneAfter⟩, rfl, rfl⟩

/-- Three leaves at different depths have one dotted path, and the one that is gone through last is
kept. -/
theorem flatten_keeps_last_leaves_news :
    let payload : Members :=
      [("news", .obj [("body", .obj [("title", .str "first")]), ("body.title", .str "second")]),
        ("news.body", .obj [("title", .str "third")])]
    (Json.obj payload).IsNormal ∧ "news.body.title" ∈ flatten payload ∧
      (flatten payload)["news.body.title"]? = some (.str "third") := by
  intro payload
  have isNormal : (Json.obj payload).IsNormal := rfl
  obtain ⟨-, -, keys, values⟩ := flatten_keeps_last_leaves isNormal
  have first : (⟨["news", "body", "title"], .str "first"⟩ : Position).StandsIn payload := rfl
  refine ⟨isNormal, (keys _).mpr ⟨_, first, rfl, by decide⟩, (values _ _).mpr ?_⟩
  exact ⟨(positions payload).dropLast, ⟨["news.body", "title"], .str "third"⟩, [], rfl, rfl, by decide,
    rfl, by simp⟩

end AccessControl.Attributes
