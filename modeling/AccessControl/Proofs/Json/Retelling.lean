import AccessControl.Proofs.Json.KeptText
import AccessControl.Proofs.Json.Records

/-!
# What texts make of documents

What is read from the text of a document in normal form has the same shape, with the same members in the
same order; it can differ in numbers only.  So a part whose numbers are kept is given back as it was.
-/

namespace AccessControl.Json

variable {depth : Nat} {name : String}

/-! ## Members -/

/-- What is found under a name was read from what was found there before. -/
theorem exists_lookup_of_rereadMembers {members read : List (String × Json)} {value : Json}
    (gives : rereadMembers depth members = some read) (found : members.lookup name = some value) :
    ∃ given, reread depth value = some given ∧ read.lookup name = some given := by
  induction members generalizing read with
  | nil => cases found
  | cons member rest ih =>
      simp only [rereadMembers, Option.bind_eq_some_iff, Option.map_eq_some_iff] at gives
      rcases gives with ⟨first, isFirst, others, isOthers, rfl⟩
      rw [lookup_cons] at found
      simp only [lookup_cons]
      split at found
      · next same =>
        rw [if_pos same]
        exact ⟨first, Option.some.inj found ▸ isFirst, rfl⟩
      · next other =>
        rw [if_neg other]
        exact ih isOthers found

/-- Members are given back if each of them is. -/
theorem eq_of_rereadMembers {members read : List (String × Json)}
    (gives : rereadMembers depth members = some read)
    (each : ∀ name value given, (name, value) ∈ members → (name, given) ∈ read →
      reread depth value = some given → given = value) : read = members := by
  induction members generalizing read with
  | nil =>
      cases gives
      rfl
  | cons member rest ih =>
      simp only [rereadMembers, Option.bind_eq_some_iff, Option.map_eq_some_iff] at gives
      rcases gives with ⟨given, isGiven, others, isOthers, rfl⟩
      have isFirst : given = member.2 :=
        each member.1 member.2 given (List.mem_cons_self ..) (List.mem_cons_self ..) isGiven
      have isRest : others = rest := by
        refine ih isOthers fun name value given isMember isRead => ?_
        exact each name value given (List.mem_cons_of_mem _ isMember) (List.mem_cons_of_mem _ isRead)
      rw [isFirst, isRest]

/-- Members that were put in order are given back if each of them is, as far as it is found. -/
theorem eq_of_reread_sortMembers {fields read : List (String × Json)}
    (gives : rereadMembers depth (sortMembers (normalMembers fields)) = some read)
    (each : ∀ name value given, (name, value) ∈ fields → read.lookup name = some given →
      reread depth value.normal = some given → given = value.normal) :
    read = sortMembers (normalMembers fields) := by
  have ascending : Ascending read :=
    (ascending_sortMembers _).of_names (fst_of_rereadMembers gives)
  refine eq_of_rereadMembers gives fun name value given isMember isGiven again => ?_
  have isNormal := mem_sortMembers isMember
  rw [normalMembers_eq_map] at isNormal
  rcases List.mem_map.mp isNormal with ⟨field, isField, same⟩
  cases same
  exact each field.1 field.2 given isField (Fields.lookup_of_mem ascending.nodup isGiven) again

/-- What is read from the text of a map is a map. -/
theorem exists_of_reread_obj {members : List (String × Json)} {read : Json}
    (gives : reread depth (.obj members) = some read) :
    ∃ given, rereadMembers (depth - 1) members = some given ∧ read = .obj given := by
  rw [reread] at gives
  split at gives
  · cases gives
  · rcases Option.map_eq_some_iff.mp gives with ⟨given, isGiven, rfl⟩
    exact ⟨given, isGiven, rfl⟩

/-! ## Numbers -/

/-- Whether all numbers in a document are read back from their own texts. -/
def KeepsNumbers (document : Json) : Prop :=
  ∀ number ∈ numbers document, rereadNumber number = some number

theorem keepsNumbers_null : Json.null.KeepsNumbers := nofun

theorem keepsNumbers_bool (value : Bool) : (Json.bool value).KeepsNumbers := nofun

theorem keepsNumbers_str (text : String) : (Json.str text).KeepsNumbers := nofun

theorem keepsNumbers_natural {n : Nat} (holds : n < Decimal.capacity 64) :
    (Json.int n).KeepsNumbers := by
  intro number isNumber
  cases List.mem_singleton.mp isNumber
  exact (rereadNumber_int_iff n).mpr ⟨by omega, Int.ofNat_lt.mpr holds⟩

theorem keepsNumbers_arr_iff {items : List Json} :
    (Json.arr items).KeepsNumbers ↔ ∀ item ∈ items, item.KeepsNumbers := by
  rw [KeepsNumbers, numbers]
  induction items with
  | nil => simp [numbersOfItems]
  | cons item rest ih =>
      rw [numbersOfItems, List.forall_mem_append, ih, List.forall_mem_cons]
      rfl

theorem keepsNumbers_obj_iff {members : List (String × Json)} :
    (Json.obj members).KeepsNumbers ↔ ∀ member ∈ members, member.2.KeepsNumbers := by
  rw [KeepsNumbers, numbers]
  induction members with
  | nil => simp [numbersOfMembers]
  | cons member rest ih =>
      rw [numbersOfMembers, List.forall_mem_append, ih, List.forall_mem_cons]
      rfl

mutual

/-- A document that keeps its numbers is given back, unless nothing is read at all. -/
theorem eq_of_reread : (document : Json) → ∀ (depth : Nat) (read : Json),
    document.KeepsNumbers → reread depth document = some read → read = document
  | .null | .bool _ | .str _ => by
      intro depth read _ gives
      simp only [reread, Option.some.injEq] at gives
      exact gives.symm
  | .int _ | .float _ => by
      intro depth read keeps gives
      rw [reread, keeps _ (List.mem_singleton_self _)] at gives
      exact (Option.some.inj gives).symm
  | .arr items => by
      intro depth read keeps gives
      rw [reread] at gives
      split at gives
      · cases gives
      · rcases Option.map_eq_some_iff.mp gives with ⟨given, isGiven, rfl⟩
        rw [eq_of_rereadItems items _ given (keepsNumbers_arr_iff.mp keeps) isGiven]
  | .obj members => by
      intro depth read keeps gives
      rcases exists_of_reread_obj gives with ⟨given, isGiven, rfl⟩
      rw [eq_of_rereadMembers_of_keepsNumbers members _ given (keepsNumbers_obj_iff.mp keeps) isGiven]

theorem eq_of_rereadItems : (items : List Json) → ∀ (depth : Nat) (read : List Json),
    (∀ item ∈ items, item.KeepsNumbers) → rereadItems depth items = some read → read = items
  | [] => by
      intro depth read _ gives
      cases gives
      rfl
  | item :: rest => by
      intro depth read each gives
      simp only [rereadItems, Option.bind_eq_some_iff, Option.map_eq_some_iff] at gives
      rcases gives with ⟨first, isFirst, others, isOthers, rfl⟩
      rcases List.forall_mem_cons.mp each with ⟨ofItem, ofRest⟩
      rw [eq_of_reread item _ first ofItem isFirst, eq_of_rereadItems rest _ others ofRest isOthers]

theorem eq_of_rereadMembers_of_keepsNumbers : (members : List (String × Json)) →
    ∀ (depth : Nat) (read : List (String × Json)), (∀ member ∈ members, member.2.KeepsNumbers) →
      rereadMembers depth members = some read → read = members
  | [] => by
      intro depth read _ gives
      cases gives
      rfl
  | (name, value) :: rest => by
      intro depth read each gives
      simp only [rereadMembers, Option.bind_eq_some_iff, Option.map_eq_some_iff] at gives
      rcases gives with ⟨first, isFirst, others, isOthers, rfl⟩
      rcases List.forall_mem_cons.mp each with ⟨ofValue, ofRest⟩
      rw [eq_of_reread value _ first ofValue isFirst,
        eq_of_rereadMembers_of_keepsNumbers rest _ others ofRest isOthers]

end

/-- A member that keeps its numbers is found as it was before. -/
theorem KeepsNumbers.lookup_of_rereadMembers {members read : List (String × Json)} {value : Json}
    (keeps : value.KeepsNumbers) (gives : rereadMembers depth members = some read)
    (found : members.lookup name = some value) : read.lookup name = some value := by
  rcases exists_lookup_of_rereadMembers gives found with ⟨given, isGiven, foundThen⟩
  rw [foundThen, eq_of_reread value depth given keeps isGiven]

mutual

/-- Putting members in order adds no numbers. -/
theorem KeepsNumbers.normal : (document : Json) → document.KeepsNumbers → document.normal.KeepsNumbers
  | .null | .bool _ | .int _ | .float _ | .str _ => id
  | .arr items => by
      intro keeps
      rw [Json.normal, keepsNumbers_arr_iff]
      exact keepsNumbers_normalItems items (keepsNumbers_arr_iff.mp keeps)
  | .obj members => by
      intro keeps
      rw [Json.normal, keepsNumbers_obj_iff]
      intro member isMember
      exact keepsNumbers_normalMembers members (keepsNumbers_obj_iff.mp keeps) member
        (mem_sortMembers isMember)

theorem keepsNumbers_normalItems : (items : List Json) → (∀ item ∈ items, item.KeepsNumbers) →
    ∀ item ∈ normalItems items, item.KeepsNumbers
  | [] => fun _ => nofun
  | item :: rest => by
      intro each
      rcases List.forall_mem_cons.mp each with ⟨ofItem, ofRest⟩
      rw [normalItems]
      exact List.forall_mem_cons.mpr
        ⟨KeepsNumbers.normal item ofItem, keepsNumbers_normalItems rest ofRest⟩

theorem keepsNumbers_normalMembers : (members : List (String × Json)) →
    (∀ member ∈ members, member.2.KeepsNumbers) →
      ∀ member ∈ normalMembers members, member.2.KeepsNumbers
  | [] => fun _ => nofun
  | (name, value) :: rest => by
      intro each
      rcases List.forall_mem_cons.mp each with ⟨ofValue, ofRest⟩
      rw [normalMembers]
      exact List.forall_mem_cons.mpr
        ⟨KeepsNumbers.normal value ofValue, keepsNumbers_normalMembers rest ofRest⟩

end

/-! ## Documents in normal form -/

/-- Whether what a step reads is in normal form. -/
def ReadsNormal (outcome : Except Fault (Json × Cursor)) : Prop :=
  ∀ value behind, outcome = .ok (value, behind) → value.IsNormal

theorem readsNormal_error (fault : Fault) : ReadsNormal (.error fault) := nofun

theorem readsNormal_floatOf (negative : Bool) (significand : Nat) (exponent : Int) (cursor : Cursor) :
    ReadsNormal (floatOf negative significand exponent cursor) := by
  intro value behind gives
  rw [floatOf] at gives
  split at gives
  · cases gives
    rfl
  · cases gives

theorem readsNormal_readExponent (negative : Bool) (significand : Nat) (start : Int) (cursor : Cursor) :
    ReadsNormal (readExponent negative significand start cursor) := by
  rw [readExponent]
  split
  split
  · exact readsNormal_error _
  · split
    · exact readsNormal_error _
    · dsimp only
      split
      · split
        · exact readsNormal_error _
        · exact readsNormal_floatOf _ _ _ _
      · exact readsNormal_floatOf _ _ _ _

theorem readsNormal_readFraction (negative : Bool) (significand : Nat) (start : Int) (cursor : Cursor) :
    ReadsNormal (readFraction negative significand start cursor) := by
  rw [readFraction]
  split
  split
  · split <;> exact readsNormal_error _
  · dsimp only
    rw [readTail]
    split
    · exact readsNormal_readExponent _ _ _ _
    · exact readsNormal_readExponent _ _ _ _
    · exact readsNormal_floatOf _ _ _ _

theorem readsNormal_readNumber (negative : Bool) (cursor : Cursor) :
    ReadsNormal (readNumber negative cursor) := by
  have integer (n : Int) (behind : Cursor) : ReadsNormal (.ok (.int n, behind)) := by
    intro value _ gives
    cases gives
    rfl
  rw [readNumber]
  split
  · exact readsNormal_error _
  · split
    · exact readsNormal_error _
    · split
      · exact readsNormal_error _
      · dsimp only
        split
        · exact readsNormal_readFraction _ _ _ _
        · exact readsNormal_readExponent _ _ _ _
        · exact readsNormal_readExponent _ _ _ _
        · split
          · exact readsNormal_floatOf _ _ _ _
          · split
            · exact integer _ _
            · split
              · exact readsNormal_floatOf _ _ _ _
              · exact integer _ _

theorem readsNormal_readScalar (fuel : Nat) (cursor : Cursor) :
    ReadsNormal (readScalar fuel cursor) := by
  have mapped {α : Type} (read : Except Fault (α × Cursor)) (make : α → Json)
      (isNormal : ∀ value, (make value).IsNormal) :
      ReadsNormal (read.map fun result => (make result.1, result.2)) := by
    intro value behind gives
    cases read with
    | error fault => cases gives
    | ok result =>
        cases gives
        exact isNormal result.1
  rw [readScalar]
  split
  · exact readsNormal_error _
  · split
    · exact mapped _ (fun _ => .null) fun _ => rfl
    · exact mapped _ (fun _ => .bool true) fun _ => rfl
    · exact mapped _ (fun _ => .bool false) fun _ => rfl
    · exact readsNormal_readNumber _ _
    · exact mapped _ .str fun _ => rfl
    · split
      · exact readsNormal_readNumber _ _
      · exact readsNormal_error _

theorem isNormal_of_rereadNumber {number read : Json} (gives : rereadNumber number = some read) :
    read.IsNormal := by
  rw [rereadNumber] at gives
  cases scalar : readScalar 0 ⟨number.write.toList, 0⟩ with
  | error fault =>
      rw [scalar] at gives
      cases gives
  | ok result =>
      rw [scalar] at gives
      cases gives
      exact readsNormal_readScalar 0 _ result.1 result.2 scalar

mutual

/-- What is read from the text of a document in normal form is in normal form. -/
theorem isNormal_of_reread : (document : Json) → ∀ (depth : Nat) (read : Json),
    document.IsNormal → reread depth document = some read → read.IsNormal
  | .null | .bool _ | .str _ => by
      intro depth read isNormal gives
      simp only [reread, Option.some.injEq] at gives
      exact gives ▸ isNormal
  | .int _ | .float _ => by
      intro depth read _ gives
      exact isNormal_of_rereadNumber gives
  | .arr items => by
      intro depth read isNormal gives
      rw [reread] at gives
      split at gives
      · cases gives
      · rcases Option.map_eq_some_iff.mp gives with ⟨given, isGiven, rfl⟩
        exact isNormal_arr.mpr
          (isNormal_of_rereadItems items _ given (isNormal_arr.mp isNormal) isGiven)
  | .obj members => by
      intro depth read isNormal gives
      rcases exists_of_reread_obj gives with ⟨given, isGiven, rfl⟩
      rcases isNormal_obj.mp isNormal with ⟨ascending, each⟩
      exact isNormal_obj.mpr ⟨ascending.of_names (fst_of_rereadMembers isGiven),
        isNormal_of_rereadMembers members _ given each isGiven⟩

theorem isNormal_of_rereadItems : (items : List Json) → ∀ (depth : Nat) (read : List Json),
    (∀ item ∈ items, item.IsNormal) → rereadItems depth items = some read →
      ∀ item ∈ read, item.IsNormal
  | [] => by
      intro depth read _ gives
      cases gives
      nofun
  | item :: rest => by
      intro depth read each gives
      simp only [rereadItems, Option.bind_eq_some_iff, Option.map_eq_some_iff] at gives
      rcases gives with ⟨first, isFirst, others, isOthers, rfl⟩
      rcases List.forall_mem_cons.mp each with ⟨ofItem, ofRest⟩
      exact List.forall_mem_cons.mpr ⟨isNormal_of_reread item _ first ofItem isFirst,
        isNormal_of_rereadItems rest _ others ofRest isOthers⟩

theorem isNormal_of_rereadMembers : (members : List (String × Json)) →
    ∀ (depth : Nat) (read : List (String × Json)), (∀ member ∈ members, member.2.IsNormal) →
      rereadMembers depth members = some read → ∀ member ∈ read, member.2.IsNormal
  | [] => by
      intro depth read _ gives
      cases gives
      nofun
  | (name, value) :: rest => by
      intro depth read each gives
      simp only [rereadMembers, Option.bind_eq_some_iff, Option.map_eq_some_iff] at gives
      rcases gives with ⟨first, isFirst, others, isOthers, rfl⟩
      rcases List.forall_mem_cons.mp each with ⟨ofValue, ofRest⟩
      exact List.forall_mem_cons.mpr ⟨isNormal_of_reread value _ first ofValue isFirst,
        isNormal_of_rereadMembers rest _ others ofRest isOthers⟩

end

/-- From the text of a document in normal form is read what its numbers and its nesting leave of it. -/
theorem read_write_eq_ok_iff_reread {document read : Json} (isNormal : document.IsNormal) :
    Json.read document.write = .ok read ↔ reread depthLimit document = some read := by
  have inForm := isNormal_of_reread document depthLimit
  rw [Json.read, ← toOption_readAs_write] at *
  cases isRead : readAs .any document.write with
  | error fault => simp [Except.map, Except.toOption]
  | ok given =>
      rw [isRead] at inForm
      have same : given.normal = given := inForm given isNormal rfl
      simp [Except.map, Except.toOption, same]

end AccessControl.Json
