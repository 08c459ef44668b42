import AccessControl.Proofs.Json.Normal
import AccessControl.Proofs.Json.Rereading

/-!
# Which documents their texts keep

A document is read back from its own text exactly if its maps are in order, it is not nested too deep,
its integers fit into 64 bits, and each of its floats is read back from its own text.
-/

namespace AccessControl.Json

/-! ## Documents that are given back -/

mutual

/-- How many lists and maps a document holds within each other. -/
def nesting : Json → Nat
  | .arr items => nestingOfItems items + 1
  | .obj members => nestingOfMembers members + 1
  | _ => 0

/-- The nesting of the item that nests most. -/
def nestingOfItems : List Json → Nat
  | [] => 0
  | item :: rest => max (nesting item) (nestingOfItems rest)

/-- The nesting of the value that nests most. -/
def nestingOfMembers : List (String × Json) → Nat
  | [] => 0
  | (_, value) :: rest => max (nesting value) (nestingOfMembers rest)

end

mutual

/-- The numbers in a document. -/
def numbers : Json → List Json
  | .int n => [.int n]
  | .float bits => [.float bits]
  | .arr items => numbersOfItems items
  | .obj members => numbersOfMembers members
  | _ => []

/-- The numbers in each item. -/
def numbersOfItems : List Json → List Json
  | [] => []
  | item :: rest => numbers item ++ numbersOfItems rest

/-- The numbers in each value. -/
def numbersOfMembers : List (String × Json) → List Json
  | [] => []
  | (_, value) :: rest => numbers value ++ numbersOfMembers rest

end

/-- An item and the others are given back if the item is and the others are. -/
theorem rereadItems_cons_eq_self_iff {depth : Nat} {item : Json} {rest : List Json} :
    rereadItems depth (item :: rest) = some (item :: rest) ↔
      reread depth item = some item ∧ rereadItems depth rest = some rest := by
  rw [rereadItems]
  cases reread depth item <;> cases rereadItems depth rest <;> simp

theorem rereadMembers_cons_eq_self_iff {depth : Nat} {name : String} {value : Json}
    {rest : List (String × Json)} :
    rereadMembers depth ((name, value) :: rest) = some ((name, value) :: rest) ↔
      reread depth value = some value ∧ rereadMembers depth rest = some rest := by
  rw [rereadMembers]
  cases reread depth value <;> cases rereadMembers depth rest <;> simp

mutual

/-- A document is given back if it is not nested too deep and its numbers are given back. -/
theorem reread_eq_self_iff : (document : Json) → ∀ depth : Nat, 0 < depth →
    (reread depth document = some document ↔
      nesting document < depth ∧ ∀ number ∈ numbers document, rereadNumber number = some number)
  | .null | .bool _ | .str _ | .int _ | .float _ => by
      intro depth positive
      simp [reread, nesting, numbers, positive]
  | .arr items => by
      intro depth positive
      rw [reread, nesting, numbers]
      split
      · next shallow => exact iff_of_false (by simp) (by omega)
      · next deep =>
        have each := rereadItems_eq_self_iff items (depth - 1) (by omega)
        simp only [Option.map_eq_some_iff, Json.arr.injEq, exists_eq_right, each]
        refine and_congr_left fun _ => ?_
        omega
  | .obj members => by
      intro depth positive
      rw [reread, nesting, numbers]
      split
      · next shallow => exact iff_of_false (by simp) (by omega)
      · next deep =>
        have each := rereadMembers_eq_self_iff members (depth - 1) (by omega)
        simp only [Option.map_eq_some_iff, Json.obj.injEq, exists_eq_right, each]
        refine and_congr_left fun _ => ?_
        omega

theorem rereadItems_eq_self_iff : (items : List Json) → ∀ depth : Nat, 0 < depth →
    (rereadItems depth items = some items ↔ nestingOfItems items < depth ∧
      ∀ number ∈ numbersOfItems items, rereadNumber number = some number)
  | [] => by
      intro depth positive
      simp [rereadItems, nestingOfItems, numbersOfItems, positive]
  | item :: rest => by
      intro depth positive
      have first := reread_eq_self_iff item depth positive
      have others := rereadItems_eq_self_iff rest depth positive
      simp only [rereadItems_cons_eq_self_iff, nestingOfItems, numbersOfItems, List.forall_mem_append,
        Nat.max_lt, first, others]
      exact and_and_and_comm

theorem rereadMembers_eq_self_iff : (members : List (String × Json)) → ∀ depth : Nat, 0 < depth →
    (rereadMembers depth members = some members ↔ nestingOfMembers members < depth ∧
      ∀ number ∈ numbersOfMembers members, rereadNumber number = some number)
  | [] => by
      intro depth positive
      simp [rereadMembers, nestingOfMembers, numbersOfMembers, positive]
  | (name, value) :: rest => by
      intro depth positive
      have first := reread_eq_self_iff value depth positive
      have others := rereadMembers_eq_self_iff rest depth positive
      simp only [rereadMembers_cons_eq_self_iff, nestingOfMembers, numbersOfMembers,
        List.forall_mem_append, Nat.max_lt, first, others]
      exact and_and_and_comm

end

/-! ## Documents that are given back in normal form -/

theorem fst_of_rereadMembers {depth : Nat} {members read : List (String × Json)}
    (gives : rereadMembers depth members = some read) : read.map Prod.fst = members.map Prod.fst := by
  induction members generalizing read with
  | nil =>
      cases gives
      rfl
  | cons member rest ih =>
      simp only [rereadMembers, Option.bind_eq_some_iff, Option.map_eq_some_iff] at gives
      rcases gives with ⟨value, -, others, isOthers, rfl⟩
      rw [List.map_cons, List.map_cons, ih isOthers]

/-- Whether members are in ascending order is told by their names. -/
theorem Ascending.of_names {members others : List (String × Json)} (ascending : Ascending members)
    (names : others.map Prod.fst = members.map Prod.fst) : Ascending others := by
  have inOrder : (members.map Prod.fst).Pairwise fun first second => compare first second = .lt :=
    List.pairwise_map.mpr ascending
  rw [← names] at inOrder
  exact List.pairwise_map.mp inOrder

/-- Members under names that are in order need not be put in order. -/
theorem normalMembers_eq_of_sorted {members read : List (String × Json)}
    (names : read.map Prod.fst = members.map Prod.fst)
    (sorted : sortMembers (normalMembers read) = members) : normalMembers read = members := by
  have ascending : Ascending members := sorted ▸ ascending_sortMembers _
  have sameNames : (normalMembers read).map Prod.fst = members.map Prod.fst := by
    rw [normalMembers_eq_map, List.map_map, ← names]
    rfl
  rwa [(ascending.of_names sameNames).sortMembers_eq] at sorted

mutual

/-- What is read from the text of a document and has this document as its normal form is the document
itself. -/
theorem eq_of_normal_reread : (document : Json) → ∀ (depth : Nat) (read : Json),
    reread depth document = some read → read.normal = document → read = document
  | .null | .bool _ | .str _ | .int _ | .float _ => by
      intro depth read _ same
      cases read <;> simp_all [normal]
  | .arr items => by
      intro depth read gives same
      rw [reread] at gives
      split at gives
      · cases gives
      · rcases Option.map_eq_some_iff.mp gives with ⟨readItems, isRead, rfl⟩
        rw [normal, Json.arr.injEq] at same
        rw [eq_of_normal_rereadItems items _ _ isRead same]
  | .obj members => by
      intro depth read gives same
      rw [reread] at gives
      split at gives
      · cases gives
      · rcases Option.map_eq_some_iff.mp gives with ⟨readMembers, isRead, rfl⟩
        rw [normal, Json.obj.injEq] at same
        rw [eq_of_normal_rereadMembers members _ _ isRead
          (normalMembers_eq_of_sorted (fst_of_rereadMembers isRead) same)]

theorem eq_of_normal_rereadItems : (items : List Json) → ∀ (depth : Nat) (read : List Json),
    rereadItems depth items = some read → normalItems read = items → read = items
  | [] => by
      intro depth read gives _
      cases gives
      rfl
  | item :: rest => by
      intro depth read gives same
      simp only [rereadItems, Option.bind_eq_some_iff, Option.map_eq_some_iff] at gives
      rcases gives with ⟨first, isFirst, others, isOthers, rfl⟩
      rw [normalItems, List.cons.injEq] at same
      rw [eq_of_normal_reread item _ _ isFirst same.1,
        eq_of_normal_rereadItems rest _ _ isOthers same.2]

theorem eq_of_normal_rereadMembers : (members : List (String × Json)) →
    ∀ (depth : Nat) (read : List (String × Json)),
      rereadMembers depth members = some read → normalMembers read = members → read = members
  | [] => by
      intro depth read gives _
      cases gives
      rfl
  | (name, value) :: rest => by
      intro depth read gives same
      simp only [rereadMembers, Option.bind_eq_some_iff, Option.map_eq_some_iff] at gives
      rcases gives with ⟨first, isFirst, others, isOthers, rfl⟩
      rw [normalMembers, List.cons.injEq, Prod.mk.injEq] at same
      rw [eq_of_normal_reread value _ _ isFirst same.1.2,
        eq_of_normal_rereadMembers rest _ _ isOthers same.2]

end

/-! ## Documents that their texts keep -/

mutual

theorem isNumber_of_mem_numbers : (document : Json) → ∀ number ∈ numbers document,
    (∃ n, number = .int n) ∨ ∃ bits, number = .float bits
  | .int n => by simp [numbers]
  | .float bits => by simp [numbers]
  | .null | .bool _ | .str _ => by simp [numbers]
  | .arr items => isNumber_of_mem_numbersOfItems items
  | .obj members => isNumber_of_mem_numbersOfMembers members

theorem isNumber_of_mem_numbersOfItems : (items : List Json) → ∀ number ∈ numbersOfItems items,
    (∃ n, number = .int n) ∨ ∃ bits, number = .float bits
  | [] => nofun
  | item :: rest => List.forall_mem_append.mpr
      ⟨isNumber_of_mem_numbers item, isNumber_of_mem_numbersOfItems rest⟩

theorem isNumber_of_mem_numbersOfMembers : (members : List (String × Json)) →
    ∀ number ∈ numbersOfMembers members, (∃ n, number = .int n) ∨ ∃ bits, number = .float bits
  | [] => nofun
  | (_, value) :: rest => List.forall_mem_append.mpr
      ⟨isNumber_of_mem_numbers value, isNumber_of_mem_numbersOfMembers rest⟩

end

/-- Whether a document is kept by its text: its maps are in order, it is not nested too deep, its
integers fit into 64 bits, with a sign or without one, and its floats are read back from their own
texts. -/
structure IsKeptByText (document : Json) : Prop where
  isNormal : document.IsNormal
  shallow : nesting document < depthLimit
  integers : ∀ n : Int, .int n ∈ numbers document →
    -(Decimal.capacity 63 : Int) ≤ n ∧ n < Decimal.capacity 64
  floats : ∀ bits : UInt64, .float bits ∈ numbers document →
    rereadNumber (.float bits) = some (.float bits)

theorem isKeptByText_iff {document : Json} :
    document.IsKeptByText ↔
      document.IsNormal ∧ reread depthLimit document = some document := by
  rw [reread_eq_self_iff document depthLimit (by decide)]
  constructor
  · intro isKept
    refine ⟨isKept.isNormal, isKept.shallow, fun number isMember => ?_⟩
    rcases isNumber_of_mem_numbers document number isMember with ⟨n, rfl⟩ | ⟨bits, rfl⟩
    · exact (rereadNumber_int_iff n).mpr (isKept.integers n isMember)
    · exact isKept.floats bits isMember
  · rintro ⟨isNormal, shallow, each⟩
    exact ⟨isNormal, shallow, fun n isMember => (rereadNumber_int_iff n).mp (each _ isMember),
      fun bits isMember => each _ isMember⟩

/-- A document is read back from its own text exactly if it is kept by it. -/
theorem read_write_eq_ok_iff (document : Json) :
    Json.read document.write = .ok document ↔ document.IsKeptByText := by
  have unchanged := eq_of_normal_reread document depthLimit
  rw [isKeptByText_iff, Json.read]
  rw [← toOption_readAs_write] at unchanged ⊢
  cases isRead : readAs .any document.write with
  | error fault => simp [Except.map, Except.toOption]
  | ok read =>
      rw [isRead] at unchanged
      constructor
      · intro same
        have isNormal := Except.ok.inj same
        obtain rfl := unchanged read rfl isNormal
        exact ⟨isNormal, rfl⟩
      · rintro ⟨isNormal, same⟩
        cases Option.some.inj same
        exact congrArg Except.ok isNormal

end AccessControl.Json
