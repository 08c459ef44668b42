import AccessControl.Decimal.Natural

/-!
# JSON documents

A document is a tree of nulls, booleans, numbers, texts, sequences and maps.  An integer and a
floating-point number are different values even when they name the same quantity; a float is kept
as the bits of the double.  The members of a map are kept in a list; `Json.normal` puts them into
ascending order of their names, the last of equal names winning.
-/

namespace AccessControl

/-- A JSON document. -/
inductive Json where
  | null
  | bool (value : Bool)
  | int (value : Int)
  | float (bits : UInt64)
  | str (text : String)
  | arr (items : List Json)
  | obj (members : List (String × Json))
  deriving Inhabited, Repr

namespace Json

/-- Whether the bits are those of a zero of either sign. -/
def isZeroBits (bits : UInt64) : Bool :=
  bits == 0 || bits == 0x8000000000000000

/-- Whether two doubles are equal as numbers; the two zeros are. -/
def sameFloat (a b : UInt64) : Bool :=
  a == b || isZeroBits a && isZeroBits b

mutual

/-- Whether two documents are the same value.  Only the two zeros are written in two ways. -/
def same : Json → Json → Bool
  | .null, .null => true
  | .bool a, .bool b => a == b
  | .int a, .int b => a == b
  | .float a, .float b => sameFloat a b
  | .str a, .str b => a == b
  | .arr a, .arr b => sameItems a b
  | .obj a, .obj b => sameMembers a b
  | _, _ => false

/-- `same` on the items of two sequences, in order. -/
def sameItems : List Json → List Json → Bool
  | [], [] => true
  | a :: as, b :: bs => same a b && sameItems as bs
  | _, _ => false

/-- `same` on the members of two maps, in order. -/
def sameMembers : List (String × Json) → List (String × Json) → Bool
  | [], [] => true
  | (k, a) :: as, (l, b) :: bs => k == l && same a b && sameMembers as bs
  | _, _ => false

end

/-- Whether the list holds a document of the same value. -/
def memberOf (value : Json) (values : List Json) : Bool :=
  values.any fun other => other.same value

/-- Puts a member in its place among ascending members; an equal name loses its old value. -/
def insertMember (name : String) (value : Json) :
    List (String × Json) → List (String × Json)
  | [] => [(name, value)]
  | (other, old) :: rest =>
    match compare name other with
    | .lt => (name, value) :: (other, old) :: rest
    | .eq => (name, value) :: rest
    | .gt => (other, old) :: insertMember name value rest

/-- The members in ascending order of their names, the last of equal names winning. -/
def sortMembers (members : List (String × Json)) : List (String × Json) :=
  members.foldl (fun sorted member => insertMember member.1 member.2 sorted) []

mutual

/-- The document with the members of every map in ascending order and no name twice. -/
def normal : Json → Json
  | .arr items => .arr (normalItems items)
  | .obj members => .obj (sortMembers (normalMembers members))
  | .null => .null
  | .bool b => .bool b
  | .int n => .int n
  | .float bits => .float bits
  | .str text => .str text

/-- `normal` on each item. -/
def normalItems : List Json → List Json
  | [] => []
  | item :: rest => normal item :: normalItems rest

/-- `normal` on each value. -/
def normalMembers : List (String × Json) → List (String × Json)
  | [] => []
  | (name, value) :: rest => (name, normal value) :: normalMembers rest

end

/-- The value of a member, if the document is a map that has one of that name. -/
def member? (name : String) : Json → Option Json
  | .obj members => members.lookup name
  | _ => none

/-- The document as a natural number that 64 bits can hold, if it is such an integer. -/
def natural? : Json → Option Nat
  | .int (.ofNat n) => if n < Decimal.capacity 64 then some n else none
  | _ => none

example : (Json.int 1).same (.float 0x3FF0000000000000) = false := by decide
example : (Json.float 0).same (.float 0x8000000000000000) = true := by decide

end Json

end AccessControl
