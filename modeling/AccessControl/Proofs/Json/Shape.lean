import AccessControl.Json.Reader
import AccessControl.Json.Writer
import AccessControl.Proofs.Json.Normal

/-!
# Documents that have a shape

A text is read against a shape, which lets some documents through and refuses others.  What a shape
makes of a document that was written out is said here on the document, so that it can be told without
going through the text.
-/

namespace AccessControl.Json

mutual

/-- Whether a shape lets a written document through: each name, word and checked part of it is one
that the shape accepts, and records are maps of their fields in order. -/
def Shape.Admits : Shape → Json → Prop
  | .any, _ => True
  | .text, .str _ => True
  | .list item, .arr items => ∀ held ∈ items, item.Admits held
  | .dict key value, .obj members =>
    ∀ member ∈ members, key member.1 = none ∧ value.Admits member.2
  | .word names, .str name => name ∈ names
  | .record _ fields, .obj members => AdmitsFields fields members
  | .checked check, document => document.IsNormal ∧ check document = none
  | _, _ => False

/-- Whether members are the fields of a record in order, each let through by its shape. -/
def AdmitsFields : List (String × Shape) → List (String × Json) → Prop
  | [], [] => True
  | (name, shape) :: fields, (other, document) :: members =>
    name = other ∧ shape.Admits document ∧ AdmitsFields fields members
  | _, _ => False

end

/-- Whether the text of a document keeps it: read against a shape, the text gives the document if the
shape lets it through, and a fault if not. -/
structure IsKept (shape : Shape) (document : Json) : Prop where
  admitted : shape.Admits document → readAs shape document.write = .ok document
  refused : ¬ shape.Admits document → ∃ fault, readAs shape document.write = .error fault

end AccessControl.Json
