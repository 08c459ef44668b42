import AccessControl.Json.Decode

/-!
# Allowed values

A permission may name the values that an attribute can be given.  For an attribute that holds one
value they are listed; for an attribute that holds a list there are several lists, of which one
must cover the attribute.
-/

namespace AccessControl

/-- The values that one attribute can be given. -/
inductive AllowedValues where
  /-- Sets of values, for attributes that hold a list. -/
  | lists (sets : List (List Json))
  /-- Values, for attributes that hold one of them. -/
  | scalars (values : List Json)
  deriving Repr

namespace AllowedValues

/-- Whether every item is among the values. -/
def covers (values items : List Json) : Bool :=
  items.all fun item => Json.memberOf item values

/-- Whether the attribute may have this value. -/
def permits : AllowedValues → Json → Bool
  | .lists sets, .arr items => sets.any fun values => covers values items
  | .scalars values, .arr items => covers values items
  | .scalars values, value => Json.memberOf value values
  | .lists _, _ => false

/-- Whether the list of values is among the sets. -/
def hasSet (sets : List (List Json)) (values : List Json) : Bool :=
  sets.any fun set => Json.sameItems set values

/-- The sets with one more at the end, unless it is there already. -/
def addSet (sets : List (List Json)) (values : List Json) : List (List Json) :=
  if hasSet sets values then sets else sets ++ [values]

/-- The values with one more at the end, unless it is there already. -/
def addValue (values : List Json) (value : Json) : List Json :=
  if Json.memberOf value values then values else values ++ [value]

/-- What either allows.  The two shapes are not comparable: where they clash the first stays. -/
def merge : AllowedValues → AllowedValues → AllowedValues
  | .lists sets, .lists more => .lists (more.foldl addSet sets)
  | .scalars values, .scalars more => .scalars (more.foldl addValue values)
  | mine, _ => mine

/-- Reads the values of one attribute.  A list of lists is taken for sets of values, and so is the
empty list. -/
def decoder : Decoder AllowedValues := fun document =>
  match Decoder.list (Decoder.list Decoder.any) document with
  | .ok sets => .ok (.lists sets)
  | .error _ =>
    match Decoder.list Decoder.any document with
    | .ok values => .ok (.scalars values)
    | .error _ => .error (.noShape "AllowedValues")

/-- The document of the values. -/
def toJson : AllowedValues → Json
  | .lists sets => .arr (sets.map .arr)
  | .scalars values => .arr values

end AllowedValues

end AccessControl
