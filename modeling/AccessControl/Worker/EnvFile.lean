import AccessControl.Text.Alphanumeric
import AccessControl.Text.Blank
import AccessControl.Worker.Config

/-!
# Environment files

An environment file gives values to variables that the environment does not know yet, one
assignment per line.  Values may be quoted, strongly or weakly, and a quoted value may go on over
several lines; outside strong quotes the value of another variable can be inserted after a dollar
sign, and a backslash takes the meaning from the next character.  The file is read up to the first
line that cannot be understood; what came before it counts.
-/

namespace AccessControl.Worker.EnvFile

/-- What the last character of a line left open. -/
inductive Opening where
  /-- Nothing. -/
  | none
  /-- A blank, after which a hash sign starts a comment. -/
  | blank
  | escape
  | strong
  | strongEscape
  | weak
  | weakEscape
  deriving DecidableEq, Repr

/-- What is open after a character; nothing if a comment starts with it. -/
def Opening.after : Opening → Char → Option Opening
  | .blank, '#' => Option.none
  | .none, c | .blank, c =>
    if c = '\\' then some .escape
    else if c = '"' then some .weak
    else if c = '\'' then some .strong
    else some .none
  | .escape, _ => some .none
  | .strong, c =>
    some (if c = '\\' then .strongEscape else if c = '\'' then .none else .strong)
  | .strongEscape, _ => some .strong
  | .weak, c => some (if c = '\\' then .weakEscape else if c = '"' then .none else .weak)
  | .weakEscape, _ => some .weak

/-- What is open after a character, blanks told apart from other characters. -/
def Opening.next (opening : Opening) (c : Char) : Option Opening :=
  if opening = .none ∧ Text.isBlank c ∧ c ≠ '\n' ∧ c ≠ '\r' then some .blank else opening.after c

/-- How a line ends: in a comment, before which these characters stand, or leaving something
open. -/
inductive Ending where
  | comment (before : List Char)
  | open (opening : Opening)

/-- How a line ends that starts with something open. -/
def ending : Opening → (reversed : List Char) → List Char → Ending
  | opening, _, [] => .open opening
  | opening, reversed, c :: rest =>
    match opening.next c with
    | some next => ending next (c :: reversed) rest
    | Option.none => .comment reversed.reverse

/-- The lines of a text, each with the line feed that ends it. -/
def physicalLines : List Char → List (List Char)
  | [] => []
  | c :: rest =>
    if c = '\n' then [c] :: physicalLines rest
    else
      match physicalLines rest with
      | [] => [[c]]
      | line :: more => (c :: line) :: more

/-- A line without the line feed that ends it, and a carriage return before that. -/
def withoutLineEnd (line : List Char) : List Char :=
  match line.reverse with
  | '\n' :: '\r' :: rest => rest.reverse
  | '\n' :: rest => rest.reverse
  | _ => line

/-- The lines put together where a quote is left open, without comments.  The last one is missing
if the text ends with something open. -/
def logicalLines (pending : List Char) (opening : Opening) :
    List (List Char) → List (Option (List Char))
  | [] => if opening = .none then [] else [Option.none]
  | line :: rest =>
    let whole := pending ++ line
    if (Text.trimStartChars whole).head? = some '#' then some [] :: logicalLines [] .none rest
    else
      match ending opening [] line with
      | .comment before => some (pending ++ before) :: logicalLines [] .none rest
      | .open .none => some (withoutLineEnd whole) :: logicalLines [] .none rest
      | .open left => logicalLines whole left rest

/-- What the characters of a value mean. -/
inductive Mode where
  | plain
  /-- Only blanks and a comment may follow. -/
  | ended
  | escaped
  | strong
  /-- The name of a variable, made of letters and digits of any script. -/
  | bareName (reversed : List Char)
  /-- The name of a variable in braces. -/
  | bracedName (reversed : List Char)
  deriving DecidableEq, Repr

/-- The value of the variable whose name was read, empty if there is none. -/
def inserted (environment : Environment) (reversed : List Char) : List Char :=
  (environment[String.ofList reversed.reverse]?.getD "").toList

/-- Reads a value; `isWeak` tells whether a weak quote is open. -/
def readValue (environment : Environment) : Mode → (isWeak : Bool) → (reversed : List Char) →
    List Char → Option (List Char)
  | mode, isWeak, reversed, [] =>
    match mode with
    | .strong | .bracedName _ => none
    | .bareName name =>
      if isWeak then none else some (reversed.reverse ++ inserted environment name)
    | _ => if isWeak then none else some reversed.reverse
  | .ended, isWeak, reversed, c :: rest =>
    if c = ' ' ∨ c = '\t' then readValue environment .ended isWeak reversed rest
    else if c = '#' then some reversed.reverse
    else none
  | .escaped, isWeak, reversed, c :: rest =>
    if c = 'n' then readValue environment .plain isWeak ('\n' :: reversed) rest
    else if c = '\\' ∨ c = '\'' ∨ c = '"' ∨ c = '$' ∨ c = ' ' then
      readValue environment .plain isWeak (c :: reversed) rest
    else none
  | .strong, isWeak, reversed, c :: rest =>
    if c = '\'' then readValue environment .plain isWeak reversed rest
    else readValue environment .strong isWeak (c :: reversed) rest
  | .bareName name, isWeak, reversed, c :: rest =>
    if Text.isAlphanumeric c then readValue environment (.bareName (c :: name)) isWeak reversed rest
    else if c = '\x7b' ∧ name = [] then
      readValue environment (.bracedName []) isWeak reversed rest
    else
      let reversed := (inserted environment name).reverse ++ reversed
      if c = '$' then readValue environment (.bareName []) isWeak reversed rest
      else readValue environment .plain isWeak (c :: reversed) rest
  | .bracedName name, isWeak, reversed, c :: rest =>
    if c = '\x7d' then
      readValue environment .plain isWeak ((inserted environment name).reverse ++ reversed) rest
    else readValue environment (.bracedName (c :: name)) isWeak reversed rest
  | .plain, isWeak, reversed, c :: rest =>
    if c = '$' then readValue environment (.bareName []) isWeak reversed rest
    else if c = '\\' then readValue environment .escaped isWeak reversed rest
    else if isWeak then
      if c = '"' then readValue environment .plain false reversed rest
      else readValue environment .plain true (c :: reversed) rest
    else if c = '\'' then readValue environment .strong false reversed rest
    else if c = '"' then readValue environment .plain true reversed rest
    else if c = ' ' ∨ c = '\t' then readValue environment .ended false reversed rest
    else readValue environment .plain false (c :: reversed) rest

/-- Reads the name of a variable. -/
def readName (chars : List Char) : Option (String × List Char) :=
  match chars with
  | [] => none
  | c :: _ =>
    if c.isAlpha ∨ c = '_' then
      let inName (c : Char) : Bool := c.isAlphanum || c = '_' || c = '.'
      some (String.ofList (chars.takeWhile inName), chars.dropWhile inName)
    else none

/-- Reads an equals sign. -/
def readEquals : List Char → Option (List Char)
  | '=' :: rest => some rest
  | _ => none

/-- Reads the name that is assigned to, which may follow the word `export`, and the equals sign. -/
def readTarget (chars : List Char) : Option (String × List Char) := do
  let (name, rest) ← readName chars
  match readEquals (Text.trimStartChars rest) with
  | some rest => return (name, rest)
  | none =>
    if name = "export" then
      let (name, rest) ← readName (Text.trimStartChars rest)
      return (name, ← readEquals (Text.trimStartChars rest))
    else failure

/-- What a line says. -/
inductive Line where
  | nothing
  | assignment (name value : String)
  | unreadable
  deriving DecidableEq, Repr

/-- What a line says in an environment. -/
def readLine (environment : Environment) (line : List Char) : Line :=
  match Text.trimStartChars (Text.trimEndChars line) with
  | [] | '#' :: _ => .nothing
  | chars =>
    match readTarget chars with
    | none => .unreadable
    | some (name, rest) =>
      match Text.trimStartChars rest with
      | [] | '#' :: _ => .assignment name ""
      | value =>
        match readValue environment .plain false [] value with
        | some value => .assignment name (String.ofList value)
        | none => .unreadable

/-- The environment with the assignments of lines up to the first that is unreadable.  Variables
that have a value keep it. -/
def assign (environment : Environment) : List (Option (List Char)) → Environment
  | [] | none :: _ => environment
  | some line :: rest =>
    match readLine environment line with
    | .nothing => assign environment rest
    | .unreadable => environment
    | .assignment name value => assign (environment.insertIfNew name value) rest

/-- The names that a file may speak of: what stands in braces, and the longest runs of characters that
other names are made of. -/
def mentioned (text : String) : List String :=
  let braced := (Text.pieces '\x7b' text.toList).map fun piece => piece.takeWhile (· ≠ '\x7d')
  let spaced := text.toList.map fun c =>
    if Text.isAlphanumeric c || c = '_' || c = '.' then c else ' '
  ((braced ++ Text.pieces ' ' spaced).filter fun name => !name.isEmpty).map String.ofList

/-- The environment with the assignments of a file; a byte order mark at its start is passed
over. -/
def load (text : String) (environment : Environment) : Environment :=
  let chars :=
    match text.toList with
    | '\uFEFF' :: rest => rest
    | chars => chars
  assign environment (logicalLines [] .none (physicalLines chars))

end AccessControl.Worker.EnvFile
