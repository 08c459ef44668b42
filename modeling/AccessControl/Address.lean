import AccessControl.Decimal.Natural
import AccessControl.Text.Blank
import AccessControl.Text.Split
import AccessControl.Uuid

/-!
# Addresses of servers

The address of a server is a URL: a scheme, possibly a host with a user in front of it and a port
behind it, a path and a query.  Parts are kept as they are written; those of the query are decoded,
because its separators can stand in them.
-/

namespace AccessControl

/-- Why a text is no address. -/
inductive AddressFault where
  /-- There is no scheme. -/
  | relative
  | badPort
  /-- A user or a port stands where there is no host. -/
  | noHost
  /-- The host in brackets is no number of an interface. -/
  | badNumericHost
  /-- A character stands in the host that cannot be there. -/
  | badHostCharacter
  deriving DecidableEq, Repr

/-- The wording of a fault. -/
def AddressFault.message : AddressFault → String
  | .relative => "relative URL without a base"
  | .badPort => "invalid port number"
  | .noHost => "empty host"
  | .badNumericHost => "invalid IPv6 address"
  | .badHostCharacter => "invalid domain character"

/-- The address of a server. -/
structure Address where
  /-- The scheme in lower case. -/
  scheme : String
  user : String := ""
  password : Option String := none
  /-- The host; an empty one is none. -/
  host : Option String := none
  path : String
  query : List (String × String) := []
  deriving DecidableEq, Repr

namespace Address

/-- Whether the character may stand in a scheme behind its first letter. -/
def isSchemeChar (c : Char) : Bool :=
  c.isAlphanum || c = '+' || c = '-' || c = '.'

/-- The scheme of an address, in lower case, and what follows its colon. -/
def splitScheme (chars : List Char) : Except AddressFault (String × List Char) :=
  let scheme := chars.takeWhile isSchemeChar
  match chars.drop scheme.length with
  | ':' :: rest =>
    if scheme.head?.any Char.isAlpha then .ok (Text.lowerAscii (String.ofList scheme), rest)
    else .error .relative
  | _ => .error .relative

/-- Whether the character ends the host part. -/
def endsHost (c : Char) : Bool := c = '/' || c = '?' || c = '#'

/-- What stands in front of the last at sign, and what follows it. -/
def splitUser (chars : List Char) : Option (List Char) × List Char :=
  let reversed := chars.reverse
  let host := reversed.takeWhile (· ≠ '@')
  match reversed.drop host.length with
  | [] => (none, chars)
  | _ :: user => (some user.reverse, host.reverse)

/-- What stands in front of the first colon outside brackets, and the colon with what follows. -/
def splitPort : (bracketed : Bool) → List Char → List Char × List Char
  | _, [] => ([], [])
  | bracketed, c :: rest =>
    if c = ':' ∧ !bracketed then ([], c :: rest)
    else
      let (host, port) := splitPort (c = '[' || (bracketed && c ≠ ']')) rest
      (c :: host, port)

/-- The characters that cannot stand in a host. -/
def hostStrangers : List Char :=
  ['\x00', '\t', '\n', '\r', ' ', '#', '/', ':', '<', '>', '?', '@', '[', '\\', ']', '^', '|']

/-- Whether the text is a number of four parts below 256. -/
def isFourPartNumber (chars : List Char) : Bool :=
  let parts := Text.pieces '.' chars
  parts.length = 4 && parts.all fun part =>
    !part.isEmpty && part.all Char.isDigit && (part.length = 1 || part.head? ≠ some '0') &&
      (Decimal.natural 256 (String.ofList part)).toOption.isSome

/-- How many sixteen-bit groups the text has between colons; none if it has something else.  The
last two may be written as a number of four parts. -/
def groupCount? (chars : List Char) : Option Nat :=
  if chars.isEmpty then some 0
  else
    let parts := Text.pieces ':' chars
    let isGroup (part : List Char) : Bool :=
      !part.isEmpty && part.length ≤ 4 && part.all fun c => (Uuid.digit? c).isSome
    if parts.all isGroup then some parts.length
    else if parts.dropLast.all isGroup && parts.getLast?.any isFourPartNumber then
      some (parts.length + 1)
    else none

/-- Whether the text is the number of an interface: eight groups, or fewer around one gap. -/
def isInterfaceNumber (chars : List Char) : Bool :=
  let parts := (List.range (chars.length + 1)).filter fun start =>
    (chars.drop start).take 2 = [':', ':']
  match parts with
  | [] => groupCount? chars = some 8
  | start :: _ =>
    match groupCount? (chars.take start), groupCount? (chars.drop (start + 2)) with
    | some before, some behind => before + behind < 8
    | _, _ => false

/-- Why a host cannot be one. -/
def hostFault? (host : List Char) : Option AddressFault :=
  if host.head? = some '[' then
    if host.getLast? = some ']' && isInterfaceNumber (host.drop 1).dropLast then none
    else some .badNumericHost
  else if host.any hostStrangers.contains then some .badHostCharacter
  else none

/-- Whether the text is a port with its colon, or no port. -/
def isPort : List Char → Bool
  | [] | [':'] => true
  | _ :: digits =>
    digits.all Char.isDigit &&
      (Decimal.natural (Decimal.capacity 16) (String.ofList digits)).toOption.isSome

/-- The bytes of a text in which a percent sign and two hexadecimal digits stand for a byte. -/
def percentDecoded : List Char → List UInt8
  | [] => []
  | '%' :: a :: b :: rest =>
    match Uuid.digit? a, Uuid.digit? b with
    | some high, some low => UInt8.ofNat (16 * high.val + low.val) :: percentDecoded rest
    | _, _ => '%'.toUInt8 :: percentDecoded (a :: b :: rest)
  | c :: rest => (String.singleton c).toUTF8.toList ++ percentDecoded rest

/-- The text with its percent signs decoded, if that is text. -/
def decoded? (text : String) : Option String :=
  String.fromUTF8? (ByteArray.mk (percentDecoded text.toList).toArray)

/-- The names and values of a query. -/
def readQuery (chars : List Char) : List (String × String) :=
  let decode (part : List Char) : String :=
    let spaced := part.map fun c => if c = '+' then ' ' else c
    (decoded? (String.ofList spaced)).getD (String.ofList spaced)
  ((Text.pieces '&' chars).filter fun part => !part.isEmpty).map fun part =>
    let name := part.takeWhile (· ≠ '=')
    (decode name, decode (part.drop (name.length + 1)))

/-- The value of a name in the query; of several the last counts. -/
def queried? (address : Address) (name : String) : Option String :=
  address.query.reverse.lookup name

/-- An address without the host part, which ends before a path, a query or a fragment. -/
def ofPath (scheme : String) (chars : List Char) : Address :=
  let chars := chars.takeWhile (· ≠ '#')
  let path := chars.takeWhile (· ≠ '?')
  { scheme, path := String.ofList path, query := readQuery (chars.drop (path.length + 1)) }

/-- Reads the address that a text spells.  Blanks and controls at its ends, and line ends and tabs in
it, do not count. -/
def parse (text : String) : Except AddressFault Address := do
  let isEdge (c : Char) : Bool := c.toNat ≤ 0x20
  let chars := ((text.toList.dropWhile isEdge).reverse.dropWhile isEdge).reverse
  let chars := chars.filter fun c => c ≠ '\t' ∧ c ≠ '\n' ∧ c ≠ '\r'
  let (scheme, rest) ← splitScheme chars
  match rest with
  | '/' :: '/' :: rest =>
    let server := rest.takeWhile fun c => !endsHost c
    let behind := rest.drop server.length
    let (user, server) := splitUser server
    let (host, port) := splitPort false server
    let name := (user.getD []).takeWhile (· ≠ ':')
    let password := (user.getD []).drop (name.length + 1)
    if user = some [] && server.isEmpty && !behind.isEmpty then throw .noHost
    if let some fault := hostFault? host then throw fault
    if host.isEmpty && (!port.isEmpty || !name.isEmpty || !password.isEmpty) then throw .noHost
    if !isPort port then throw .badPort
    return { ofPath scheme behind with
      user := String.ofList name
      password := if password.isEmpty then none else some (String.ofList password)
      host := if host.isEmpty then none else some (String.ofList host) }
  | _ => return ofPath scheme rest

example : parse "nowhere" = .error .relative := by rfl
example : parse "redis://here:65536" = .error .badPort := by rfl
example : parse "redis://[::1:2:3" = .error .badNumericHost := by rfl
example : (parse "Redis://me:pw@[::1]:5432/db").toOption =
    some ⟨"redis", "me", some "pw", some "[::1]", "/db", []⟩ := by decide +kernel

end Address

end AccessControl
