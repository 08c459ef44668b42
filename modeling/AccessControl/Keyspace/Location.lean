import AccessControl.Address

/-!
# Where a keyspace server is

The address of a keyspace server names a host, with the number of a database as its path, or a
socket, with that number in its query.  The first thing that is wrong with it is reported.
-/

namespace AccessControl.Keyspace

/-- Why a text does not say where a keyspace server is. -/
inductive LocationFault where
  /-- The text is no address, or one of another kind of server. -/
  | unreadable
  | noHost
  /-- The host is to be reached in secret, which cannot be done. -/
  | secret
  | noPath
  | badDatabase
  | badUser
  | badPassword
  | badProtocol (name : String)
  deriving DecidableEq, Repr

/-- The wording of a fault. -/
def LocationFault.message (fault : LocationFault) : String :=
  let (what, detail) : String × String :=
    match fault with
    | .unreadable => ("Redis URL did not parse", "")
    | .noHost => ("Missing hostname", "")
    | .secret => ("can't connect with TLS, the feature is not enabled", "")
    | .noPath => ("Missing path", "")
    | .badDatabase => ("Invalid database number", "")
    | .badUser => ("Username is not valid UTF-8 string", "")
    | .badPassword => ("Password is not valid UTF-8 string", "")
    | .badProtocol name => ("Invalid protocol version", ": " ++ name)
  what ++ " - InvalidClientConfig" ++ detail

/-- The schemes of servers on hosts; the latter two are for secret connections. -/
def hostSchemes : List String := ["redis", "valkey", "rediss", "valkeys"]

/-- The schemes of servers on sockets. -/
def socketSchemes : List String := ["unix", "redis+unix", "valkey+unix"]

/-- Whether the text spells an integer of 64 bits, sign included. -/
def isDatabaseNumber (text : String) : Bool :=
  let fits (bound : Nat) (digits : List Char) : Bool :=
    !digits.isEmpty && (Decimal.readDigits bound 0 digits).toOption.isSome
  match text.toList with
  | '-' :: digits => fits (Decimal.capacity 63 + 1) digits
  | '+' :: digits => fits (Decimal.capacity 63) digits
  | digits => fits (Decimal.capacity 63) digits

/-- What is wrong with the protocol that a query asks for. -/
def protocolFault? (address : Address) : Option LocationFault :=
  match address.queried? "protocol" with
  | none => none
  | some name =>
    if ["2", "resp2", "3", "resp3"].contains name then none else some (.badProtocol name)

/-- What is wrong with the address of a server on a host. -/
def hostFault? (address : Address) : Option LocationFault :=
  let isSlash (c : Char) : Bool := c = '/'
  let inner := ((address.path.toList.dropWhile isSlash).reverse.dropWhile isSlash).reverse
  if address.host.isNone then some .noHost
  else if ["rediss", "valkeys"].contains address.scheme then some .secret
  else if !inner.isEmpty && !isDatabaseNumber (String.ofList inner) then some .badDatabase
  else if (Address.decoded? address.user).isNone then some .badUser
  else if (Address.decoded? (address.password.getD "")).isNone then some .badPassword
  else protocolFault? address

/-- What is wrong with the address of a server on a socket. -/
def socketFault? (address : Address) : Option LocationFault :=
  if address.path.toList.head? ≠ some '/' then some .noPath
  else if address.host.any (· ≠ "localhost") then some .noPath
  else if (address.queried? "db").any fun number => !isDatabaseNumber number then
    some .badDatabase
  else protocolFault? address

/-- What is wrong with a text as the address of a keyspace server. -/
def locationFault? (text : String) : Option LocationFault :=
  match Address.parse text with
  | .error _ => some .unreadable
  | .ok address =>
    if hostSchemes.contains address.scheme then hostFault? address
    else if socketSchemes.contains address.scheme then socketFault? address
    else some .unreadable

example : locationFault? "unix:///run/server.sock" = none := by decide +kernel
example : locationFault? "redis://here/one" = some .badDatabase := by decide +kernel
example : locationFault? "http://here/0" = some .unreadable := by decide +kernel

end AccessControl.Keyspace
