/-
  Shakedown.Bind

  The address the agent listens on, written `host:port`.  The host is kept
  verbatim, as a name or a bracketed IPv6 literal; only the port number is
  interpreted.
-/
import Shakedown.Net.Address
import Shakedown.Text.Blank
import Shakedown.Text.Quoted

namespace Shakedown

/-- A listening address. -/
structure Bind where
  host : String
  port : UInt16
deriving DecidableEq, Repr, Inhabited

/-- A text that is no listening address. -/
structure BadBind where
  raw : String
deriving DecidableEq, Repr

/-- The message for a text that is no listening address. -/
def BadBind.message (e : BadBind) : String :=
  "invalid bind address " ++ Text.quoted e.raw ++ "; expected host:port"

namespace Bind

/-- Where the agent listens when nothing else is said. -/
def default : Bind := ⟨"127.0.0.1", 7845⟩

/-- The same as a text. -/
def defaultText : String := "127.0.0.1:7845"

/-! ## Writing -/

/-- The characters of `host:port`. -/
def chars (b : Bind) : List Char :=
  b.host.toList ++ ':' :: Text.Decimal.digits b.port.toNat

/-- `host:port`. -/
def text (b : Bind) : String :=
  String.ofList b.chars

/-- The base of the agent's URLs. -/
def baseUrl (b : Bind) : String :=
  "http://" ++ b.text

/-- The listening address of a socket; an IPv6 address takes brackets. -/
def ofSocket : Net.Socket → Bind
  | .v4 ip port => ⟨String.ofList ip.chars, port⟩
  | .v6 ip port => ⟨String.ofList ('[' :: ip.chars ++ [']']), port⟩

/-! ## Reading -/

/-- Whether a host is in brackets with something between them. -/
def isBracketed (host : List Char) : Bool :=
  host.head? == some '[' && host.getLast? == some ']' && 2 < host.length

/-- Whether a text may stand before the last colon of a listening address: it is
not empty, holds no blank, and holds a colon only in brackets. -/
def hostAllowed (host : List Char) : Bool :=
  !host.isEmpty && (!host.contains ':' || isBracketed host) && !host.any Text.isBlank

/-- The host and port number of a listening address, blanks around it ignored. -/
def readChars? (raw : List Char) : Option (List Char × Nat) := do
  let (host, port) ← Net.cutAtLast ':' (Text.trim raw)
  let port ← Text.Decimal.readUpTo? 65535 port
  if hostAllowed host then some (host, port) else none

/-- Reads a listening address. -/
def read (raw : String) : Except BadBind Bind :=
  match readChars? raw.toList with
  | some (host, port) => .ok ⟨String.ofList host, UInt16.ofNat port⟩
  | none => .error ⟨raw⟩

end Bind

end Shakedown
