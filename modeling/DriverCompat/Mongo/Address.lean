import DriverCompat.Text.Hex
import DriverCompat.Text.Integer
import DriverCompat.Text.LowerCase
import DriverCompat.Text.Percent
import DriverCompat.Text.Split

/-! # Server addresses

A server is reached at a host and a port, or at a socket in the file system. A host that is an
address of the sixth version of the Internet protocol stands in brackets.
-/

namespace DriverCompat.Mongo

open Text

/-- The address of a server. -/
inductive Address where
  | host (name : String) (port : Option Nat)
  | socket (path : String)
deriving DecidableEq, Repr

namespace Address

/-- The port of a server that is given without one. -/
def defaultPort : Nat := 27017

/-- How an address is shown, a port included. -/
def show_ : Address → String
  | .host name port => s!"{name}:{port.getD defaultPort}"
  | .socket path => path

/-- What is wrong with an address. -/
inductive Fault where
  | encodedSocket
  | openBracket
  | notAnAddress
  | afterBracket (text : String)
  | emptyHost
  | port (text : String)
deriving DecidableEq, Repr

/-- The wording of a fault of an address. -/
def Fault.message (address : String) (fault : Fault) : String :=
  let wrong (what : String) : String := s!"invalid server address {address}: {what}"
  match fault with
  | .encodedSocket => "unix domain sockets must be URL-encoded"
  | .openBracket => wrong "missing closing ']' in IP literal hostname"
  | .notAnAddress => wrong "invalid IPv6 address syntax"
  | .afterBracket text =>
    wrong s!"the hostname can only be followed by a port prefixed with ':', got {text}"
  | .emptyHost => wrong "the hostname cannot be empty"
  | .port text => wrong s!"the port must be an integer between 1 and 65535, got {text}"

/-! ## Addresses of the sixth version -/

/-- A group of four hexadecimal digits at most. -/
def isGroup (text : List Char) : Bool :=
  !text.isEmpty && text.length ≤ 4 && text.all fun c => (hexValue? c).isSome

/-- A byte in decimal digits, without a zero in front. -/
def isOctet (text : List Char) : Bool :=
  !text.isEmpty && text.length ≤ 3 && text.all isDigit && decimalValue text ≤ 255 &&
    (text.length = 1 || text.head? != some '0')

/-- An address of the fourth version. -/
def isQuad (text : List Char) : Bool :=
  let parts := splitOn '.' text
  parts.length = 4 && parts.all isOctet

/-- How many groups some parts stand for; the last one may be an address of the fourth version,
which stands for two. -/
def groups? (quad : Bool) : List (List Char) → Option Nat
  | [] => some 0
  | [part] => if isGroup part then some 1 else if quad && isQuad part then some 2 else none
  | part :: rest => if isGroup part then (groups? quad rest).map (· + 1) else none

/-- The parts between colons; an empty text has none. -/
def colonParts (text : List Char) : List (List Char) :=
  if text.isEmpty then [] else splitOn ':' text

/-- What stands before and behind the first two colons in a row. -/
def splitGap? : List Char → Option (List Char × List Char)
  | [] => none
  | ':' :: ':' :: rest => some ([], rest)
  | c :: rest => (splitGap? rest).map fun (before, after) => (c :: before, after)

/-- Whether a text is an address of eight groups, of which some zeros may be left out once. -/
def isSixth (text : List Char) : Bool :=
  match splitGap? text with
  | none => groups? true (colonParts text) == some 8
  | some (before, after) =>
    match groups? false (colonParts before), groups? true (colonParts after) with
    | some a, some b => a + b < 8
    | _, _ => false

/-! ## Reading -/

/-- A port, which is not zero. -/
def port? (text : List Char) : Option Nat :=
  match unsignedInteger 16 text with
  | .ok n => if n = 0 then none else some n
  | .error _ => none

/-- An address of a host and a port. -/
def ofHost (name : List Char) (port : Option (List Char)) : Except Fault Address :=
  if name.isEmpty then .error .emptyHost
  else
    let name := String.ofList (lowerCase name)
    match port with
    | none => .ok (.host name none)
    | some text =>
      match port? text with
      | some n => .ok (.host name (some n))
      | none => .error (.port (String.ofList text))

/-- A host that is given behind a bracket. -/
def ofBracket (text : List Char) : Except Fault Address :=
  match splitFirst? ']' text with
  | none => .error .openBracket
  | some (name, rest) =>
    if !isSixth name then .error .notAnAddress
    else
      match rest with
      | [] => ofHost name none
      | ':' :: port => ofHost name (some port)
      | rest => .error (.afterBracket (String.ofList rest))

/-- The ending that tells a socket from a host. -/
def socketEnding : List Char := ['.', 's', 'o', 'c', 'k']

/-- The address that a text gives. -/
def parse (text : List Char) : Except Fault Address :=
  if socketEnding.isSuffixOf text then
    match percentDecode? text with
    | some path => .ok (.socket path)
    | none => .error .encodedSocket
  else
    match text with
    | '[' :: rest => ofBracket rest
    | text =>
      match splitFirst? ':' text with
      | some (name, port) => ofHost name (some port)
      | none => ofHost text none

end Address

end DriverCompat.Mongo
