import DriverCompat.Bson.Reader
import DriverCompat.Bson.Writer
import DriverCompat.Failure

/-! # Documents for a server and back

A document is sent as the database value that it stands for, and a document that a server sends
is shown in the relaxed notation.
-/

namespace DriverCompat.Mongo

/-- The document to send. A typed value is none, even though it is written as an object. -/
def encode (document : DriverCompat.Document) : Except Failure Bson.Document :=
  match Bson.ofJson (.object document) with
  | .ok (.document members) => .ok members
  | .ok other => .error (.driver s!"expected a BSON document, got {other.typeName}")
  | .error fault => .error (.driver s!"Invalid document: {fault.message}")

/-- Documents to send, or the failure of the first that is none. -/
def encodeAll : List DriverCompat.Document → Except Failure (List Bson.Document)
  | [] => .ok []
  | document :: rest =>
    match encode document with
    | .error failure => .error failure
    | .ok members => (encodeAll rest).map (members :: ·)

/-- The notation of a document that was sent. -/
def decode (members : Bson.Document) : DriverCompat.Document := Bson.relaxedMembers members

end DriverCompat.Mongo
