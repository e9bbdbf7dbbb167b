import DocAccess.Json.Parser
import DocAccess.Json.Spelled
import DocAccess.Membership
import DocAccess.Seconds

/-!
# Exchanges with a remote server

A request as the server records it, and the reply that it gets: a response, or a fault in its
place. How a body is coded is left to a `Codec`: the text of a response is decoded in the charset
that its content type names, of which there are many, and some cannot decode every body; the body of
a request may hold text that cannot be encoded.
-/
namespace DocAccess

/-- A request as the server records it. -/
structure RemoteCall where
  method : String
  url : String
  body : Json
  limit : Seconds
  headers : List (String × String)

/-- A response. -/
structure Response where
  status : Int
  body : List UInt8
  contentType : String

/-- What a request gets. -/
inductive Reply where
  | respond (response : Response)
  | raise (fault : Fault)

/-- One entry of a server's script. -/
structure Exchange where
  wait : Wait
  reply : Reply

/-- The entry that stands behind the end of every script. -/
def Exchange.exhausted : Exchange :=
  ⟨.immediate, .raise ⟨.transport .connect, "script exhausted"⟩⟩

/-- How the bodies of requests and responses are coded. -/
structure Codec where
  /-- The text of a response in its charset, or the fault of decoding it. -/
  text : Response → Except Fault Text
  /-- How deeply the lists and objects of a response may nest. -/
  depth : Nat
  /-- What is said of the answer to a query that holds no rows. -/
  complaint : QueryRequest → Response → Text
  /-- Whether requests escape what is not ASCII, so that every text can be encoded. -/
  escapes : Bool

/-- Every text is in UTF-8, and nothing is said of answers that hold no rows. -/
def Codec.utf8 (depth : Nat) : Codec where
  text r := .ok (.ofPoints (Charset.utf8.decodeLossy r.body))
  depth := depth
  complaint _ _ := ""
  escapes := false

/-- Why a body cannot be sent, if it cannot. -/
def Codec.refuses? (codec : Codec) (body : Json) : Option Fault :=
  if codec.escapes then none else body.unsendable?

namespace Response

variable (codec : Codec) (r : Response)

/-- How many code points of a text are kept in details. -/
def excerptLength : Nat := 500

/-- The first code points of the text. -/
def excerpt : Except Fault Text :=
  (codec.text r).map fun text => .ofPoints (text.points.take excerptLength)

/-- What is kept of a response in the details of a failure. -/
def details : Except Fault Json :=
  (r.excerpt codec).map fun text =>
    .ofFields [("status_code", .int r.status), ("response_body", .string text)]

/-- The fault of a body that is nested too deeply to be read. -/
def nestingFault (what : String) : Fault :=
  ⟨.recursion, .wellFormed ("maximum recursion depth exceeded while decoding a JSON " ++ what ++
    " from a unicode string")⟩

/-- The body as JSON: nothing when it is none, a fault when it is nested too deeply. -/
def json : Except Fault (Option Json) :=
  match Json.ofBytes codec.depth r.body with
  | .ok v => .ok (some v)
  | .error (.text .deepArray) => .error (nestingFault "array")
  | .error (.text .deepObject) => .error (nestingFault "object")
  | .error _ => .ok none

end Response
end DocAccess
