import RanConsole.Http.Charset
import RanConsole.Http.ContentCoding
import RanConsole.Http.Link
import RanConsole.Http.Status
import RanConsole.Http.Url

/-!
# Requests and responses

What the program sends to a server, and what comes of it: a response with a status and a body of octets, a failure of the
connection, or an interruption by the user.
-/

namespace RanConsole.Http

/-- The methods of requests. -/
inductive Method where
  | get
  | post
  | put
  | delete
  deriving DecidableEq, Repr

/-- The word for a method. -/
def Method.word : Method → String
  | .get => "GET"
  | .post => "POST"
  | .put => "PUT"
  | .delete => "DELETE"

/-- A request. -/
structure Request where
  method : Method
  url : Url
  authorization : Option String
  body : String
  deriving DecidableEq, Repr

/-- The content type of every request. -/
def requestContentType : String := "application/json"

/-- What a body says in a character set that has no table here. -/
inductive ForeignText where
  /-- What it says in UTF-8, as in every character set that has ASCII in it if the body is in ASCII. -/
  | plain
  | text (s : List Char)
  /-- It makes no text. -/
  | nothing
  deriving DecidableEq, Repr

/-- A response. -/
structure Response where
  status : Nat
  contentType : Option String := none
  /-- Where the response sends the program instead. -/
  location : Option String := none
  /-- The codings in which the body was packed. -/
  codings : List ContentCoding := []
  body : List Nat
  foreign : ForeignText := .plain
  deriving DecidableEq, Repr

/-- What comes of a request. -/
inductive Outcome where
  | response (r : Response)
  | failed (l : LinkFailure)
  | interrupted
  deriving DecidableEq, Repr

/-- The response with its body as it was before it was packed. -/
def Response.unpacked (r : Response) : Except Compression.Fault Response :=
  (ContentCoding.unpackAll r.codings r.body).map fun body => { r with codings := [], body }

/-- The body of a response as a text, unless it makes none: a mark is missing that its character set asks for. -/
def Response.text? (r : Response) : Option (List Char) :=
  match Charset.ofContentType r.contentType, r.foreign with
  | .foreign _, .plain => Charset.utf8.decode? r.body
  | .foreign _, .text s => if r.body.isEmpty then some [] else some s
  | .foreign _, .nothing => if r.body.isEmpty then some [] else none
  | charset, _ => charset.decode? r.body

/-- Something that answers requests; its state is what later answers depend on. -/
structure Server (σ : Type) where
  answer : σ → Request → Outcome × σ

end RanConsole.Http
