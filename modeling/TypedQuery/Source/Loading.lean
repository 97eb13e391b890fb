-- SUMMARY: Getting the text of a schema.
import TypedQuery.Output.Host
import TypedQuery.Schema.Basic
import TypedQuery.Source.Headers
import TypedQuery.Text.FromBytes

/-!
# Loading schemas

The text of a schema is read from a file or asked for at an address. The address is checked first, then
the headers in their order, and only then a request is sent.
-/
namespace TypedQuery

/-- Where a schema comes from. -/
inductive Source where
  | file (path : String)
  | service (address : String) (headers : List (String × String))
  deriving DecidableEq, Repr

variable {m : Type → Type} [Monad m]

/-- The text of a file. -/
def Host.readText (host : Host m) (path : String) : ExceptT Error m String := do
  match ← host.read path with
  | .error fault => throw (.file fault)
  | .ok content =>
    match String.fromUTF8? content with
    | some text => return text
    | none => throw (.file .notText)

/-- The text of an answer. -/
def HttpResponse.text (r : HttpResponse) : String :=
  if hasBody r.status then Text.fromBytes r.body else ""

namespace Source

/-- The request for a schema, if it can be made. -/
def request (address : String) (headers : List (String × String)) : Except Error HttpRequest :=
  match Address.parse address with
  | .error fault => .error (.address fault)
  | .ok parsed =>
    match requestHeaders headers with
    | .error failure => .error failure
    | .ok checked => if parsed.isWeb then .ok ⟨parsed, checked⟩ else .error .http

/-- The text of a schema. -/
def loadText (host : Host m) : Source → ExceptT Error m String
  | file path => do
    host.report (.readingSchema path)
    host.readText path
  | service address headers => do
    host.report (.fetchingSchema address)
    let r ← ExceptT.mk (pure (request address headers))
    match ← host.fetch r with
    | none => throw .http
    | some response =>
      if isSuccess response.status then return response.text
      else
        host.report (.requestFailed response.status (statusPhrase response.status))
        throw (.httpStatus response.status response.text)

/-- A schema. -/
def load (host : Host m) (s : Source) : ExceptT Error m Schema := do
  let text ← s.loadText host
  ExceptT.mk (pure (Schema.parse text))

end Source

end TypedQuery
