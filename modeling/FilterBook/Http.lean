import FilterBook.Compile
import FilterBook.Definition.Read
import FilterBook.Http.Message

/-!
The service: one place asks whether it is there, and two take a definition as a JSON document, to
compile it or to check it. Requests come from pages of any origin, so every `OPTIONS` request is
answered with leave to use any method and any header.
-/

namespace FilterBook

namespace Http

/-- The places of the service. -/
inductive Route where
  | health
  | compile
  | validate
deriving DecidableEq, Repr

namespace Route

def all : List Route :=
  [health, compile, validate]

def path : Route → String
  | health => "/api/health"
  | compile => "/api/compile"
  | validate => "/api/validate"

/-- The route of a request's target. Paths must agree to the last character. -/
def ofTarget? (target : String) : Option Route :=
  all.find? fun route => route.path.toList == pathOfTarget target.toList

/-- Whether the route answers requests of a method. -/
def serves : Route → Method → Bool
  | health, .get | health, .head => true
  | compile, .post | validate, .post => true
  | _, _ => false

/-- The methods of the route, as a header lists them. -/
def allow : Route → String
  | health => "GET,HEAD"
  | compile => "POST"
  | validate => "POST"

end Route

/-- The number of bytes that a body may have. -/
def greatestBody : Nat := 2 * 1024 * 1024

/-- Why no definition could be read from a request. -/
inductive Refusal where
  | notJson
  | tooLarge
  | malformed
  | misshapen
deriving DecidableEq, Repr

namespace Refusal

def status : Refusal → Nat
  | notJson => 415
  | tooLarge => 413
  | malformed => 400
  | misshapen => 422

def message : Refusal → String
  | notJson => "the content type of the request must be JSON"
  | tooLarge => "the body of the request is too large"
  | malformed => "the body of the request is not a JSON document"
  | misshapen => "the body of the request is not a definition"

def response (r : Refusal) : Response :=
  .ofBody r.status (.remark r.message)

end Refusal

namespace Request

/-- The definition in a request's body. The header is looked at first, then the size, and then the
text: a text that is no JSON document is told apart from a document that is no definition. -/
def definition (r : Request) : Except Refusal Definition :=
  if ¬ r.isJson then .error .notJson
  else if greatestBody < r.body.utf8ByteSize then .error .tooLarge
  else
    match Definition.ofJsonText r.body with
    | .ok d => .ok d
    | .error (.flaw _) => .error .malformed
    | .error (.mismatch _) => .error .misshapen

end Request

def answerHealth : Response :=
  .ofBody 200 (.document (.object [("status", .string "ok")]))

/-- The query of a definition. Why there is none is not told. -/
def answerCompile (d : Definition) : Response :=
  match d.compile with
  | .ok query => .ofBody 200 (.document (.object [("query", .ofDict query)]))
  | .error _ => .ofBody 422 (.document (.object [("error", .string "rejected")]))

/-- Whether a definition passes the check, and what is wrong with it if not. -/
def answerValidate (d : Definition) : Response :=
  match d.check with
  | .ok _ => .ofBody 200 (.document (.object [("valid", .bool true)]))
  | .error e =>
      .ofBody 422 (.document (.object [("valid", .bool false), ("error", .string e.message)]))

/-- Answers a request from the definition in its body. -/
def Request.answer (r : Request) (answer : Definition → Response) : Response :=
  match r.definition with
  | .ok d => answer d
  | .error refusal => refusal.response

/-- The answer of a route to a request of a method that it serves. -/
def Route.answer (request : Request) : Route → Response
  | health => answerHealth
  | compile => request.answer answerCompile
  | validate => request.answer answerValidate

/-- A response that lists the methods of the route, if there is one. -/
def listMethods (route? : Option Route) (r : Response) : Response :=
  match route? with
  | some route => r.withHeader "allow" route.allow
  | none => r

def preflight (route? : Option Route) : Response :=
  listMethods route? ⟨200, [("access-control-allow-methods", "*"),
    ("access-control-allow-headers", "*")], .empty⟩

/-- The answer to a request, but for the header that every response carries. -/
def dispatch (r : Request) : Response :=
  let route? := Route.ofTarget? r.target
  if r.method = .options then preflight route?
  else
    match route? with
    | none => ⟨404, [], .empty⟩
    | some route =>
        if ¬ route.serves r.method then listMethods (some route) ⟨405, [], .empty⟩
        else if r.method = .head then (route.answer r).withoutBody
        else route.answer r

/-- The answer to a request. -/
def respond (r : Request) : Response :=
  (dispatch r).withHeader "access-control-allow-origin" "*"

end Http

end FilterBook
