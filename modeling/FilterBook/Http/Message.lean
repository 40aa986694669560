import FilterBook.Http.MediaType
import FilterBook.Json

/-!
Requests and responses. Of a request's headers only the one that tells the media type of its body
matters.
-/

namespace FilterBook

namespace Http

inductive Method where
  | get
  | head
  | post
  | options
  | other (name : String)
deriving DecidableEq, Repr

/-- The method of a name. Case matters. -/
def Method.ofName (name : String) : Method :=
  if name = "GET" then .get
  else if name = "HEAD" then .head
  else if name = "POST" then .post
  else if name = "OPTIONS" then .options
  else .other name

def isSchemeChar (c : Char) : Bool :=
  c.isAlphanum || c = '+' || c = '-' || c = '.'

/-- Whether a query or a fragment starts with the character. -/
def startsQuery (c : Char) : Bool :=
  c = '?' || c = '#'

/-- What follows the host in a target that names a scheme and a host, and else all of it. -/
def afterHost (target : List Char) : List Char :=
  match target.dropWhile isSchemeChar with
  | ':' :: '/' :: '/' :: rest => rest.dropWhile fun c => c ≠ '/' && !startsQuery c
  | _ => target

/-- The path in a target, between the host and the query or the fragment. -/
def pathOfTarget (target : List Char) : List Char :=
  (afterHost target).takeWhile (!startsQuery ·)

structure Request where
  method : Method
  /-- The path. There may be a scheme and a host before it, and a query after `?` or a fragment
  after `#`. -/
  target : String
  contentType? : Option String
  body : String

/-- Whether the body is said to be a JSON document. -/
def Request.isJson (r : Request) : Bool :=
  match r.contentType?.bind MediaType.ofText? with
  | some mediaType => mediaType.isJson
  | none => false

inductive Body where
  | empty
  | document (json : Json)
  | remark (text : String)

namespace Body

def text : Body → String
  | empty => ""
  | document json => json.compact
  | remark text => text

def contentType? : Body → Option String
  | empty => none
  | document _ => some "application/json"
  | remark _ => some "text/plain; charset=utf-8"

end Body

structure Response where
  status : Nat
  headers : List (String × String)
  body : Body

namespace Response

def header? (r : Response) (name : String) : Option String :=
  r.headers.lookup name

/-- A response with the header that its body asks for. -/
def ofBody (status : Nat) (body : Body) : Response where
  status := status
  headers :=
    match body.contentType? with
    | some value => [("content-type", value)]
    | none => []
  body := body

def withHeader (r : Response) (name value : String) : Response :=
  { r with headers := r.headers ++ [(name, value)] }

/-- The response without its body, but with the header that tells about it. -/
def withoutBody (r : Response) : Response :=
  { r with body := .empty }

end Response

end Http

end FilterBook
