import Stateback.Domain.Secrets
import Stateback.Lib.Dialogues
import Stateback.Providers.Registry
/-!
# The GitHub transport

`providers/github/transport.py` and `http.py`, seen from the adapter: one request, answered by a
response or by an exception.  The standard library's parsers, encoders and Unicode tables are
the parameter `py`; nothing is assumed of them where no hypothesis is given.
-/

namespace Stateback.Providers.GitHub

open Stateback.Domain Process

/-! ## Python -/

/-- What `json.loads` builds. -/
inductive Plain where
  | none
  | bool (b : Bool)
  | int (i : Int)
  | float (text : String)
  | str (s : String)
  | list (items : List Plain)
  | dict (fields : List (String × Plain))
deriving Repr

abbrev Dict := List (String × Plain)

/-- `dict.get`: what is missing reads as `None`. -/
def Dict.get (data : Dict) (key : String) : Plain := (data.lookup key).getD .none

/-- `json.loads(body.decode("utf-8"))`: the two exceptions the codec catches are one outcome,
any other exception leaves it. -/
inductive Loads where
  | value (plain : Plain)
  | invalid
  | raised (typeName : String)

/-- The parts of `urlparse` the codec reads. -/
structure Url where
  scheme : String
  hostname : Option String
  username : Option String
  password : Option String
  port : Option Int
  path : String
  query : String
  fragment : String
deriving DecidableEq, Repr

structure Python where
  loads : ByteArray → Loads
  dumps : Plain → ByteArray
  /-- `none` when parsing, or reading the port, raises `ValueError`. -/
  urlparse : String → Option Url
  unquote : String → String
  urlencode : List (String × String) → String
  casefold : String → String
  lower : String → String
  /-- `none` when `int(s)` raises `ValueError`. -/
  int : String → Option Int
  /-- `str` of what is neither a string nor an integer. -/
  repr : Plain → String

def Python.str (py : Python) : Plain → String
  | .str s => s
  | .int i => toString i
  | other => py.repr other

/-! ## Requests and responses -/

inductive Method where
  | get
  | post
  | put
  | patch
deriving DecidableEq, Repr

/-- Timeouts are in microseconds, like timestamps. -/
structure GitHubHttpRequest where
  method : Method
  path : String
  body : Option ByteArray
  timeout : Int

structure GitHubHttpResponse where
  status : Int
  headers : List (String × String)
  body : ByteArray

def GitHubHttpResponse.header (py : Python) (response : GitHubHttpResponse) (name : String) :
    Option String :=
  (response.headers.find? fun header => py.lower header.1 == py.lower name).map (·.2)

def retryAfter (py : Python) (response : GitHubHttpResponse) : Option Int :=
  match (response.header py "retry-after").bind py.int with
  | none => none
  | some value => if 0 ≤ value then some value else none

/-- The answer of `classify_http`: its last part is whether the status settles the effect. -/
structure HttpClass where
  kind : ErrorKind
  code : String
  retryable : Bool
  known : Bool
deriving DecidableEq, Repr

def classifyHttp (py : Python) (response : GitHubHttpResponse) : HttpClass :=
  let status := response.status
  if status = 401 then ⟨.authentication, "github.auth.rejected", false, true⟩
  else if status ∈ [403, 429] ∧
      ((response.header py "retry-after").isSome ∨
        response.header py "x-ratelimit-remaining" = some "0" ∨ status = 429) then
    ⟨.rateLimited, "github.rate_limited", true, true⟩
  else if status ∈ [403, 404] then
    ⟨.authorization, "github.authorization.rejected", false, true⟩
  else if status ∈ [400, 410, 422] then
    ⟨.providerRejected, "github.request.rejected", false, true⟩
  else if 500 ≤ status ∧ status ≤ 599 then
    ⟨.providerUnavailable, "github.server.ambiguous", true, false⟩
  else ⟨.providerRejected, "github.http.ambiguous", false, false⟩

/-- The statuses by which GitHub refuses a request. -/
def definiteRejections : List Int := [400, 401, 403, 404, 410, 422, 429]

theorem classifyHttp_known (py : Python) (response : GitHubHttpResponse) :
    (classifyHttp py response).known = true ↔ response.status ∈ definiteRejections := by
  unfold classifyHttp definiteRejections
  grind

/-! ## The environment of the adapter -/

inductive Call where
  | now
  | request (request : GitHubHttpRequest)

/-- A request is answered by a response, or ends in an exception of the named type. -/
abbrev Reply : Call → Type
  | .now => UtcTimestamp
  | .request _ => Except String GitHubHttpResponse

/-- The exceptions that leave the adapter. -/
inductive AdapterRaised where
  | contractValidationError (reasonCode : String)
  | unsupportedEffectError (effect : EffectRef)
  | other (typeName : String)
deriving DecidableEq, Repr

abbrev Calling (α : Type) := Prog Unit Unit AdapterRaised Call Reply α

namespace Calling

def now : Calling UtcTimestamp := Prog.question Call.now

def send (request : GitHubHttpRequest) : Calling (Except String GitHubHttpResponse) :=
  Prog.question (Call.request request)

def lift {α : Type} : Except AdapterRaised α → Calling α := Prog.finish

end Calling

structure Exchange where
  request : GitHubHttpRequest
  answer : Except String GitHubHttpResponse

/-- The requests sent, with their answers. -/
def exchanged : Note Call Reply (List Exchange)
  | .now, _, sent => sent
  | .request request, answer, sent => sent ++ [⟨request, answer⟩]

/-- How a call of the adapter ended, and what it sent. -/
structure Called (α : Type) where
  outcome : Except AdapterRaised α
  exchanges : List Exchange

def Calling.run {α : Type} (answers : Nat → (call : Call) → Reply call) (p : Calling α) :
    Called α :=
  ⟨(Prog.alone answers p 0 ()).outcome, Prog.noted exchanged answers p 0 () []⟩

/-- What a program returns is what it was shown to return. -/
theorem Calling.of_returned {α : Type} {p : Calling α} {R : α → List Exchange → Prop}
    {answers : Nat → (call : Call) → Reply call} {a : α}
    (returned : (p.run answers).outcome = .ok a)
    (learns : Learns exchanged (returning R) p []) : R a (p.run answers).exchanges := by
  have learned : returning R (p.run answers).outcome (p.run answers).exchanges :=
    learns.alone answers 0 ()
  rwa [returned] at learned

theorem Calling.of_sent {α : Type} {p : Calling α} {P : List Exchange → Prop}
    (learns : Learns exchanged (fun _ => P) p []) (answers : Nat → (call : Call) → Reply call) :
    P (p.run answers).exchanges := learns.alone answers 0 ()

end Stateback.Providers.GitHub
