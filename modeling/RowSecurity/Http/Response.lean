/-
Answers to web requests.

* `Response`: a status and a body;
* `Failure.response?`: the answer to a failure, if it has one of its own;
* `Response.sent`: an answer, if its body can be sent;
* `answering`: a computation whose failures are answered;
* `serve`: a route that builds a context, reads, and checks what was read.

Design notes: a caller who cannot be authorized is told why. A wiring bug or an unfiltered
read is not the caller's business: the answer is general and the cause goes to the log.
-/
import RowSecurity.Context.Build
import RowSecurity.Enforcement
import RowSecurity.Http.Path
import RowSecurity.Json.Writer

namespace RowSecurity

open Audit

structure Response where
  status : Nat
  body : Fields
deriving DecidableEq, Repr

namespace Response

/-- An answer that says what went wrong, and a code for it. -/
def problem (status : Nat) (detail code : String) : Response :=
  ⟨status, [("detail", .text detail), ("code", .text code)]⟩

def insufficientCode : String := "AUTH_INSUFFICIENT_PERMISSIONS"

/-- The answer that keeps the cause to itself. -/
def internal (code : String) : Response := problem 500 "Internal server error" code

end Response

/-- The answer to a failure, and the note for the log that goes with it. Other failures than
those of row security have none. -/
def Failure.response? (failure : Failure) : Option (Response × Option Note) :=
  match failure with
  | authorization cause _ _ => some (.problem 403 cause.message Response.insufficientCode, none)
  | configuration .. | noPolicy .. | invalidPolicy .. =>
    some (.internal "RLS_CONFIGURATION_ERROR",
      some ⟨Audit.error, "RLS configuration error: " ++ failure.message⟩)
  | violation .. =>
    some (.internal "RLS_VALIDATION_FAILED",
      some ⟨critical, "RLS enforcement violation: " ++ failure.message⟩)
  | _ => none

/-- An answer that can be sent: its body is a strict document, which has no word for numbers
that are not finite, and is encoded, which leaves no room for halves of surrogate pairs. -/
def Response.sent (response : Response) : Except Failure Response :=
  if Value.allFinite response.body then
    match Text.firstHalves (Json.write .compact (.record response.body)).toList with
    | none => .ok response
    | some (place, halves) => .error (.unencodableBody place halves)
  else .error .nonFiniteBody

/-- The computation with its failures answered; one without an answer stays a failure. -/
def answering (x : Traced Response) : Traced Response :=
  match x.outcome with
  | .ok response => ⟨x.trace, response.sent⟩
  | .error failure =>
    match failure.response? with
    | some (response, note) => ⟨x.trace ++ (note.map Effect.note).toList, response.sent⟩
    | none => x

def Context.body (context : Context) : Fields := [
  ("role", .text context.role), ("resource", .text context.resource),
  ("filter", .text context.description), ("identifiers", .record context.identifiers)]

/-- A web request to a route that serves a resource. -/
structure WebRequest where
  path : String
  resource : Option String
  caller : Option Caller
deriving DecidableEq, Repr

/-- Serve a request: build the context, fail if the route does, check what was read, and tell
about the context. Without a way to tell who the caller is, nothing can be served. -/
def serve (config : Config) (lookup : Lookup) (request : WebRequest) (failing : Option Failure)
    (result : Result) : Traced Response :=
  answering do
    match request.caller with
    | none => .fail .noPrincipal
    | some caller =>
      let context ← contextForPrincipal config lookup caller request.resource
        (some (Path.inAddress request.path))
      match failing with
      | some failure => .fail failure
      | none =>
        assertApplied (some context) result
        return ⟨200, context.body⟩

end RowSecurity
