import SpanAnnotation.Wire.Json
import SpanAnnotation.Wire.Report

/-!
The service: requests with a document or a text, answered with the processed document and its
summary, or with a status and the text of an error. Bodies are texts here; what becomes of bytes that
are not one, of other content types and of other routes is not told.
-/

set_option autoImplicit false

namespace SpanAnnotation

open Wire

namespace Service

structure Response where
  status : Nat
  body : Value

-- Why a body is not a request.
inductive Rejection where
  | tooLong | notJson | wrongShape
  -- Reading ended in the middle.
  | broken
  deriving DecidableEq, Repr

-- Nothing is answered when reading ends in the middle.
def Rejection.status? : Rejection → Option Nat
  | .tooLong => some 413
  | .notJson => some 400
  | .wrongShape => some 422
  | .broken => none

inductive Request where
  | ready (document : Document)
  | plain (id : Option String) (text : String)
  deriving DecidableEq, Repr

def Request.toDocument : Request → Document
  | .ready document => document
  | .plain id text => Document.ofText (id.getD "doc") text

-- The document is read where it comes first, also when it is given again.
def documentRequest : Value → Except Misfit Request
  | .object members => do
      let document ← Fields.required members "document" Document.ofValue
      let _ ← objectRecord ["document"] (.object members)
      return .ready document
  | _ => .error .shape

def textRequest (v : Value) : Except Misfit Request := do
  let fields ← objectRecord ["id", "text"] v
  let id ← fields.optional "id" readText
  let text ← fields.required "text" readText
  return .plain id text

/-- A document that can be read comes before a text. -/
def Request.ofValue (v : Value) : Except Misfit Request :=
  match documentRequest v with
  | .ok request => .ok request
  | .error (.panic cause) => .error (.panic cause)
  | .error _ => textRequest v

-- The bytes that a body may have.
def bodyLimit : Nat := 2 * 1024 * 1024

/-- Reads the body of a request; text after its value does not count. -/
def Request.ofBody (body : String) : Except Rejection Request :=
  if bodyLimit < body.utf8ByteSize then .error .tooLong
  else
    match Json.read body with
    | none => .error .notJson
    | some (v, _) =>
        if v.readable then
          match Request.ofValue v with
          | .ok request => .ok request
          | .error (.panic _) => .error .broken
          | .error _ => .error .wrongShape
        else .error .notJson

def errorStatus : Error → Nat
  | .timeout _ _ => 504
  | e => if e.isDocumentLevel then 422 else 500

def errorResponse (e : Error) : Response := ⟨errorStatus e, .object [("error", .text e.message)]⟩

def health : Response := ⟨200, .object [("status", .text "ok")]⟩

def lateResponse : Response := ⟨504, .object [("error", .text "prazo da requisição esgotado")]⟩

def brokenResponse : Response := ⟨500, .object [("error", .text "falha interna")]⟩

/-- The answer to a run that fails, or that ends in the middle. -/
def failureResponse : Error → Response
  | .panic _ => brokenResponse
  | e => errorResponse e

-- In nanoseconds.
def requestLimit : Nat := 30 * 1000 * nanosPerMs

/-- An answer that is ready after a time of nanoseconds. -/
def inTime (taken : Nat) (answer : Response) : Response :=
  if requestLimit < taken then lateResponse else answer

/-- The answer to a request whose processing takes a time of nanoseconds. -/
def respond (pipeline : Pipeline) (clock : Clock) (taken : Nat) (request : Request) : Response :=
  inTime taken <|
    match pipeline.processNew clock request.toDocument with
    | .ok (document, summary) =>
        ⟨200, .object [("document", document.toValue), ("summary", summary.toValue)]⟩
    | .error e => failureResponse e

end Service

end SpanAnnotation
