import Gazette.Article.Display
import Gazette.Charset.Body
import Gazette.Failure.Issues
import Gazette.Fetch.Decoder
import Gazette.Fetch.Transport

/-!
# Queries

A `Query` is a page on its way from an address to a record. Each stage of the way fills in a part. The body of
the answer is there to be read once, by `Query.content`.
-/

namespace Gazette

/-- A page on its way. -/
structure Query where
  /-- Its number. -/
  id : Nat
  /-- The address as it was given. -/
  rawUrl : String
  /-- The address. -/
  url : Option Url := none
  /-- The status of the answer. -/
  status : Option Nat := none
  /-- The answer, until its body is read. -/
  response : Option Response := none
  /-- The decoder of the body. -/
  decoder : Option ContentDecoder := none
  /-- The record. -/
  article : Option Article := none
  /-- What ended the way. -/
  failure : Option Failure := none
  /-- The issues that came up while the record was made. -/
  issues : Issues := Table.empty

namespace Query

/-- Whether the way is over: there is a record or a failure. -/
def isOver (q : Query) : Bool := q.failure.isSome || q.article.isSome

/-- The query `q`, ended by `failure`. Its answer is given up. -/
def fail (q : Query) (failure : Failure) : Query :=
  { q with response := none, failure := some failure }

/-- The text of the body of `response`: its bytes decoded by `decoder`, and read by `Charset.decodeBody`. -/
def textOf (rawUrl : String) (decoder : ContentDecoder) (response : Response) :
    Except Failure String :=
  match response.body with
  | none => .error (.of .transport rawUrl "Content" (some .bodyBroken))
  | some raw =>
    match decoder.decode raw with
    | .ok bytes => .ok (Charset.decodeBody bytes (response.header? "content-type"))
    | .error corruption =>
      .error (.of .decode rawUrl "Content" (some (.undecodable decoder.name corruption)))

/-- Reads the body by `textOf`, and leaves the query without it. Before a decoder is selected there is nothing to
read with, and nothing changes. -/
def content (q : Query) : Query × Except Failure String :=
  match q.decoder with
  | none => (q, .error (.of .noHandler q.rawUrl "Content" none))
  | some decoder =>
    match q.response with
    | none => (q, .error (.of .decode q.rawUrl "Content" (some .bodyConsumed)))
    | some response => ({ q with response := none }, textOf q.rawUrl decoder response)

/-- A part that may be missing, as it is shown. -/
def shown : Option String → String
  | some s => "Some(" ++ s ++ ")"
  | none => "None"

/-- A query without a failure, as it is shown. -/
def display (q : Query) : String :=
  "Query \x7b id: " ++ Number.decimalText q.id ++ ", raw_url: " ++ Text.quoted q.rawUrl ++ ", status: " ++
    shown (q.status.map Number.decimalText) ++ ", decoder: " ++
    shown (q.decoder.map fun d ↦ Text.quoted d.name) ++ ", has_response: " ++
    (if q.response.isSome then "true" else "false") ++ ", news: " ++
    shown (q.article.map fun a ↦ Text.quoted a.guid) ++ ", error: None \x7d"

end Query

end Gazette
