import Gazette.Bytes.Base64
import Gazette.Bytes.Utf8
import Gazette.Fetch.Header
import Gazette.Url.Reader

/-!
# Requests and answers

What goes out for an address (`Request.ofUrl`) and what comes back (`Answer`). A `Transport` answers every
request, if only by losing it.
-/

namespace Gazette

/-- A request for a page. -/
structure Request where
  /-- The address, without a user. -/
  url : Url
  /-- The headers. -/
  headers : Headers

/-- An answer that has arrived. -/
structure Response where
  /-- The status. -/
  status : Nat
  /-- The headers. -/
  headers : Headers
  /-- The body, unless it breaks off. -/
  body : Option (List UInt8)

/-- What becomes of a request. -/
inductive Answer
  /-- An answer arrives. -/
  | arrived (response : Response)
  /-- The connection is lost. -/
  | lost
  /-- The time is up. -/
  | late

/-- What answers requests. -/
abbrev Transport := Request → Answer

/-- An address without a user. -/
def Url.withoutUser (u : Url) : Url :=
  { u with authority := u.authority.map fun a ↦ { a with username := [], password := none } }

/-- The text of a part of an address, if that is text. -/
def Url.partText? (cs : List Char) : Option (List Char) := Utf8.decode? (Percent.decode cs)

/-- The credentials that the user of an address stands for. -/
def Url.credentials? (u : Url) : Option String := do
  let a ← u.authority
  let username ← partText? a.username
  let password := a.password.bind partText?
  if username.isEmpty && password.isNone then none
  else
    let text := username ++ ':' :: password.getD []
    return "Basic " ++ String.ofList (Base64.encode (Utf8.encode text))

namespace Request

/-- The request for `u`. The headers `headers` win over the credentials that the address brings; what is accepted
is always said. -/
def ofUrl (u : Url) (headers : Headers) : Request :=
  let own : Headers := match u.credentials? with
    | some credentials => Table.empty.insert "authorization" credentials
    | none => Table.empty
  let all := own.insertAll headers.entries
  ⟨u.withoutUser, if all.contains "accept" then all else all.insert "accept" "*/*"⟩

end Request

/-- The value of a header of an answer, if it is `Headers.isReadable`. -/
def Response.header? (r : Response) (name : String) : Option String :=
  (r.headers.get? name).filter Headers.isReadable

end Gazette
