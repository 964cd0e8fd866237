import Gazette.Bytes.Corruption
import Gazette.Json.Fault
import Gazette.Text.Quoted
import Gazette.Url.Host

/-!
# Failures

A `Failure` says what kind of thing went wrong (`FailureKind`), on which subject (an address, or a domain), in
which activity, and, where more is known, why (`Cause`). All wording is in `FailureKind.label`, `Cause.message`
and `Failure.message`.
-/

namespace Gazette

/-- The kinds of failures. -/
inductive FailureKind
  /-- An address cannot be used. -/
  | invalidUrl
  /-- A request failed on its way. -/
  | transport
  /-- A request took too long. -/
  | timeout
  /-- A request was answered with a status other than 200. -/
  | status
  /-- A body cannot be decoded. -/
  | decode
  /-- There is nothing to decode a body with. -/
  | noHandler
  /-- A page has no linked data of the wanted type. -/
  | linkedDataNotFound
  /-- The linked data of a page cannot be decoded. -/
  | linkedDataDecode
  /-- No site claims a host. -/
  | parserNotFound
  /-- The address of a related article cannot be used. -/
  | relatedLink
  /-- Something due on a page is missing or unusable. -/
  | extract
  /-- A setting is refused. -/
  | config
  /-- Two sites claim a domain. -/
  | conflict
deriving DecidableEq, Repr

/-- The wording of a kind. -/
def FailureKind.label : FailureKind → String
  | invalidUrl => "invalid URL"
  | transport => "transport error"
  | timeout => "timeout"
  | status => "HTTP status error"
  | decode => "decode error"
  | noHandler => "handler is nil"
  | linkedDataNotFound => "target jsonld not found"
  | linkedDataDecode => "invalid json object"
  | parserNotFound => "could not find parser for given domain"
  | relatedLink => "related link error"
  | extract => "extraction error"
  | config => "configuration error"
  | conflict => "domain conflict"

/-- The questions that a failure can be asked, each of them whether it is of one kind. There is none for
`FailureKind.extract`. -/
def FailureKind.predicates : List (String × FailureKind) :=
  [("is_invalid_url", .invalidUrl), ("is_transport", .transport), ("is_timeout", .timeout),
    ("is_status", .status), ("is_decode", .decode), ("is_no_handler", .noHandler),
    ("is_linked_data_not_found", .linkedDataNotFound), ("is_linked_data_decode", .linkedDataDecode),
    ("is_parser_not_found", .parserNotFound), ("is_related_link", .relatedLink),
    ("is_config", .config), ("is_conflict", .conflict)]

/-- Why a file cannot be read. -/
inductive FileError
  /-- There is no such file. -/
  | notFound
  /-- The path leads to a directory. -/
  | isDirectory
  /-- The path leads through a file. -/
  | notDirectory
  /-- The path is too long. -/
  | longName
  /-- The file may not be opened. -/
  | denied
  /-- The file cannot be read, for a reason that the system gives in words. -/
  | other (reason : String)
  /-- The file holds no text. -/
  | notText
deriving DecidableEq, Repr

/-- The wording of a file error. -/
def FileError.message : FileError → String
  | notFound => "No such file or directory (os error 2)"
  | isDirectory => "Is a directory (os error 21)"
  | notDirectory => "Not a directory (os error 20)"
  | longName => "File name too long (os error 36)"
  | denied => "Permission denied (os error 13)"
  | other reason => reason
  | notText => "stream did not contain valid UTF-8"

/-- Why something failed. -/
inductive Cause
  /-- A reason given in words. -/
  | stated (text : String)
  /-- An address of white space. -/
  | emptyUrl
  /-- An address that cannot be fetched because it cannot be read. -/
  | unreadableUrl (error : UrlError)
  /-- An address that cannot be read. -/
  | malformedUrl (error : UrlError)
  /-- An address of a scheme that cannot be fetched. -/
  | unsupportedScheme
  /-- No address was read before. -/
  | urlNotParsed
  /-- A request that got no answer. -/
  | notSent (url : String)
  /-- No request was made before. -/
  | noResponse
  /-- A body that breaks off. -/
  | bodyBroken
  /-- A body that was read before. -/
  | bodyConsumed
  /-- A body that its decoder refuses. -/
  | undecodable (decoder : String) (corruption : Bytes.Corruption)
  /-- A host that no site claims. -/
  | unclaimedHost (host : String)
  /-- A domain that another site claims. -/
  | claimed (domain existing incoming : String)
  /-- No record came of an extraction. -/
  | noRecord
  /-- Linked data that are no JSON, or not of the right form. -/
  | badJson (text : List Char) (fault : Json.Fault)
  /-- No element fits a selector. -/
  | noElement (selector : String)
  /-- A link to a related article that cannot be read. -/
  | badHref (href : String) (error : UrlError)
  /-- A canonical link that cannot be read. -/
  | badLink (link : String) (error : UrlError)
  /-- A header name that is none. -/
  | badHeaderName (name : String)
  /-- A header value that is none. -/
  | badHeaderValue (name : String)
  /-- A time limit of nothing. -/
  | zeroTimeout
  /-- A file that cannot be read. -/
  | unreadableFile (path : String) (error : FileError)
  /-- A file of options that are none. -/
  | badOptions (path : String) (text : List Char) (fault : Json.Fault)
deriving DecidableEq, Repr

/-- The wording of a cause. -/
def Cause.message : Cause → String
  | stated text => text
  | emptyUrl => "empty URL"
  | unreadableUrl e => "invalid URL: " ++ e.message
  | malformedUrl e => "malformed URL: " ++ e.message
  | unsupportedScheme => "scheme must be http or https"
  | urlNotParsed => "url not parsed"
  | notSent url => "error sending request for url (" ++ url ++ ")"
  | noResponse => "no response"
  | bodyBroken => "failed to read body: error decoding response body"
  | bodyConsumed => "response body already consumed"
  | undecodable decoder corruption => decoder ++ " decoding failed: " ++ corruption.message
  | unclaimedHost host => host
  | claimed domain existing incoming =>
    domain ++ " is already claimed by " ++ existing ++ ", refusing " ++ incoming
  | noRecord => "no record produced"
  | badJson text fault => "invalid json object: " ++ fault.message text
  | noElement selector => "no element matches " ++ selector
  | badHref href e => "error while parsing " ++ href ++ ": " ++ e.message
  | badLink link e => "error while parsing link " ++ link ++ ": " ++ e.message
  | badHeaderName name =>
    "invalid header name " ++ Text.quoted name ++ ": invalid HTTP header name"
  | badHeaderValue name =>
    "invalid value for header " ++ name ++ ": failed to parse header value"
  | zeroTimeout => "timeout must be positive"
  | unreadableFile path e => "error reading " ++ path ++ ": " ++ e.message
  | badOptions path text fault => "invalid options in " ++ path ++ ": " ++ fault.message text

/-- What went wrong. -/
structure Failure where
  /-- The kind. -/
  kind : FailureKind
  /-- The address or the domain that it is about. -/
  subject : String
  /-- What was being done. -/
  activity : String
  /-- The status of the answer. -/
  status : Option Nat
  /-- Why. -/
  cause : Option Cause
deriving DecidableEq, Repr

namespace Failure

/-- A failure of the kind `kind` without a status. -/
def of (kind : FailureKind) (subject activity : String) (cause : Option Cause) : Failure :=
  ⟨kind, subject, activity, none, cause⟩

/-- The failure of an answer with a status other than 200, `FailureKind.status`. -/
def ofStatus (subject activity : String) (status : Nat) : Failure :=
  ⟨.status, subject, activity, some status, none⟩

/-- The failure of a host that no site claims, `FailureKind.parserNotFound`. -/
def unclaimed (subject host : String) : Failure :=
  of .parserNotFound subject "Dispatch" (some (.unclaimedHost host))

/-- The failure of a setting that is refused, `FailureKind.config`. -/
def refused (activity : String) (cause : Option Cause) : Failure := of .config "" activity cause

/-- The failure of a domain claimed twice, `FailureKind.conflict`. -/
def conflicting (domain existing incoming : String) : Failure :=
  of .conflict domain "Register" (some (.claimed domain existing incoming))

/-- Whether a failure is of a kind. -/
def isOf (f : Failure) (kind : FailureKind) : Bool := f.kind = kind

/-- The names of the `FailureKind.predicates` that a failure satisfies. -/
def predicates (f : Failure) : List String :=
  (FailureKind.predicates.filter fun (_, kind) ↦ f.isOf kind).map Prod.fst

/-- A failure satisfies the predicates of its `kind`. -/
theorem mem_predicates {f : Failure} {name : String} :
    name ∈ f.predicates ↔ (name, f.kind) ∈ FailureKind.predicates := by
  simp [predicates, isOf]

/-- A failure satisfies one predicate, or none if it is of the kind `FailureKind.extract`. -/
theorem length_predicates (f : Failure) :
    f.predicates.length = if f.kind = .extract then 0 else 1 := by
  obtain ⟨kind, -⟩ := f
  cases kind <;> rfl

/-- The wording of a failure: activity and label of the kind, subject, status and cause. -/
def message (f : Failure) : String :=
  "newsparser: " ++ f.activity ++ " " ++ f.subject ++ ": " ++ f.kind.label ++
    (match f.status with
      | some status => ": request error with error code " ++ Number.decimalText status
      | none => "") ++
    match f.cause with
    | some cause => ": " ++ cause.message
    | none => ""

end Failure

/-- A failure of one of many items: the number of the item, and the stage that failed. -/
structure StageFailure where
  /-- The number of the item. -/
  id : Nat
  /-- The number of the stage, counted from 1. -/
  stage : Nat
  /-- The name of the stage. -/
  stageName : String
  /-- What went wrong. -/
  failure : Failure
deriving DecidableEq, Repr

/-- The wording of a failure of one of many items. -/
def StageFailure.message (f : StageFailure) : String :=
  Number.decimalText f.id ++ "-th query: stage " ++
    Number.decimalText f.stage ++ " (" ++ f.stageName ++ "): " ++ f.failure.message

end Gazette
