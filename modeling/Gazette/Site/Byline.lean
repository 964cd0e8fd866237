import Gazette.Text
import Gazette.Unicode.Digit

/-!
# Bylines

How sites name the authors of an article: names stand before or behind a mark, often with a role, a place or a
unit, and several of them have an enumeration comma between them. Each reader takes the text that holds the
byline: `credited?`, `first`, `reportersOrDesk`, `bracketed`, `deskOrWriter`.
-/

namespace Gazette.Byline

/-- The pieces of a text, trimmed. -/
def pieces (mark s : String) : List String := (Text.splitOn mark s).map Text.trim

/-- The `pieces` of a text that are not blank. -/
def names (mark s : String) : List String := (pieces mark s).filter fun name ↦ !name.isEmpty

/-- A name without the word for reporter in front. -/
def withoutTitle (s : String) : String := Text.trim (Text.dropLead "記者" s)

/-- A run without the word for a report at its end, if it is one line with something in front of that
word. -/
def reported? (cs : List Char) : Option (List Char) :=
  match Chars.before? "報導".toList cs with
  | some line => if line.isEmpty || line.contains '\n' then none else some line
  | none => none

/-! ## Credits behind the last sentence -/

/-- Whether a credit closes here: a bracket with at least six digits behind it. -/
def closesCredit (cs : List Char) : Bool :=
  match Chars.after? ['）'] cs with
  | some rest => 6 ≤ (rest.takeWhile Unicode.isDigit).length
  | none => false

/-- The characters on this line in front of the close of a credit. -/
def creditRest? : List Char → Option (List Char)
  | [] => none
  | c :: cs =>
    if closesCredit (c :: cs) then some []
    else if c = '\n' then none
    else (creditRest? cs).map (c :: ·)

/-- The text of a credit that opens here, up to where `closesCredit` holds: at least one character. -/
def credit? (cs : List Char) : Option (List Char) :=
  match Chars.after? "。（".toList cs with
  | some (c :: rest) => if c = '\n' then none else (creditRest? rest).map (c :: ·)
  | _ => none

/-- The name of a person with or without a role in front. -/
def withoutRole (s : String) : String :=
  match Chars.cut? ['：'] s.toList with
  | some (_, name) => Text.trim (String.ofList name)
  | none => Text.trim s

/-- The names in the first `credit?` of a paragraph, such as `。（編輯：甲/譯者：乙）1120823`. -/
def credited? (s : String) : Option (List String) :=
  (Chars.firstSome? credit? s.toList).map fun credit ↦
    ((Text.splitOn "/" (String.ofList credit)).map withoutRole).filter fun name ↦ !name.isEmpty

/-! ## Bylines of their own -/

/-- The first name of a byline such as `甲、乙_台北報導`. -/
def first (s : String) : String := Text.trim (Text.headPiece "_" (Text.headPiece "、" s))

/-- What stands in front of a place from which is reported. -/
def beforePlace? (s : String) : Option String :=
  let place (cs : List Char) : Option (List Char) := Chars.after? ['／'] cs >>= reported?
  (Chars.firstPlace? place s.toList).map fun (head, _) ↦ String.ofList head

/-- The names of a byline such as `記者甲、乙／台北報導` or `政治中心／甲`. -/
def reportersOrDesk (s : String) : List String :=
  match beforePlace? s with
  | some names => (Text.splitOn "、" names).map withoutTitle
  | none =>
    let parts := pieces "／" s
    if 1 < parts.length then parts.drop 1 else parts

/-- Whether a bracket closes behind one to ten characters. -/
def closesPlace (cs : List Char) : Bool := ((cs.drop 1).take 10).contains '〕'

/-- What stands in front of the last slash behind which a place and a bracket follow. -/
def beforeLastPlace? : List Char → Option (List Char)
  | [] => none
  | c :: cs =>
    match beforeLastPlace? cs with
    | some names => some (c :: names)
    | none => if c = '／' && closesPlace cs then some [] else none

/-- The names in the bracket that opens a paragraph, such as `〔記者甲、乙／台北報導〕`. -/
def bracketed (s : String) : List String :=
  match Chars.after? ['〔'] s.toList with
  | some rest =>
    match beforeLastPlace? (rest.takeWhile (· != '\n')) with
    | some text =>
      if text.isEmpty then []
      else names "、" (String.ofList (text.dropWhile fun c ↦ c == '記' || c == '者'))
    | none => []
  | none => []

/-- The names behind a desk of two to four characters, where such a byline stands at the front. -/
def deskNames? (cs : List Char) : Option (List Char) :=
  [4, 3, 2].findSome? fun n ↦
    if (cs.take n).contains '\n' then none
    else Chars.after? "中心／".toList (cs.drop n) >>= reported?

/-- The name of a writer, where such a byline stands at the front. -/
def writer? (cs : List Char) : Option (List Char) :=
  match Chars.after? "文／".toList cs with
  | some rest =>
    let name := rest.takeWhile (· != '\n')
    if name.isEmpty then none else some name
  | none => none

/-- The names of a byline such as `社會中心／甲報導`, `文／甲` or `記者甲／台北報導`. -/
def deskOrWriter (s : String) : List String :=
  match Chars.firstSome? deskNames? s.toList with
  | some text => pieces "、" (String.ofList text)
  | none =>
    match Chars.firstSome? writer? s.toList with
    | some name => [String.ofList name]
    | none => (Text.splitOn "、" (Text.headPiece "／" s)).map withoutTitle

end Gazette.Byline
