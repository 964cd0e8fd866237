import Gazette.Unicode.Direction
import Gazette.Unicode.Joining
import Gazette.Unicode.Normal
import Gazette.Url.HostMapping
import Gazette.Url.Punycode

/-!
# Host names

Host names in any script as ASCII, after UTS 46: characters are mapped, the name is normalised and cut
into labels, each label is checked, and labels outside ASCII are written in Punycode behind `xn--`.
-/

namespace Gazette.Url.HostName

/-- Characters that no host name holds in the end: controls, space and the marks of addresses. -/
def isForbidden (c : Char) : Bool :=
  c.toNat ≤ 0x20 || c.toNat == 0x7F || "%#/:<>?@[\\]^|".toList.contains c

def isAscii (cs : List Char) : Bool := cs.all fun c ↦ c.toNat < 0x80

/-- The characters that take the place of a character, or nothing if it is refused. -/
def mapChar (c : Char) : Option (List Char) :=
  match HostMapping.fate c.toNat with
  | .valid => some [c]
  | .refused => none
  | .ignored => some []
  | .shifted amount => some [Char.ofNat (c.toNat + amount).toNat]
  | .replaced points => some (points.map Char.ofNat)

/-- Whether a character may stand in a label that was written in Punycode. -/
def isSettled (c : Char) : Bool := HostMapping.fate c.toNat == .valid

/-- Whether a joiner is allowed between the characters before it, last one first, and behind it. -/
def joinerAllowed (c : Char) (before behind : List Char) : Bool :=
  let virama := match before with
    | b :: _ => Unicode.combiningClass b.toNat == 9
    | [] => false
  let skip (cs : List Char) := (cs.map fun x ↦ Unicode.joining x.toNat).dropWhile (· == .transparent)
  let joins := match skip before, skip behind with
    | a :: _, b :: _ => (a == .left || a == .dual) && (b == .right || b == .dual)
    | _, _ => false
  virama || (c.toNat == 0x200C && joins)

/-- Whether all joiners of a label are allowed. -/
def joinersAllowed (before : List Char) : List Char → Bool
  | [] => true
  | c :: cs =>
    ((c.toNat != 0x200C && c.toNat != 0x200D) || joinerAllowed c before cs) &&
      joinersAllowed (c :: before) cs

/-- The rule for labels in names with text written from right to left. -/
def directionAllowed (label : List Char) : Bool :=
  let ds := label.map fun c ↦ Unicode.direction c.toNat
  match ds with
  | [] => true
  | first :: _ =>
    let ending := (ds.reverse.dropWhile (· == .nsm)).head?
    if first == .r || first == .al then
      ds.all (fun d ↦ d != .l && d != .other) &&
        (ending == some .r || ending == some .al || ending == some .en || ending == some .an) &&
        !(ds.contains .en && ds.contains .an)
    else if first == .l then
      ds.all (fun d ↦ d != .r && d != .al && d != .an && d != .other) &&
        (ending == some .l || ending == some .en)
    else false

/-- Whether a label holds text written from right to left. -/
def isRightToLeft (label : List Char) : Bool :=
  label.any fun c ↦
    let d := Unicode.direction c.toNat
    d == .r || d == .al || d == .an

/-- Whether a label outside ASCII is allowed by itself. -/
def labelAllowed (label : List Char) : Bool :=
  Unicode.normalize label == label && label.all isSettled &&
    !Chars.startsWith "xn--".toList label &&
    (match label with
      | c :: _ => !Unicode.isMark c
      | [] => true) &&
    joinersAllowed [] label

/-- A label as it stands for the checks and as it is written, with `Punycode.decode?` behind `xn--`. -/
def readLabel? (label : List Char) : Option (List Char × List Char) :=
  match Chars.after? "xn--".toList label with
  | some code =>
    if isAscii label then do
      let decoded ← Punycode.decode? code
      if !isAscii decoded && labelAllowed decoded then some (decoded, label) else none
    else none
  | none =>
    if isAscii label then some (label, label)
    else if labelAllowed label then some (label, "xn--".toList ++ Punycode.encode label)
    else none

/-- A host name as ASCII, every label by `readLabel?`, or nothing if it is no host name. -/
def toAscii? (cs : List Char) : Option (List Char) := do
  let mapped ← cs.mapM mapChar
  let labels ← (Chars.splitAtChar '.' (Unicode.normalize mapped.flatten)).mapM readLabel?
  let bidirectional := labels.any fun (shown, _) ↦ isRightToLeft shown
  if bidirectional && !labels.all (fun (shown, _) ↦ directionAllowed shown) then none
  let name := Chars.joinWith ['.'] (labels.map (·.2))
  if name.any isForbidden then none else some name

end Gazette.Url.HostName
