import HiveScript.Encoding.Utf8
import HiveScript.Yaml.Cursor
import HiveScript.Yaml.Token

/-!
# Properties and directives

What may stand before a node: an anchor, or an alias in its place, and a tag. And what may stand
before a document.

* `Yaml.Reading.anchorName`, `Yaml.Reading.tag`, `Yaml.Reading.directive`.
-/

namespace HiveScript.Yaml

/-- The points that may follow the name of an anchor, apart from gaps. -/
def anchorEnds : Text := "?:,]\x7d%@" ++ [(0x60 : Point)]

/-- The points of an address, apart from letters, digits, hyphens, low lines and percent signs. -/
def addressMarks : Text := ";/?:@&=+$,.!~*()[]" ++ [Point.apostrophe]

def isAddressPoint (p : Point) : Bool := isNamePoint p || addressMarks.contains p

/-- The characters of octets in UTF-8. -/
def characters? (bs : List Nat) : Option Text := Utf8.decode? false (bs.map UInt8.ofNat)

namespace Reading

/-! ## Anchors -/

/-- Reads the name of an anchor or an alias whose indicator stands here. -/
def anchorName (activity : Activity) : Reading Text := do
  let began ← mark
  skip 1
  let name ← takeWhile isNamePoint
  let ends := endsAt (fun p => isGap p || anchorEnds.contains p) (← rest)
  if name.isEmpty || !ends then failPoint activity began .letterOrDigit
  return name

/-! ## Addresses and tags -/

/-- Reads octets that are written as percent signs and two digits each. -/
def octets (activity : Activity) (began : Mark) : Nat → Reading (List Nat)
  | 0 => return []
  | fuel + 1 => do
    if ← isNext '%' then
      skip 1
      let ds := ((← rest).take 2).takeWhile Point.isHexDigit
      if ds.length < 2 then
        fail activity began (.point .addressEscape ((← rest).drop ds.length).head?)
      skip 2
      return Numeral.ofDigits 16 (ds.filterMap Point.digit?) :: (← octets activity began fuel)
    else return []

/-- Reads an address, which may be empty. -/
def addressParts (activity : Activity) (began : Mark) : Nat → Reading Text
  | 0 => return []
  | fuel + 1 => do
    let part ← takeWhile isAddressPoint
    if ← isNext '%' then
      let here ← mark
      match characters? (← octets activity began ((← rest).length)) with
      | some s => return part ++ s ++ (← addressParts activity began fuel)
      | none => throw (.misfit (some (activity, some began)) .illAddress here)
    else return part

/-- Reads an address. -/
def address (activity missing : Activity) (began : Mark) : Reading Text := do
  let s ← addressParts activity began ((← rest).length + 1)
  if s.isEmpty then failPoint missing began .address
  return s

/-- Reads a handle: one exclamation mark, or two with a name between them. -/
def handle (activity : Activity) (began : Mark) : Reading Text := do
  if !(← isNext '!') then failPoint activity began .exclamationMark
  skip 1
  if ← isNext ' ' then return "!"
  let name ← takeWhile isNamePoint
  if !(← isNext '!') then failPoint activity began .exclamationMark
  skip 1
  return "!" ++ name ++ "!"

/-- Reads the tag whose exclamation mark stands here. -/
def tag : Reading Token.Kind := do
  let began ← mark
  let next := (← rest).tail
  let token : Token.Kind ←
    if next.head? = some (Point.ofChar '<') then do
      skip 2
      let s ← address .tag .tagAddress began
      if !(← isNext '>') then failPoint .tagAddress began .closingAngle
      skip 1
      pure (.tag none s)
    else if endsAt isGap next then do
      skip 1
      pure (.tag none "!")
    else do
      let word := next.takeWhile fun p => !isSpaceOrBreak p
      let h ← if word.contains (Point.ofChar '!') then handle .tag began else do
        skip 1
        pure (Text.ofString "!")
      pure (.tag (some h) (← address .tag .tagAddress began))
  if !endsAt isSpaceOrBreak (← rest) then failPoint .tag began .space
  return token

/-! ## Directives -/

/-- Reads a number. -/
def number (began : Mark) : Reading Nat := do
  let ds ← takeWhile Point.isDigit
  if ds.isEmpty then failPoint .directive began .digit
  return Numeral.ofDigits 10 (ds.filterMap Point.digit?)

/-- Reads the numbers of a version. -/
def version (began : Mark) : Reading Directive := do
  skipSpaces
  let major ← number began
  if !(← isNext '.') then failPoint .directive began .digitOrPoint
  skip 1
  let _ ← number began
  if !endsAt isSpaceOrBreak (← rest) then failPoint .directive began .digitOrSpace
  return .version major

/-- Reads a handle and the address that it stands for. -/
def handleAddress (began : Mark) : Reading Directive := do
  skipSpaces
  let h ← handle .directive began
  if !(← isNext ' ') then failPoint .directive began .space
  skipSpaces
  let s ← address .directive .directiveAddress began
  if !endsAt isSpaceOrBreak (← rest) then failPoint .directive began .space
  return .handle h s

/-- Reads the directive whose percent sign stands here, and tells where it ends. -/
def directive : Reading (Directive × Mark) := do
  let began ← mark
  skip 1
  let name ← takeWhile isNamePoint
  if name.isEmpty || !endsAt isSpaceOrBreak (← rest) then
    failPoint .directive began .letterOrDigit
  let d ←
    if name = "YAML" then version began
    else if name = "TAG" then handleAddress began
    else do
      let _ ← takeWhile fun p => !isBreak p
      pure .reserved
  let stop ← mark
  finishLine .directive began
  return (d, stop)

end Reading

end HiveScript.Yaml
