import Scaffold.Yaml.Cursor
import Scaffold.Yaml.Quoted

namespace Scaffold.Yaml

def readName (activity : Activity) (c : Cursor) : Read (String × Cursor) :=
  let name := c.skip.rest.takeWhile isNameChar
  let next := c.skip.advance name.length
  let ends := endsWord next.rest ||
    next.rest.head?.any fun x => "?:,]%@".contains x || x = '}' || x.toNat = 96
  if name.isEmpty || !ends then flawIn activity c.mark .nameMissing next.mark
  else .ok (String.ofList name, next)

def isUriChar (verbatim : Bool) (c : Char) : Bool :=
  isNameChar c || ";/?:@&=+$.%!~*'()".contains c || (verbatim && (c = ',' || c = '[' || c = ']'))

def octetSequence? (octet : Nat) : Option (Nat × Nat) :=
  if octet < 128 then some (0, octet)
  else if 192 ≤ octet && octet < 224 then some (1, octet % 32)
  else if 224 ≤ octet && octet < 240 then some (2, octet % 16)
  else if 240 ≤ octet && octet < 248 then some (3, octet % 8)
  else none

def readOctet (activity : Activity) (since : Mark) (c : Cursor) : Read (Nat × Cursor) :=
  match c.rest with
  | '%' :: high :: low :: _ =>
    match hexNumber? 0 [high, low] with
    | some n => .ok (n, c.advance 3)
    | none => flawIn activity since .octetMissing c.mark
  | _ => flawIn activity since .octetMissing c.mark

def readOctets (activity : Activity) (since : Mark) : Nat → Nat → Cursor → Read (Nat × Cursor)
  | 0, value, c => .ok (value, c)
  | n + 1, value, c => do
    let (octet, next) ← readOctet activity since c
    if octet / 64 = 2 then readOctets activity since n (value * 64 + octet % 64) next
    else flawIn activity since .trailingOctet c.mark

def readUriEscape (activity : Activity) (since : Mark) (c : Cursor) : Read (Char × Cursor) := do
  let (octet, next) ← readOctet activity since c
  match octetSequence? octet with
  | none => flawIn activity since .leadingOctet c.mark
  | some (more, bits) => do
    let (value, next) ← readOctets activity since more bits next
    return (Char.ofNat value, next)

def readUriFrom (verbatim : Bool) (activity : Activity) (since : Mark) :
    Nat → List Char → Cursor → Read (List Char × Cursor)
  | 0, text, c => .ok (text, c)
  | fuel + 1, text, c =>
    match c.rest with
    | [] => .ok (text, c)
    | x :: _ =>
      if !isUriChar verbatim x then .ok (text, c)
      else if x = '%' then do
        let (y, next) ← readUriEscape activity since c
        readUriFrom verbatim activity since fuel (y :: text) next
      else readUriFrom verbatim activity since fuel (x :: text) c.skip

def readUri (verbatim : Bool) (activity : Activity) (since : Mark) (opening : List Char) (c : Cursor) :
    Read (String × Cursor) := do
  let (text, next) ← readUriFrom verbatim activity since c.rest.length [] c
  if text.isEmpty && opening.isEmpty then flawIn activity since .uriMissing next.mark
  else return (String.ofList (opening.drop 1 ++ text.reverse), next)

/-- The handle at a place: an exclamation mark, and if there is another one after a name, that too. -/
def handleAt (text : List Char) : List Char :=
  let name := (text.drop 1).takeWhile isNameChar
  let rest := text.drop (1 + name.length)
  text.take (1 + name.length) ++ (if beginsWith '!' rest then ['!'] else [])

def isHandle (text : List Char) : Bool := 1 < text.length && text.getLast? = some '!'

def readTag (inFlow : Bool) (c : Cursor) : Read (Lexeme × Cursor) := do
  let since := c.mark
  let (tag, next) ←
    if beginsWith '<' (c.rest.drop 1) then do
      let (uri, next) ← readUri true .tagUri since [] (c.advance 2)
      if beginsWith '>' next.rest then pure (Lexeme.tag "" uri, next.skip)
      else flawIn .tag since .angleMissing next.mark
    else
      let handle := handleAt c.rest
      let next := c.advance handle.length
      if isHandle handle then do
        let (suffix, next) ← readUri false .tagUri since [] next
        pure (.tag (String.ofList handle) suffix, next)
      else do
        let (suffix, next) ← readUri false .tagUri since handle next
        pure (if suffix = "" then .tag "" "!" else .tag "!" suffix, next)
  if endsWord next.rest || (inFlow && beginsWith ',' next.rest) then return (tag, next)
  else flawIn .tag since .whitespaceOrLineEndMissing next.mark

def readVersionNumber (since : Mark) (c : Cursor) : Read (Nat × Cursor) :=
  let digits := c.rest.takeWhile Char.isDigit
  if digits.isEmpty then flawIn .versionDirective since .versionMissing c.mark
  else if 9 < digits.length then flawIn .versionDirective since .versionTooLong (c.advance 9).mark
  else .ok (digits.foldl (fun n d => n * 10 + (d.toNat - 48)) 0, c.advance digits.length)

def readVersion (since : Mark) (c : Cursor) : Read (Lexeme × Cursor) := do
  let (major, next) ← readVersionNumber since (c.skipWhile isBlank)
  if beginsWith '.' next.rest then do
    let (minor, next) ← readVersionNumber since next.skip
    return (.version major minor, next)
  else flawIn .versionDirective since .versionDotMissing next.mark

def readHandle (since : Mark) (c : Cursor) : Read (Lexeme × Cursor) := do
  let c := c.skipWhile isBlank
  if !beginsWith '!' c.rest then flawIn .directive since .bangMissing c.mark
  else
    let handle := handleAt c.rest
    let next := c.advance handle.length
    if handle.length ≠ 1 && !isHandle handle then flawIn .tagUri since .bangMissing next.mark
    else if !next.rest.head?.any isBlank then flawIn .handleDirective since .whitespaceMissing next.mark
    else do
      let (uri, next) ← readUri true .handleDirectiveUri since [] (next.skipWhile isBlank)
      if endsWord next.rest then return (.handle (String.ofList handle) uri, next)
      else flawIn .handleDirective since .whitespaceOrLineEndMissing next.mark

/-- Read a directive at its sign, and the rest of its line. The second place is where it ends. -/
def readDirective (c : Cursor) : Read (Lexeme × Mark × Cursor) := do
  let since := c.mark
  let name := c.skip.rest.takeWhile isNameChar
  let next := c.skip.advance name.length
  if name.isEmpty then flawIn .directive since .directiveNameMissing next.mark
  else if !endsWord next.rest then flawIn .directive since .directiveNameMalformed next.mark
  else
    let (lexeme, next) ←
      if name = "YAML".toList then readVersion since next
      else if name = "TAG".toList then readHandle since next
      else flawIn .directive since .unknownDirective next.mark
    let after ← next.finishLine .directive since
    return (lexeme, next.mark, after)

end Scaffold.Yaml
