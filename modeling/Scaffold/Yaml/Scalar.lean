import Scaffold.Decimal
import Scaffold.Log
import Scaffold.Yaml.Event

namespace Scaffold.Yaml

inductive Meaning where
  | null
  | bool (b : Bool)
  | integer (n : Int)
  | float (text : String)
  | text (s : String)
  deriving DecidableEq, Repr

def nullWords : List String := ["null", "Null", "NULL", "~"]

def isNull (s : String) : Bool := nullWords.contains s

def bool? (s : String) : Option Bool :=
  if ["true", "True", "TRUE"].contains s then some true
  else if ["false", "False", "FALSE"].contains s then some false
  else none

def digit? (base : Nat) (c : Char) : Option Nat := (hexValue? c).filter (· < base)

def digits? (base value : Nat) : List Char → Option Nat
  | [] => some value
  | c :: cs => (digit? base c).bind fun d => digits? base (value * base + d) cs

def natural? (base : Nat) (cs : List Char) : Option Nat := if cs.isEmpty then none else digits? base 0 cs

/-- Digits with a zero before them are no number. -/
def hasLeadingZero (cs : List Char) : Bool :=
  cs.head? = some '0' && 1 < cs.length && cs.all Char.isDigit

def based? : List Char → Option (Nat × List Char)
  | '0' :: 'x' :: cs => some (16, cs)
  | '0' :: 'o' :: cs => some (8, cs)
  | '0' :: 'b' :: cs => some (2, cs)
  | _ => none

def magnitude? (cs : List Char) : Option Nat :=
  match (based? cs).bind fun (base, digits) => natural? base digits with
  | some n => some n
  | none => if hasLeadingZero cs then none else natural? 10 cs

def unsigned? (bound : Nat) (s : String) : Option Nat :=
  let cs := s.toList
  (magnitude? (if cs.head? = some '+' then cs.drop 1 else cs)).filter (· < bound)

def negative? (bound : Nat) (s : String) : Option Int :=
  match s.toList with
  | '-' :: cs => ((magnitude? cs).filter (· ≤ bound)).map fun n => -(n : Int)
  | _ => none

/-- Whole numbers have up to one hundred and twenty-eight bits. -/
def integer? (s : String) : Option Int :=
  match unsigned? (Nat.pow 2 128) s with
  | some n => some n
  | none => negative? (Nat.pow 2 127) s

def float? (s : String) : Option String :=
  let cs := s.toList
  let unsigned := if cs.head? = some '+' then cs.drop 1 else cs
  if cs.head? = some '+' && unsigned.head?.any (fun c => c = '+' || c = '-') then none
  else if [".inf", ".Inf", ".INF"].contains (String.ofList unsigned) then some "inf"
  else if ["-.inf", "-.Inf", "-.INF"].contains s then some "-inf"
  else if [".nan", ".NaN", ".NAN"].contains s then some "NaN"
  else (Decimal.ofText? unsigned).bind Decimal.shortestText?

def plainMeaning (s : String) : Meaning :=
  if s = "" || isNull s then .null
  else
    match bool? s, integer? s with
    | some b, _ => .bool b
    | none, some n => .integer n
    | none, none =>
      let cs := s.toList
      let unsigned := if cs.head?.any fun c => c = '+' || c = '-' then cs.drop 1 else cs
      if hasLeadingZero unsigned then .text s
      else
        match float? s with
        | some t => .float t
        | none => .text s

def Meaning.describe : Meaning → String
  | null => "unit value"
  | bool b => "boolean `" ++ (if b then "true" else "false") ++ "`"
  | integer n =>
    "integer `" ++ toString n ++ "`" ++
      (if Int.ofNat (Nat.pow 2 64) ≤ n then " as u128"
        else if n < -Int.ofNat (Nat.pow 2 63) then " as i128" else "")
  | float t => "floating point `" ++ t ++ "`"
  | text s => "string " ++ Text.quoted s

def standardTag (name : String) : String := "tag:yaml.org,2002:" ++ name

inductive Mismatch where
  | type (found expected : String)
  | value (found expected : String)
  | repeatedField (name : String)
  deriving DecidableEq, Repr

def Mismatch.message : Mismatch → String
  | type found expected => "invalid type: " ++ found ++ ", expected " ++ expected
  | value found expected => "invalid value: " ++ found ++ ", expected " ++ expected
  | repeatedField name => "duplicate field `" ++ name ++ "`"

def Mismatch.tagged (s expected : String) (wanted : String) : Option Meaning → Mismatch
  | some m => .type m.describe expected
  | none => .value (Meaning.text s).describe wanted

def Mismatch.ofScalar (expected s : String) (style : Style) (tag : Option String) : Mismatch :=
  let asText : Mismatch := .type (Meaning.text s).describe expected
  let asPlain : Mismatch := .type (plainMeaning s).describe expected
  match tag with
  | none => if style = .plain then asPlain else asText
  | some tag =>
    if tag = standardTag "bool" then tagged s expected "a boolean" ((bool? s).map .bool)
    else if tag = standardTag "int" then tagged s expected "an integer" ((integer? s).map .integer)
    else if tag = standardTag "float" then tagged s expected "a float" ((float? s).map .float)
    else if tag = standardTag "null" then
      tagged s expected "null" (if isNull s then some .null else none)
    else if tag.toList.head? = some '!' && style = .plain then asPlain
    else asText

def Mismatch.ofEvent (expected : String) : Event → Mismatch
  | .scalar s style tag => ofScalar expected s style tag
  | .mappingStart | .mappingEnd => .type "map" expected
  | .sequenceStart | .sequenceEnd | .reference .. => .type "sequence" expected

/-- Why a document could not be understood. A mismatch has a place, and below the root also a path. -/
inductive DecodeError where
  | flawed (flaw : Flaw)
  | ended
  | severalDocuments
  | mismatched (path : Option String) (cause : Mismatch) (place : Mark)
  deriving DecidableEq, Repr

def DecodeError.message : DecodeError → String
  | flawed flaw => flaw.message
  | ended => "EOF while parsing a value"
  | severalDocuments => "deserializing from YAML containing more than one document is not supported"
  | mismatched path cause place =>
    path.elim "" (· ++ ": ") ++ cause.message ++ place.suffix

end Scaffold.Yaml
