import Scaffold.Yaml.Cursor
import Scaffold.Yaml.Token

namespace Scaffold.Yaml

def isFlowIndicator (c : Char) : Bool := c = ',' || c = '[' || c = ']' || c = '{' || c = '}'

/-- A word of a plain scalar, or the offset of a colon that may not stand there. -/
def plainWord (inFlow : Bool) : List Char → Except Nat (List Char)
  | [] => .ok []
  | c :: cs =>
    if isBlank c || isBreak c then .ok []
    else if inFlow && c = ':' && cs.head?.any fun x => isFlowIndicator x || x = '?' then .error 0
    else if (c = ':' && endsWord cs) || (inFlow && isFlowIndicator c) then .ok []
    else
      match plainWord inFlow cs with
      | .ok word => .ok (c :: word)
      | .error offset => .error (offset + 1)

def misplacedTab? (indent : Nat) : Nat → Bool → Cursor → Option Mark
  | 0, _, _ => none
  | fuel + 1, broken, c =>
    match c.rest with
    | [] => none
    | x :: _ =>
      if isBreak x then misplacedTab? indent fuel true c.skipBreak
      else if broken && x = '\t' && c.mark.column < indent then some c.mark
      else if isBlank x then misplacedTab? indent fuel broken c.skip
      else none

structure PlainScalar where
  text : List Char
  stop : Mark
  broken : Bool
  next : Cursor

def readPlainFrom (inFlow : Bool) (indent : Nat) (since : Mark) :
    Nat → List Char → Mark → Gap → Cursor → Read PlainScalar
  | 0, text, stop, gap, c => .ok ⟨text, stop, gap.isBroken, c⟩
  | fuel + 1, text, stop, gap, c =>
    if c.atMarker || beginsWith '#' c.rest then .ok ⟨text, stop, gap.isBroken, c⟩
    else
      match plainWord inFlow c.rest with
      | .error offset => flawIn .plainScalar since .strayColon (c.advance offset).mark
      | .ok [] => .ok ⟨text, stop, gap.isBroken, c⟩
      | .ok word =>
        let after := c.advance word.length
        let text := word.reverse ++ (gap.text.reverse ++ text)
        match after.rest with
        | [] => .ok ⟨text, after.mark, false, after⟩
        | x :: _ =>
          if isBlank x || isBreak x then
            match misplacedTab? indent after.rest.length false after with
            | some place => flawIn .plainScalar since .tabBeforeIndentation place
            | none =>
              let (gap, next) := Gap.scan after
              if !inFlow && next.mark.column < indent then .ok ⟨text, after.mark, gap.isBroken, next⟩
              else readPlainFrom inFlow indent since fuel text after.mark gap next
          else .ok ⟨text, after.mark, false, after⟩

def readPlain (inFlow : Bool) (indent : Nat) (c : Cursor) : Read PlainScalar :=
  readPlainFrom inFlow indent c.mark (c.rest.length + 1) [] c.mark Gap.none c

end Scaffold.Yaml
