import Scaffold.Parse.Parser
import Scaffold.Python.Layout
import Scaffold.Python.Lexis

namespace Scaffold.Python

open Scaffold.Grammar

private def newlineSet : TokenSet := grammar.setOf [.newline]
private def indentSet : TokenSet := grammar.setOf [.indent]
private def dedentSet : TokenSet := grammar.setOf [.dedent]
private def stringStartSet : TokenSet := grammar.setOf [.stringStart]
private def stringTextSet : TokenSet := grammar.setOf [.stringText]
private def escapedBraceSet : TokenSet := grammar.setOf [.escapedBrace]
private def closerSet : TokenSet := grammar.setOf [.symbol "]", .symbol ")", .symbol "\x7d"]
private def exceptSet : TokenSet := grammar.setOf [.symbol "except"]

private def expected (valid : TokenSet) : Layout.Expected where
  newline := valid &&& newlineSet != 0
  indent := valid &&& indentSet != 0
  dedent := valid &&& dedentSet != 0
  stringStart := valid &&& stringStartSet != 0
  stringText := valid &&& stringTextSet != 0
  escapedBrace := valid &&& escapedBraceSet != 0
  closer := valid &&& closerSet != 0
  except := valid &&& exceptSet != 0

private def afterMark (src : Source) (i : Nat) : Nat :=
  if i == 0 && src.char? 0 == some (Char.ofNat 0xFEFF) then 1 else i

private def layoutToken? (src : Source) (valid : TokenSet) (layout : Option Layout) (i : Nat) :
    Option (Parse.LayoutToken Layout) := do
  let found ← Layout.next? src (expected valid) (layout.getD .initial) (afterMark src i)
  some ⟨grammar.number found.kind, found.first, found.stop, found.layout⟩

def language : Parse.Language Kind Layout where
  grammar := grammar
  error := .error
  named := Kind.isNamed
  layoutToken? := layoutToken?
  token := fun src valid i => Lexis.token src valid (afterMark src i)
  keyword? := Lexis.keyword?
  recoverable := (1 <<< grammar.tokenCount) - 1 - TokenSet.single (grammar.number .formatText)

end Scaffold.Python
