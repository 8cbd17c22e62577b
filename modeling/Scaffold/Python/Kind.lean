namespace Scaffold.Python

inductive Kind where
  -- tokens
  | endOfText
  | symbol (text : String)
  | identifier
  | integer
  | float
  | trueLiteral
  | falseLiteral
  | noneLiteral
  | ellipsis
  | escapeSequence
  | loneBackslash
  | formatText
  | typeConversion
  | comment
  | lineContinuation
  -- tokens of the layout
  | newline
  | indent
  | dedent
  | stringStart
  | stringText
  | escapedBrace
  | stringEnd
  -- statements
  | module
  | statement
  | simpleStatements
  | simpleStatement
  | importStatement
  | importPrefix
  | relativeImport
  | futureImport
  | importFrom
  | importList
  | aliasedImport
  | wildcardImport
  | printStatement
  | chevron
  | assertStatement
  | expressionStatement
  | namedExpression
  | namedExpressionTarget
  | returnStatement
  | deleteStatement
  | expressions
  | raiseStatement
  | passStatement
  | breakStatement
  | continueStatement
  | compoundStatement
  | ifStatement
  | elifClause
  | elseClause
  | matchStatement
  | matchBlock
  | caseClause
  | forStatement
  | whileStatement
  | tryStatement
  | exceptClause
  | exceptGroupClause
  | finallyClause
  | withStatement
  | withClause
  | withItem
  | functionDefinition
  | parameters
  | lambdaParameters
  | listSplat
  | dictionarySplat
  | globalStatement
  | nonlocalStatement
  | execStatement
  | typeAlias
  | classDefinition
  | typeParameter
  | parenthesizedListSplat
  | argumentList
  | decoratedDefinition
  | decorator
  | suite
  | block
  | expressionList
  | dottedName
  -- patterns
  | casePattern
  | simplePattern
  | caseAsPattern
  | unionPattern
  | caseListPattern
  | caseTuplePattern
  | dictPattern
  | keyValuePattern
  | keywordPattern
  | splatPattern
  | classPattern
  | complexPattern
  | parameterList
  | patterns
  | parameter
  | pattern
  | tuplePattern
  | listPattern
  | defaultParameter
  | typedDefaultParameter
  | listSplatPattern
  | dictionarySplatPattern
  | asPattern
  | asPatternTarget
  -- expressions
  | clauseExpression
  | expression
  | primaryExpression
  | notOperator
  | booleanOperator
  | binaryOperator
  | unaryOperator
  | notIn
  | isNot
  | comparison
  | lambda
  | clauseLambda
  | assignment
  | augmentedAssignment
  | leftHandSide
  | patternList
  | rightHandSide
  | yield
  | attribute
  | subscript
  | slice
  | call
  | typedParameter
  | type
  | splatType
  | genericType
  | unionType
  | constrainedType
  | memberType
  | keywordArgument
  | list
  | set
  | tuple
  | dictionary
  | pair
  | listComprehension
  | dictionaryComprehension
  | setComprehension
  | generatorExpression
  | comprehensionClauses
  | parenthesizedExpression
  | collectionElements
  | forInClause
  | ifClause
  | conditionalExpression
  | concatenatedString
  | string
  | stringContent
  | interpolation
  | formatExpressionBody
  | formatSpecifier
  | formatExpression
  | keywordIdentifier
  | await
  | positionalSeparator
  | keywordSeparator
  | error
  deriving DecidableEq, Hashable, Repr

namespace Kind

def isHidden : Kind → Bool
  | endOfText | loneBackslash | formatText | newline | indent | dedent | stringText
  | statement | simpleStatements | simpleStatement | importList | namedExpressionTarget | expressions
  | compoundStatement | matchBlock | suite
  | simplePattern | caseAsPattern | caseListPattern | caseTuplePattern | keyValuePattern
  | parameterList | patterns | parameter | pattern
  | clauseExpression | expression | primaryExpression | notIn | isNot
  | leftHandSide | rightHandSide | comprehensionClauses | collectionElements
  | formatExpressionBody => true
  | _ => false

def isNamed : Kind → Bool
  | symbol _ => false
  | _ => true

/-- The name under which a token is reported as missing. Of the constructs only `block` can stand for
a token. -/
def label : Kind → String
  | symbol text => text
  | identifier => "identifier"
  | integer => "integer"
  | float => "float"
  | trueLiteral => "true"
  | falseLiteral => "false"
  | noneLiteral => "none"
  | ellipsis => "ellipsis"
  | escapeSequence => "escape_sequence"
  | typeConversion => "type_conversion"
  | comment => "comment"
  | lineContinuation => "line_continuation"
  | stringStart => "string_start"
  | escapedBrace => "escape_interpolation"
  | stringEnd => "string_end"
  | block => "block"
  | _ => ""

end Kind

end Scaffold.Python
