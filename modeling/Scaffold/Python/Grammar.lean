import Scaffold.Grammar.Basic
import Scaffold.Python.Kind

namespace Scaffold.Python

open Scaffold.Grammar
open Scaffold.Grammar.Rule (inSequence oneOf optional anyNumber many field level weight)

abbrev Shape := Rule Kind

private def tok (text : String) : Shape := .part (.symbol text)

private def one (kind : Kind) : Shape := .part kind

private def anyOf (texts : List String) : Shape := oneOf (texts.map tok)

private def commaSeparated (r : Shape) : Shape := Rule.separated (tok ",") r

private def become (kind : Kind) (r : Shape) : Shape := .rename kind r

private def leftLevel (n : Int) (r : Shape) : Shape := level n (some .left) r

private def rightLevel (n : Int) (r : Shape) : Shape := level n (some .right) r

private def plainLevel (n : Int) (r : Shape) : Shape := level n none r

private def openBrace : String := "\x7b"

private def closeBrace : String := "\x7d"

private structure Levels where
  lambda : Int := -2
  typedParameter : Int := -1
  conditional : Int := -1
  parenthesized : Int := 1
  or : Int := 10
  and : Int := 11
  not : Int := 12
  compare : Int := 13
  bitwiseOr : Int := 14
  bitwiseAnd : Int := 15
  xor : Int := 16
  shift : Int := 17
  plus : Int := 18
  times : Int := 19
  unary : Int := 20
  power : Int := 21
  call : Int := 22

private def levels : Levels := {}

private def simpleStatementRules : List (Kind × Shape) := [
  (.module, anyNumber (one .statement)),
  (.statement, oneOf [one .simpleStatements, one .compoundStatement]),
  (.simpleStatements, inSequence [
    Rule.separated (tok ";") (one .simpleStatement), optional (tok ";"), one .newline]),
  (.simpleStatement, oneOf ([.futureImport, .importStatement, .importFrom, .printStatement,
    .assertStatement, .expressionStatement, .returnStatement, .deleteStatement, .raiseStatement,
    .passStatement, .breakStatement, .continueStatement, .globalStatement, .nonlocalStatement,
    .execStatement, .typeAlias].map one)),
  (.importStatement, inSequence [tok "import", one .importList]),
  (.importPrefix, many (tok ".")),
  (.relativeImport, inSequence [one .importPrefix, optional (one .dottedName)]),
  (.futureImport, inSequence [tok "from", tok "__future__", tok "import",
    oneOf [one .importList, inSequence [tok "(", one .importList, tok ")"]]]),
  (.importFrom, inSequence [tok "from",
    field "module_name" (oneOf [one .relativeImport, one .dottedName]), tok "import",
    oneOf [one .wildcardImport, one .importList, inSequence [tok "(", one .importList, tok ")"]]]),
  (.importList, inSequence [
    commaSeparated (field "name" (oneOf [one .dottedName, one .aliasedImport])), optional (tok ",")]),
  (.aliasedImport, inSequence [field "name" (one .dottedName), tok "as", field "alias" (one .identifier)]),
  (.wildcardImport, tok "*"),
  (.printStatement, oneOf [
    plainLevel 1 (inSequence [tok "print", one .chevron,
      anyNumber (inSequence [tok ",", field "argument" (one .expression)]), optional (tok ",")]),
    plainLevel (-3) (weight (-1) (inSequence [tok "print",
      commaSeparated (field "argument" (one .expression)), optional (tok ",")]))]),
  (.chevron, inSequence [tok ">>", one .expression]),
  (.assertStatement, inSequence [tok "assert", commaSeparated (one .expression)]),
  (.expressionStatement, oneOf [one .expression,
    inSequence [commaSeparated (one .expression), optional (tok ",")],
    one .assignment, one .augmentedAssignment, one .yield]),
  (.namedExpression, inSequence [
    field "name" (one .namedExpressionTarget), tok ":=", field "value" (one .expression)]),
  (.namedExpressionTarget, oneOf [one .identifier, one .keywordIdentifier]),
  (.returnStatement, inSequence [tok "return", optional (one .expressions)]),
  (.deleteStatement, inSequence [tok "del", one .expressions]),
  (.expressions, oneOf [one .expression, one .expressionList]),
  (.raiseStatement, inSequence [tok "raise", optional (one .expressions),
    optional (inSequence [tok "from", field "cause" (one .expression)])]),
  (.passStatement, leftLevel 0 (tok "pass")),
  (.breakStatement, leftLevel 0 (tok "break")),
  (.continueStatement, leftLevel 0 (tok "continue"))]

private def compoundStatementRules : List (Kind × Shape) := [
  (.compoundStatement, oneOf ([.ifStatement, .forStatement, .whileStatement, .tryStatement,
    .withStatement, .functionDefinition, .classDefinition, .decoratedDefinition,
    .matchStatement].map one)),
  (.ifStatement, inSequence [tok "if", field "condition" (one .expression), tok ":",
    field "consequence" (one .suite), anyNumber (field "alternative" (one .elifClause)),
    optional (field "alternative" (one .elseClause))]),
  (.elifClause, inSequence [tok "elif", field "condition" (one .expression), tok ":",
    field "consequence" (one .suite)]),
  (.elseClause, inSequence [tok "else", tok ":", field "body" (one .suite)]),
  (.matchStatement, inSequence [tok "match", commaSeparated (field "subject" (one .expression)),
    optional (tok ","), tok ":", field "body" (become .block (one .matchBlock))]),
  (.matchBlock, oneOf [
    inSequence [one .indent, anyNumber (field "alternative" (one .caseClause)), one .dedent],
    one .newline]),
  (.caseClause, inSequence [tok "case", commaSeparated (one .casePattern), optional (tok ","),
    optional (field "guard" (one .ifClause)), tok ":", field "consequence" (one .suite)]),
  (.forStatement, inSequence [optional (tok "async"), tok "for", field "left" (one .leftHandSide),
    tok "in", field "right" (one .expressions), tok ":", field "body" (one .suite),
    field "alternative" (optional (one .elseClause))]),
  (.whileStatement, inSequence [tok "while", field "condition" (one .expression), tok ":",
    field "body" (one .suite), optional (field "alternative" (one .elseClause))]),
  (.tryStatement, inSequence [tok "try", tok ":", field "body" (one .suite), oneOf [
    inSequence [many (one .exceptClause), optional (one .elseClause), optional (one .finallyClause)],
    inSequence [many (one .exceptGroupClause), optional (one .elseClause),
      optional (one .finallyClause)],
    one .finallyClause]]),
  (.exceptClause, inSequence [tok "except",
    optional (inSequence [field "value" (one .expression),
      optional (inSequence [anyOf ["as", ","], field "alias" (one .expression)])]),
    tok ":", one .suite]),
  (.exceptGroupClause, inSequence [tok "except*",
    inSequence [one .expression, optional (inSequence [tok "as", one .expression])],
    tok ":", one .suite]),
  (.finallyClause, inSequence [tok "finally", tok ":", one .suite]),
  (.withStatement, inSequence [optional (tok "async"), tok "with", one .withClause, tok ":",
    field "body" (one .suite)]),
  (.withClause, oneOf [
    inSequence [commaSeparated (one .withItem), optional (tok ",")],
    inSequence [tok "(", commaSeparated (one .withItem), optional (tok ","), tok ")"]]),
  (.withItem, weight 1 (field "value" (one .expression))),
  (.functionDefinition, inSequence [optional (tok "async"), tok "def", field "name" (one .identifier),
    field "type_parameters" (optional (one .typeParameter)), field "parameters" (one .parameters),
    optional (inSequence [tok "->", field "return_type" (one .type)]), tok ":",
    field "body" (one .suite)]),
  (.parameters, inSequence [tok "(", optional (one .parameterList), tok ")"]),
  (.lambdaParameters, one .parameterList),
  (.listSplat, inSequence [tok "*", one .expression]),
  (.dictionarySplat, inSequence [tok "**", one .expression]),
  (.globalStatement, inSequence [tok "global", commaSeparated (one .identifier)]),
  (.nonlocalStatement, inSequence [tok "nonlocal", commaSeparated (one .identifier)]),
  (.execStatement, inSequence [tok "exec", field "code" (oneOf [one .string, one .identifier]),
    optional (inSequence [tok "in", commaSeparated (one .expression)])]),
  (.typeAlias, weight 1 (inSequence [tok "type", field "left" (one .type), tok "=",
    field "right" (one .type)])),
  (.classDefinition, inSequence [tok "class", field "name" (one .identifier),
    field "type_parameters" (optional (one .typeParameter)),
    field "superclasses" (optional (one .argumentList)), tok ":", field "body" (one .suite)]),
  (.typeParameter, inSequence [tok "[", commaSeparated (one .type), optional (tok ","), tok "]"]),
  (.parenthesizedListSplat, plainLevel levels.parenthesized (inSequence [tok "(",
    oneOf [become .parenthesizedExpression (one .parenthesizedListSplat), one .listSplat], tok ")"])),
  (.argumentList, inSequence [tok "(",
    optional (commaSeparated (oneOf [one .expression, one .listSplat, one .dictionarySplat,
      become .parenthesizedExpression (one .parenthesizedListSplat), one .keywordArgument])),
    optional (tok ","), tok ")"]),
  (.decoratedDefinition, inSequence [many (one .decorator),
    field "definition" (oneOf [one .classDefinition, one .functionDefinition])]),
  (.decorator, inSequence [tok "@", one .expression, one .newline]),
  (.suite, oneOf [become .block (one .simpleStatements), inSequence [one .indent, one .block],
    become .block (one .newline)]),
  (.block, inSequence [anyNumber (one .statement), one .dedent]),
  (.expressionList, rightLevel 0 (inSequence [one .expression, oneOf [tok ",",
    inSequence [many (inSequence [tok ",", one .expression]), optional (tok ",")]]])),
  (.dottedName, plainLevel 1 (Rule.separated (tok ".") (one .identifier)))]

private def number : Shape := oneOf [one .integer, one .float]

private def caseList : Shape :=
  optional (inSequence [commaSeparated (one .casePattern), optional (tok ",")])

private def splatTarget : Shape :=
  oneOf [one .identifier, one .keywordIdentifier, one .subscript, one .attribute]

private def patternRules : List (Kind × Shape) := [
  (.casePattern, plainLevel 1 (oneOf [become .asPattern (one .caseAsPattern), one .keywordPattern,
    one .simplePattern])),
  (.simplePattern, plainLevel 1 (oneOf [one .classPattern, one .splatPattern, one .unionPattern,
    become .listPattern (one .caseListPattern), become .tuplePattern (one .caseTuplePattern),
    one .dictPattern, one .string, one .concatenatedString, one .trueLiteral, one .falseLiteral,
    one .noneLiteral, inSequence [optional (tok "-"), number], one .complexPattern, one .dottedName,
    tok "_"])),
  (.caseAsPattern, inSequence [one .casePattern, tok "as", one .identifier]),
  (.unionPattern, rightLevel 0 (inSequence [one .simplePattern,
    many (leftLevel 0 (inSequence [tok "|", one .simplePattern]))])),
  (.caseListPattern, inSequence [tok "[", caseList, tok "]"]),
  (.caseTuplePattern, inSequence [tok "(", caseList, tok ")"]),
  (.dictPattern, inSequence [tok openBrace, optional (inSequence [
    commaSeparated (oneOf [one .keyValuePattern, one .splatPattern]), optional (tok ",")]),
    tok closeBrace]),
  (.keyValuePattern, inSequence [field "key" (one .simplePattern), tok ":",
    field "value" (one .casePattern)]),
  (.keywordPattern, inSequence [one .identifier, tok "=", one .simplePattern]),
  (.splatPattern, plainLevel 1 (inSequence [anyOf ["*", "**"], oneOf [one .identifier, tok "_"]])),
  (.classPattern, inSequence [one .dottedName, tok "(", caseList, tok ")"]),
  (.complexPattern, plainLevel 1 (inSequence [optional (tok "-"), number, anyOf ["+", "-"], number])),
  (.parameterList, inSequence [commaSeparated (one .parameter), optional (tok ",")]),
  (.patterns, inSequence [commaSeparated (one .pattern), optional (tok ",")]),
  (.parameter, oneOf ([.identifier, .typedParameter, .defaultParameter, .typedDefaultParameter,
    .listSplatPattern, .tuplePattern, .keywordSeparator, .positionalSeparator,
    .dictionarySplatPattern].map one)),
  (.pattern, oneOf ([.identifier, .keywordIdentifier, .subscript, .attribute, .listSplatPattern,
    .tuplePattern, .listPattern].map one)),
  (.tuplePattern, inSequence [tok "(", optional (one .patterns), tok ")"]),
  (.listPattern, inSequence [tok "[", optional (one .patterns), tok "]"]),
  (.defaultParameter, inSequence [field "name" (oneOf [one .identifier, one .tuplePattern]), tok "=",
    field "value" (one .expression)]),
  (.typedDefaultParameter, plainLevel levels.typedParameter (inSequence [
    field "name" (one .identifier), tok ":", field "type" (one .type), tok "=",
    field "value" (one .expression)])),
  (.listSplatPattern, inSequence [tok "*", splatTarget]),
  (.dictionarySplatPattern, inSequence [tok "**", splatTarget]),
  (.asPattern, leftLevel 0 (inSequence [one .expression, tok "as",
    field "alias" (become .asPatternTarget (one .expression))]))]

private def binary (associate : Int → Shape → Shape) (operator : String) (n : Int) : Shape :=
  associate n (inSequence [field "left" (one .primaryExpression), field "operator" (tok operator),
    field "right" (one .primaryExpression)])

private def logical (operator : String) (n : Int) : Shape :=
  leftLevel n (inSequence [field "left" (one .expression), field "operator" (tok operator),
    field "right" (one .expression)])

private def operatorRules : List (Kind × Shape) := [
  (.clauseExpression, oneOf [one .expression, become .lambda (one .clauseLambda)]),
  (.expression, oneOf ([.comparison, .notOperator, .booleanOperator, .lambda, .primaryExpression,
    .conditionalExpression, .namedExpression, .asPattern].map one)),
  (.primaryExpression, oneOf (([.await, .binaryOperator, .identifier, .keywordIdentifier, .string,
    .concatenatedString, .integer, .float, .trueLiteral, .falseLiteral, .noneLiteral, .unaryOperator,
    .attribute, .subscript, .call, .list, .listComprehension, .dictionary, .dictionaryComprehension,
    .set, .setComprehension, .tuple, .parenthesizedExpression, .generatorExpression,
    .ellipsis].map one) ++ [become .listSplat (one .listSplatPattern)])),
  (.notOperator, plainLevel levels.not (inSequence [tok "not", field "argument" (one .expression)])),
  (.booleanOperator, oneOf [logical "and" levels.and, logical "or" levels.or]),
  (.binaryOperator, oneOf [
    binary leftLevel "+" levels.plus, binary leftLevel "-" levels.plus,
    binary leftLevel "*" levels.times, binary leftLevel "@" levels.times,
    binary leftLevel "/" levels.times, binary leftLevel "%" levels.times,
    binary leftLevel "//" levels.times, binary rightLevel "**" levels.power,
    binary leftLevel "|" levels.bitwiseOr, binary leftLevel "&" levels.bitwiseAnd,
    binary leftLevel "^" levels.xor, binary leftLevel "<<" levels.shift,
    binary leftLevel ">>" levels.shift]),
  (.unaryOperator, plainLevel levels.unary (inSequence [field "operator" (anyOf ["+", "-", "~"]),
    field "argument" (one .primaryExpression)])),
  (.notIn, inSequence [tok "not", tok "in"]),
  (.isNot, inSequence [tok "is", tok "not"]),
  (.comparison, leftLevel levels.compare (inSequence [one .primaryExpression,
    many (inSequence [field "operators" (oneOf ((["<", "<=", "==", "!=", ">=", ">", "<>", "in"].map tok) ++
        [become (.symbol "not in") (one .notIn), tok "is", become (.symbol "is not") (one .isNot)])),
      one .primaryExpression])])),
  (.lambda, plainLevel levels.lambda (inSequence [tok "lambda",
    field "parameters" (optional (one .lambdaParameters)), tok ":", field "body" (one .expression)])),
  (.clauseLambda, inSequence [tok "lambda", field "parameters" (optional (one .lambdaParameters)),
    tok ":", field "body" (one .clauseExpression)]),
  (.assignment, inSequence [field "left" (one .leftHandSide), oneOf [
    inSequence [tok "=", field "right" (one .rightHandSide)],
    inSequence [tok ":", field "type" (one .type)],
    inSequence [tok ":", field "type" (one .type), tok "=", field "right" (one .rightHandSide)]]]),
  (.augmentedAssignment, inSequence [field "left" (one .leftHandSide),
    field "operator" (anyOf ["+=", "-=", "*=", "/=", "@=", "//=", "%=", "**=", ">>=", "<<=", "&=",
      "^=", "|="]),
    field "right" (one .rightHandSide)]),
  (.leftHandSide, oneOf [one .pattern, one .patternList]),
  (.patternList, inSequence [one .pattern, oneOf [tok ",",
    inSequence [many (inSequence [tok ",", one .pattern]), optional (tok ",")]]]),
  (.rightHandSide, oneOf ([.expression, .expressionList, .assignment, .augmentedAssignment,
    .patternList, .yield].map one)),
  (.yield, rightLevel 0 (inSequence [tok "yield", oneOf [
    inSequence [tok "from", one .expression], optional (one .expressions)]])),
  (.attribute, plainLevel levels.call (inSequence [field "object" (one .primaryExpression), tok ".",
    field "attribute" (one .identifier)])),
  (.subscript, plainLevel levels.call (inSequence [field "value" (one .primaryExpression), tok "[",
    commaSeparated (field "subscript" (oneOf [one .expression, one .slice])), optional (tok ","),
    tok "]"])),
  (.slice, inSequence [optional (one .expression), tok ":", optional (one .expression),
    optional (inSequence [tok ":", optional (one .expression)])])]

private def afterSlice : List (Kind × Shape) := [
  (.call, plainLevel levels.call (inSequence [field "function" (one .primaryExpression),
    field "arguments" (oneOf [one .generatorExpression, one .argumentList])])),
  (.typedParameter, plainLevel levels.typedParameter (inSequence [
    oneOf [one .identifier, one .listSplatPattern, one .dictionarySplatPattern], tok ":",
    field "type" (one .type)])),
  (.type, oneOf [plainLevel 1 (one .expression), one .splatType, one .genericType, one .unionType,
    one .constrainedType, one .memberType]),
  (.splatType, plainLevel 1 (inSequence [anyOf ["*", "**"], one .identifier])),
  (.genericType, plainLevel 1 (inSequence [
    oneOf [one .identifier, become .identifier (tok "type")], one .typeParameter])),
  (.unionType, leftLevel 0 (inSequence [one .type, tok "|", one .type])),
  (.constrainedType, rightLevel 0 (inSequence [one .type, tok ":", one .type])),
  (.memberType, inSequence [one .type, tok ".", one .identifier]),
  (.keywordArgument, inSequence [field "name" (oneOf [one .identifier, one .keywordIdentifier]),
    tok "=", field "value" (one .expression)]),
  (.list, inSequence [tok "[", optional (one .collectionElements), tok "]"]),
  (.set, inSequence [tok openBrace, one .collectionElements, tok closeBrace]),
  (.tuple, inSequence [tok "(", optional (one .collectionElements), tok ")"]),
  (.dictionary, inSequence [tok openBrace,
    optional (commaSeparated (oneOf [one .pair, one .dictionarySplat])), optional (tok ","),
    tok closeBrace]),
  (.pair, inSequence [field "key" (one .expression), tok ":", field "value" (one .expression)]),
  (.listComprehension, inSequence [tok "[", field "body" (one .expression),
    one .comprehensionClauses, tok "]"]),
  (.dictionaryComprehension, inSequence [tok openBrace, field "body" (one .pair),
    one .comprehensionClauses, tok closeBrace]),
  (.setComprehension, inSequence [tok openBrace, field "body" (one .expression),
    one .comprehensionClauses, tok closeBrace]),
  (.generatorExpression, inSequence [tok "(", field "body" (one .expression),
    one .comprehensionClauses, tok ")"]),
  (.comprehensionClauses, inSequence [one .forInClause,
    anyNumber (oneOf [one .forInClause, one .ifClause])]),
  (.parenthesizedExpression, plainLevel levels.parenthesized (inSequence [tok "(",
    oneOf [one .expression, one .yield], tok ")"])),
  (.collectionElements, inSequence [
    commaSeparated (oneOf ([.expression, .yield, .listSplat, .parenthesizedListSplat].map one)),
    optional (tok ",")]),
  (.forInClause, leftLevel 0 (inSequence [optional (tok "async"), tok "for",
    field "left" (one .leftHandSide), tok "in",
    field "right" (commaSeparated (one .clauseExpression)), optional (tok ",")])),
  (.ifClause, inSequence [tok "if", one .expression]),
  (.conditionalExpression, rightLevel levels.conditional (inSequence [one .expression, tok "if",
    one .expression, tok "else", one .expression])),
  (.concatenatedString, inSequence [one .string, many (one .string)]),
  (.string, inSequence [one .stringStart, anyNumber (oneOf [one .interpolation, one .stringContent]),
    one .stringEnd]),
  (.stringContent, rightLevel 0 (many (oneOf ([.escapedBrace, .escapeSequence, .loneBackslash,
    .stringText].map one)))),
  (.interpolation, inSequence [tok openBrace, field "expression" (one .formatExpressionBody),
    optional (tok "="), optional (field "type_conversion" (one .typeConversion)),
    optional (field "format_specifier" (one .formatSpecifier)), tok closeBrace]),
  (.formatExpressionBody, oneOf ([.expression, .expressionList, .patternList, .yield].map one))]

private def wordRules : List (Kind × Option Shape) := [
  (.escapeSequence, none),
  (.loneBackslash, none),
  (.formatSpecifier, some (inSequence [tok ":", anyNumber (oneOf [one .formatText,
    become .formatExpression (one .interpolation)])])),
  (.typeConversion, none),
  (.integer, none),
  (.float, none),
  (.identifier, none),
  (.keywordIdentifier, some (oneOf [
    plainLevel (-3) (become .identifier (anyOf ["print", "exec", "async", "await"])),
    become .identifier (anyOf ["type", "match"])])),
  (.trueLiteral, none),
  (.falseLiteral, none),
  (.noneLiteral, none),
  (.await, some (plainLevel levels.unary (inSequence [tok "await", one .primaryExpression]))),
  (.comment, none),
  (.lineContinuation, none),
  (.positionalSeparator, some (tok "/")),
  (.keywordSeparator, some (tok "*"))]

def spec : Spec Kind where
  finish := .endOfText
  word := .identifier
  rules :=
    (simpleStatementRules ++ compoundStatementRules ++ patternRules ++ operatorRules).map
      (fun (k, r) => (k, some r)) ++
    [(.ellipsis, none)] ++
    afterSlice.map (fun (k, r) => (k, some r)) ++ wordRules
  layout := [.newline, .indent, .dedent, .stringStart, .stringText, .escapedBrace, .stringEnd]
  extras := [.comment, .lineContinuation]
  inlined := [.simpleStatement, .compoundStatement, .suite, .expressions, .leftHandSide,
    .keywordIdentifier]
  hidden := Kind.isHidden

def grammar : Scaffold.Grammar Kind := Grammar.ofSpec spec

end Scaffold.Python
