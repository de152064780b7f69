import SqlModels.Sql.Token
import SqlModels.Text.Quoted

/-!
Why a text is not accepted: an unexpected token, an unfinished one, an integer out of range, nesting
beyond the limit. Each cause has one message.
-/

namespace SqlModels.Sql

inductive Expectation
  | statement | statementEnd | createdObject | replacedObject | droppedObject | alteredObject
  | alterOperation | alterColumnOperation | indexRenaming | indexName | identifier
  | keyword (k : Keyword) | symbol (s : Symbol) | columnOrConstraint | columnEnd
  | constraintDetails | tableConstraint | unnamedFulltext | columnList | indexType
  | referentialAction | dataType | typeModifiers | integer | commentText | enumValue | enumEnd
  | tableComment | clusterName | fileFormat | literalString | literalNumber | value | plainValue
  | unquotedValue | variableValue | timeZoneValue | assignment | isolationLevel
  | transactionMode | query | aliasName | crossJoin | joinKind | naturalJoin | expression
  | partAfterPeriod | truthTest | timeZoneName | subscriptKey | oneOf (first second : Keyword)
  | dateField | frameUnit | frameBound | predicate | overflowFiller | overflowCount | fetchEnd
  | lateralQuery | joinedTable | schemaName | tableName | aggregateName
  deriving DecidableEq

def Expectation.text : Expectation → String
  | .statement => "an SQL statement"
  | .statementEnd => "end of statement"
  | .createdObject => "an object type after CREATE"
  | .replacedObject =>
    "[EXTERNAL] TABLE or [MATERIALIZED] VIEW or FUNCTION after CREATE OR REPLACE"
  | .droppedObject => "TABLE, VIEW, INDEX, ROLE, SCHEMA, FUNCTION, STAGE or SEQUENCE after DROP"
  | .alteredObject => "one of VIEW or TABLE or INDEX or ROLE"
  | .alterOperation => "ADD, RENAME, PARTITION, SWAP or DROP after ALTER TABLE"
  | .alterColumnOperation => "SET/DROP NOT NULL, SET DEFAULT, SET DATA TYPE after ALTER COLUMN"
  | .indexRenaming => "RENAME after ALTER INDEX"
  | .indexName => "TO after RENAME"
  | .identifier => "identifier"
  | .keyword k => k.name
  | .symbol s => s.text
  | .columnOrConstraint => "column name or constraint definition"
  | .columnEnd => "',' or ')' after column definition"
  | .constraintDetails => "constraint details after CONSTRAINT <name>"
  | .tableConstraint => "PRIMARY, UNIQUE, FOREIGN, or CHECK"
  | .unnamedFulltext => "FULLTEXT or SPATIAL option without constraint name"
  | .columnList => "a list of columns in parentheses"
  | .indexType => "index type \x7bBTREE | HASH\x7d"
  | .referentialAction => "one of RESTRICT, CASCADE, SET NULL, NO ACTION or SET DEFAULT"
  | .dataType => "a data type name"
  | .typeModifiers => "type modifiers"
  | .integer => "literal int"
  | .commentText => "string"
  | .enumValue => "a string"
  | .enumEnd => ", or \x7d"
  | .tableComment => "comment"
  | .clusterName => "identifier or cluster literal"
  | .fileFormat => "fileformat"
  | .literalString => "literal string"
  | .literalNumber => "literal number"
  | .value => "a value"
  | .plainValue => "a concrete value"
  | .unquotedValue => "A value?"
  | .variableValue => "variable value"
  | .timeZoneValue => "timezone value"
  | .assignment => "equals sign or TO"
  | .isolationLevel => "isolation level"
  | .transactionMode => "transaction mode"
  | .query => "SELECT, VALUES, or a subquery in the query body"
  | .aliasName => "an identifier after AS"
  | .crossJoin => "JOIN or APPLY after CROSS"
  | .joinKind => "LEFT, RIGHT, or FULL"
  | .naturalJoin => "a join type after NATURAL"
  | .expression => "an expression:"
  | .partAfterPeriod => "an identifier or a '*' after '.'"
  | .truthTest => "[NOT] NULL or TRUE|FALSE or [NOT] DISTINCT FROM after IS"
  | .timeZoneName => "Expected Token::SingleQuotedString after AT TIME ZONE"
  | .subscriptKey => "literal string, number or function"
  | .oneOf first second => "one of " ++ first.name ++ " or " ++ second.name
  | .dateField => "date/time field"
  | .frameUnit => "ROWS, RANGE, GROUPS"
  | .frameBound => "PRECEDING or FOLLOWING"
  | .predicate => "IN or BETWEEN after NOT"
  | .overflowFiller => "either filler, WITH, or WITHOUT in LISTAGG"
  | .overflowCount => "either WITH or WITHOUT in LISTAGG"
  | .fetchEnd => "one of ONLY or WITH TIES"
  | .lateralQuery => "subquery after LATERAL"
  | .joinedTable => "joined table"
  | .schemaName => "Schema name"
  | .tableName => "Table name"
  | .aggregateName => "an aggregate function name"

inductive Clash
  | cascadeAndRestrict | roleOptions | allAndDistinct
  deriving DecidableEq

def Clash.text : Clash → String
  | .cascadeAndRestrict => "Cannot specify both CASCADE and RESTRICT in DROP"
  | .roleOptions => "Cannot specify CASCADE, RESTRICT, or PURGE in DROP ROLE"
  | .allAndDistinct => "Cannot specify both ALL and DISTINCT"

inductive Fault
  /-- A token that does not fit; `none` is the end of the text. -/
  | unexpected (wanted : Expectation) (found : Option Located)
  | unclosedString (place : Position)
  | unclosedEscapedString (place : Position)
  | unclosedName (place : Position)
  | unclosedComment (place : Position)
  | integerTooLarge (digits : Text)
  | integerMalformed (digits : Text)
  | clash (options : Clash) (place : Option Position)
  /-- An operator that binds an operand but stands for no operation. -/
  | meaninglessOperator (name : String) (place : Position)
  /-- A word that binds an operand but stands for no operation. -/
  | meaninglessWord (word : String) (k : Keyword) (place : Position)
  /-- A text that had to be one character of one byte. -/
  | noCharacter (content : Text) (place : Option Position)
  /-- A search for a position that does not tell where. -/
  | positionWithoutIn (place : Option Position)
  /-- An operator before `ANY` or `ALL` that does not compare. -/
  | noComparison (operator : String) (place : Position)
  /-- A join side that is not followed by a join; it has no place. -/
  | incompleteJoin (side : Keyword)
  /-- Roles are known but cannot be altered; the statement has no place. -/
  | unalterableRole
  | tooDeep
  /-- An unrecoverable failure that leaves no message. -/
  | abort

namespace Fault

def placeText : Option Position → String
  | none => ""
  | some p => " at Line: " ++ toString p.line ++ ", Column " ++ toString p.column

def message : Fault → String
  | .unexpected wanted none => "Expected " ++ wanted.text ++ ", found: EOF"
  | .unexpected wanted (some found) =>
    "Expected " ++ wanted.text ++ ", found: " ++ String.ofList found.token.text
      ++ placeText (some found.place)
  | .unclosedString p => "Unterminated string literal" ++ placeText (some p)
  | .unclosedEscapedString p => "Unterminated encoded string literal" ++ placeText (some p)
  | .unclosedName p =>
    "Expected close delimiter '" ++ backtick ++ "' before EOF." ++ placeText (some p)
  | .unclosedComment p => "Unexpected EOF while in a multi-line comment" ++ placeText (some p)
  | .integerTooLarge digits =>
    "Could not parse '" ++ String.ofList digits
      ++ "' as u64: number too large to fit in target type"
  | .integerMalformed digits =>
    "Could not parse '" ++ String.ofList digits ++ "' as u64: invalid digit found in string"
  | .clash options p => options.text ++ placeText p
  | .meaninglessOperator name p => "No infix parser for token " ++ name ++ placeText (some p)
  | .meaninglessWord word k p =>
    "No infix parser for token Word(Word \x7b value: \"" ++ word
      ++ "\", quote_style: None, keyword: " ++ k.name ++ " \x7d)" ++ placeText (some p)
  | .noCharacter content p =>
    "Expect a char, found " ++ String.ofList (Text.Quoted.encode content) ++ placeText p
  | .positionWithoutIn p => "Position function must include IN keyword" ++ placeText p
  | .noComparison operator p =>
    "Expected one of [=, >, <, =>, =<, !=] as comparison operator, found: " ++ operator
      ++ placeText (some p)
  | .incompleteJoin side => "expected OUTER, SEMI, ANTI or JOIN after " ++ side.name
  | .unalterableRole => "ALTER ROLE is only support for PostgreSqlDialect, MsSqlDialect"
  | .tooDeep => "recursion limit exceeded"
  | .abort => ""

end Fault

end SqlModels.Sql
