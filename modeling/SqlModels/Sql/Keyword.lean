import SqlModels.Text.Basic

namespace SqlModels.Sql

/-- The words that have a meaning of their own somewhere in a statement, a type or an expression. -/
inductive Keyword
  | ACTION | ADD | AGAINST | ALL | ALTER | ALWAYS | ANALYZE | AND | ANTI | ANY | APPLY | ARRAY
  | ARRAY_AGG | AS | ASC | AT | AUTHORIZATION | AUTOINCREMENT | AUTO_INCREMENT | AVRO | BEGIN
  | BETWEEN | BIGDECIMAL | BIGINT | BIGNUMERIC | BINARY | BLOB | BOOL | BOOLEAN | BOTH | BTREE | BY
  | BYTEA | CACHE | CASCADE | CASE | CAST | CEIL | CENTURY | CHAIN | CHANGE | CHAR | CHARACTER
  | CHARACTERS | CHARSET | CHECK | CLOB | CLONE | CLUSTER | COLLATE | COLUMN | COMMENT | COMMIT
  | COMMITTED | CONCURRENTLY | CONFLICT | CONSTRAINT | COUNT | CREATE | CROSS | CURRENT
  | CURRENT_DATE | CURRENT_TIME | CURRENT_TIMESTAMP | CYCLE | DATA | DATABASE | DATE | DATETIME
  | DAY | DEC | DECADE | DECIMAL | DEFAULT | DELETE | DELIMITED | DESC | DIRECTORY | DISTINCT
  | DISTRIBUTE | DIV | DO | DOUBLE | DOW | DOY | DROP | DUPLICATE | ELSE | END | ENGINE | ENUM
  | EPOCH | ERROR | ESCAPE | EXCEPT | EXISTS | EXPANSION | EXPLAIN | EXTERNAL | EXTRACT | FALSE
  | FETCH | FIRST | FLOAT | FLOAT4 | FLOAT8 | FLOOR | FOLLOWING | FOR | FOREIGN | FORMAT | FROM
  | FULL | FULLTEXT | FUNCTION | GENERATED | GLOBAL | GROUP | GROUPS | HASH | HAVING | HIVEVAR
  | HOUR | IDENTITY | IF | ILIKE | IN | INCLUDE | INCREMENT | INDEX | INNER | INOUT | INPUTFORMAT
  | INSERT | INT | INT2 | INT4 | INT8 | INTEGER | INTERSECT | INTERVAL | INTO | IS | ISODOW
  | ISOLATION | ISOYEAR | JOIN | JSON | JSONFILE | JULIAN | KEY | LANGUAGE | LARGE | LAST | LATERAL
  | LEADING | LEFT | LEVEL | LIKE | LIMIT | LISTAGG | LOCAL | LOCALTIME | LOCALTIMESTAMP | LOCATION
  | LOCKED | MACRO | MANAGEDLOCATION | MATCH | MATERIALIZED | MAXVALUE | MEDIUMINT | MICROSECOND
  | MICROSECONDS | MILLENIUM | MILLENNIUM | MILLISECOND | MILLISECONDS | MINUTE | MINVALUE | MODE
  | MONTH | NAME | NANOSECOND | NANOSECONDS | NATURAL | NEXT | NO | NONE | NOT | NOTHING | NOWAIT
  | NULL | NULLS | NUMERIC | NVARCHAR | OBJECT | OCTETS | OF | OFFSET | ON | ONLY | OPERATOR | OR
  | ORC | ORDER | OUT | OUTER | OUTPUTFORMAT | OVER | OVERFLOW | OVERLAY | OVERWRITE | PARQUET
  | PARTITION | PARTITIONED | PERCENT | PIVOT | PLACING | POSITION | PRECEDING | PRECISION
  | PRESERVE | PRIMARY | PURGE | QUALIFY | QUARTER | QUERY | RANGE | RCFILE | READ | REAL
  | RECURSIVE | REFERENCES | REGCLASS | RENAME | REPEATABLE | REPLACE | RESTRICT | RETURNING
  | RIGHT | ROLE | ROLLBACK | ROW | ROWID | ROWS | SAFE_CAST | SCHEMA | SECOND | SELECT | SEMI
  | SEQUENCE | SEQUENCEFILE | SERDE | SERIALIZABLE | SESSION | SET | SHARE | SIMILAR | SKIP
  | SMALLINT | SNAPSHOT | SORT | SPATIAL | STAGE | START | STORED | STRICT | STRING | SUBSTRING
  | SWAP | TABLE | TBLPROPERTIES | TEMP | TEMPORARY | TEXT | TEXTFILE | THEN | TIES | TIME
  | TIMESTAMP | TIMESTAMPTZ | TIMETZ | TIMEZONE | TIMEZONE_HOUR | TIMEZONE_MINUTE | TINYINT | TO
  | TOP | TRAILING | TRANSACTION | TRANSIENT | TRIM | TRUE | TRUNCATE | TRY_CAST | TYPE | UNBOUNDED
  | UNCOMMITTED | UNION | UNIQUE | UNKNOWN | UNLOGGED | UNNEST | UNSIGNED | UPDATE | USE | USING
  | UUID | VALUES | VARBINARY | VARCHAR | VARYING | VIEW | WEEK | WHEN | WHERE | WINDOW | WITH
  | WITHIN | WITHOUT | WORK | WRITE | XOR | YEAR | ZONE
  deriving DecidableEq

namespace Keyword

def name : Keyword → String
  | .ACTION => "ACTION" | .ADD => "ADD" | .AGAINST => "AGAINST" | .ALL => "ALL" | .ALTER => "ALTER"
  | .ALWAYS => "ALWAYS" | .ANALYZE => "ANALYZE" | .AND => "AND" | .ANTI => "ANTI" | .ANY => "ANY"
  | .APPLY => "APPLY" | .ARRAY => "ARRAY" | .ARRAY_AGG => "ARRAY_AGG" | .AS => "AS" | .ASC => "ASC"
  | .AT => "AT" | .AUTHORIZATION => "AUTHORIZATION" | .AUTOINCREMENT => "AUTOINCREMENT"
  | .AUTO_INCREMENT => "AUTO_INCREMENT" | .AVRO => "AVRO" | .BEGIN => "BEGIN"
  | .BETWEEN => "BETWEEN" | .BIGDECIMAL => "BIGDECIMAL" | .BIGINT => "BIGINT"
  | .BIGNUMERIC => "BIGNUMERIC" | .BINARY => "BINARY" | .BLOB => "BLOB" | .BOOL => "BOOL"
  | .BOOLEAN => "BOOLEAN" | .BOTH => "BOTH" | .BTREE => "BTREE" | .BY => "BY" | .BYTEA => "BYTEA"
  | .CACHE => "CACHE" | .CASCADE => "CASCADE" | .CASE => "CASE" | .CAST => "CAST" | .CEIL => "CEIL"
  | .CENTURY => "CENTURY" | .CHAIN => "CHAIN" | .CHANGE => "CHANGE" | .CHAR => "CHAR"
  | .CHARACTER => "CHARACTER" | .CHARACTERS => "CHARACTERS" | .CHARSET => "CHARSET"
  | .CHECK => "CHECK" | .CLOB => "CLOB" | .CLONE => "CLONE" | .CLUSTER => "CLUSTER"
  | .COLLATE => "COLLATE" | .COLUMN => "COLUMN" | .COMMENT => "COMMENT" | .COMMIT => "COMMIT"
  | .COMMITTED => "COMMITTED" | .CONCURRENTLY => "CONCURRENTLY" | .CONFLICT => "CONFLICT"
  | .CONSTRAINT => "CONSTRAINT" | .COUNT => "COUNT" | .CREATE => "CREATE" | .CROSS => "CROSS"
  | .CURRENT => "CURRENT" | .CURRENT_DATE => "CURRENT_DATE" | .CURRENT_TIME => "CURRENT_TIME"
  | .CURRENT_TIMESTAMP => "CURRENT_TIMESTAMP" | .CYCLE => "CYCLE" | .DATA => "DATA"
  | .DATABASE => "DATABASE" | .DATE => "DATE" | .DATETIME => "DATETIME" | .DAY => "DAY"
  | .DEC => "DEC" | .DECADE => "DECADE" | .DECIMAL => "DECIMAL" | .DEFAULT => "DEFAULT"
  | .DELETE => "DELETE" | .DELIMITED => "DELIMITED" | .DESC => "DESC" | .DIRECTORY => "DIRECTORY"
  | .DISTINCT => "DISTINCT" | .DISTRIBUTE => "DISTRIBUTE" | .DIV => "DIV" | .DO => "DO"
  | .DOUBLE => "DOUBLE" | .DOW => "DOW" | .DOY => "DOY" | .DROP => "DROP"
  | .DUPLICATE => "DUPLICATE" | .ELSE => "ELSE" | .END => "END" | .ENGINE => "ENGINE"
  | .ENUM => "ENUM" | .EPOCH => "EPOCH" | .ERROR => "ERROR" | .ESCAPE => "ESCAPE"
  | .EXCEPT => "EXCEPT" | .EXISTS => "EXISTS" | .EXPANSION => "EXPANSION" | .EXPLAIN => "EXPLAIN"
  | .EXTERNAL => "EXTERNAL" | .EXTRACT => "EXTRACT" | .FALSE => "FALSE" | .FETCH => "FETCH"
  | .FIRST => "FIRST" | .FLOAT => "FLOAT" | .FLOAT4 => "FLOAT4" | .FLOAT8 => "FLOAT8"
  | .FLOOR => "FLOOR" | .FOLLOWING => "FOLLOWING" | .FOR => "FOR" | .FOREIGN => "FOREIGN"
  | .FORMAT => "FORMAT" | .FROM => "FROM" | .FULL => "FULL" | .FULLTEXT => "FULLTEXT"
  | .FUNCTION => "FUNCTION" | .GENERATED => "GENERATED" | .GLOBAL => "GLOBAL" | .GROUP => "GROUP"
  | .GROUPS => "GROUPS" | .HASH => "HASH" | .HAVING => "HAVING" | .HIVEVAR => "HIVEVAR"
  | .HOUR => "HOUR" | .IDENTITY => "IDENTITY" | .IF => "IF" | .ILIKE => "ILIKE" | .IN => "IN"
  | .INCLUDE => "INCLUDE" | .INCREMENT => "INCREMENT" | .INDEX => "INDEX" | .INNER => "INNER"
  | .INOUT => "INOUT" | .INPUTFORMAT => "INPUTFORMAT" | .INSERT => "INSERT" | .INT => "INT"
  | .INT2 => "INT2" | .INT4 => "INT4" | .INT8 => "INT8" | .INTEGER => "INTEGER"
  | .INTERSECT => "INTERSECT" | .INTERVAL => "INTERVAL" | .INTO => "INTO" | .IS => "IS"
  | .ISODOW => "ISODOW" | .ISOLATION => "ISOLATION" | .ISOYEAR => "ISOYEAR" | .JOIN => "JOIN"
  | .JSON => "JSON" | .JSONFILE => "JSONFILE" | .JULIAN => "JULIAN" | .KEY => "KEY"
  | .LANGUAGE => "LANGUAGE" | .LARGE => "LARGE" | .LAST => "LAST" | .LATERAL => "LATERAL"
  | .LEADING => "LEADING" | .LEFT => "LEFT" | .LEVEL => "LEVEL" | .LIKE => "LIKE"
  | .LIMIT => "LIMIT" | .LISTAGG => "LISTAGG" | .LOCAL => "LOCAL" | .LOCALTIME => "LOCALTIME"
  | .LOCALTIMESTAMP => "LOCALTIMESTAMP" | .LOCATION => "LOCATION" | .LOCKED => "LOCKED"
  | .MACRO => "MACRO" | .MANAGEDLOCATION => "MANAGEDLOCATION" | .MATCH => "MATCH"
  | .MATERIALIZED => "MATERIALIZED" | .MAXVALUE => "MAXVALUE" | .MEDIUMINT => "MEDIUMINT"
  | .MICROSECOND => "MICROSECOND" | .MICROSECONDS => "MICROSECONDS" | .MILLENIUM => "MILLENIUM"
  | .MILLENNIUM => "MILLENNIUM" | .MILLISECOND => "MILLISECOND" | .MILLISECONDS => "MILLISECONDS"
  | .MINUTE => "MINUTE" | .MINVALUE => "MINVALUE" | .MODE => "MODE" | .MONTH => "MONTH"
  | .NAME => "NAME" | .NANOSECOND => "NANOSECOND" | .NANOSECONDS => "NANOSECONDS"
  | .NATURAL => "NATURAL" | .NEXT => "NEXT" | .NO => "NO" | .NONE => "NONE" | .NOT => "NOT"
  | .NOTHING => "NOTHING" | .NOWAIT => "NOWAIT" | .NULL => "NULL" | .NULLS => "NULLS"
  | .NUMERIC => "NUMERIC" | .NVARCHAR => "NVARCHAR" | .OBJECT => "OBJECT" | .OCTETS => "OCTETS"
  | .OF => "OF" | .OFFSET => "OFFSET" | .ON => "ON" | .ONLY => "ONLY" | .OPERATOR => "OPERATOR"
  | .OR => "OR" | .ORC => "ORC" | .ORDER => "ORDER" | .OUT => "OUT" | .OUTER => "OUTER"
  | .OUTPUTFORMAT => "OUTPUTFORMAT" | .OVER => "OVER" | .OVERFLOW => "OVERFLOW"
  | .OVERLAY => "OVERLAY" | .OVERWRITE => "OVERWRITE" | .PARQUET => "PARQUET"
  | .PARTITION => "PARTITION" | .PARTITIONED => "PARTITIONED" | .PERCENT => "PERCENT"
  | .PIVOT => "PIVOT" | .PLACING => "PLACING" | .POSITION => "POSITION" | .PRECEDING => "PRECEDING"
  | .PRECISION => "PRECISION" | .PRESERVE => "PRESERVE" | .PRIMARY => "PRIMARY" | .PURGE => "PURGE"
  | .QUALIFY => "QUALIFY" | .QUARTER => "QUARTER" | .QUERY => "QUERY" | .RANGE => "RANGE"
  | .RCFILE => "RCFILE" | .READ => "READ" | .REAL => "REAL" | .RECURSIVE => "RECURSIVE"
  | .REFERENCES => "REFERENCES" | .REGCLASS => "REGCLASS" | .RENAME => "RENAME"
  | .REPEATABLE => "REPEATABLE" | .REPLACE => "REPLACE" | .RESTRICT => "RESTRICT"
  | .RETURNING => "RETURNING" | .RIGHT => "RIGHT" | .ROLE => "ROLE" | .ROLLBACK => "ROLLBACK"
  | .ROW => "ROW" | .ROWID => "ROWID" | .ROWS => "ROWS" | .SAFE_CAST => "SAFE_CAST"
  | .SCHEMA => "SCHEMA" | .SECOND => "SECOND" | .SELECT => "SELECT" | .SEMI => "SEMI"
  | .SEQUENCE => "SEQUENCE" | .SEQUENCEFILE => "SEQUENCEFILE" | .SERDE => "SERDE"
  | .SERIALIZABLE => "SERIALIZABLE" | .SESSION => "SESSION" | .SET => "SET" | .SHARE => "SHARE"
  | .SIMILAR => "SIMILAR" | .SKIP => "SKIP" | .SMALLINT => "SMALLINT" | .SNAPSHOT => "SNAPSHOT"
  | .SORT => "SORT" | .SPATIAL => "SPATIAL" | .STAGE => "STAGE" | .START => "START"
  | .STORED => "STORED" | .STRICT => "STRICT" | .STRING => "STRING" | .SUBSTRING => "SUBSTRING"
  | .SWAP => "SWAP" | .TABLE => "TABLE" | .TBLPROPERTIES => "TBLPROPERTIES" | .TEMP => "TEMP"
  | .TEMPORARY => "TEMPORARY" | .TEXT => "TEXT" | .TEXTFILE => "TEXTFILE" | .THEN => "THEN"
  | .TIES => "TIES" | .TIME => "TIME" | .TIMESTAMP => "TIMESTAMP" | .TIMESTAMPTZ => "TIMESTAMPTZ"
  | .TIMETZ => "TIMETZ" | .TIMEZONE => "TIMEZONE" | .TIMEZONE_HOUR => "TIMEZONE_HOUR"
  | .TIMEZONE_MINUTE => "TIMEZONE_MINUTE" | .TINYINT => "TINYINT" | .TO => "TO" | .TOP => "TOP"
  | .TRAILING => "TRAILING" | .TRANSACTION => "TRANSACTION" | .TRANSIENT => "TRANSIENT"
  | .TRIM => "TRIM" | .TRUE => "TRUE" | .TRUNCATE => "TRUNCATE" | .TRY_CAST => "TRY_CAST"
  | .TYPE => "TYPE" | .UNBOUNDED => "UNBOUNDED" | .UNCOMMITTED => "UNCOMMITTED" | .UNION => "UNION"
  | .UNIQUE => "UNIQUE" | .UNKNOWN => "UNKNOWN" | .UNLOGGED => "UNLOGGED" | .UNNEST => "UNNEST"
  | .UNSIGNED => "UNSIGNED" | .UPDATE => "UPDATE" | .USE => "USE" | .USING => "USING"
  | .UUID => "UUID" | .VALUES => "VALUES" | .VARBINARY => "VARBINARY" | .VARCHAR => "VARCHAR"
  | .VARYING => "VARYING" | .VIEW => "VIEW" | .WEEK => "WEEK" | .WHEN => "WHEN" | .WHERE => "WHERE"
  | .WINDOW => "WINDOW" | .WITH => "WITH" | .WITHIN => "WITHIN" | .WITHOUT => "WITHOUT"
  | .WORK => "WORK" | .WRITE => "WRITE" | .XOR => "XOR" | .YEAR => "YEAR" | .ZONE => "ZONE"

/-- The upper case of a character as far as it matters for keywords: of the characters outside
ASCII only those whose upper case lies within ASCII are raised. -/
def raiseChar (c : Char) : Text :=
  if c.toNat < 0x80 then [c.toUpper]
  else if c = 'ı' then ['I']
  else if c = 'ſ' then ['S']
  else if c = 'ß' then ['S', 'S']
  else if c = 'ﬀ' then ['F', 'F']
  else if c = 'ﬁ' then ['F', 'I']
  else if c = 'ﬂ' then ['F', 'L']
  else if c = 'ﬃ' then ['F', 'F', 'I']
  else if c = 'ﬄ' then ['F', 'F', 'L']
  else if c = 'ﬅ' || c = 'ﬆ' then ['S', 'T']
  else [c]

def raise (word : String) : Text :=
  word.toList.flatMap raiseChar

/-- Whether a word spells the keyword in some letter case. -/
def spelledBy (k : Keyword) (word : String) : Bool :=
  raise word == k.name.toList

end Keyword

end SqlModels.Sql
