import DesignRules.Yaml.Tag

/-! # Tokens of a document

The indents of a document become tokens that open and close its blocks.
-/

namespace DesignRules.Yaml

inductive Token where
  | directive (d : Directive)
  /-- The line of dashes before a document. -/
  | start
  /-- The line of points after a document. -/
  | finish
  /-- A block of items starts here. -/
  | items
  /-- A block of fields starts here. -/
  | fields
  /-- The innermost block ends here. -/
  | close
  | openBracket
  | closeBracket
  | openBrace
  | closeBrace
  | dash
  | comma
  /-- A key comes next. -/
  | key
  | colon
  | alias (name : String)
  | anchor (name : String)
  | tag (t : Tag)
  | scalar (text : String) (isPlain : Bool)
  /-- The document goes on with something that is no token. -/
  | fault (f : Fault)
  deriving DecidableEq, Repr

end DesignRules.Yaml
