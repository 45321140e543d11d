import CloudConf.Text.Literal

/-! # Double-quoted literals as the cloud provider reads them -/
namespace CloudConf.Text.BasicLiteral

def escape? : Char → Option Char
  | '\\' => some '\\'
  | '"' => some '"'
  | 'n' => some '\n'
  | 't' => some '\t'
  | 'b' => some '\x08'
  | _ => none

/-- What stands before the closing quote, and what follows it. A literal ends on its own line. -/
def readBody : List Char → Option (List Char × List Char)
  | [] => none
  | '"' :: rest => some ([], rest)
  | '\n' :: _ => none
  | ['\\'] => none
  | '\\' :: name :: rest => (escape? name).bind fun c => (readBody rest).map (Literal.push c)
  | c :: rest => (readBody rest).map (Literal.push c)

def read : List Char → Option (List Char × List Char)
  | '"' :: rest => readBody rest
  | _ => none

end CloudConf.Text.BasicLiteral
