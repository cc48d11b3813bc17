import ModelStore.Value.Basic
import ModelStore.Text.Quoted

/-!
Values written as text. The literal form names the type of a value where that is needed and quotes
texts; it stands in messages. The plain form is the literal form except that a text, a number and
an identifier stand for themselves; it is what a value becomes where a text is asked for.
-/
namespace ModelStore.Value

open Number Text

def boolLiteral (b : Bool) : String := if b then "True" else "False"

def switchNames (switches : PatternSwitches) : List String :=
  (if switches.ignoreCase then ["re.IGNORECASE"] else []) ++
  (if switches.multiLine then ["re.MULTILINE"] else []) ++
  (if switches.dotAll then ["re.DOTALL"] else []) ++
  (if switches.verbose then ["re.VERBOSE"] else [])

/-- At most 200 characters of the source are shown. -/
def patternLiteral (source : String) (switches : PatternSwitches) : String :=
  let shown := String.ofList ((quoteChars source.toList).take 200)
  match switchNames switches with
  | [] => "re.compile(" ++ shown ++ ")"
  | names => "re.compile(" ++ shown ++ ", " ++ "|".intercalate names ++ ")"

def originName : SessionOrigin → String
  | .given => "given"
  | .opened => "opened"

mutual

def literal : Value → String
  | .null => "None"
  | .bool b => boolLiteral b
  | .int n => toString n
  | .float x => plainLayout.text x
  | .text s => quoted s
  | .bytes bs => String.ofList (quoteBytes bs)
  | .decimal d => "Decimal('" ++ d.text ++ "')"
  | .decimal128 d => "Decimal128('" ++ d.text ++ "')"
  | .objectId id => "ObjectId('" ++ id.text ++ "')"
  | .regex source flags => "Regex(" ++ quoted source ++ ", " ++ toString flags ++ ")"
  | .pattern source switches => patternLiteral source switches
  | .list items => "[" ++ ", ".intercalate (literals items) ++ "]"
  | .tuple items =>
      match literals items with
      | [item] => "(" ++ item ++ ",)"
      | written => "(" ++ ", ".intercalate written ++ ")"
  | .doc entries => "\x7b" ++ ", ".intercalate (entryLiterals entries) ++ "\x7d"
  | .point _ _ => "<point>"
  | .record _ => "<native result>"
  | .ruling value handled =>
      "HookResult(value=" ++ literal value ++ ", handled=" ++ boolLiteral handled ++ ")"
  | .transaction _ => "<transaction>"
  | .client number => "<client " ++ toString number ++ ">"
  | .database name => "<database " ++ name ++ ">"
  | .collection name => "<collection " ++ literal name ++ ">"
  | .cursor number => "<cursor " ++ toString number ++ ">"
  | .session origin => "<session " ++ originName origin ++ ">"

def literals : List Value → List String
  | [] => []
  | v :: rest => literal v :: literals rest

def entryLiterals : List (String × Value) → List String
  | [] => []
  | (key, v) :: rest => (quoted key ++ ": " ++ literal v) :: entryLiterals rest

end

def plain : Value → String
  | .text s => s
  | .decimal d => d.text
  | .decimal128 d => d.text
  | .objectId id => id.text
  | v => literal v

end ModelStore.Value
