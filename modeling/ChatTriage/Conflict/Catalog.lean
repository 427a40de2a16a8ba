import ChatTriage.Conflict.Table

/-!
# The conflict rules of the catalog

Markers tell the two languages of a pair apart, so the same construct may be a marker in
one pair and none in another. The rules stand in the order in which they are applied.
-/

namespace ChatTriage.Marker

def cSharp : List String := [
  r#"#(?:region|endregion)\b"#,
  r#"\busing\s+System\b"#,
  r#"\bConsole\.(?:Write|WriteLine|ReadLine|ReadKey)\b"#,
  r#"\bnamespace\s+[A-Z]\w*"#,
  r#"\{\s*get;"#,
  r#"\bstring\s+\w+\s*=|\bstring\s*\[\]"#,
  r#"\bvar\s+\w+\s*=\s*new\b"#,
  r#"\b(?:Dictionary|IEnumerable|IList)<"#,
  r#"\basync\s+Task\b"#,
  r#"\.NET\b|\b\w+\.(?:cs|csproj)\b"#,
  r#"\b(?:internal|sealed)\s+\w+|\boverride\s+(?:void|string|int|bool)\b"#]

def java : List String := [
  r#"@(?:Override|Deprecated|SuppressWarnings)\b"#,
  r#"\bSystem\.(?:out|err)\.print"#,
  r#"(?m)^\s*import\s+javax?\."#,
  r#"(?m)^\s*package\s+[a-z][\w.]*\s*;"#,
  r#"\bpublic\s+static\s+void\s+main\s*\(\s*String\b"#,
  r#"\bthrows\s+\w+"#,
  r#"\bString\s+\w+\s*=|\bString\s*\[\]"#,
  r#"\bfinal\s+\w+\s+\w+\s*="#,
  r#"\b(?:extends|implements)\s+\w+"#,
  r#"\b\w+\.java\b"#]

def ruby : List String := [
  r#"(?m)^\s*end\s*$"#,
  r#"\battr_(?:accessor|reader|writer)\b"#,
  r#"\bputs\b"#,
  r#"#\{[^}]+\}"#,
  r#"\bdo\s*\|[\w, ]+\|"#,
  r#"(?m)^\s*@\w+\s*="#,
  r#":\w+\s*=>"#,
  r#"\brequire(?:_relative)?\s+['"]"#,
  r#"\b(?:elsif|unless|rescue|ensure)\b"#,
  r#"\b\w+\.rb\b|#!.*\bruby\b"#,
  r#"\b[A-Z]\w*\.new\b"#,
  r#"(?m)^\s*def\s+\w+[?!]?\s*$"#]

def python : List String := [
  r#"(?m)^\s*def\s+\w+\s*\([^)]*\)\s*(?:->\s*[^:\n]+)?:"#,
  r#"(?m)^\s*class\s+\w+\s*(?:\([^)]*\))?\s*:"#,
  r#"\bself\.\w+"#,
  r#"\b__\w+__\b"#,
  r#"(?m)^\s*(?:from\s+[\w.]+\s+)?import\s+[\w.]+(?:\s+as\s+\w+)?\s*$"#,
  r#"\belif\b"#,
  r#"(?m)^\s*(?:try|finally|else|except\b[^:\n]*)\s*:\s*$"#,
  r#"\b(?:True|False|None)\b"#,
  r#"\blambda\s+[\w, ]*:"#,
  r#"\bprint\s*\("#,
  r#"\b\w+\.py\b"#,
  r#"\bf['"][^'"\n]*\{"#,
  r#"\[[^\]\n]+\s+for\s+\w+\s+in\s+"#]

def php : List String := [
  r#"<\?php\b|<\?=|\?>"#,
  r#"\$\w+\s*="#,
  r#"\$this->"#,
  r#"\becho\b"#,
  r#"\b(?:print_r|var_dump|isset|unset|empty)\s*\("#,
  r#"\$_(?:GET|POST|SESSION|COOKIE|SERVER|REQUEST)\b"#,
  r#"\bforeach\s*\(\s*\$"#,
  r#"\b(?:public|private|protected)\s+(?:static\s+)?function\b"#,
  r#"\b(?:require|include)_once\b|\binclude\s*\(?\s*['"]"#,
  r#"\barray\s*\("#,
  r#"\$\w+->\w+"#,
  r#"\b\w+\.php\b"#,
  r#"\bfunction\s+\w+\s*\([^)]*\$"#]

def javaScript : List String := [
  r#"\b(?:const|let|var)\s+\w+\s*="#,
  r#"\bfunction\s*\w*\s*\("#,
  r#"\)\s*=>"#,
  r#"\bconsole\.\w+\s*\("#,
  r#"\b(?:document|window)\.\w+"#,
  r#"\brequire\(|\bmodule\.exports\b"#,
  r#"\.prototype\."#,
  r#"\bundefined\b|===|!=="#,
  r#"\.then\(|\bPromise\b|\bfetch\("#,
  r#"\basync\s+function\b|\basync\s*\("#,
  r#"\.addEventListener\("#,
  r#"\b\w+\.jsx?\b"#,
  r#"\$\(\s*['"][#.]?\w|\$\(\s*(?:document|this|window)\b"#]

/-- What JavaScript has and TypeScript rarely carries. -/
def javaScriptOnly : List String := [
  r#"\brequire\(\s*['"]"#,
  r#"\bmodule\.exports\b"#,
  r#"\.prototype\."#,
  r#"\b\w+\.jsx?\b"#,
  r#"@param\s+\{"#,
  r#"(?m)^\s*var\s+\w+"#,
  r#"\bPropTypes\b"#]

def typeScript : List String := [
  r#":\s*(?:string|number|boolean|void|any|unknown|never|object)\b"#,
  r#"\)\s*:\s*[\w<>\[\]]+\s*(?:=>|\{)"#,
  r#"\binterface\s+\w+"#,
  r#"\btype\s+\w+\s*="#,
  r#"\b(?:public|private|protected|readonly)\s+\w+\s*[:?(]"#,
  r#"\bas\s+(?:const|string|number|any|unknown)\b"#,
  r#"\w\?\s*:\s*\w+"#,
  r#"\bimplements\s+\w+"#,
  r#"\benum\s+\w+\s*\{"#,
  r#"<[A-Z]\w*(?:\[\])?>"#,
  r#"\b\w+\.tsx?\b"#,
  r#"\bdeclare\s+\w+"#]

def bash : List String := [
  r#"(?m)^#!.*\b(?:ba|z)?sh\b"#,
  r#"(?m)^\s*(?:fi|done|esac)\s*$"#,
  r#";\s*(?:then|do)\b"#,
  r#"\$\([a-z]"#,
  r#""\$\w+""#,
  r#"\becho\b"#,
  r#"(?m)^\s*(?:export|local|declare)\s+\w+"#,
  r#"\[\[?\s+-[a-z]\s"#,
  r#"\b(?:grep|sed|awk|chmod|sudo|xargs|mkdir)\b"#,
  r#"2>&1|>\s*/dev/null"#,
  r#"\b\w+\.sh\b"#]

def rust : List String := [
  r#"\bfn\s+\w+"#,
  r#"\blet\s+mut\b"#,
  r#"\b(?:println|format|vec|panic|assert|assert_eq|write|writeln)!"#,
  r#"\bimpl\b"#,
  r#"\bpub\s+(?:fn|struct|enum|mod|use|crate)\b"#,
  r#"\buse\s+(?:std|crate|super)::"#,
  r#"&mut\b|&self\b|&'\w+"#,
  r#"\.unwrap\(\)|\.expect\("#,
  r#"\b(?:Option|Result|Vec|Box)<"#,
  r#"#\[\w+"#,
  r#"\bmatch\s+\w+"#,
  r#"->\s*[A-Z(&]"#,
  r#"\b\w+\.rs\b"#]

def cpp : List String := [
  r#"(?m)^\s*#include\b"#,
  r#"\bstd::"#,
  r#"\b(?:cout|cin|endl)\b"#,
  r#"\busing\s+namespace\b"#,
  r#"\btemplate\s*<"#,
  r#"(?m)^\s*(?:public|private|protected)\s*:"#,
  r#"\b(?:nullptr|virtual|typename)\b"#,
  r#"\b\w+::\w+\s*\("#,
  r#"\bint\s+main\s*\("#,
  r#"\b\w+\.(?:cpp|hpp|cc|h|ino)\b"#,
  r#"\w->\w+"#]

def sql : List String := [
  r#"(?is)\bSELECT\b.+?\bFROM\b"#,
  r#"(?i)\bINSERT\s+INTO\b"#,
  r#"(?i)\bUPDATE\s+\w+\s+SET\b"#,
  r#"(?i)\bDELETE\s+FROM\b"#,
  r#"(?i)\b(?:CREATE|ALTER|DROP)\s+TABLE\b"#,
  r#"(?i)\bWHERE\s+\w+\s*(?:=|<>|!=|<|>|LIKE\b|IN\b|IS\b)"#,
  r#"(?i)\b(?:GROUP|ORDER)\s+BY\b"#,
  r#"(?i)\bJOIN\s+\w+"#,
  r#"(?m)^\s*--"#,
  r#"(?i)\b(?:VARCHAR|INTEGER|PRIMARY\s+KEY)\b"#]

def kotlin : List String := [
  r#"\bfun\s+\w+"#,
  r#"(?m)^\s*val\s+\w+"#,
  r#"\b(?:data|sealed|open)\s+class\b"#,
  r#"\bwhen\s*[({]"#,
  r#"\b(?:listOf|mapOf|setOf|mutableListOf)\s*\("#,
  r#"(?m)^\s*import\s+(?:kotlin|kotlinx|android)\."#,
  r#"\bcompanion\s+object\b|\bobject\s+\w+"#,
  r#"\bsuspend\s+fun\b|\blateinit\b"#,
  r#""[^"\n]*\$\{?\w+"#,
  r#"\b\w+\.kts?\b"#,
  r#"(?m)(?:^|[^.\w])println\s*\("#]

def swift : List String := [
  r#"\bfunc\s+\w+"#,
  r#"\bguard\b"#,
  r#"\\\("#,
  r#"(?m)^\s*import\s+(?:UIKit|SwiftUI|Foundation|Combine)\b"#,
  r#"\bif\s+let\s+\w+\s*="#,
  r#"@(?:IBOutlet|IBAction|objc|State|Published|Binding|escaping)\b"#,
  r#"\b(?:let|var)\s+\w+\s*:\s*[A-Z]\w*"#,
  r#"\bnil\b"#,
  r#"\b\w+\.swift\b"#,
  r#"\bextension\s+\w+"#,
  r#"\boverride\s+func\b"#]

end ChatTriage.Marker

namespace ChatTriage

/-- The rules between look-alike languages, in the order of application. No two weights
of a rule are equal, so every tie in markers is broken. -/
def Conflict.catalog : List ConflictRule := [
  ⟨.cSharp, 6, Marker.cSharp, .java, 5, Marker.java⟩,
  ⟨.cSharp, 6, Marker.cSharp, .ruby, 5, Marker.ruby⟩,
  ⟨.java, 5, Marker.java, .ruby, 6, Marker.ruby⟩,
  ⟨.python, 5, Marker.python, .ruby, 6, Marker.ruby⟩,
  ⟨.php, 5, Marker.php, .ruby, 6, Marker.ruby⟩,
  ⟨.java, 6, Marker.java, .php, 5, Marker.php⟩,
  ⟨.cSharp, 6, Marker.cSharp, .php, 5, Marker.php⟩,
  ⟨.javaScript, 5, Marker.javaScript, .cSharp, 6, Marker.cSharp⟩,
  ⟨.javaScript, 5, Marker.javaScript, .ruby, 6, Marker.ruby⟩,
  ⟨.javaScript, 5, Marker.javaScript, .php, 6, Marker.php⟩,
  ⟨.javaScript, 5, Marker.javaScriptOnly, .typeScript, 6, Marker.typeScript⟩,
  ⟨.php, 5, Marker.php, .typeScript, 6, Marker.typeScript⟩,
  ⟨.java, 6, Marker.java, .cpp, 5, Marker.cpp⟩,
  ⟨.cpp, 5, Marker.cpp, .cSharp, 6, Marker.cSharp⟩,
  ⟨.bash, 6, Marker.bash, .javaScript, 5, Marker.javaScript⟩,
  ⟨.rust, 6, Marker.rust, .bash, 5, Marker.bash⟩,
  ⟨.swift, 6, Marker.swift, .python, 5, Marker.python⟩,
  ⟨.kotlin, 6, Marker.kotlin, .python, 5, Marker.python⟩,
  ⟨.sql, 6, Marker.sql, .python, 5, Marker.python⟩,
  ⟨.python, 6, Marker.python, .javaScript, 5, Marker.javaScript⟩]

/-- The table that `ofRules` builds of the catalog. -/
def ConflictTable.builtin : ConflictTable :=
  ⟨Conflict.catalog.map ConflictRule.read⟩

end ChatTriage
