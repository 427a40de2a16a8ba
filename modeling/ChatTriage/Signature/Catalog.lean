import ChatTriage.Signature.Table

/-!
# The signatures of the catalog

Patterns that one language shows and others seldom do. Each list is independent of the
others; the order inside a list carries no weight.
-/

namespace ChatTriage.Signature

def javaScript : List String := [
  r#"\bfunction\s*\w*\s*\([^)]*\)\s*\{"#,
  r#"\b(?:const|let|var)\s+\w+\s*="#,
  r#"\bconsole\.(?:log|error|warn|info|debug)\s*\("#,
  r#"(?:\)|\w)\s*=>"#,
  r#"\b(?:document|window|navigator)\.\w+"#,
  r#"\brequire\(\s*['"]|\bmodule\.exports\b"#,
  r#"\.prototype\."#,
  r#"\b(?:typeof|instanceof)\s+\w+"#,
  r#"\.addEventListener\(|\bfetch\(|\bPromise\.\w+|\.then\("#,
  r#"\bundefined\b|===|!=="#,
  r#"\bexport\s+(?:default|const|function|class)\b"#,
  r#"\b\w+\.(?:js|mjs|jsx)\b"#]

def typeScript : List String := [
  r#":\s*(?:string|number|boolean|void|any|unknown|never)\b"#,
  r#"\binterface\s+\w+(?:\s+extends\s+[\w, ]+)?\s*\{"#,
  r#"\btype\s+\w+(?:<[^>]*>)?\s*="#,
  r#"\b(?:public|private|protected|readonly)\s+\w+\??\s*:\s*\w+"#,
  r#"\bimport\s+(?:type\s+)?\{[^}]*\}\s+from\s+['"]"#,
  r#"\bdeclare\s+(?:module|const|function|class|global)\b"#,
  r#":\s*(?:Array|Promise|Record|Partial|ReadonlyArray)<"#,
  r#"\bas\s+(?:const|string|number|any|unknown)\b"#,
  r#"\b\w+\.tsx?\b"#,
  r#"\w\?:\s*\w+"#]

def python : List String := [
  r#"(?m)^\s*def\s+\w+\s*\([^)]*\)\s*(?:->\s*[^:\n]+)?:"#,
  r#"(?m)^\s*class\s+\w+\s*(?:\([^)]*\))?\s*:"#,
  r#"(?m)^\s*(?:from\s+[\w.]+\s+import\s+[\w*]|import\s+[\w.]+(?:\s+as\s+\w+)?(?:\s*,\s*[\w.]+)*\s*$)"#,
  r#"\bprint\s*\("#,
  r#"\b(?:True|False|None)\b"#,
  r#"\bdef\s+\w+\s*\(\s*(?:self|cls)\b"#,
  r#"__name__\s*==\s*['"]__main__['"]|\b__init__\b"#,
  r#"(?m)^\s*(?:elif\b.*|else|try|finally|except\b.*)\s*:\s*$"#,
  r#"@(?:staticmethod|classmethod|property|dataclass)\b"#,
  r#"\[[^\]\n]+\s+for\s+\w+\s+in\s+[^\]\n]+\]"#,
  r#"\b(?:len|range|enumerate|isinstance)\s*\("#,
  r#"\bwith\s+open\s*\(|\blambda\s+[\w, ]*:"#,
  r#"\b\w+\.py\b"#,
  r#"(?m)^\s*for\s+\w+(?:\s*,\s*\w+)*\s+in\s+.+:\s*$"#]

def java : List String := [
  r#"\bSystem\.(?:out|err)\.print(?:ln|f)?\s*\("#,
  r#"\bpublic\s+static\s+void\s+main\s*\(\s*String\s*\[\]\s*\w+\s*\)"#,
  r#"@(?:Override|Deprecated|SuppressWarnings|FunctionalInterface)\b"#,
  r#"(?m)^\s*import\s+(?:static\s+)?(?:java|javax|org|com)\.[\w.]+(?:\.\*)?\s*;"#,
  r#"(?m)^\s*package\s+[a-z][\w.]*\s*;"#,
  r#"\bthrows\s+\w+(?:Exception|Error)\b"#,
  r#"\b(?:public|private|protected)\s+(?:abstract\s+|static\s+|final\s+)*(?:class|interface|enum|record)\s+\w+"#,
  r#"\b(?:String|Integer|Long|Boolean|List<[\w<>, ]+>|Map<[\w<>, ]+>|ArrayList<[\w<>, ]*>)\s+\w+\s*="#,
  r#"\bnew\s+[A-Z]\w*(?:<[\w, ]*>)?\s*\("#,
  r#"\b\w+\.java\b"#,
  r#"\bfinal\s+(?:int|long|double|boolean|String|var)\s+\w+"#]

def cSharp : List String := [
  r#"\bConsole\.(?:Write|WriteLine|ReadLine|ReadKey)\s*\("#,
  r#"(?m)^\s*using\s+System(?:\.[\w.]+)?\s*;"#,
  r#"(?m)^\s*namespace\s+[A-Z][\w.]*\s*(?:;|\{|$)"#,
  r#"#(?:region|endregion)\b"#,
  r#"\b(?:Dictionary|IEnumerable|IList|ICollection|Task)<[\w<>, ]+>"#,
  r#"\bstatic\s+(?:async\s+)?(?:void|int|Task)\s+Main\s*\("#,
  r#"\{\s*get;\s*(?:(?:private|protected|init)\s+)?(?:set;|init;)?\s*\}"#,
  r#"\bvar\s+\w+\s*=\s*new\b"#,
  r#"\basync\s+Task\b|\bawait\s+[\w.]+Async\s*\("#,
  r#"\bstring\s*\[\]\s*\w+|\bstring\s+\w+\s*[=;]"#,
  r#"\.NET\b|\b\w+\.(?:cs|csproj)\b"#,
  r#"\binternal\s+(?:sealed\s+|static\s+)?class\b|\bsealed\s+class\b"#,
  r#"\boverride\s+(?:async\s+)?(?:void|string|int|bool|object|Task)\b"#,
  r#"\b(?:public|private|protected|internal)\s+(?:(?:static|virtual|override|abstract|readonly)\s+)*string\s+\w+"#,
  r#"\b(?:public|private|protected|internal)\s+[\w<>\[\]?]+\s+\w+\s*\{\s*(?:get|set)\b"#,
  r#"\bget\s*(?:\{|=>)"#]

def php : List String := [
  r#"(?m)<\?php\b|<\?=|(?:^|;)\s*\?>"#,
  r#"\$[A-Za-z_]\w*\s*(?:\.|\+|-)?=[^=>]"#,
  r#"\becho\s+[^;\n]+;"#,
  r#"\b(?:print_r|var_dump|isset|unset|in_array|array_\w+|str_\w+|explode|implode)\s*\("#,
  r#"\$this->\w+"#,
  r#"\$\w+->\w+"#,
  r#"\$_(?:GET|POST|SESSION|COOKIE|SERVER|REQUEST|FILES)\b"#,
  r#"\b(?:public|private|protected)\s+(?:static\s+)?function\s+\w+\s*\("#,
  r#"\b(?:require|include)(?:_once)?\s*\(?\s*['"][^'"]+\.php['"]"#,
  r#"\bforeach\s*\(\s*\$\w+\s+as\s+\$\w+"#,
  r#"(?m)^\s*(?:namespace|use)\s+\w+(?:\\\w+)+\s*;"#,
  r#"\b\w+\.php\b"#,
  r#"\bfunction\s+\w+\s*\(\s*(?:\??\w+\s+)?\$\w+"#]

def html : List String := [
  r#"(?i)<!DOCTYPE\s+html\b"#,
  r#"(?i)<html[\s>]|</html>"#,
  r#"<(?:div|span|p|a|ul|ol|li|table|tr|td|body|head|section|nav|header|footer|form|button|input|img|h[1-6])(?:\s[^<>]*)?/?>"#,
  r#"</(?:div|span|p|a|ul|ol|li|table|tr|td|body|head|section|nav|header|footer|form|button|h[1-6])>"#,
  r#"(?i)<(?:script|style|link|meta)\b"#,
  r#"(?i)\b\w+\.html?\b"#]

def css : List String := [
  r#"(?m)^\s*(?:[.#][A-Za-z][\w-]*|(?:html|body|div|span|a|p|h[1-6]|ul|ol|li|nav|header|footer|main|section|button|input|img|table|form)\b)[^{};()=\n]*\{"#,
  r#"(?m)^\s*(?:color|background(?:-color)?|margin(?:-\w+)?|padding(?:-\w+)?|font-(?:size|family|weight)|display|width|height|border(?:-\w+)?|position|top|left|right|bottom|flex(?:-\w+)?|grid(?:-\w+)?|z-index|opacity|text-align|line-height|overflow|cursor|transition)\s*:\s*[^;{}\n]+;"#,
  r#"@media\b|@import\s+(?:url\(|['"])|@keyframes\b|@font-face\b"#,
  r#":\s*#[0-9a-fA-F]{3,8}\b"#,
  r#"\b\d+(?:px|em|rem|vh|vw)\b"#,
  r#"\b\w+\.css\b"#,
  r#"!important\b"#]

def sql : List String := [
  r#"(?i)\bSELECT\s+(?:DISTINCT\s+)?[\w*.,\s()]+?\s+FROM\s+\w+"#,
  r#"(?i)\bINSERT\s+INTO\s+\w+"#,
  r#"(?i)\bUPDATE\s+\w+\s+SET\b"#,
  r#"(?i)\bDELETE\s+FROM\s+\w+"#,
  r#"(?i)\b(?:CREATE|ALTER|DROP)\s+(?:TABLE|INDEX|VIEW|DATABASE)\b"#,
  r#"(?i)\bWHERE\s+\w+(?:\.\w+)?\s*(?:=|<>|!=|<|>|LIKE\b|IN\b|IS\b)"#,
  r#"(?i)\bJOIN\s+\w+(?:\s+(?:AS\s+)?\w+)?\s+ON\b"#,
  r#"(?i)\b(?:GROUP|ORDER)\s+BY\b|\bHAVING\b"#,
  r#"(?i)\b(?:VARCHAR|PRIMARY\s+KEY|FOREIGN\s+KEY|REFERENCES|AUTO_INCREMENT|NOT\s+NULL)\b"#,
  r#"(?m)^\s*--\s"#,
  r#"\b(?:COUNT|SUM|AVG|MIN|MAX)\s*\("#]

def bash : List String := [
  r#"(?m)^#!\s*/(?:usr/)?bin/(?:env\s+)?(?:ba|z)?sh\b"#,
  r#"(?m)^\s*(?:fi|done|esac)\s*$"#,
  r#"(?m);\s*(?:then|do)\s*$"#,
  r#"\$\(\s*[a-z][\w-]*\s+[^)]*\)"#,
  r#"\becho\s+["'$-]|\bprintf\s+["']"#,
  r#"(?m)^\s*(?:export|local|declare|readonly)\s+\w+="#,
  r#"(?m)^\s*[A-Za-z_]\w*=(?:"[^"]*"|'[^']*'|\S+)\s*$"#,
  r#"\b(?:grep|sed|awk|curl|chmod|chown|mkdir|sudo|apt-get|xargs)\s+-?\w"#,
  r#"\s2>&1|>\s*/dev/null"#,
  r#"\[\[?\s+-[a-z]\s+"#,
  r#"\b\w+\.sh\b"#,
  r#"(?m)^\s*\w+\s*\(\s*\)\s*\{"#]

def ruby : List String := [
  r#"(?m)^\s*def\s+(?:self\.)?\w+[?!=]?\s*(?:\([^)]*\))?\s*$"#,
  r#"(?m)^\s*end\s*$"#,
  r#"\battr_(?:accessor|reader|writer)\s+:\w+"#,
  r#"\bputs\b"#,
  r#"\brequire(?:_relative)?\s+['"][^'"]+['"]"#,
  r#"\bdo\s*\|[\w, ]+\|"#,
  r#"\.each(?:_with_index)?\s*(?:do\b|\{)"#,
  r#"(?m)^\s*@\w+\s*=[^=]"#,
  r#":\w+\s*=>"#,
  r#"#\{[^}]+\}"#,
  r#"(?m)^\s*(?:module|class)\s+[A-Z]\w*(?:\s*<\s*[A-Z][\w:]*)?\s*$"#,
  r#"\b(?:elsif|unless|rescue|ensure)\b"#,
  r#"\b\w+\.rb\b|#!.*\bruby\b"#,
  r#"\b[A-Z]\w*\.new\b"#]

def go : List String := [
  r#"(?m)^\s*package\s+\w+\s*$"#,
  r#"(?m)^\s*import\s+(?:\(|"[\w./-]+")"#,
  r#"\bfunc\s+(?:\(\s*\w+\s+\*?\w+\s*\)\s*)?\w+\s*\([^)]*\)\s*(?:\(?[\w*\[\], ]*\)?\s*)?\{"#,
  r#"\bfmt\.\w+\("#,
  r#"\w\s*:=\s*"#,
  r#"\bgo\s+func\b|\bdefer\s+\w+|\bchan\s+\w+|<-\s*\w+"#,
  r#"\btype\s+\w+\s+(?:struct|interface)\s*\{"#,
  r#"\berr\s*!=\s*nil\b"#,
  r#"\b\w+\.go\b"#,
  r#"\[\](?:string|int|byte|float64|bool)\b|\bmap\[\w+\]\w+"#]

def rust : List String := [
  r#"\bfn\s+\w+\s*(?:<[^>]*>)?\s*\([^)]*\)\s*(?:->\s*[^{;]+)?\{"#,
  r#"\blet\s+mut\s+\w+"#,
  r#"\b(?:println|print|eprintln|format|vec|panic|assert|assert_eq|write|writeln|todo)!\s*[(\[]"#,
  r#"\bimpl(?:<[^>]*>)?\s+[\w:]+(?:<[^>]*>)?(?:\s+for\s+[\w:]+(?:<[^>]*>)?)?\s*\{"#,
  r#"\bpub(?:\([\w ]+\))?\s+(?:fn|struct|enum|trait|mod|use|const|static)\b"#,
  r#"(?m)^\s*use\s+(?:std|crate|super|self)::"#,
  r#"\bmatch\s+[\w.&*()]+\s*\{"#,
  r#"\bif\s+let\s+(?:Some|Ok|Err)\s*\("#,
  r#"#!?\[(?:derive|cfg|test|allow|inline)\b"#,
  r#"&mut\s+\w+|&'\w+\b|&self\b"#,
  r#"\.unwrap\(\)|\.expect\(""#,
  r#"\b(?:Option|Result|Vec|Box|Rc|Arc)<"#,
  r#"\b\w+\.rs\b"#,
  r#"\b[A-Z]\w*::new\("#]

def cpp : List String := [
  r#"(?m)^\s*#include\s*[<"][\w./]+[>"]"#,
  r#"\bstd::\w+"#,
  r#"\b(?:cout|cerr)\s*<<|<<\s*(?:std::)?endl\b|\bcin\s*>>"#,
  r#"(?m)^\s*using\s+namespace\s+\w+\s*;"#,
  r#"\b(?:int|void)\s+main\s*\([^)]*\)\s*\{"#,
  r#"(?m)^\s*(?:public|private|protected)\s*:\s*$"#,
  r#"\b(?:vector|unordered_map|unique_ptr|shared_ptr|set|map)<"#,
  r#"\btemplate\s*<"#,
  r#"\b\w+\.(?:cpp|cc|cxx|hpp|ino)\b"#,
  r#"\bvoid\s+(?:setup|loop)\s*\(\s*\)"#,
  r#"(?m)^\s*#(?:define|ifndef|ifdef|endif|pragma)\b"#,
  r#"\bnullptr\b|\bvirtual\s+[\w:~]+|\bconst\s+[\w:]+\s*&"#]

def swift : List String := [
  r#"\bfunc\s+\w+\s*(?:<[^>]*>)?\s*\([^)]*\)\s*(?:async\s+)?(?:throws\s+|rethrows\s+)?->\s*\w+"#,
  r#"\bguard\s+.+\belse\s*\{"#,
  r#"\bif\s+let\s+\w+\s*="#,
  r#"(?m)^\s*import\s+(?:UIKit|SwiftUI|Foundation|Combine|XCTest|AppKit)\b"#,
  r#"\\\(\w+[^)]*\)"#,
  r#"@(?:IBOutlet|IBAction|objc|State|Published|Binding|MainActor|escaping|ObservedObject)\b"#,
  r#"\b(?:struct|class)\s+\w+\s*:\s*(?:View|Codable|ObservableObject|Equatable|Hashable|Identifiable)\b"#,
  r#"\b\w+\.swift\b"#,
  r#"\boverride\s+func\b|\bextension\s+\w+\s*(?::\s*\w+)?\s*\{"#,
  r#"\binit\s*\([^)]*\)\s*\{"#]

def kotlin : List String := [
  r#"\bfun\s+(?:<[^>]*>\s*)?(?:\w+\.)?\w+\s*\([^)]*\)"#,
  r#"(?m)^\s*(?:private\s+|override\s+)?val\s+\w+\s*(?::\s*[\w<>?, ]+)?\s*="#,
  r#"(?m)(?:^|[^.\w])println\s*\("#,
  r#"\b(?:data|sealed|open)\s+class\s+\w+"#,
  r#"(?m)^\s*import\s+(?:kotlin|kotlinx|android|androidx)\."#,
  r#"\bwhen\s*(?:\([^)]*\)\s*)?\{"#,
  r#"\b(?:listOf|mutableListOf|mapOf|mutableMapOf|setOf|arrayOf)\s*\("#,
  r#""[^"\n]*\$\{\w+[^}]*\}[^"\n]*"|"[^"\n]*\s\$[a-z]\w*[^"\n]*""#,
  r#"\b\w+\.kts?\b"#,
  r#"\bcompanion\s+object\b|\bobject\s+\w+\s*(?::\s*\w+)?\s*\{"#,
  r#"\bsuspend\s+fun\b|\blateinit\s+var\b"#]

def catalog : List SignatureSet := [
  ⟨.javaScript, javaScript⟩,
  ⟨.typeScript, typeScript⟩,
  ⟨.python, python⟩,
  ⟨.java, java⟩,
  ⟨.cSharp, cSharp⟩,
  ⟨.php, php⟩,
  ⟨.html, html⟩,
  ⟨.css, css⟩,
  ⟨.sql, sql⟩,
  ⟨.bash, bash⟩,
  ⟨.ruby, ruby⟩,
  ⟨.go, go⟩,
  ⟨.rust, rust⟩,
  ⟨.cpp, cpp⟩,
  ⟨.swift, swift⟩,
  ⟨.kotlin, kotlin⟩]

end ChatTriage.Signature

namespace ChatTriage

/-- The table that `ofSets` builds of the catalog. -/
def SignatureTable.builtin : SignatureTable :=
  ⟨Signature.catalog.map SignatureSet.read⟩

end ChatTriage
