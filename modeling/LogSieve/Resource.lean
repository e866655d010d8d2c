import LogSieve.Json.Value
import LogSieve.Store.FileTree

/-!
# Resources

Besides searching, the program offers a few texts about itself, and the text
files below one directory.  A path that leads out of that directory is refused
whatever lies there; only then is the file looked for, and only then its name
looked at.
-/

namespace LogSieve.Resource

open Store (Path FileTree ReadFault)

/-! ## Files -/

/-- Why a file is not served. -/
inductive Fault where
  /-- The path starts at a home that is not known. -/
  | unknownHome
  | zeroInPath
  | outside
  | missing (path : Text)
  | nameTooLong (path : Text)
  | typeNotAllowed
  | reading (fault : ReadFault)
  deriving DecidableEq

/-- The homes that a tilde may stand for: that of the program's user, and those of other users. -/
structure Homes where
  own : Text
  others : Association Text Text

/-- The suffixes of the files that are served, in order. -/
def allowedSuffixes : List Text := [".jsonl".toList, ".log".toList, ".txt".toList]

/-- The allowed suffixes, as they are told. -/
def allowedText : Text := Text.joinWith ", ".toList allowedSuffixes

/-- The path of a home, whose text may be empty or end in slashes.  A text that begins with a tilde
has kept its own and is no home. -/
def homePath? (home : Text) : Option Path :=
  match (home.reverse.dropWhile (· == '/')).reverse with
  | [] => some ⟨['/'], []⟩
  | '~' :: _ => none
  | home => some (Path.ofText home)

/-- A relative path whose first name begins with a tilde starts at a home. -/
def expandHome (homes : Homes) (path : Path) : Except Fault Path :=
  if path.isAbsolute then .ok path
  else match path.names with
    | ('~' :: user) :: rest =>
      let home := if user.isEmpty then some homes.own else Association.get? user homes.others
      match home.bind homePath? with
      | some start => .ok { start with names := start.names ++ rest }
      | none => .error (if user.contains '\x00' then .zeroInPath else .unknownHome)
    | _ => .ok path

/-- The place that a path means, whether or not anything stands there. -/
def placeOf (homes : Homes) (directory : List Text) (path : Text) : Except Fault (List Text) := do
  let path ← expandHome homes (Path.ofText path)
  if path.holdsZero then .error .zeroInPath
  else
    let start := if path.isAbsolute then [] else directory
    .ok (Path.collapse (start ++ path.names))

/-- The text of a place. -/
def placeText (place : List Text) : Text := Path.text ⟨['/'], place⟩

/-- Whether a file of this name is served: by its suffix, or by the one before it if the file is
compressed. -/
def isAllowed (name : Text) : Bool :=
  let suffix :=
    if Path.isCompressed name then Path.suffix (Path.stem name) else Path.suffix name
  allowedSuffixes.contains suffix.lower

/-- The text of a file below a directory. -/
def fileText (homes : Homes) (tree : FileTree) (directory : List Text) (path : Text) :
    Except Fault Text := do
  let place ← placeOf homes directory path
  if ¬ directory.isPrefixOf place then .error .outside
  else
    let name := place.getLastD []
    match tree.find [] ⟨['/'], place⟩ with
    | .entry (.file bytes) =>
      if isAllowed name then
        match (Store.Contents.ofFile name bytes).text .utf8 .replace with
        | (text, none) => .ok (Encoding.unifyLineEnds text)
        | (_, some fault) => .error (.reading fault)
      else .error .typeNotAllowed
    | .nameTooLong => .error (.nameTooLong (placeText place))
    | _ => .error (.missing (placeText place))

/-- The kind of a fault of a path. -/
def Fault.kind : Fault → FaultKind
  | unknownHome => .runtime
  | zeroInPath | outside | typeNotAllowed => .value
  | missing _ => .fileNotFound
  | nameTooLong _ => .system
  | reading fault => fault.kind

/-- What is said of a file that is not served, if anything. -/
def Fault.message? : Fault → Option Text
  | unknownHome => some "Could not determine home directory.".toList
  | zeroInPath => some "embedded null byte".toList
  | outside => some "Path escapes base dir".toList
  | missing path => some ("File not found: ".toList ++ path)
  | nameTooLong path => some ("[Errno 36] File name too long: ".toList ++ path.quoted)
  | typeNotAllowed => some ("File type not allowed. Allowed: ".toList ++ allowedText ++ ['.'])
  | reading fault => fault.message?

/-! ## Texts -/

/-- The texts that the program offers about itself. -/
inductive Topic where
  | help | queries | badges | sample
  deriving DecidableEq

/-- The topic of an address. -/
def Topic.ofAddress? (address : Text) : Option Topic :=
  [("app://log-query/help".toList, help), ("app://log-query/syntax".toList, queries),
    ("app://log-query/schemas/token-badge".toList, badges),
    ("app://log-query/examples/sample-log".toList, sample)].lookup address

/-- The list of resources, with the directory whose files are served. -/
def helpText (directory : List Text) : Text :=
  ("Resources:\n" ++
    "- app://log-query/help\n" ++
    "- app://log-query/syntax\n" ++
    "- app://log-query/schemas/token-badge\n" ++
    "- app://log-query/examples/sample-log\n" ++
    "- file://\x7bpath\x7d (restricted to LOG_QUERY_BASE_DIR; allowed: ").toList ++ allowedText ++
    (", .gz)\n" ++
    "- log://\x7bpath\x7d (same rules as file://; intended for logs)\n" ++
    "\nBase directory: ").toList ++ placeText directory ++ ['\n']

/-- How queries are written. -/
def queriesText : Text :=
  ("Log query syntax (tokens are separated by spaces and combined with AND)\n" ++
    "\n" ++
    "Basic searches\n" ++
    "  error                 text \"error\" anywhere in the line (case-insensitive)\n" ++
    "  \"exact phrase\"        exact phrase\n" ++
    "\n" ++
    "Field queries\n" ++
    "  service:nginx         field value contains \"nginx\"\n" ++
    "  userId:user-123       specific user id\n" ++
    "  status:500            HTTP status\n" ++
    "  msg:\"two words\"       quoted field value\n" ++
    "\n" ++
    "Level filters\n" ++
    "  level:error           only error lines\n" ++
    "  level:warn..error     warnings and errors (range, inclusive)\n" ++
    "  level:debug..info     debug and info lines\n" ++
    "  levels: trace < debug < info < warn < error < fatal\n" ++
    "\n" ++
    "Range queries\n" ++
    "  duration:100..500     numeric range (inclusive)\n" ++
    "  status:400..499       4xx status codes\n" ++
    "  name:a..m             lexical range when bounds are not numbers\n" ++
    "\n" ++
    "Negation\n" ++
    "  -debug                exclude lines containing \"debug\"\n" ++
    "  -service:health       exclude health check lines\n" ++
    "  -level:debug          exclude debug level lines\n" ++
    "\n" ++
    "Regex patterns\n" ++
    "  /user-\\d+/           regex, case-insensitive by default\n" ++
    "  /^ERROR/m             regex with flags (i, m, s, u, g, y)\n" ++
    "  invalid patterns fall back to a plain text search\n").toList

/-- A few log lines to try queries on. -/
def sampleText : Text :=
  ("2025-12-30T08:12:01Z INFO \x7b\"service\":\"api\",\"message\":\"service started\"\x7d\n" ++
    "2025-12-30T08:12:02Z DEBUG \x7b\"service\":\"nginx\",\"path\":\"/health\"," ++
    "\"status\":200,\"duration\":3\x7d\n" ++
    "2025-12-30T08:12:03Z WARN \x7b\"service\":\"api\",\"message\":\"slow query\"," ++
    "\"duration\":420\x7d\n" ++
    "2025-12-30T08:12:04Z ERROR \x7b\"service\":\"api\",\"userId\":\"user-42\"," ++
    "\"status\":500,\"message\":\"upstream timeout\"\x7d\n" ++
    "time=2025-12-30T08:12:05Z level=fatal service=db msg=\"database unavailable\"\n").toList

/-! ## The description of badges -/

open Json.Value (ofMembers ofString)

/-- A member of a badge: its meaning, its name as a title, its type and, if it is one of a few
texts, these. -/
def badgeMember (meaning title type : String) (choices : List String) : Json.Value :=
  ofMembers ([("description", ofString meaning)] ++
    (if choices.isEmpty then [] else [("enum", .array (choices.map ofString))]) ++
    [("title", ofString title), ("type", ofString type)])

/-- The shape of a badge as data. -/
def badgeSchema : Json.Value :=
  ofMembers
    [("properties", ofMembers
      [("kind", badgeMember "Token type." "Kind" "string"
          ["field", "range", "level", "regex", "text"]),
        ("negated", badgeMember "Whether the token excludes matching lines." "Negated" "boolean"
          []),
        ("label", badgeMember "Compact query form, e.g. 'level:warn,error'." "Label" "string" []),
        ("description", badgeMember "Human-readable explanation of the filter." "Description"
          "string" []),
        ("variant", badgeMember "Badge style hint for the UI." "Variant" "string"
          ["default", "secondary", "destructive", "outline"])]),
      ("required", .array (["kind", "negated", "label", "description", "variant"].map ofString)),
      ("title", ofString "TokenBadge"),
      ("type", ofString "object")]

/-- What a topic offers: a text, or data. -/
def Topic.content (directory : List Text) : Topic → Json.Value
  | help => .string (helpText directory)
  | queries => .string queriesText
  | badges => badgeSchema
  | sample => .string sampleText

end LogSieve.Resource
