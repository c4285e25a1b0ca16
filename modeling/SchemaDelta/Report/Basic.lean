import SchemaDelta.Comparison.Basic
import SchemaDelta.Files.FileSystem
import SchemaDelta.Report.Csv
import SchemaDelta.Report.Html

/-!
# Reports

The entries of a comparison in the format that the suffix of a file name asks for.
-/

namespace SchemaDelta

/-- The formats of reports. -/
inductive ReportFormat where
  | csv
  | html
  | json
  | spreadsheet
  | page
deriving DecidableEq

namespace ReportFormat

/-- The formats with the suffixes of their files. -/
def suffixes : List (String × ReportFormat) := [
  (".csv", csv), (".html", html), (".htm", html), (".json", json), (".xlsx", spreadsheet),
  (".pdf", page)]

/-- The format that a path asks for by its suffix, in upper or lower case. -/
def ofPath
    (path : FilePath) : Option ReportFormat :=
  suffixes.lookup (Text.lower path.suffix)

end ReportFormat

/-- Why a report cannot be written. -/
inductive ReportFailure where
  /-- A name in a page is no text. -/
  | noText (found : ValueKind)
  /-- A name in a spreadsheet has a letter in it that no cell can hold. -/
  | unwritableLetter (name : String)
  /-- A name in a spreadsheet is no text and no number. -/
  | noCell (name : String)
deriving DecidableEq

namespace ReportFailure

/-- The wording of a failure. -/
def message : ReportFailure → String
  | noText found => found.name ++ " is no text"
  | unwritableLetter name => name ++ " cannot be used in worksheets."
  | noCell name => "Cannot convert " ++ name ++ " to Excel"

/-- The failures that are told to the user rather than ending the run. -/
def isReported : ReportFailure → Bool
  | noText _ => false
  | unwritableLetter _ => false
  | noCell _ => true

end ReportFailure

namespace Report

/-- The message about a path that asks for no known format. -/
def unsupportedMessage
    (path : FilePath) : String :=
  "Unsupported report format: " ++ (if path.suffix.isEmpty then "(none)" else path.suffix)

/-- The kind, name and status of every entry. -/
def rows
    (entries : Entries) : List (ObjectKind × Entry) :=
  entries.flatMap fun (kind, entries) => entries.map fun entry => (kind, entry)

/-! ## Names -/

/-- A name in a table: null is empty, and a member is its value. -/
def tableName
    (name : Value) : String :=
  if name.isNull then "" else name.asText?.getD name.display

mutual

/-- A name in a document; an object in it is shown as a text. -/
def documentName : Value → Json
  | .null => .null
  | .bool value => .bool value
  | .int value => .int value
  | .float value => .float value
  | .text value => .text value
  | .member known => .text known.value
  | .list items => .list (documentNames items)
  | value => .text value.display
termination_by structural name => name

/-- The items of a name in a document. -/
def documentNames : List Value → List Json
  | [] => []
  | item :: items => documentName item :: documentNames items

end

/-! ## Formats -/

/-- The title of reports. -/
def title : String := "SQL Schema Compare Report"

/-- A report as comma separated values. -/
def toCsv
    (entries : Entries) : String :=
  Csv.table (["Type", "Name", "Status"] :: (rows entries).map fun (kind, entry) =>
    [kind.name, tableName entry.name, entry.status.name])

/-- The look of a report, with a colour for every status. -/
def styleSheet : String :=
  "<style>table\x7bborder-collapse:collapse;width:100%;\x7d" ++
    "th,td\x7bborder:1px solid #ccc;padding:6px;\x7d .IDENTICAL\x7bbackground:#f2f2f2;\x7d " ++
    ".DIFFERENT\x7bbackground:#fffacd;\x7d .MISSING_IN_TARGET\x7bbackground:#e6ffe6;\x7d " ++
    ".MISSING_IN_SOURCE\x7bbackground:#ffe6e6;\x7d</style>"

/-- The row of an entry in a page; its name has to be a text. -/
def htmlRow
    (kind : ObjectKind)
    (entry : Entry) : Except ReportFailure String := do
  let some name := entry.name.asText? | throw (.noText entry.name.kind)
  let status := Html.escape entry.status.name
  return "<tr class=\x27" ++ status ++ "\x27><td>" ++ Html.escape kind.name ++ "</td><td>" ++
    Html.escape name ++ "</td><td>" ++ status ++ "</td></tr>"

/-- A report as a page. -/
def toHtml
    (entries : Entries) : Except ReportFailure String := do
  let rows ← (rows entries).mapM fun (kind, entry) => htmlRow kind entry
  return "\n".intercalate ([
    "<!DOCTYPE html>",
    "<html><head><meta charset=\x27utf-8\x27><title>" ++ title ++ "</title>",
    styleSheet,
    "</head><body>",
    "<h2>" ++ title ++ "</h2>",
    "<table><tr><th>Type</th><th>Name</th><th>Status</th></tr>"] ++ rows ++
    ["</table></body></html>"])

/-- A report as a document, with the changes of every object that differs. -/
def toJson
    (entries : Entries) : Json :=
  .object (entries.map fun (kind, entries) =>
    (kind.name, .list (entries.map fun entry =>
      .object [
        ("name", documentName entry.name),
        ("status", .text entry.status.name),
        ("diff", entry.difference.getD .null)])))

/-- How many letters of a text stand in a cell of a spreadsheet. -/
def cellLength : Nat := 32767

/-- Control characters other than tabs and line ends, which no cell can hold. -/
def isUnwritable
    (letter : Char) : Bool :=
  letter.toNat < 32 && letter != '\t' && letter != '\n' && letter != '\r'

/-- A name has to be a text without control characters, or a number, to stand in a cell. -/
def checkCell
    (name : Value) : Except ReportFailure Unit :=
  match name with
  | .text text =>
    if (text.toList.take cellLength).any isUnwritable then .error (.unwritableLetter text)
    else .ok ()
  | .list _ => .error (.noCell name.displayInner)
  | .record _ => .error (.noCell name.displayInner)
  | .object _ _ => .error (.noCell name.displayInner)
  | _ => .ok ()

/-- The content of a report; spreadsheets and printed pages are left to others. -/
def content
    (format : ReportFormat)
    (entries : Entries) : Except ReportFailure FileContent :=
  match format with
  | .csv => .ok (.text (toCsv entries))
  | .html => (toHtml entries).map .text
  | .json => .ok (.text (toJson entries).indented)
  | .spreadsheet => do
    (rows entries).forM fun (_, entry) => checkCell entry.name
    return .unspecified
  | .page => .ok .unspecified

end Report

end SchemaDelta
