/-!
# HTML texts

Text as it stands between tags and in attributes.
-/

namespace SchemaDelta.Html

/-- A letter that could be read as markup, as an entity; other letters as they are. -/
def escapeLetter
    (letter : Char) : List Char :=
  match letter with
  | '&' => "&amp;".toList
  | '<' => "&lt;".toList
  | '>' => "&gt;".toList
  | '"' => "&quot;".toList
  | '\x27' => "&#x27;".toList
  | letter => [letter]

/-- A text without markup. -/
def escape
    (text : String) : String :=
  String.ofList (text.toList.flatMap escapeLetter)

end SchemaDelta.Html
