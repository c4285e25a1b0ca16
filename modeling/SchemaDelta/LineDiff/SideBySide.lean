import SchemaDelta.LineDiff.Alignment
import SchemaDelta.Text.Lines

/-!
# Side by side view

The lines of a source and of a target text in rows.  Shared lines stand beside each other; changed
lines are paired in order, and the shorter side is filled with empty lines.
-/

namespace SchemaDelta.LineDiff

/-- What a migration does with a row. -/
inductive RowTag where
  | same
  /-- The line is only in the source. -/
  | added
  /-- The line is only in the target. -/
  | removed
  | changed
deriving DecidableEq

/-- The name of a tag. -/
def RowTag.name : RowTag → String
  | same => "same"
  | added => "add"
  | removed => "del"
  | changed => "chg"

/-- A row of the view. -/
structure DiffRow where
  source : String
  target : String
  tag : RowTag
deriving DecidableEq

/-- Lines paired in order, the shorter side filled with empty lines. -/
def pairLines
    (tag : RowTag) : List String → List String → List DiffRow
  | [], [] => []
  | source :: sources, [] => ⟨source, "", tag⟩ :: pairLines tag sources []
  | [], target :: targets => ⟨"", target, tag⟩ :: pairLines tag [] targets
  | source :: sources, target :: targets => ⟨source, target, tag⟩ :: pairLines tag sources targets

/-- The tag of changed lines. -/
def changeTag
    (sources targets : List String) : RowTag :=
  if targets.isEmpty then .added
  else if sources.isEmpty then .removed
  else .changed

/-- The rows of a block. -/
def Block.rows : Block → List DiffRow
  | shared lines => lines.map fun line => ⟨line, line, .same⟩
  | changed sources targets => pairLines (changeTag sources targets) sources targets

/-- The side by side view of two texts. -/
def sideBySide
    (source target : String) : List DiffRow :=
  (align (Text.lines source) (Text.lines target)).flatMap Block.rows

end SchemaDelta.LineDiff
