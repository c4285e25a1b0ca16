import SchemaDelta.LineDiff.Alignment
import SchemaDelta.Text.Lines

/-!
# Unified view

The changes that turn an old text into a new one, in hunks with three shared lines around them.
-/

namespace SchemaDelta.LineDiff

/-- A block with the count of lines before it on the old and on the new side. -/
structure PlacedBlock where
  old : Nat
  new : Nat
  block : Block

/-- The count of shared lines around a change. -/
def contextLength : Nat := 3

namespace Block

/-- The lines of the first side. -/
def firstLines : Block → List String
  | shared lines => lines
  | changed first _ => first

/-- The lines of the second side. -/
def secondLines : Block → List String
  | shared lines => lines
  | changed _ second => second

/-- The lines of a block in a hunk. -/
def hunkLines : Block → List String
  | shared lines => lines.map fun line => " " ++ line
  | changed first second =>
    (first.map fun line => "-" ++ line) ++ (second.map fun line => "+" ++ line)

end Block

/-- Blocks with the counts of lines before them. -/
def place : Nat → Nat → List Block → List PlacedBlock
  | _, _, [] => []
  | old, new, block :: blocks =>
    { old, new, block } ::
      place (old + block.firstLines.length) (new + block.secondLines.length) blocks

namespace PlacedBlock

/-- The last shared lines of a block, as many as the context has; changed lines stay. -/
def trailingContext
    (placed : PlacedBlock) : PlacedBlock :=
  match placed.block with
  | .shared lines =>
    let skipped := lines.length - contextLength
    { old := placed.old + skipped
      new := placed.new + skipped
      block := .shared (lines.drop skipped) }
  | .changed _ _ => placed

/-- The first shared lines of a block, as many as the context has; changed lines stay. -/
def leadingContext
    (placed : PlacedBlock) : PlacedBlock :=
  match placed.block with
  | .shared lines => { placed with block := .shared (lines.take contextLength) }
  | .changed _ _ => placed

/-- Shared lines that are more than the context of two changes. -/
def separates
    (placed : PlacedBlock) : Bool :=
  match placed.block with
  | .shared lines => 2 * contextLength < lines.length
  | .changed _ _ => false

/-- A block of changed lines. -/
def isChange
    (placed : PlacedBlock) : Bool :=
  match placed.block with
  | .shared _ => false
  | .changed _ _ => true

end PlacedBlock

/-- Blocks whose first and last one keep only the context of the changes between them. -/
def trimEnds : List PlacedBlock → List PlacedBlock
  | [] => []
  | first :: rest =>
    match (first.trailingContext :: rest).reverse with
    | [] => []
    | last :: others => (last.leadingContext :: others).reverse

/-- Blocks cut where shared lines separate changes; the blocks so far come in front. -/
def hunksFrom
    (soFar : List PlacedBlock) : List PlacedBlock → List (List PlacedBlock)
  | [] => [soFar]
  | placed :: rest =>
    if placed.separates then
      (soFar ++ [placed.leadingContext]) :: hunksFrom [placed.trailingContext] rest
    else hunksFrom (soFar ++ [placed]) rest

/-- The hunks of an alignment. -/
def hunks
    (blocks : List Block) : List (List PlacedBlock) :=
  (hunksFrom [] (trimEnds (place 0 0 blocks))).filter fun hunk => hunk.any (·.isChange)

/-- A range of lines from the count of lines before it and its length. -/
def rangeText
    (before length : Nat) : String :=
  if length = 1 then toString (before + 1)
  else if length = 0 then toString before ++ ",0"
  else toString (before + 1) ++ "," ++ toString length

/-- The lines of a hunk after the line that tells where it is. -/
def hunkText
    (hunk : List PlacedBlock) : List String :=
  match hunk with
  | [] => []
  | start :: _ =>
    let olds := hunk.flatMap fun placed => placed.block.firstLines
    let news := hunk.flatMap fun placed => placed.block.secondLines
    let oldRange := rangeText start.old olds.length
    let newRange := rangeText start.new news.length
    ("@@ -" ++ oldRange ++ " +" ++ newRange ++ " @@") ::
      hunk.flatMap fun placed => placed.block.hunkLines

/-- The unified view of the change from a target text to a source text under labels. -/
def unified
    (sourceLabel targetLabel source target : String) : String :=
  let hunks := hunks (align (Text.lines target) (Text.lines source))
  if hunks.isEmpty then ""
  else
    "\n".intercalate
      (("--- " ++ targetLabel) :: ("+++ " ++ sourceLabel) :: hunks.flatMap hunkText)

end SchemaDelta.LineDiff
