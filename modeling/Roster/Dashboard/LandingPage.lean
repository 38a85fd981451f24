import Roster.Dashboard.Element
import Roster.FileState
import Roster.Text.Casing
import Roster.Text.Blank

/-!
# The landing page

Where a game's text is pasted or a file with it uploaded. An uploaded file counts before the text
area; one that is no text breaks the page off. One whose name does not fit is not taken, and nothing
but that is shown.
-/

namespace Roster.Dashboard.Landing

/-- The text area, which begins with the game's text as it is. -/
def gameArea (gameText : Text) : Widget := ⟨"Game data", .textArea gameText⟩

/-- The place for a file. -/
def gameFile : Widget := ⟨"Or upload a game file", .fileUpload⟩

/-- The extension that the file's name must have, in letters of either case. -/
def gameExtension : String := ".json"

/-- What is wrong with the name of an uploaded file. -/
def uploadBreakdown? (name : Text) : Option Breakdown :=
  let lower := Text.lower name
  if .char '\x00' ∈ name.toList then some .nulInName
  else if (Text.ofString gameExtension).toList.isSuffixOf lower.toList then none
  else some (.otherExtension (fileExtension lower) gameExtension)

/-- The button that puts the sample game into the text area. -/
def sampleLabel : String := "📋 Use Sample Game"

/-- The button that leads on to the analysis. -/
def analyzeLabel : String := "🔍 Analyze Roster"

/-- The game's text as it is entered. -/
def enteredText (m : Memory) (gameText : Text) : Except Text.Utf8Fault Text :=
  match (m.valueOf gameFile).toFile with
  | none => .ok (m.valueOf (gameArea gameText)).toText
  | some upload => (Text.decodeUtf8 upload.bytes).map .ofChars

/-- What is said of an uploaded file. -/
def uploadNote (m : Memory) : List Element :=
  match (m.valueOf gameFile).toFile with
  | none => []
  | some upload => [.success ("✅ Loaded game from: " ++ upload.name)]

/-- What the page says of the program. -/
def features : List Element :=
  [.markdown "### ✨ Features",
    .markdown <| Text.unlines
      ["- **Box ranking** by offensive and defensive potential",
        "- **Tag effects** from species, abilities and held items",
        "- **Crit model** with per-generation stage tables",
        "- **Defense matrix** for all six team slots",
        "- **Team chart** of weaknesses, resists and immunities",
        "- **Tag builder** for writing valid tags"]]

/-- What stands above what follows from the entered text. -/
def top (m : Memory) (gameText : Text) : List Element :=
  [.title "🧬 TeamForge Roster Analyzer",
    .markdown
      "Rank every creature in your box and check how your team holds up against each type.",
    .markdown "### 📝 Paste Your Game JSON", .input m (gameArea gameText),
    .button sampleLabel false, .input m gameFile]

/-- The page. -/
def view (m : Memory) (gameText : Text) : View :=
  match enteredText m gameText with
  | .error fault => ⟨⟨top m gameText ++ [.breakdown (.notText fault)], []⟩, false, []⟩
  | .ok entered =>
    ⟨⟨top m gameText ++ uploadNote m
        ++ .button analyzeLabel (Text.isBlankText entered) :: features, []⟩, true, []⟩

end Roster.Dashboard.Landing
