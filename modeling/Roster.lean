import Roster.Text.Casing
import Roster.Text.Blank
import Roster.Text.Digit
import Roster.Text.Quoted
import Roster.Text.Layout
import Roster.Text.Utf8
import Roster.Decimal.Style
import Roster.Number
import Roster.Keyed
import Roster.Json.Reader
import Roster.Json.Writer
import Roster.Tag.Parser
import Roster.Tag.Stored
import Roster.Bundle
import Roster.Tag.Kind
import Roster.Game
import Roster.Crit.Written
import Roster.Potentials.Written
import Roster.Coverage
import Roster.Game.Document
import Roster.Game.Source
import Roster.Workbench
import Roster.Directory
import Roster.Log
import Roster.Dashboard.Session
import Roster.Warning.Summary
import Roster.Main
import Roster.Proofs.Double.Rounding
import Roster.Proofs.Double.Shifting
import Roster.Proofs.Double.Packing
import Roster.Proofs.Double.Value
import Roster.Proofs.Double.Arithmetic
import Roster.Proofs.Double.Quotient
import Roster.Proofs.Double.Operations
import Roster.Proofs.Double.Literal
import Roster.Proofs.Scalar.Laws
import Roster.Proofs.Double.Laws
import Roster.Proofs.Tag.Bounds
import Roster.Proofs.Bundle.Bounds
import Roster.Proofs.Potentials.Bounds
import Roster.Proofs.Game.Reading
import Roster.Proofs.Game.WellFormed
import Roster.Proofs.Potentials.Checked
import Roster.Proofs.Potentials.Sides
import Roster.Proofs.Potentials.Monotone
import Roster.Proofs.Potentials.Rank
import Roster.Proofs.Analysis.Total
import Roster.Proofs.Game.Box
import Roster.Proofs.Analysis.Ranking
import Roster.Proofs.Analysis.OwnTypes
import Roster.Proofs.Game.Overrun
import Roster.Proofs.Text.OneLine
import Roster.Proofs.Game.Messages
import Roster.Proofs.Command.Ending
import Roster.Proofs.Scalar.Saturation
import Roster.Proofs.Scalar.Rooted
import Roster.Proofs.Bundle.Order
import Roster.Proofs.Bundle.Gathered
import Roster.Proofs.Bundle.Sides
import Roster.Proofs.Bundle.Conditional
import Roster.Proofs.Bundle.Raised
import Roster.Proofs.Warning.PerCreature
import Roster.Proofs.Coverage.Incoming
import Roster.Proofs.Coverage.Overflow
import Roster.Proofs.Coverage.Rows
import Roster.Proofs.Crit.Expectation
import Roster.Proofs.Double.Commuting
import Roster.Proofs.Scalar.Ordered
import Roster.Proofs.Double.Ordered
import Roster.Proofs.Crit.Monotone
import Roster.Proofs.Tag.Mirror
import Roster.Proofs.Potentials.Mirror
import Roster.Proofs.Potentials.TypeSlots
import Roster.Proofs.Tag.Respelled
import Roster.Proofs.Potentials.Respelled
import Roster.Proofs.Analysis.Preset
import Roster.Proofs.Warning.Preset
import Roster.Proofs.Dashboard.Untouched
import Roster.Proofs.Scalar.Powered
import Roster.Proofs.Analysis.Neutral
import Roster.Proofs.Bundle.Shielded
import Roster.Proofs.Potentials.Shielded
import Roster.Proofs.Analysis.Team
import Roster.Proofs.Analysis.Agree
import Roster.Proofs.Analysis.Switches
import Roster.Proofs.Incoming.Pass
import Roster.Proofs.Incoming.Closed
import Roster.Proofs.Tag.Grammar
import Roster.Proofs.Tag.Built
import Roster.Proofs.Game.Taggable
import Roster.Proofs.Warning.Report
import Roster.Proofs.Settings.RoundTrip
import Roster.Proofs.Game.Normalized
import Roster.Proofs.Game.Overridden
import Roster.Proofs.Potentials.ChartRows
import Roster.Proofs.Analysis.Search
import Roster.Proofs.Report.Ranking
import Roster.Proofs.Dashboard.TypeFilter
import Roster.Proofs.Game.Names
