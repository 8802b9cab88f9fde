import Songbook.Main
import Songbook.Formatter.Cache
import Songbook.Formatter.Outline
import Songbook.Proofs.Pattern.Evaluation
import Songbook.Proofs.Pattern.Written
import Songbook.Proofs.Formatter.Combinations
import Songbook.Proofs.Formatter.QueryConditional
import Songbook.Proofs.Formatter.SingleValues
import Songbook.Proofs.Formatter.Dependence
import Songbook.Proofs.Query.Written
import Songbook.Proofs.Pattern.Recovery
import Songbook.Proofs.Formatter.Markup
import Songbook.Proofs.Formatter.Rooted
import Songbook.Proofs.Formatter.CacheRun
import Songbook.Proofs.Dialect.Brackets
import Songbook.Proofs.Formatter.DirectoryLevels
import Songbook.Proofs.Query.Instants
import Songbook.Proofs.Query.TextMatch
import Songbook.Proofs.Formatter.DanglingEscape
import Songbook.Proofs.Formatter.CacheContents
import Songbook.Proofs.Number.Clock
import Songbook.Proofs.Query.Length
import Songbook.Proofs.Command
import Songbook.Proofs.Path.Segments
import Songbook.Proofs.Song.Values
import Songbook.Proofs.Pattern.EscapedCharacters
import Songbook.Proofs.Pattern.Malformed
import Songbook.Proofs.Path.Cut
import Songbook.Proofs.Path.TrackNumber
import Songbook.Proofs.Formatter.HomeDirectory
import Songbook.Proofs.Query.Calendar
import Songbook.Proofs.Song.PartNames
import Songbook.Proofs.Query.ClockFields
import Songbook.Proofs.Query.FaultPlaces
import Songbook.Proofs.Pattern.Fetches
import Songbook.Proofs.Query.Depth
import Songbook.Proofs.Query.Rounds
