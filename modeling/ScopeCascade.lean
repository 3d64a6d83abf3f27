import ScopeCascade.Text.Quoted
import ScopeCascade.SortedMap
import ScopeCascade.InsertionMap
import ScopeCascade.Binary64.Nearest
import ScopeCascade.Binary64.Layout
import ScopeCascade.Json.Basic
import ScopeCascade.Json.Reader
import ScopeCascade.Json.Writer
import ScopeCascade.Json.Decode
import ScopeCascade.Scope.Basic
import ScopeCascade.Scope.Path
import ScopeCascade.Selector.Basic
import ScopeCascade.Specificity
import ScopeCascade.Text.CaseFold
import ScopeCascade.Text.WordChars
import ScopeCascade.Color
import ScopeCascade.FontStyle
import ScopeCascade.Pattern.CharSet
import ScopeCascade.Pattern.Backtracking
import ScopeCascade.Setting.Normalize
import ScopeCascade.Registry
import ScopeCascade.Environment.Basic
import ScopeCascade.Kdl.Reader
import ScopeCascade.Config.Basic
import ScopeCascade.Proofs.Text.Lossy
import ScopeCascade.Proofs.Selector.BestMatch
import ScopeCascade.Proofs.Selector.Widening
import ScopeCascade.Proofs.Selector.Joining
import ScopeCascade.Proofs.Selector.Parsing
import ScopeCascade.Proofs.Scope.Text
import ScopeCascade.Proofs.Selector.WellFormed
import ScopeCascade.Proofs.Selector.Rewriting
import ScopeCascade.Proofs.Selector.OwnText
import ScopeCascade.Proofs.Cascade.Memory
import ScopeCascade.Proofs.Cascade.Ranking
import ScopeCascade.Proofs.Setting.Layers
import ScopeCascade.Proofs.Setting.Merging
import ScopeCascade.Proofs.Setting.Reading
import ScopeCascade.Proofs.Cascade.Winner
import ScopeCascade.Proofs.Cascade.History
import ScopeCascade.Proofs.Cascade.Hiding
import ScopeCascade.Proofs.Cascade.Listing
import ScopeCascade.Proofs.Cascade.Rearrangement
import ScopeCascade.Proofs.Cascade.Splitting
import ScopeCascade.Proofs.Registry.Sync
import ScopeCascade.Proofs.Registry.Menu
import ScopeCascade.Proofs.Registry.Isolation
import ScopeCascade.Proofs.Environment.Layering
import ScopeCascade.Proofs.Config.Merging
import ScopeCascade.Proofs.Selector.Excerpt
import ScopeCascade.Proofs.Selector.Nesting
import ScopeCascade.Proofs.Selector.Placement
import ScopeCascade.Proofs.Selector.Diagnosis
import ScopeCascade.Proofs.Selector.Emptiness
import ScopeCascade.Proofs.Selector.Surroundings
import ScopeCascade.Proofs.Selector.Parentheses
import ScopeCascade.Proofs.Cascade.Batches
import ScopeCascade.Proofs.Selector.Greedy
import ScopeCascade.Proofs.Cascade.Remembered
import ScopeCascade.Proofs.Config.Reading
import ScopeCascade.Proofs.Scope.RoundTrip
import ScopeCascade.Proofs.Setting.Variables
import ScopeCascade.Proofs.Text.Bytes
import ScopeCascade.Proofs.Color.Hexadecimal
import ScopeCascade.Proofs.Selector.Atoms
import ScopeCascade.Proofs.Selector.Windows
import ScopeCascade.Proofs.Selector.Bounds
import ScopeCascade.Proofs.Setting.OwnKeys
import ScopeCascade.Proofs.Selector.WholeSegments
