import FieldText.Main
import FieldText.Proofs.Readings
import FieldText.Proofs.Items
import FieldText.Proofs.Layouts
import FieldText.Proofs.Pieces
import FieldText.Proofs.Bodies
import FieldText.Proofs.Partition
import FieldText.Proofs.Language
import FieldText.Proofs.Strictness
import FieldText.Proofs.RoundTrip
import FieldText.Proofs.Bindings
import FieldText.Proofs.Histories
import FieldText.Proofs.Resolutions
import FieldText.Proofs.Openings
import FieldText.Proofs.Renderings
import FieldText.Proofs.Texts
import FieldText.Proofs.Permanence
import FieldText.Proofs.Refusals
import FieldText.Proofs.Sessions
import FieldText.Proofs.Compositions
import FieldText.Proofs.Literals
import FieldText.Proofs.Displays
import FieldText.Proofs.Limits
import FieldText.Proofs.Degradations
import FieldText.Proofs.UnreadableLayouts
import FieldText.Proofs.Widths
import FieldText.Proofs.Rejections
import FieldText.Proofs.Ways
import FieldText.Proofs.Unfoldings
import FieldText.Proofs.Buffers
import FieldText.Proofs.WrittenLayouts
import FieldText.Proofs.Interruptions
import FieldText.Proofs.Wrappings
import FieldText.Proofs.WrittenIntegers
import FieldText.Proofs.Rebindings
import FieldText.Proofs.Adaptations
import FieldText.Proofs.DirectUses
import FieldText.Proofs.Renewals
import FieldText.Proofs.Recollections
import FieldText.Proofs.WrittenNumbers
import FieldText.Proofs.Coercions
import FieldText.Proofs.Tables
import FieldText.Proofs.Sections
import FieldText.Proofs.Configurations
import FieldText.Proofs.Separators
import FieldText.Proofs.Joins
