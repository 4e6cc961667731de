import ValuedEnum.Expansion
import ValuedEnum.Host.Scripted
import ValuedEnum.Main
import ValuedEnum.Proofs.Acceptance
import ValuedEnum.Proofs.Arguments.Options
import ValuedEnum.Proofs.Build
import ValuedEnum.Proofs.EventLog
import ValuedEnum.Proofs.Expansion
import ValuedEnum.Proofs.Grouping
import ValuedEnum.Proofs.Implementations
import ValuedEnum.Proofs.Indexing
import ValuedEnum.Proofs.Members
import ValuedEnum.Proofs.Obtainable
import ValuedEnum.Proofs.OrdinalLiterals
import ValuedEnum.Proofs.OrdinalRoundTrip
import ValuedEnum.Proofs.Placement.Items
import ValuedEnum.Proofs.Policies
import ValuedEnum.Proofs.Renaming
import ValuedEnum.Proofs.Rereading.Ordinal
import ValuedEnum.Proofs.Rereading.Path
import ValuedEnum.Proofs.Rereading.Value
import ValuedEnum.Proofs.Rereading.Visibility
import ValuedEnum.Proofs.RoundTrip
import ValuedEnum.Proofs.Stripping
import ValuedEnum.Proofs.Typing.Literal
import ValuedEnum.Proofs.Unrelated
import ValuedEnum.Proofs.VisibilityRoundTrip
import ValuedEnum.Proofs.WideDiscriminant
import ValuedEnum.Token.Fragment
