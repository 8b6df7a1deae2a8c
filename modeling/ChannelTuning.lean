import ChannelTuning.Session
import ChannelTuning.Enumeration
import ChannelTuning.Published
import ChannelTuning.Proofs.Text.Cutting
import ChannelTuning.Proofs.Text.Quotation
import ChannelTuning.Proofs.Number.Numerals
import ChannelTuning.Proofs.Transport.Spelling
import ChannelTuning.Proofs.Value.Literals
import ChannelTuning.Proofs.Value.Named
import ChannelTuning.Proofs.Builder.Runs
import ChannelTuning.Proofs.Builder.Validity
import ChannelTuning.Proofs.Builder.Writes
import ChannelTuning.Proofs.Builder.Renderings
import ChannelTuning.Proofs.Builder.Domains
import ChannelTuning.Proofs.Opening.Path
import ChannelTuning.Proofs.Opening.Calls
import ChannelTuning.Proofs.Opening.Reports
import ChannelTuning.Proofs.Arguments.Limits
import ChannelTuning.Proofs.Session.Frame
import ChannelTuning.Proofs.Session.Withheld
import ChannelTuning.Proofs.Diagnostics
import ChannelTuning.Proofs.Session.Records
import ChannelTuning.Proofs.Arguments.Clamping
import ChannelTuning.Proofs.Opening.Failures
import ChannelTuning.Proofs.Opening.Fallback
import ChannelTuning.Proofs.Options.Copying
import ChannelTuning.Proofs.Options.Making
import ChannelTuning.Proofs.Value.Equality
import ChannelTuning.Proofs.Options.Equality
import ChannelTuning.Proofs.Arguments.Congruence
import ChannelTuning.Proofs.Arguments.Dependence
import ChannelTuning.Proofs.Text.Unprintable
import ChannelTuning.Proofs.Value.Printing
import ChannelTuning.Proofs.Session.Refusals
import ChannelTuning.Proofs.Failure.Texts
