import CloudInventory.Binary64.Layout
import CloudInventory.Client.Message
import CloudInventory.Client.Operations
import CloudInventory.Compute.Adapter
import CloudInventory.Compute.Ingress
import CloudInventory.Compute.SharedAdapter
import CloudInventory.Config
import CloudInventory.Envelope
import CloudInventory.Inventory
import CloudInventory.Json.Printer
import CloudInventory.Json.Reader
import CloudInventory.Main
import CloudInventory.Network.PortRange
import CloudInventory.Request.Drive
import CloudInventory.Request.Firewall
import CloudInventory.Request.Server
import CloudInventory.Resource.Assembly
import CloudInventory.Resource.Billing
import CloudInventory.Scalar.Integer
import CloudInventory.Scalar.Magnitude
import CloudInventory.Proofs.Compute.IngressCoverage
import CloudInventory.Proofs.Compute.IngressGrants
import CloudInventory.Proofs.Json.Fields
import CloudInventory.Proofs.Schema.Canonical
import CloudInventory.Proofs.Scalar.Written
import CloudInventory.Proofs.Decode.Members
import CloudInventory.Proofs.Request.ReadBack
import CloudInventory.Proofs.Request.ResourceBodies
import CloudInventory.Proofs.Request.ServerBodies
import CloudInventory.Proofs.Text.Numeral
import CloudInventory.Proofs.Network.AddressText
import CloudInventory.Proofs.Network.MatchText
import CloudInventory.Proofs.Request.FirewallBodies
import CloudInventory.Proofs.Envelope.Forms
import CloudInventory.Proofs.Compute.SharedCache
import CloudInventory.Proofs.Compute.CacheHistory
import CloudInventory.Proofs.Inventory.PolicyMemo
import CloudInventory.Proofs.Inventory.RunOutcome
import CloudInventory.Proofs.Client.Segments
import CloudInventory.Proofs.Json.OneLine
import CloudInventory.Proofs.Binary64.Rounding
import CloudInventory.Proofs.Binary64.Scaling
import CloudInventory.Proofs.Json.LiteralValue
import CloudInventory.Proofs.Scalar.Carried
import CloudInventory.Proofs.Decode.Sequence
import CloudInventory.Proofs.Envelope.Records
import CloudInventory.Proofs.Network.AddressGrammar
import CloudInventory.Proofs.Network.CanonicalText
import CloudInventory.Proofs.Instant.CivilDate
import CloudInventory.Proofs.Instant.StampText
import CloudInventory.Proofs.Instant.RoundTrip
import CloudInventory.Proofs.Resource.References
import CloudInventory.Proofs.Resource.Interchange
import CloudInventory.Proofs.Resource.ReferenceFields
import CloudInventory.Proofs.Resource.ExtraMembers
import CloudInventory.Proofs.Resource.ExactConversion
import CloudInventory.Proofs.Resource.UnknownTokens
import CloudInventory.Proofs.Request.SetAttributes
import CloudInventory.Proofs.Binary64.ReadBack
import CloudInventory.Proofs.Binary64.ShortestDecimal
import CloudInventory.Proofs.Json.PlainText
import CloudInventory.Proofs.Scalar.StoredText
import CloudInventory.Proofs.Instant.CivilTime
import CloudInventory.Proofs.Json.IntegerLiteral
import CloudInventory.Proofs.Binary64.WholeNumbers
import CloudInventory.Proofs.Scalar.MagnitudeText
import CloudInventory.Proofs.Scalar.Encodings
import CloudInventory.Proofs.Text.SignedNumeral
import CloudInventory.Proofs.Scalar.IntegerRanges
import CloudInventory.Proofs.Network.PortGrammar
import CloudInventory.Proofs.Compute.BootSelection
import CloudInventory.Proofs.Resource.SubscriptionTree
import CloudInventory.Proofs.Json.CompactText
import CloudInventory.Proofs.Json.Nesting
import CloudInventory.Proofs.Json.AcceptedValues
import CloudInventory.Proofs.Decode.Metadata
import CloudInventory.Proofs.Compute.NodeAddresses
import CloudInventory.Proofs.Compute.NodeText
import CloudInventory.Proofs.Client.Responses
import CloudInventory.Proofs.Client.Commands
import CloudInventory.Proofs.Client.Endpoints
import CloudInventory.Proofs.Client.PathResolution
import CloudInventory.Proofs.Client.ItemRequests
import CloudInventory.Proofs.Client.Overviews
import CloudInventory.Proofs.Request.RecognizedTokens
import CloudInventory.Proofs.Network.SubnetText
