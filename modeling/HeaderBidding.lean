import HeaderBidding.AdUnit
import HeaderBidding.Adapter
import HeaderBidding.AuctionContext
import HeaderBidding.Bid
import HeaderBidding.Call
import HeaderBidding.Codec.Basic
import HeaderBidding.Codec.Reader
import HeaderBidding.Codec.Words
import HeaderBidding.Codec.Writer
import HeaderBidding.CommandLine.Arguments
import HeaderBidding.CommandLine.Auction
import HeaderBidding.CommandLine.FileTree
import HeaderBidding.CommandLine.Run
import HeaderBidding.CommandLine.World
import HeaderBidding.Decimal.Integer
import HeaderBidding.Decimal.Real
import HeaderBidding.Decimal.Shortest
import HeaderBidding.Error
import HeaderBidding.Exchange.Partner
import HeaderBidding.Exchange.Posting
import HeaderBidding.Exchange.Status
import HeaderBidding.Exchange.Transport
import HeaderBidding.Exchange.Wire
import HeaderBidding.Extraction
import HeaderBidding.Host.Basic
import HeaderBidding.Host.Direction
import HeaderBidding.Host.DirectionData
import HeaderBidding.Host.Domain
import HeaderBidding.Host.Ipv4
import HeaderBidding.Host.Ipv6
import HeaderBidding.Host.Joining
import HeaderBidding.Host.JoiningData
import HeaderBidding.Host.Mapping
import HeaderBidding.Host.MappingData
import HeaderBidding.Host.Punycode
import HeaderBidding.Impressions
import HeaderBidding.Json.Fault
import HeaderBidding.Json.Number
import HeaderBidding.Json.Print
import HeaderBidding.Json.Quoted
import HeaderBidding.Json.Reader
import HeaderBidding.Json.Scan
import HeaderBidding.Json.Skip
import HeaderBidding.Json.Value
import HeaderBidding.Log
import HeaderBidding.Log.Filter
import HeaderBidding.Main
import HeaderBidding.MockPartner.Bidding
import HeaderBidding.MockPartner.ContentType
import HeaderBidding.MockPartner.Server
import HeaderBidding.MockPartner.Wire
import HeaderBidding.MockPartner.Words
import HeaderBidding.OpenRtb.Imp
import HeaderBidding.OpenRtb.Party
import HeaderBidding.OpenRtb.Request
import HeaderBidding.OpenRtb.Response
import HeaderBidding.Params.Document
import HeaderBidding.Params.Size
import HeaderBidding.Params.Validation
import HeaderBidding.Proofs.AdSizes
import HeaderBidding.Proofs.Attribution
import HeaderBidding.Proofs.AuctionOutcome
import HeaderBidding.Proofs.ClosedLoop
import HeaderBidding.Proofs.Composition
import HeaderBidding.Proofs.Decimals
import HeaderBidding.Proofs.Decoding
import HeaderBidding.Proofs.Digits
import HeaderBidding.Proofs.Disclosure
import HeaderBidding.Proofs.Documents
import HeaderBidding.Proofs.Doubles
import HeaderBidding.Proofs.Envelope
import HeaderBidding.Proofs.Extraction
import HeaderBidding.Proofs.FiniteDoubles
import HeaderBidding.Proofs.Identifiers
import HeaderBidding.Proofs.Impressions
import HeaderBidding.Proofs.Meaning
import HeaderBidding.Proofs.Messages
import HeaderBidding.Proofs.MockBids
import HeaderBidding.Proofs.NormalForm
import HeaderBidding.Proofs.Numbers
import HeaderBidding.Proofs.Offers
import HeaderBidding.Proofs.ParameterDecision
import HeaderBidding.Proofs.ParameterMembers
import HeaderBidding.Proofs.Parameters
import HeaderBidding.Proofs.PartnerExchange
import HeaderBidding.Proofs.QuotedText
import HeaderBidding.Proofs.Reading
import HeaderBidding.Proofs.Records
import HeaderBidding.Proofs.RequestOutcome
import HeaderBidding.Proofs.RequestText
import HeaderBidding.Proofs.ResponseText
import HeaderBidding.Proofs.Rounding
import HeaderBidding.Proofs.Shortest
import HeaderBidding.Proofs.Signs
import HeaderBidding.Proofs.SortedDocuments
import HeaderBidding.Proofs.SpelledDecoding
import HeaderBidding.Proofs.SpelledNumbers
import HeaderBidding.Proofs.SpelledReading
import HeaderBidding.Proofs.SpelledTexts
import HeaderBidding.Proofs.SpelledValues
import HeaderBidding.Proofs.Spelling
import HeaderBidding.Proofs.Trace
import HeaderBidding.Proofs.UnknownMembers
import HeaderBidding.Proofs.Validation
import HeaderBidding.Proofs.WorldRuns
import HeaderBidding.Proofs.WrittenMembers
import HeaderBidding.Session
import HeaderBidding.Settings.Basic
import HeaderBidding.Settings.Loading
import HeaderBidding.Text.Base64
import HeaderBidding.Text.Blank
import HeaderBidding.Text.CaseData
import HeaderBidding.Text.HiddenData
import HeaderBidding.Text.Lowercase
import HeaderBidding.Text.Normal
import HeaderBidding.Text.NormalData
import HeaderBidding.Text.Quoted
import HeaderBidding.Text.Ranges
import HeaderBidding.Text.Segments
import HeaderBidding.Text.Table
import HeaderBidding.Text.Trim
import HeaderBidding.Text.Utf8
import HeaderBidding.Url.Basic
import HeaderBidding.Url.Parser
import HeaderBidding.Url.Path
import HeaderBidding.Url.Percent
import HeaderBidding.Wire.Body
import HeaderBidding.Wire.Head
import HeaderBidding.Wire.Token
import HeaderBidding.Proofs.Completion
import HeaderBidding.Proofs.Rejections
import HeaderBidding.Proofs.Storage
import HeaderBidding.Proofs.MessageBytes
import HeaderBidding.Proofs.PostedRequests
import HeaderBidding.Proofs.ExchangeOutcome
