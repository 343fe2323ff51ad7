import BlogGateway.Config
import BlogGateway.Http.Server
import BlogGateway.Proofs.Rpc.Run
import BlogGateway.Proofs.Broadcast.Stages
import BlogGateway.Proofs.Bytes.Utf8
import BlogGateway.Proofs.Bytes.Number
import BlogGateway.Proofs.Bytes.Base58
import BlogGateway.Proofs.Bytes.HexSpelling
import BlogGateway.Proofs.Signature
import BlogGateway.Proofs.Uuid
import BlogGateway.Proofs.Digest.Operation
import BlogGateway.Proofs.Digest.Domains
import BlogGateway.Proofs.Json.Raw
import BlogGateway.Proofs.Rpc.SignedRead
import BlogGateway.Proofs.Gateway.Admission
import BlogGateway.Proofs.Blog.Changes
import BlogGateway.Proofs.Blog.Isolation
import BlogGateway.Proofs.Blog.Privacy
import BlogGateway.Proofs.Gateway.Privacy
import BlogGateway.Proofs.Json.Crossing
import BlogGateway.Proofs.Json.Crossed
import BlogGateway.Proofs.Json.Reading
import BlogGateway.Proofs.Json.Strings
import BlogGateway.Proofs.Json.Decoded
import BlogGateway.Proofs.Json.Numbers
import BlogGateway.Proofs.Calendar
import BlogGateway.Proofs.Calendar.Clock
import BlogGateway.Proofs.ChainTime
import BlogGateway.Proofs.ChainTime.Naming
import BlogGateway.Proofs.Json.Records
import BlogGateway.Proofs.Json.Written
import BlogGateway.Proofs.Json.Positions
import BlogGateway.Proofs.Json.Taken
import BlogGateway.Proofs.Json.Elements
import BlogGateway.Proofs.Operation.Spelling
import BlogGateway.Proofs.Operation.Written
import BlogGateway.Proofs.Operation.Decoded
import BlogGateway.Proofs.Operation.Signed
import BlogGateway.Proofs.Transaction
import BlogGateway.Proofs.Digest.Query
import BlogGateway.Proofs.Rpc.Spelling
import BlogGateway.Blog.InPlace
import BlogGateway.Proofs.Blog.InPlace
import BlogGateway.Proofs.Blog.Follows
import BlogGateway.Proofs.Blog.Categories
import BlogGateway.Proofs.Blog.Replay
import BlogGateway.Proofs.Blog.Maps
import BlogGateway.Proofs.Blog.Numbering
import BlogGateway.Proofs.Blog.Moving
import BlogGateway.Proofs.Blog.Paging
import BlogGateway.Proofs.Blog.Audience
import BlogGateway.Proofs.Blog.Filters
import BlogGateway.Proofs.Blog.Pictures
import BlogGateway.Proofs.Gateway.Forgery
import BlogGateway.Proofs.Broadcast.Dispatcher
import BlogGateway.Proofs.Gateway.Faults
import BlogGateway.Proofs.Authority.Keys
import BlogGateway.Proofs.Authority.Node
import BlogGateway.Proofs.Gateway.Outages
import BlogGateway.Proofs.Blog.Commuting
import BlogGateway.Proofs.Blog.Downvotes
import BlogGateway.Proofs.Blog.Newest
import BlogGateway.Proofs.Blog.Listings
import BlogGateway.Proofs.Blog.Drafts
import BlogGateway.Proofs.Blog.Notices
import BlogGateway.Proofs.Wire.Varint
import BlogGateway.Proofs.Config
import BlogGateway.Proofs.Broadcast.Registering
import BlogGateway.Proofs.Json.Numerals
import BlogGateway.Proofs.Json.Filled
import BlogGateway.Proofs.Json.Trees
import BlogGateway.Proofs.Authority.Exchange
import BlogGateway.Proofs.Authority.Accounts
