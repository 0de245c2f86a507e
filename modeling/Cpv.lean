import Cpv.Core.Machine
import Cpv.Core.BoundedQueue
import Cpv.Core.Lanes
import Cpv.Connection.Model
import Cpv.Connection.Stream
import Cpv.Connection.Invariant
import Cpv.Connection.ReceiveLoop
import Cpv.Connection.ReplyLoop
import Cpv.Connection.Pipelining
import Cpv.Connection.Deadlock
import Cpv.Connection.Framing
import Cpv.Utility.HttpUtils
import Cpv.Utility.Uri
import Cpv.Core.Trie
import Cpv.Routing.Table
import Cpv.Routing.Handle
import Cpv.Routing.Match
import Cpv.StaticFile.Model
import Cpv.StaticFile.Reply
import Cpv.StaticFile.SafePath
import Cpv.StaticFile.Transparency
import Cpv.Application.Model
import Cpv.Application.Trace
import Cpv.Application.LifeCycle
import Cpv.Connection.Closed
import Cpv.Server.Collection
import Cpv.Routing.History
import Cpv.Routing.Undo
import Cpv.Routing.LastWrite
import Cpv.Utility.UriText
import Cpv.Utility.UriSyntax
import Cpv.Utility.UriMeaning
import Cpv.Utility.UriBuild
import Cpv.Utility.UriRebuild
import Cpv.Http.Request
import Cpv.Core.Json
import Cpv.Core.JsonComplete
import Cpv.Serialize.JsonSerializer
import Cpv.Serialize.JsonRoundTrip
import Cpv.Serialize.Sajson
import Cpv.Serialize.JsonDeserializer
import Cpv.Serialize.SajsonRun
import Cpv.Server.Configuration
import Cpv.Container.Model
import Cpv.Container.WellFormed
import Cpv.Container.Resolve
import Cpv.Container.Instance
import Cpv.Container.Lifetimes
import Cpv.Container.LifetimesKept
import Cpv.Container.Order
import Cpv.Container.Patch
import Cpv.Container.Patched
import Cpv.Container.PatchedAsPromised
import Cpv.Utility.HtmlEncode
import Cpv.Utility.UrlEscapes
import Cpv.Core.Assignments
import Cpv.Utility.KeyValueText
import Cpv.Http.Form
import Cpv.Utility.UriQuery
import Cpv.Http.FormRoundTrip
import Cpv.Connection.CallbackOrder
import Cpv.Connection.Assembly
import Cpv.Connection.KeepAlive
import Cpv.Connection.Isolation
import Cpv.Core.Loop
import Cpv.Core.Buffer
import Cpv.Core.Scanner
import Cpv.Core.Split
import Cpv.Utility.HtmlEntities
import Cpv.Utility.HtmlDecode
import Cpv.Utility.HtmlDecodeBounds
import Cpv.Utility.UrlDecodeBounds
import Cpv.Utility.UriBounds
import Cpv.Http.ScannerBounds
import Cpv.Http.CookieText
import Cpv.StaticFile.RangeHeader
import Cpv.Http.HeaderMap
import Cpv.Utility.Packet
import Cpv.Utility.PacketAppend
import Cpv.Core.Calendar
import Cpv.Utility.DateUtils
import Cpv.Http.ClientCookie
import Cpv.Http.CookieDate
import Cpv.Http.SetCookie
import Cpv.Http.SetCookieUnderstood
import Cpv.Core.Objects
import Cpv.Utility.PacketStore
import Cpv.Utility.PacketObservers
import Cpv.Stream.InputStream
import Cpv.Stream.PacketInputStream
import Cpv.Core.Recency
import Cpv.Core.Transducer
import Cpv.Utility.LRUReference
import Cpv.Utility.LRUHistory
import Cpv.Core.Words
import Cpv.Utility.SplitString
import Cpv.Utility.HexText
import Cpv.Utility.HexBytes
import Cpv.Utility.UUIDText
import Cpv.Core.IntType
import Cpv.Utility.DecimalText
import Cpv.Utility.BasicSharedStringBuilder
import Cpv.Utility.BuilderHistory
import Cpv.Utility.DecimalIntegers
import Cpv.Core.Regions
import Cpv.Allocators.StackAllocator
import Cpv.Core.BitFields
import Cpv.Utility.TimeUUID
import Cpv.Utility.TimeUUIDHistory
import Cpv.Core.Slots
import Cpv.Utility.Reusable
import Cpv.Utility.ReusableOwnership
import Cpv.Utility.ReusableHistory
import Cpv.Core.Coalesce
import Cpv.HttpParser.States
import Cpv.HttpParser.Model
import Cpv.HttpParser.Moves
import Cpv.HttpParser.Bytewise
import Cpv.HttpParser.Scan
import Cpv.HttpParser.Segments
import Cpv.HttpParser.Grammar
import Cpv.HttpParser.HeaderNames
import Cpv.HttpParser.BodyHeaders
import Cpv.HttpParser.Announced
import Cpv.HttpParser.Framing
