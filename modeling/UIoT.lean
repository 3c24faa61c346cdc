import UIoT.Defs
import UIoT.DevModel.Callbacks
import UIoT.DevModel.Fitting
import UIoT.DevModel.Overflow
import UIoT.DevModel.Payload
import UIoT.DevModel.Rendering
import UIoT.DevModel.Replies
import UIoT.DevModel.Reports
import UIoT.DevModel.RetCodes
import UIoT.Http.FileDigests
import UIoT.Http.Signatures
import UIoT.Http.Upload
import UIoT.Http.Values
import UIoT.Lib.Base128
import UIoT.Lib.BlockHash
import UIoT.Lib.Chains
import UIoT.Lib.Exchanges
import UIoT.Lib.FirstMatch
import UIoT.Lib.Handles
import UIoT.Lib.Json
import UIoT.Lib.JsonReader
import UIoT.Lib.JsonSyntax
import UIoT.Lib.JsonWriter
import UIoT.Lib.LengthPrefix
import UIoT.Lib.Md5
import UIoT.Lib.Runs
import UIoT.Lib.Tickets
import UIoT.Lib.TopicFilter
import UIoT.Mqtt.AckEvents
import UIoT.Mqtt.Admission
import UIoT.Mqtt.Answers
import UIoT.Mqtt.Backoff
import UIoT.Mqtt.Broker
import UIoT.Mqtt.Client
import UIoT.Mqtt.Codes
import UIoT.Mqtt.Confirmations
import UIoT.Mqtt.ConnectPackets
import UIoT.Mqtt.Delivery
import UIoT.Mqtt.DynamicRegister
import UIoT.Mqtt.FilterLists
import UIoT.Mqtt.Format
import UIoT.Mqtt.Framing
import UIoT.Mqtt.Handlers
import UIoT.Mqtt.KeepAlive
import UIoT.Mqtt.Login
import UIoT.Mqtt.Machine
import UIoT.Mqtt.PacketIds
import UIoT.Mqtt.Packets
import UIoT.Mqtt.PublishAcks
import UIoT.Mqtt.PublishPackets
import UIoT.Mqtt.PublishSize
import UIoT.Mqtt.ReadPacket
import UIoT.Mqtt.Recipients
import UIoT.Mqtt.Reconnect
import UIoT.Mqtt.RemLen
import UIoT.Mqtt.RemLenCodec
import UIoT.Mqtt.Requests
import UIoT.Mqtt.Resubscribe
import UIoT.Mqtt.Sending
import UIoT.Mqtt.Slots
import UIoT.Mqtt.Stream
import UIoT.Mqtt.SubackEvents
import UIoT.Mqtt.SubackPackets
import UIoT.Mqtt.SubscribeAcks
import UIoT.Mqtt.Subscriptions
import UIoT.Mqtt.Sweeps
import UIoT.Mqtt.TcpRead
import UIoT.Mqtt.TopicCopy
import UIoT.Mqtt.TopicMatch
import UIoT.Mqtt.Unsubscribing
import UIoT.Mqtt.Wires
import UIoT.Mqtt.Yield
import UIoT.Net
import UIoT.Ota.Cancel
import UIoT.Ota.Client
import UIoT.Ota.Fetch
import UIoT.Ota.Finish
import UIoT.Ota.Handles
import UIoT.Ota.Integrity
import UIoT.Ota.Lib
import UIoT.Ota.Lines
import UIoT.Ota.Machine
import UIoT.Ota.Moves
import UIoT.Ota.Nesting
import UIoT.Ota.Percents
import UIoT.Ota.Queue
import UIoT.Ota.RangeSizes
import UIoT.Ota.RangedFetch
import UIoT.Ota.Ranges
import UIoT.Ota.Reliable
import UIoT.Ota.Resume
import UIoT.Ota.Server
import UIoT.Ota.Statuses
import UIoT.Ota.UpdateMsgs
import UIoT.Ota.UpstreamMsgs
import UIoT.Ports.TlsWrite
import UIoT.Shadow.Accounting
import UIoT.Shadow.Bounds
import UIoT.Shadow.Client
import UIoT.Shadow.Completion
import UIoT.Shadow.Document
import UIoT.Shadow.Manager
import UIoT.Shadow.Matching
import UIoT.Shadow.Registration
import UIoT.Shadow.Registry
import UIoT.Shadow.Rejection
import UIoT.Shadow.RoundTrip
import UIoT.Shadow.Values
import UIoT.Shadow.WellFormed
import UIoT.Timer
import UIoT.Utils.Assembly
import UIoT.Utils.Contents
import UIoT.Utils.FlatLookup
import UIoT.Utils.HeaderBounds
import UIoT.Utils.HexCodec
import UIoT.Utils.Hmac
import UIoT.Utils.Httpc
import UIoT.Utils.JsonIteration
import UIoT.Utils.JsonKeys
import UIoT.Utils.JsonLookup
import UIoT.Utils.JsonMemory
import UIoT.Utils.JsonParser
import UIoT.Utils.JsonScan
import UIoT.Utils.LinkedList
import UIoT.Utils.ListRuns
import UIoT.Utils.Md5
import UIoT.Utils.MemberLookup
import UIoT.Utils.NestedLookup
import UIoT.Utils.Printf
import UIoT.Utils.Prompt
import UIoT.Utils.Reception
import UIoT.Utils.Replacing
import UIoT.Utils.RequestHead
import UIoT.Utils.RequestSending
import UIoT.Utils.ResponseHeads
import UIoT.Utils.Scanf
import UIoT.Utils.Sha2
import UIoT.Utils.Stalls
import UIoT.Utils.Url
