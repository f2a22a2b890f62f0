import SessionServer.Bytes
import SessionServer.Ids
import SessionServer.DataType
import SessionServer.Transport
import SessionServer.Frame.Error
import SessionServer.Frame.Header
import SessionServer.Frame.Codec
import SessionServer.Frame.Assembler
import SessionServer.Zlib.Inflate
import SessionServer.Zlib.Compressor
import SessionServer.Cipher.Envelope
import SessionServer.Packet.Queue
import SessionServer.Proofs.Outbound.Writing
import SessionServer.Index
import SessionServer.Network.Endpoint
import SessionServer.Network.Host
import SessionServer.Network.Address
import SessionServer.Channel.Memory
import SessionServer.Channel.Stream
import SessionServer.Channel.Datagram
import SessionServer.Channel.Text
import SessionServer.Channel.Basic
import SessionServer.Registry.Basic
import SessionServer.Tickets
import SessionServer.Dispatcher
import SessionServer.Request
import SessionServer.Engine.Outbound
import SessionServer.Engine.Inbound
import SessionServer.Engine.Broadcast
import SessionServer.Engine.Flush
import SessionServer.Settings
import SessionServer.Server.Config
import SessionServer.Server.Error
import SessionServer.Server.Basic
import SessionServer.Server.Run
import SessionServer.EchoServer
import SessionServer.Main
import SessionServer.Proofs.BigEndian
import SessionServer.Proofs.Frame.Parse
import SessionServer.Proofs.Frame.RoundTrip
import SessionServer.Proofs.Registry.Bindings
import SessionServer.Proofs.Registry.Core
import SessionServer.Proofs.Outbound.Queue
import SessionServer.Proofs.Outbound.History
import SessionServer.Proofs.Outbound.Ledger
import SessionServer.Proofs.Outbound.Fifo
import SessionServer.Proofs.Outbound.Overflow
import SessionServer.Proofs.Outbound.Delivery
import SessionServer.Proofs.Dispatch.Queue
import SessionServer.Proofs.Dispatch.Crew
import SessionServer.Proofs.Dispatch.Order
import SessionServer.Proofs.Dispatch.Conservation
import SessionServer.Proofs.Outbound.Scheduling
import SessionServer.Proofs.Outbound.Wakeup
import SessionServer.Proofs.Inbound.Frames
import SessionServer.Proofs.Inbound.Connection
import SessionServer.Proofs.Frame.Limits
import SessionServer.Proofs.Registry.Deeds
import SessionServer.Proofs.Registry.Indexes
import SessionServer.Proofs.Registry.Ownership
import SessionServer.Proofs.Outbound.Pieces
import SessionServer.Proofs.Outbound.Users
import SessionServer.Proofs.Outbound.Wholeness
import SessionServer.Proofs.Frame.Grammar
import SessionServer.Proofs.Frame.Agreement
import SessionServer.Proofs.Outbound.Tending
import SessionServer.Proofs.Outbound.Operations
import SessionServer.Proofs.Outbound.Accounts
import SessionServer.Proofs.Outbound.Farewell
import SessionServer.Proofs.Outbound.Shards
import SessionServer.Proofs.Registry.Players
import SessionServer.Proofs.Outbound.Outline
import SessionServer.Proofs.Outbound.Notices
import SessionServer.Proofs.Outbound.Lifetime
import SessionServer.Proofs.Inbound.Arrivals
import SessionServer.Proofs.Inbound.Occurrences
import SessionServer.Proofs.Inbound.Requests
import SessionServer.Proofs.Inbound.Datagrams
import SessionServer.Proofs.Inbound.Sharing
import SessionServer.Proofs.Inbound.Routes
import SessionServer.Proofs.Inbound.Roaming
import SessionServer.Proofs.Outbound.Line
import SessionServer.Proofs.Outbound.Losses
import SessionServer.Proofs.Frame.Policies
import SessionServer.Proofs.Inbound.Attaching
import SessionServer.Proofs.Frame.Dialogue
import SessionServer.Proofs.Outbound.Draining
import SessionServer.Proofs.Outbound.Recipients
import SessionServer.Proofs.Outbound.Broadcast
import SessionServer.Proofs.Frame.Calls
import SessionServer.Proofs.Frame.Buffered
import SessionServer.Proofs.Zlib.Truncation
import SessionServer.Proofs.Channel.Messages
import SessionServer.Proofs.Cipher.Nonces
import SessionServer.Proofs.Outbound.Spreading
