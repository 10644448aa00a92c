import HttpReactor.Octets
import HttpReactor.Framing.Basic
import HttpReactor.Framing.Length
import HttpReactor.Framing.Scan
import HttpReactor.HeaderMap
import HttpReactor.Text.Blank
import HttpReactor.Text.Visible
import HttpReactor.Text.Quoted
import HttpReactor.Text.CodeTable
import HttpReactor.Text.Canonical
import HttpReactor.Request.Basic
import HttpReactor.Request.Head
import HttpReactor.Request.Decode
import HttpReactor.Response.Basic
import HttpReactor.Response.Wire
import HttpReactor.Service
import HttpReactor.Dispatch
import HttpReactor.Connection.Inbox
import HttpReactor.Connection.Session
import HttpReactor.Transport.Sink
import HttpReactor.Engine.Basic
import HttpReactor.Domain.Mapping
import HttpReactor.Domain.Bidi
import HttpReactor.Domain.Label
import HttpReactor.Domain.Punycode
import HttpReactor.Domain.Ascii
import HttpReactor.Endpoint.Ipv6
import HttpReactor.Endpoint.Url
import HttpReactor.Numeric.Binary64
import HttpReactor.Yaml.Mark
import HttpReactor.Yaml.Token
import HttpReactor.Yaml.Token.Scalar
import HttpReactor.Yaml.Token.Property
import HttpReactor.Yaml.Token.Stream
import HttpReactor.Yaml.Event
import HttpReactor.Yaml.Document
import HttpReactor.Yaml.Resolve
import HttpReactor.Yaml.Decode
import HttpReactor.Config.Count
import HttpReactor.Config.Basic
import HttpReactor.Config.Decode
import HttpReactor.Host
import HttpReactor.Config.Load
import HttpReactor.Server.Launch
import HttpReactor.Server.Connection
import HttpReactor.Main
import HttpReactor.Proofs.FramePrefix
import HttpReactor.Proofs.Hashers
import HttpReactor.Proofs.EngineRun
import HttpReactor.Proofs.Chunking
import HttpReactor.Proofs.ConnectionInvariant
import HttpReactor.Proofs.FrameLines
import HttpReactor.Proofs.HeadLines
import HttpReactor.Proofs.Boundary
import HttpReactor.Proofs.FrameExtension
import HttpReactor.Proofs.Isolation
import HttpReactor.Proofs.Shutdown
import HttpReactor.Proofs.FrameSafety
import HttpReactor.Proofs.WriteLoop
import HttpReactor.Proofs.WireFormat
import HttpReactor.Proofs.DispatchFraming
import HttpReactor.Proofs.ConnectionProtocol
import HttpReactor.Proofs.SessionStates
import HttpReactor.Proofs.ContentLength
import HttpReactor.Proofs.HeaderOrder
