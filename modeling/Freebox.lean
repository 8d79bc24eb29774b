import Freebox.Command
import Freebox.Manager
import Freebox.Script
import Freebox.Proofs.Attempt.Guarantee
import Freebox.Proofs.Network.Asking
import Freebox.Proofs.Session.Handshake
import Freebox.Proofs.Session.Authenticated
import Freebox.Proofs.Session.Renewal
import Freebox.Proofs.Session.Course
import Freebox.Proofs.Session.Chronicle
import Freebox.Proofs.Session.Provenance
import Freebox.Proofs.Command.SessionUse
import Freebox.Proofs.Command.History
import Freebox.Proofs.Envelope.Refusal
import Freebox.Proofs.Channel.Action
import Freebox.Proofs.Upload.Lifecycle
import Freebox.Proofs.Channel.Release
import Freebox.Proofs.Session.Leaving
import Freebox.Proofs.Session.Challenge
import Freebox.Proofs.Command.Exchange
import Freebox.Proofs.Stream.Delivery
import Freebox.Proofs.Stream.Release
import Freebox.Proofs.Envelope.Fault
import Freebox.Proofs.Tool.Arguments
import Freebox.Proofs.Tool.Blame
import Freebox.Proofs.Number.Rounding
import Freebox.Proofs.Number.Shortest
import Freebox.Proofs.Json.Text
import Freebox.Proofs.Json.Number
import Freebox.Proofs.Json.Sound
import Freebox.Proofs.Json.RoundTrip
import Freebox.Proofs.Resource.Record
import Freebox.Proofs.Envelope.Report
import Freebox.Proofs.Tool.Answer
import Freebox.Proofs.Resource.Revision
import Freebox.Proofs.Text.Base64
import Freebox.Proofs.Text.Utf8
import Freebox.Proofs.Resource.Path
import Freebox.Proofs.Session.Purpose
import Freebox.Proofs.Command.Path
import Freebox.Proofs.Resource.Draft
import Freebox.Proofs.Command.Unconfigured
import Freebox.Proofs.Attempt.Lockstep
import Freebox.Proofs.Network.Lockstep
import Freebox.Proofs.Session.Lockstep
import Freebox.Proofs.Command.Lockstep
import Freebox.Proofs.Command.Clock
import Freebox.Proofs.Command.Secret
import Freebox.Proofs.Script.Closing
import Freebox.Proofs.Envelope.Table
import Freebox.Proofs.Tool.Written
import Freebox.Proofs.Resource.Decoding
import Freebox.Proofs.Session.Registration
import Freebox.Proofs.Session.Trial
import Freebox.Proofs.Session.Deadline
import Freebox.Proofs.Command.Deadline
import Freebox.Proofs.Channel.Reply
import Freebox.Proofs.Text.Base64Reading
import Freebox.Proofs.Text.Path
import Freebox.Proofs.Session.Download
import Freebox.Proofs.Upload.Numbering
import Freebox.Proofs.Command.Numbering
import Freebox.Proofs.Json.Encoding
import Freebox.Proofs.Resource.Nesting
import Freebox.Proofs.Resource.Unread
import Freebox.Proofs.Network.Endpoint
import Freebox.Proofs.Command.Address
import Freebox.Proofs.Command.Sharing
import Freebox.Proofs.Text.Split
import Freebox.Proofs.Resource.Form
import Freebox.Proofs.Network.Segment
import Freebox.Proofs.Tool.Acting
import Freebox.Proofs.Tool.Place
