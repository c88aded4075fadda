import OpenvpnConnect.Transition.Run
import OpenvpnConnect.Transition.Trace
import OpenvpnConnect.Transition.Mutex
import OpenvpnConnect.Client.Basic
import OpenvpnConnect.Client.Moves
import OpenvpnConnect.Client.Ownership
import OpenvpnConnect.Client.Session
import OpenvpnConnect.Client.Refinement
import OpenvpnConnect.Client.Flag
import OpenvpnConnect.Client.Stop
import OpenvpnConnect.Tokio.Basic
import OpenvpnConnect.Tokio.Moves
import OpenvpnConnect.Tokio.Labels
import OpenvpnConnect.Tokio.Refinement
import OpenvpnConnect.Tokio.Session
import OpenvpnConnect.Tokio.Setup
import OpenvpnConnect.Tokio.Exclusive
import OpenvpnConnect.Tokio.Sessions
import OpenvpnConnect.Tokio.Stoppable
import OpenvpnConnect.Tokio.Sole
import OpenvpnConnect.Tokio.OneSession
import OpenvpnConnect.Tokio.Workers
import OpenvpnConnect.Tokio.Landing
import OpenvpnConnect.External.Basic
import OpenvpnConnect.External.Moves
import OpenvpnConnect.External.Frames
import OpenvpnConnect.External.Locks
import OpenvpnConnect.External.Context
import OpenvpnConnect.External.Nesting
import OpenvpnConnect.External.Lifetime
import OpenvpnConnect.External.Detached
import OpenvpnConnect.External.Delivery
import OpenvpnConnect.External.Order
import OpenvpnConnect.External.Start
import OpenvpnConnect.Commands.Basic
import OpenvpnConnect.Commands.Moves
import OpenvpnConnect.Commands.Ledger
import OpenvpnConnect.Commands.Futures
import OpenvpnConnect.Commands.Replies
import OpenvpnConnect.Commands.Refinement
import OpenvpnConnect.Text
import OpenvpnConnect.Tls.Suites
import OpenvpnConnect.Tls.Connection
import OpenvpnConnect.Tls.Plaintext
import OpenvpnConnect.Tls.Schemes
import OpenvpnConnect.Tls.Chunks
import OpenvpnConnect.Tls.Policy
import OpenvpnConnect.Tls.Verifier
import OpenvpnConnect.Crypto.Backend
import OpenvpnConnect.Expansion
import OpenvpnConnect.Crypto.Prf
import OpenvpnConnect.Crypto.Cipher
import OpenvpnConnect.Patch.Basic
import OpenvpnConnect.Patch.Hunks
import OpenvpnConnect.Text.Lines
import OpenvpnConnect.Patch.Rows
import OpenvpnConnect.Patch.Frame
import OpenvpnConnect.Text.Lemmas
import OpenvpnConnect.Patch.Sections
import OpenvpnConnect.Patch.Placement
import OpenvpnConnect.Patch.Trees
import OpenvpnConnect.Tls.Names
import OpenvpnConnect.Tls.KeyUsages
import OpenvpnConnect.Tls.Fingerprints
import OpenvpnConnect.Text.Base64
import OpenvpnConnect.Text.Find
import OpenvpnConnect.Tls.Pem
import OpenvpnConnect.Tls.Output
import OpenvpnConnect.Client.Started
import OpenvpnConnect.Native.Views
import OpenvpnConnect.Memory.Heap
import OpenvpnConnect.Memory.Rationed
import OpenvpnConnect.Memory.Boxes
import OpenvpnConnect.Native.Config
import OpenvpnConnect.Native.Owned
import OpenvpnConnect.Native.Records
import OpenvpnConnect.Native.Details
import OpenvpnConnect.Native.Calls
import OpenvpnConnect.Native.Session
import OpenvpnConnect.Tun.Options
import OpenvpnConnect.Tun.Builder
import OpenvpnConnect.Tun.Panic
import OpenvpnConnect.Tun.Dns
import OpenvpnConnect.Tls.Loading
import OpenvpnConnect.Native.FromChars
import OpenvpnConnect.Resolver
import OpenvpnConnect.Text.Blocks
import OpenvpnConnect.Tls.Bundle
import OpenvpnConnect.Tls.Serial
import OpenvpnConnect.Crypto.Digest
import OpenvpnConnect.Crypto.Aead
import OpenvpnConnect.Crypto.Objects
import OpenvpnConnect.Crypto.Population
import OpenvpnConnect.Crypto.History
import OpenvpnConnect.Crypto.Keys
import OpenvpnConnect.Dialogue
import OpenvpnConnect.Callbacks.Application
import OpenvpnConnect.Callbacks.Native
import OpenvpnConnect.Callbacks.Bridge
import OpenvpnConnect.Callbacks.Direct
import OpenvpnConnect.Callbacks.Broadcast
import OpenvpnConnect.Tls.Signing
import OpenvpnConnect.Throwing
import OpenvpnConnect.Tls.Setup
import OpenvpnConnect.Tls.Context
import OpenvpnConnect.Tls.Demands
import OpenvpnConnect.Tls.Contract
import OpenvpnConnect.Memory.Counted
import OpenvpnConnect.Tls.Objects
import OpenvpnConnect.Tls.Lifetimes
