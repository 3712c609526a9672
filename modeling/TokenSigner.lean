import TokenSigner.Action
import TokenSigner.Bytes
import TokenSigner.Client
import TokenSigner.Client.Request
import TokenSigner.Config
import TokenSigner.Config.Descriptor
import TokenSigner.Config.SoftHsm2
import TokenSigner.Config.Toml
import TokenSigner.Cryptoki.Code
import TokenSigner.Cryptoki.Library
import TokenSigner.Cryptoki.Loading
import TokenSigner.Cryptoki.Session
import TokenSigner.Cryptoki.Task
import TokenSigner.Der
import TokenSigner.Device
import TokenSigner.Digest
import TokenSigner.Digest.Hmac
import TokenSigner.Digest.Info
import TokenSigner.Digest.MerkleDamgard
import TokenSigner.Digest.Name
import TokenSigner.Digest.Sha1
import TokenSigner.Digest.Sha256
import TokenSigner.Digest.Sha3
import TokenSigner.Digest.Sha512
import TokenSigner.Ecdsa
import TokenSigner.Emsa.Description
import TokenSigner.Emsa.Mask
import TokenSigner.Emsa.Pkcs1
import TokenSigner.Emsa.Pss
import TokenSigner.Engine
import TokenSigner.Engine.Call
import TokenSigner.Entropy
import TokenSigner.Error
import TokenSigner.HandleCache
import TokenSigner.Host
import TokenSigner.Key.Curve
import TokenSigner.Key.Handle
import TokenSigner.Key.Identifier
import TokenSigner.Key.Public
import TokenSigner.Literal
import TokenSigner.MacSigner
import TokenSigner.ManagedSlot
import TokenSigner.Mechanism
import TokenSigner.Mechanism.Parameters
import TokenSigner.Mechanism.Selector
import TokenSigner.Policy.Mechanism
import TokenSigner.Policy.Password
import TokenSigner.Pool
import TokenSigner.Pool.Callers
import TokenSigner.Pool.Threads
import TokenSigner.Rehearsal.Library
import TokenSigner.Rehearsal.Pool
import TokenSigner.Rehearsal.Setting
import TokenSigner.Rehearsal.Token
import TokenSigner.Slot
import TokenSigner.Slot.Filter
import TokenSigner.Stage
import TokenSigner.Text.Blank
import TokenSigner.Text.Cased
import TokenSigner.Text.Hex
import TokenSigner.Text.Lowercase
import TokenSigner.Text.Utf8
import TokenSigner.TokenModule
import TokenSigner.Toml.Document
import TokenSigner.Toml.Literal
import TokenSigner.Toml.Reader
import TokenSigner.Toml.Value
import TokenSigner.Warning
import TokenSigner.Proofs.Action
import TokenSigner.Proofs.Bytes
import TokenSigner.Proofs.Client.Company
import TokenSigner.Proofs.Client.Layout
import TokenSigner.Proofs.Client.Loans
import TokenSigner.Proofs.Client.Logins
import TokenSigner.Proofs.Client.Mechanisms
import TokenSigner.Proofs.Client.Parties
import TokenSigner.Proofs.Client.Permission
import TokenSigner.Proofs.Client.Secrecy
import TokenSigner.Proofs.Client.Throughout
import TokenSigner.Proofs.Config.Acceptance
import TokenSigner.Proofs.Config.Faults
import TokenSigner.Proofs.Config.Meaning
import TokenSigner.Proofs.Config.SoftHsm2
import TokenSigner.Proofs.Cryptoki.Batches
import TokenSigner.Proofs.Cryptoki.Contents
import TokenSigner.Proofs.Cryptoki.Delivery
import TokenSigner.Proofs.Cryptoki.Exchanges
import TokenSigner.Proofs.Cryptoki.Lives
import TokenSigner.Proofs.Cryptoki.Loading
import TokenSigner.Proofs.Cryptoki.PublicKeys
import TokenSigner.Proofs.Cryptoki.Rehearsed
import TokenSigner.Proofs.Cryptoki.Requests
import TokenSigner.Proofs.Cryptoki.Searches
import TokenSigner.Proofs.Cryptoki.Serving
import TokenSigner.Proofs.Cryptoki.Sharing
import TokenSigner.Proofs.Cryptoki.Signatures
import TokenSigner.Proofs.Der
import TokenSigner.Proofs.Digest
import TokenSigner.Proofs.Digest.Info
import TokenSigner.Proofs.Ecdsa
import TokenSigner.Proofs.Emsa.Mask
import TokenSigner.Proofs.Emsa.Pkcs1
import TokenSigner.Proofs.Emsa.Pss
import TokenSigner.Proofs.Engine.Binding
import TokenSigner.Proofs.Engine.Coupling
import TokenSigner.Proofs.Engine.History
import TokenSigner.Proofs.HandleCache
import TokenSigner.Proofs.Key.Pkcs1
import TokenSigner.Proofs.Key.Size
import TokenSigner.Proofs.Literal
import TokenSigner.Proofs.MacSigner
import TokenSigner.Proofs.ManagedSlot.Books
import TokenSigner.Proofs.ManagedSlot.Course
import TokenSigner.Proofs.ManagedSlot.Errand
import TokenSigner.Proofs.ManagedSlot.Gates
import TokenSigner.Proofs.ManagedSlot.Hand
import TokenSigner.Proofs.ManagedSlot.Local
import TokenSigner.Proofs.ManagedSlot.Login
import TokenSigner.Proofs.ManagedSlot.LookUps
import TokenSigner.Proofs.ManagedSlot.Mirrored
import TokenSigner.Proofs.ManagedSlot.Move
import TokenSigner.Proofs.ManagedSlot.Operations
import TokenSigner.Proofs.ManagedSlot.Pooling
import TokenSigner.Proofs.ManagedSlot.Signing
import TokenSigner.Proofs.Mechanism.Descriptions
import TokenSigner.Proofs.Mechanism.Tokens
import TokenSigner.Proofs.Mirror
import TokenSigner.Proofs.Policy.Password
import TokenSigner.Proofs.Pool.Accounting
import TokenSigner.Proofs.Pool.Calls
import TokenSigner.Proofs.Pool.Waiting
import TokenSigner.Proofs.Refusals
import TokenSigner.Proofs.Splits
import TokenSigner.Proofs.Text
import TokenSigner.Proofs.TokenModule.Construction
import TokenSigner.Proofs.TokenModule.Everywhere
import TokenSigner.Proofs.TokenModule.Failure
import TokenSigner.Proofs.TokenModule.Lookup
import TokenSigner.Proofs.TokenModule.Parties
import TokenSigner.Proofs.TokenModule.Secrecy
