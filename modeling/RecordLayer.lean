import RecordLayer.Buffer.Command
import RecordLayer.Buffer.View
import RecordLayer.Connection.Command
import RecordLayer.Engine.Scripted
import RecordLayer.Log
import RecordLayer.Loopback.Probe
import RecordLayer.Loopback.Session
import RecordLayer.Options.Document
import RecordLayer.Record.Outline
import RecordLayer.Proofs.Buffer.Queue
import RecordLayer.Proofs.Buffer.Safety
import RecordLayer.Proofs.CipherSuite.Spelling
import RecordLayer.Proofs.Connection.Capacity
import RecordLayer.Proofs.Connection.Errors
import RecordLayer.Proofs.Connection.FailedRead
import RecordLayer.Proofs.Connection.Idle
import RecordLayer.Proofs.Connection.Mailbox
import RecordLayer.Proofs.Connection.Plaintext
import RecordLayer.Proofs.Connection.Reordering
import RecordLayer.Proofs.Connection.Safety
import RecordLayer.Proofs.Context.Reload
import RecordLayer.Proofs.Handshake.Turns
import RecordLayer.Proofs.Library.Agreement
import RecordLayer.Proofs.Record.Framing
import RecordLayer.Proofs.Tls.Chunking
import RecordLayer.Proofs.Tls.Contract
import RecordLayer.Proofs.Tls.Delivering
import RecordLayer.Proofs.Tls.Polling
import RecordLayer.Proofs.Tls.Protecting
import RecordLayer.Proofs.Tls.Returning
import RecordLayer.Proofs.Tls.Sending
import RecordLayer.Proofs.Tls.Settled
import RecordLayer.Proofs.Transfer.Growth
import RecordLayer.Proofs.Transfer.Tasks
