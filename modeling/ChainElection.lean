import ChainElection.Text.Blank
import ChainElection.Text.Lowercase
import ChainElection.Text.Numeral
import ChainElection.Text.Quoted
import ChainElection.Text.Utf8
import ChainElection.Bytes.Basic
import ChainElection.Bytes.Hex
import ChainElection.Bytes.Base58
import ChainElection.Bytes.Sha256
import ChainElection.Time.Written
import ChainElection.Time.Read
import ChainElection.Text.Outline
import ChainElection.Json.Decoder
import ChainElection.Binary.Codec
import ChainElection.Chain.Account
import ChainElection.Chain.Transaction
import ChainElection.Chain.Contract
import ChainElection.Election.Tally
import ChainElection.Election.Ballot
import ChainElection.Election.Candidate
import ChainElection.Submission.Status
import ChainElection.Submission.Record
import ChainElection.Client.Error
import ChainElection.Client.Settings
import ChainElection.Table
import ChainElection.Submission.Store
import ChainElection.Submission.Database
import ChainElection.Submission.Run
import ChainElection.Monitor.Scope
import ChainElection.Monitor.Tracker
import ChainElection.Monitor.Run
import ChainElection.Client.Node
import ChainElection.Client.Reader
import ChainElection.Client.Submitter
import ChainElection.Http.Gateway
import ChainElection.Http.Gathering
import ChainElection.Http.Waiting
import ChainElection.Session.Basic
import ChainElection.Session.Run
import ChainElection.Session.Rehearsal
import ChainElection.Client.DecodeWorker
import ChainElection.Files.Path
import ChainElection.Files.System
import ChainElection.Index.Location
import ChainElection.Files.Database
import ChainElection.Bytes.Order
import ChainElection.Index.Row
import ChainElection.Index.Database
import ChainElection.Index.Run
import ChainElection.Text.Percent
import ChainElection.Service.Start
import ChainElection.Service.Deployment
import ChainElection.Service.Layers
import ChainElection.Service.Run
import ChainElection.CommandLine.Program
import ChainElection.CommandLine.StoreText
import ChainElection.Main
import ChainElection.Proofs.Monitor.Scopes
import ChainElection.Proofs.Submission.History
import ChainElection.Proofs.Monitor.Steps
import ChainElection.Proofs.Monitor.Lists
import ChainElection.Proofs.Monitor.Claims
import ChainElection.Proofs.Monitor.Abort
import ChainElection.Proofs.Monitor.Phases
import ChainElection.Proofs.Monitor.Watch
import ChainElection.Proofs.Monitor.Fate
import ChainElection.Proofs.Monitor.Outcome
import ChainElection.Proofs.Monitor.Evidence
import ChainElection.Proofs.Json.Text
import ChainElection.Proofs.Json.Reader
import ChainElection.Proofs.Bytes.Hex
import ChainElection.Proofs.Bytes.Base58
import ChainElection.Proofs.Time.Instant
import ChainElection.Proofs.Submission.Text
import ChainElection.Proofs.Submission.Record
import ChainElection.Proofs.Index.Database
import ChainElection.Proofs.Service.Path
import ChainElection.Proofs.Service.Answer
import ChainElection.Proofs.Service.Deployment
import ChainElection.Proofs.Session.Steps
import ChainElection.Proofs.Session.Guards
import ChainElection.Proofs.Session.Votes
import ChainElection.Proofs.Session.Receipts
import ChainElection.Proofs.Binary.Codec
import ChainElection.Proofs.Election.Messages
import ChainElection.Proofs.Time.Stored
import ChainElection.Proofs.Index.Refinement
import ChainElection.Proofs.Service.Access
import ChainElection.Proofs.Service.ReadBack
import ChainElection.Proofs.Monitor.Holders
import ChainElection.Proofs.Session.Departure
import ChainElection.Proofs.Session.Connections
import ChainElection.Proofs.Client.DecodeWorker
import ChainElection.Proofs.Client.Submitter
import ChainElection.Proofs.Monitor.Updates
import ChainElection.Proofs.Monitor.Failures
import ChainElection.Proofs.Monitor.Course
import ChainElection.Proofs.Monitor.Effort
import ChainElection.Proofs.Monitor.Polls
import ChainElection.Proofs.Monitor.Resuming
import ChainElection.Proofs.Session.Polling
import ChainElection.Proofs.Session.Repair
import ChainElection.Proofs.Submission.Interchange
import ChainElection.Proofs.Http.Fetching
import ChainElection.Proofs.Http.Views
import ChainElection.Proofs.Http.Gateway
import ChainElection.Proofs.Election.Listing
import ChainElection.Proofs.CommandLine.Signing
import ChainElection.Proofs.Time.Order
import ChainElection.Proofs.Service.Chronology
import ChainElection.Proofs.Chain.Spelling
import ChainElection.Proofs.Text.Blank
import ChainElection.Proofs.Text.Numeral
import ChainElection.Proofs.Chain.Contract
import ChainElection.Proofs.Client.Wire
import ChainElection.Proofs.Http.Bodies
import ChainElection.Proofs.Http.Waiting
import ChainElection.Proofs.Files.Walk
import ChainElection.Proofs.Files.Directories
import ChainElection.Proofs.Files.Entry
import ChainElection.Proofs.Index.Location
import ChainElection.Proofs.Election.Selections
import ChainElection.Proofs.Time.Calendar
import ChainElection.Proofs.Time.Count
import ChainElection.Proofs.Election.Phases
import ChainElection.Proofs.Session.Snapshot
