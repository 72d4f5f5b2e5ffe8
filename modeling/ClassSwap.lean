import ClassSwap.Address
import ClassSwap.Agent.Mock
import ClassSwap.Agent.MockTasks
import ClassSwap.Agent.Network
import ClassSwap.Agent.Scripted
import ClassSwap.Base64
import ClassSwap.Blank
import ClassSwap.Bytes
import ClassSwap.Channel
import ClassSwap.Channel.Call
import ClassSwap.Channel.Error
import ClassSwap.Channel.Lane
import ClassSwap.Channel.Standing
import ClassSwap.ClassFilter
import ClassSwap.ClassName
import ClassSwap.CommandLine.Arguments
import ClassSwap.CommandLine.Console
import ClassSwap.CommandLine.Option
import ClassSwap.CommandLine.Run
import ClassSwap.Compile.Dependencies
import ClassSwap.Compile.Javac
import ClassSwap.Compile.Listening
import ClassSwap.Compile.Outcome
import ClassSwap.Compile.Output
import ClassSwap.Compile.Pipeline
import ClassSwap.Compile.Provider
import ClassSwap.Compile.Scripted
import ClassSwap.Compile.StandIn
import ClassSwap.Config
import ClassSwap.Decimal
import ClassSwap.Duration
import ClassSwap.FileTree
import ClassSwap.Host
import ClassSwap.Json
import ClassSwap.JsonText.Read
import ClassSwap.JsonText.Scan
import ClassSwap.JsonText.Tagged
import ClassSwap.JsonText.Tree
import ClassSwap.Link
import ClassSwap.Log
import ClassSwap.LogFilter
import ClassSwap.Main
import ClassSwap.Mismatch
import ClassSwap.Path
import ClassSwap.Pattern.CharClass
import ClassSwap.Pattern.Expr
import ClassSwap.Pattern.Parse
import ClassSwap.Proofs.AgentAgreement
import ClassSwap.Proofs.AgentReplies
import ClassSwap.Proofs.ArchiveContents
import ClassSwap.Proofs.ArchiveRows
import ClassSwap.Proofs.Attempts
import ClassSwap.Proofs.Base64Text
import ClassSwap.Proofs.BatchWrites
import ClassSwap.Proofs.BlankText
import ClassSwap.Proofs.CacheCoherence
import ClassSwap.Proofs.CacheLifetime
import ClassSwap.Proofs.CanonicalBodies
import ClassSwap.Proofs.ChannelRun
import ClassSwap.Proofs.ClassDirectory
import ClassSwap.Proofs.ClassListing
import ClassSwap.Proofs.ClassLoop
import ClassSwap.Proofs.ClassPaths
import ClassSwap.Proofs.CollectedClasses
import ClassSwap.Proofs.CompileReports
import ClassSwap.Proofs.CompilerReach
import ClassSwap.Proofs.CompilerWork
import ClassSwap.Proofs.ConfigOverlay
import ClassSwap.Proofs.ConnectionLoss
import ClassSwap.Proofs.DecodingTolerance
import ClassSwap.Proofs.DependencySelection
import ClassSwap.Proofs.DirectoryWalk
import ClassSwap.Proofs.DirectoryWrites
import ClassSwap.Proofs.ExitCodes
import ClassSwap.Proofs.FailureMessages
import ClassSwap.Proofs.ForwardedLines
import ClassSwap.Proofs.FrameStream
import ClassSwap.Proofs.FrameText
import ClassSwap.Proofs.ImportedClasses
import ClassSwap.Proofs.JarContents
import ClassSwap.Proofs.JsonCompact
import ClassSwap.Proofs.JsonGrammar
import ClassSwap.Proofs.JsonScan
import ClassSwap.Proofs.KeyedTables
import ClassSwap.Proofs.LaneCalls
import ClassSwap.Proofs.LaneConnections
import ClassSwap.Proofs.LaneKinship
import ClassSwap.Proofs.LaneMove
import ClassSwap.Proofs.MessageText
import ClassSwap.Proofs.MockBookkeeping
import ClassSwap.Proofs.NameOrder
import ClassSwap.Proofs.OutermostClasses
import ClassSwap.Proofs.PackageDeclaration
import ClassSwap.Proofs.PathCodecs
import ClassSwap.Proofs.PathText
import ClassSwap.Proofs.PendingRequests
import ClassSwap.Proofs.ProgramRuns
import ClassSwap.Proofs.PromptTasks
import ClassSwap.Proofs.Records
import ClassSwap.Proofs.ReferenceReadings
import ClassSwap.Proofs.ReferenceScan
import ClassSwap.Proofs.Rehearsal
import ClassSwap.Proofs.ReplyHeeded
import ClassSwap.Proofs.ReplyInTime
import ClassSwap.Proofs.ReplySource
import ClassSwap.Proofs.ReplyVerdict
import ClassSwap.Proofs.RequestNumbers
import ClassSwap.Proofs.RequestSettlement
import ClassSwap.Proofs.RequestText
import ClassSwap.Proofs.SavedClasses
import ClassSwap.Proofs.ScratchConfinement
import ClassSwap.Proofs.SessionBounds
import ClassSwap.Proofs.SessionReports
import ClassSwap.Proofs.SoleCaller
import ClassSwap.Proofs.SourceFiles
import ClassSwap.Proofs.StandingLedger
import ClassSwap.Proofs.StoredBlocks
import ClassSwap.Proofs.TableRecords
import ClassSwap.Proofs.TargetIsolation
import ClassSwap.Proofs.TaskCourse
import ClassSwap.Proofs.TaskLog
import ClassSwap.Proofs.TaskMoves
import ClassSwap.Proofs.TaskReplies
import ClassSwap.Proofs.TextBoundaries
import ClassSwap.Proofs.TextBytes
import ClassSwap.Proofs.Transmissions
import ClassSwap.Proofs.TreeChanges
import ClassSwap.Proofs.UploadDelivery
import ClassSwap.Quoted
import ClassSwap.Save.Batch
import ClassSwap.Save.Naming
import ClassSwap.Session
import ClassSwap.Source.Identifier
import ClassSwap.Source.Package
import ClassSwap.Source.Reference
import ClassSwap.Table
import ClassSwap.Target
import ClassSwap.Toml.Decode
import ClassSwap.Toml.Document
import ClassSwap.Toml.Node
import ClassSwap.Toml.Scalar
import ClassSwap.Unicode.CaseFold
import ClassSwap.Unicode.Category
import ClassSwap.Unicode.Property
import ClassSwap.Unicode.Runs
import ClassSwap.Unicode.Script
import ClassSwap.Upload.Jar
import ClassSwap.Upload.Payload
import ClassSwap.Upload.Report
import ClassSwap.Utf8
import ClassSwap.Wire.Frame
import ClassSwap.Wire.Message
import ClassSwap.Zip.Archive
import ClassSwap.Zip.Archiver
import ClassSwap.Zip.Crc32
import ClassSwap.Zip.Inflate
import ClassSwap.Zip.Packer
