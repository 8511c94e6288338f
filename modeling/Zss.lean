import Zss.Lib.Machine
import Zss.Lib.Heap
import Zss.Lib.Flags
import Zss.Lib.PauseElement
import Zss.Lib.LogicalLines
import Zss.Zis.Service
import Zss.Zis.Server
import Zss.Zis.Deploy
import Zss.Zis.Router
import Zss.Zis.Registry
import Zss.Zis.History
import Zss.Zis.Authorization
import Zss.Zis.Dispatch
import Zss.Zis.Lifecycle
import Zss.Zis.Parm
import Zss.Zis.ParmGrammar
import Zss.Zisaux.Request
import Zss.Zisaux.Host
import Zss.Zisaux.Steps
import Zss.Zisaux.Slots
import Zss.Zisaux.Invariant
import Zss.Zisaux.Completion
import Zss.Zisaux.Ownership
import Zss.Tss.Parsing
import Zss.Tss.KeyLine
import Zss.Tss.AccessList
import Zss.Tss.Whohas
import Zss.Datasets.Calls
import Zss.Lib.Chunks
import Zss.Tss.LineWalk
import Zss.Tss.CallerProfiles
import Zss.Tss.GroupList
import Zss.Tss.GroupMembers
import Zss.Tss.AcidLine
import Zss.Lib.KeywordText
import Zss.Tss.Admin
import Zss.Tss.AdminCommands
import Zss.Lib.Program
import Zss.Lib.Storage
import Zss.Lib.Table
import Zss.Zis.Dynamic
import Zss.Zisaux.Manager
import Zss.Zisaux.GuestRegistry
import Zss.Zisaux.RequestAreas
import Zss.Zisaux.AreaLifecycle
import Zss.Unixfile.Upload
import Zss.Unixfile.UploadSessions
import Zss.Unixfile.UploadTables
import Zss.Datasets.Read
import Zss.Datasets.Update
import Zss.Datasets.Validated
import Zss.Datasets.Faithful
import Zss.Datasets.EtagLock
import Zss.Lib.World
import Zss.Datasets.Vsam
import Zss.Datasets.VsamSessions
import Zss.Datasets.VsamInvariant
import Zss.Zis.PluginList
import Zss.Zis.Operator
import Zss.Tss.KeyFields
import Zss.Lib.Loop
import Zss.Tss.GenresProfiles
import Zss.Tss.GenresLoop
import Zss.Tss.ProfileEntries
import Zss.Lib.Concurrent
import Zss.Jwk.Task
import Zss.Jwk.Sharing
import Zss.Jwk.Attempts
import Zss.Jwk.Trust
import Zss.Lib.Serial
import Zss.Apiml.Storage
import Zss.Apiml.RequestEncoding
import Zss.Apiml.CachingService
import Zss.Apiml.PlainService
import Zss.Apiml.SharedMap
import Zss.Lib.PutLog
import Zss.Zis.ParmMap
import Zss.Zis.ParmlibCalls
import Zss.Zis.MainParms
import Zss.Tss.Permission
import Zss.Tss.ProfileFence
import Zss.Tss.AdminCalls
import Zss.Security.AccessLists
import Zss.Lib.Paging
import Zss.Security.ProfilePrefix
import Zss.Lib.Records
import Zss.Tss.StartLine
import Zss.Tss.GroupProfiles
import Zss.Lib.Image
import Zss.Racf.ParmList
import Zss.Racf.Draft
import Zss.Racf.Encoding
import Zss.Lib.SparseTable
import Zss.Security.Client
import Zss.Security.ErrorText
import Zss.Lib.KeywordPath
import Zss.Security.Routing
import Zss.Lib.Recovery
import Zss.Services.Auth
import Zss.Services.Snarfer
import Zss.Services.SrbSnarfer
import Zss.Services.SafIdtTransport
import Zss.Status.ServerStatus
import Zss.Lib.WordClock
import Zss.Unixfile.UploadClock
import Zss.Unixfile.UploadRefusals
import Zss.Lib.Embedding
import Zss.Lib.NamePattern
import Zss.Lib.Json
import Zss.Environment.DecodeKey
import Zss.Services.Omvs
import Zss.Services.SafIdt
import Zss.Zis.StubGenerator
import Zss.Zisaux.Construction
import Zss.Zisaux.ParmFetch
import Zss.Zisaux.Commands
import Zss.Zisaux.Tokenizer
import Zss.Zisaux.HostParm
import Zss.Datasets.CopyCalls
import Zss.Datasets.Metadata
import Zss.Datasets.Creation
import Zss.Datasets.Copy
import Zss.Lib.Listing
import Zss.Datasets.Catalog
import Zss.Datasets.Paths
import Zss.Lib.Arithmetic
import Zss.Datasets.SpaceFigures
import Zss.Datasets.Shown
import Zss.Datasets.CopyAttributes
import Zss.Lib.EscapeCode
import Zss.Lib.PrintFormat
import Zss.Datasets.HlqNames
import Zss.Datasets.HlqCache
import Zss.Datasets.MemberNames
import Zss.Datasets.Deletion
import Zss.Datasets.ResponseTexts
import Zss.Datasets.Services
import Zss.Datasets.PlacedTexts
import Zss.Datasets.TextsFit
import Zss.Datasets.Lookups
import Zss.Datasets.Tally
import Zss.Datasets.Answered
import Zss.Datasets.AnsweredCopies
import Zss.Datasets.OneResponse
import Zss.Datasets.CreateAttributes
import Zss.Datasets.OwnUnits
import Zss.Environment.Settings
import Zss.Lib.LinkedList
import Zss.Plugins.PointerFile
import Zss.Plugins.Discovery
import Zss.Lib.Rules
import Zss.Racf.Extraction
import Zss.Racf.Extracted
import Zss.Security.ShownLists
import Zss.Racf.AdminService
import Zss.Racf.OutputTexts
import Zss.Racf.AdminActs
