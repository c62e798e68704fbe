import ASync.Common.Table
import ASync.Common.Newest
import ASync.Common.Deltas
import ASync.Common.Effect
import ASync.Common.Run
import ASync.Common.Wire
import ASync.Core.Model.Libraries
import ASync.Core.Model.Beans
import ASync.Core.Model.KeystoreHandler
import ASync.Core.Model.FileBlockCache
import ASync.Core.Helpers.Beans
import ASync.Core.Helpers.Sample
import ASync.Repository.Model.SqlRepository
import ASync.Repository.Helpers.UpdateFileInfo
import ASync.Repository.Statistics
import ASync.Bep.Model.Protos
import ASync.Bep.Model.IndexHandler
import ASync.Bep.Helpers.IndexInfo
import ASync.Bep.Helpers.Records
import ASync.Bep.Helpers.ClusterConfig
import ASync.Bep.Helpers.Messages
import ASync.Bep.Bookkeeping
import ASync.Bep.Atomicity
import ASync.Bep.Replication
import ASync.Bep.Discarding
import ASync.Bep.Model.Framing
import ASync.Bep.Framing
import ASync.Bep.Model.BlockPuller
import ASync.Bep.Helpers.BlockPuller
import ASync.Bep.Download
import ASync.Bep.Model.DataSource
import ASync.Bep.Transfer
import ASync.Bep.Model.BlockPusher
import ASync.Bep.Versions
import ASync.Bep.Model.IndexMessageProcessor
import ASync.Bep.Helpers.IndexMessageProcessor
import ASync.Bep.Acquisition
import ASync.Core.DeviceIds
import ASync.Common.Sequenced
import ASync.HttpRelay.Model.HttpRelayConnection
import ASync.HttpRelay.Model.RelaySessionConnection
import ASync.HttpRelay.Downstream
import ASync.HttpRelay.Upstream
import ASync.HttpRelay.EndOfStream
import ASync.Core.Configuration
import ASync.Bep.Model.BlockExchangeConnectionHandler
import ASync.Bep.Completion
import ASync.Bep.Connecting
import ASync.Bep.Convergence
import ASync.Repository.Model.StatsCache
import ASync.Repository.StatsCache
import ASync.Core.Typos
import ASync.Relay.Model.RelayClient
import ASync.Bep.BlockLayout
import ASync.Relay.Invitations
import ASync.Bep.KeepAlive
import ASync.Bep.Coherence
import ASync.Bep.Model.FileUpload
import ASync.Common.Threads
import ASync.Bep.FileUpload
import ASync.Bep.Model.FileDownload
import ASync.Bep.FileDownload
import ASync.Bep.WakeUps
import ASync.Bep.Model.Recognition
import ASync.Bep.Recognition
import ASync.Common.Regex
import ASync.Core.Model.DeviceAddress
import ASync.Core.Addresses
import ASync.Common.Frames
import ASync.Repository.TemporaryData
import ASync.Bep.Model.Spooling
import ASync.Bep.Spooling
import ASync.Core.Model.FilenameUtils
import ASync.Core.Paths
import ASync.Common.Sorting
import ASync.Core.Model.FileInfoOrdering
import ASync.Bep.Model.IndexFinder
import ASync.Bep.ResultLists
import ASync.Repository.Model.Queries
import ASync.Bep.Model.IndexBrowser
import ASync.Bep.Helpers.IndexBrowser
import ASync.Bep.Listings
import ASync.Bep.Navigation
import ASync.Bep.Model.Preloading
import ASync.Bep.Preloading
import ASync.Bep.Model.Searches
import ASync.Bep.Model.Staleness
import ASync.Bep.Searches
import ASync.Bep.DownloadProgress
import ASync.Core.Model.BlockCaches
import ASync.Core.CacheSize
import ASync.Core.Model.Persisting
import ASync.Core.Persistence
import ASync.Client.Model.DevicesHandler
import ASync.Client.DeviceStats
import ASync.Client.Model.SyncthingClient
import ASync.Bep.Staleness
import ASync.Client.Connections
import ASync.Repository.Model.Sequencer
import ASync.Repository.Sequences
import ASync.Discovery.Model.LocalDiscorveryHandler
import ASync.Discovery.Announces
import ASync.Core.Model.KeystoreLoader
import ASync.Core.Identity
import ASync.Bep.Model.ClusterConfig
import ASync.Bep.Model.Synchronization
import ASync.Bep.Synchronization
import ASync.HttpRelay.Model.HttpRelayServer
import ASync.HttpRelay.Sessions
import ASync.HttpRelay.SessionMap
import ASync.Discovery.AddressRanking
import ASync.Discovery.AddressSupply
import ASync.Bep.Model.Sending
import ASync.Bep.OutgoingStream
import ASync.Relay.SessionMode
import ASync.Client.Model.Openings
import ASync.Client.Openings
