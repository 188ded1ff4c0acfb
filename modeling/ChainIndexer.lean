import ChainIndexer.Http.TipStream
import ChainIndexer.Json.Render
import ChainIndexer.Proofs.Footprint
import ChainIndexer.Proofs.Store.AppendOnly
import ChainIndexer.Proofs.Store.Replay
import ChainIndexer.Service
import ChainIndexer.Store.Document
import ChainIndexer.Proofs.Crew
import ChainIndexer.Proofs.Writes
import ChainIndexer.Proofs.CompletionMarker
import ChainIndexer.Proofs.Steady
import ChainIndexer.Proofs.OrderIndependence
import ChainIndexer.Proofs.Alone
import ChainIndexer.Proofs.Redo
import ChainIndexer.Proofs.Acceptance
import ChainIndexer.Proofs.Following
import ChainIndexer.Proofs.Shutdown
import ChainIndexer.Proofs.Lifetime
import ChainIndexer.Proofs.Staff
import ChainIndexer.Proofs.Retention
import ChainIndexer.Proofs.Isolation
import ChainIndexer.Proofs.Producers
import ChainIndexer.Proofs.Identity
import ChainIndexer.Proofs.InTurn
import ChainIndexer.Proofs.RetentionWindow
import ChainIndexer.Proofs.AnsweredHeight
import ChainIndexer.Proofs.CommitSignatures
import ChainIndexer.Proofs.Closing
import ChainIndexer.Proofs.Http.Host
import ChainIndexer.Proofs.Http.ValidatorPages
import ChainIndexer.Proofs.Http.ShortSets
import ChainIndexer.Proofs.Http.GenesisFallback
import ChainIndexer.Proofs.Http.NewHeights
import ChainIndexer.Proofs.Messages
import ChainIndexer.Proofs.Signers
import ChainIndexer.Proofs.Mentions
import ChainIndexer.Proofs.Balances
import ChainIndexer.Proofs.BlockTimes
import ChainIndexer.Proofs.Correlation
import ChainIndexer.Proofs.Http.BlockEncoding
import ChainIndexer.Proofs.Registration
import ChainIndexer.Proofs.GenesisState
import ChainIndexer.Proofs.IntegerText
import ChainIndexer.Proofs.Clipping
