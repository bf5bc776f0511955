import FileCatalog.Arena.Ledger
import FileCatalog.Extraction
import FileCatalog.IdBuffer
import FileCatalog.Record.Json
import FileCatalog.Scripted.Layout
import FileCatalog.Scripted.Plugin
import FileCatalog.Session
import FileCatalog.Proofs.Course
import FileCatalog.Proofs.Handles
import FileCatalog.Proofs.Extraction
import FileCatalog.Proofs.StripeTable
import FileCatalog.Proofs.LocatorGrammar
import FileCatalog.Proofs.LocatorParts
import FileCatalog.Proofs.Queries
import FileCatalog.Proofs.Addressing
import FileCatalog.Proofs.TargetBlocks
import FileCatalog.Proofs.LayoutTours
import FileCatalog.Proofs.Relevance
import FileCatalog.Proofs.Spending
import FileCatalog.Proofs.TableFilling
import FileCatalog.Proofs.Producers
import FileCatalog.Proofs.RecordShape
import FileCatalog.Proofs.Budget
import FileCatalog.Proofs.FirstFault
import FileCatalog.Proofs.EmbeddedFids
import FileCatalog.Proofs.RejectedLocators
import FileCatalog.Proofs.TargetRoom
import FileCatalog.Proofs.ComponentIds
import FileCatalog.Proofs.FidNotation
import FileCatalog.Proofs.FidTexts
import FileCatalog.Proofs.PathForms
import FileCatalog.Proofs.StrictDecoding
import FileCatalog.Proofs.ExpiryRounds
import FileCatalog.Proofs.ExpiryDates
import FileCatalog.Proofs.HeaderFields
import FileCatalog.Proofs.Packing
import FileCatalog.Proofs.ArenaHistories
import FileCatalog.Proofs.Registrations
import FileCatalog.Proofs.RecordJson
import FileCatalog.Proofs.Identifiers
import FileCatalog.Proofs.TargetGrowth
