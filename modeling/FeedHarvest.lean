import FeedHarvest.Main
import FeedHarvest.Proofs.Dictionary.Compiler
import FeedHarvest.Proofs.Feed.Delimited
import FeedHarvest.Proofs.Feed.Rows
import FeedHarvest.Proofs.Feed.Markup
import FeedHarvest.Proofs.Ingest.Responses
import FeedHarvest.Proofs.Dictionary.Composition
import FeedHarvest.Proofs.Record.Document
import FeedHarvest.Proofs.Ingest.Pruning
import FeedHarvest.Proofs.Ingest.Interruption
import FeedHarvest.Proofs.Ingest.Locality
import FeedHarvest.Proofs.Command.Session
import FeedHarvest.Proofs.Ingest.Timing
import FeedHarvest.Proofs.Command.Run
import FeedHarvest.Proofs.Names
import FeedHarvest.Proofs.Command.Independence
import FeedHarvest.Proofs.Search.BulkBody
import FeedHarvest.Proofs.Yaml.Reader
import FeedHarvest.Proofs.Yaml.ToJson
import FeedHarvest.Proofs.Dictionary.Directive
import FeedHarvest.Proofs.Dictionary.Grammar
import FeedHarvest.Proofs.Dictionary.Reading
import FeedHarvest.Proofs.Dictionary.Vocabulary
import FeedHarvest.Proofs.Dictionary.Marking
import FeedHarvest.Proofs.Pipeline.Script
import FeedHarvest.Proofs.Pipeline.Descriptor
import FeedHarvest.Proofs.Html.Fragment
import FeedHarvest.Proofs.Record.Cleaning
import FeedHarvest.Proofs.Xml.Tree
import FeedHarvest.Proofs.Feed.Elements
import FeedHarvest.Proofs.Dictionary.NestedPath
import FeedHarvest.Proofs.Dictionary.Nulls
import FeedHarvest.Proofs.Record.Reordering
import FeedHarvest.Proofs.Record.Shape
import FeedHarvest.Proofs.Command.Settings
import FeedHarvest.Proofs.Pipeline.Listing
import FeedHarvest.Proofs.Command.Network
