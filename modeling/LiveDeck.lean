import LiveDeck.Main
import LiveDeck.Proofs.CommandLine.Escapes
import LiveDeck.Proofs.CommandLine.ExitCodes
import LiveDeck.Proofs.CommandLine.Intervals
import LiveDeck.Proofs.CommandLine.Iteration
import LiveDeck.Proofs.CommandLine.Journal
import LiveDeck.Proofs.CommandLine.Source
import LiveDeck.Proofs.Deck.Remembered
import LiveDeck.Proofs.Deck.Frame
import LiveDeck.Proofs.Deck.Repeated
import LiveDeck.Proofs.Log.Records
import LiveDeck.Proofs.Metadata.LineCuts
import LiveDeck.Proofs.Metadata.WrittenBlocks
import LiveDeck.Proofs.Document.Contents
import LiveDeck.Proofs.Document.DefinitionItems
import LiveDeck.Proofs.Document.FenceParts
import LiveDeck.Proofs.Document.Grouping
import LiveDeck.Proofs.Document.LineEndings
import LiveDeck.Proofs.Document.OneLine
import LiveDeck.Proofs.Document.Unreadable
import LiveDeck.Proofs.Document.WordSplit
import LiveDeck.Proofs.Files.DeckPaths
import LiveDeck.Proofs.Page.Nesting
import LiveDeck.Proofs.Page.Offences
import LiveDeck.Proofs.Page.TextContent
import LiveDeck.Proofs.Page.Articles
import LiveDeck.Proofs.Page.Skeleton
import LiveDeck.Proofs.Page.HeadTitle
import LiveDeck.Proofs.Page.AttributeValues
import LiveDeck.Proofs.Page.ReadPages
import LiveDeck.Proofs.Page.ShownCode
import LiveDeck.Proofs.Page.TitleSlide
