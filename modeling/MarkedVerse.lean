import MarkedVerse.Alignment
import MarkedVerse.Command.Run
import MarkedVerse.Command.Usage
import MarkedVerse.Config
import MarkedVerse.Config.Decode
import MarkedVerse.Config.Encode
import MarkedVerse.Config.Storage
import MarkedVerse.Document
import MarkedVerse.DocumentFile
import MarkedVerse.FileSystem
import MarkedVerse.FileTree
import MarkedVerse.Html.Builder
import MarkedVerse.Html.Builder.Body
import MarkedVerse.Html.Builder.Foreign
import MarkedVerse.Html.Builder.Formatting
import MarkedVerse.Html.Builder.Run
import MarkedVerse.Html.Builder.Table
import MarkedVerse.Html.Escape
import MarkedVerse.Html.Markup
import MarkedVerse.Html.Reference
import MarkedVerse.Html.Reference.Table
import MarkedVerse.Html.Sanitize
import MarkedVerse.Html.Tag
import MarkedVerse.Html.Token
import MarkedVerse.Html.Tree
import MarkedVerse.Html.Url
import MarkedVerse.Html.Vocabulary
import MarkedVerse.Insertion
import MarkedVerse.Json.Reader
import MarkedVerse.Json.Value
import MarkedVerse.Layout
import MarkedVerse.Listing
import MarkedVerse.Main
import MarkedVerse.Marker
import MarkedVerse.Page
import MarkedVerse.Proofs.BreakInsertion
import MarkedVerse.Proofs.EditOrder
import MarkedVerse.Proofs.FailedOpening
import MarkedVerse.Proofs.FailingCalls
import MarkedVerse.Proofs.Gaps
import MarkedVerse.Proofs.LastTemplate
import MarkedVerse.Proofs.Lexing
import MarkedVerse.Proofs.MarkerGrammar
import MarkedVerse.Proofs.ParagraphBreaks
import MarkedVerse.Proofs.Paragraphs
import MarkedVerse.Proofs.Parts
import MarkedVerse.Proofs.Places
import MarkedVerse.Proofs.Recognition
import MarkedVerse.Proofs.Regrouping
import MarkedVerse.Proofs.Restyling
import MarkedVerse.Proofs.Saving
import MarkedVerse.Proofs.SectionForm
import MarkedVerse.Proofs.SectionMeaning
import MarkedVerse.Proofs.Stanzas
import MarkedVerse.Proofs.TreeWalks
import MarkedVerse.Proofs.TreeWrites
import MarkedVerse.Proofs.UnsavedChanges
import MarkedVerse.Proofs.VerseLines
import MarkedVerse.Proofs.WellCut
import MarkedVerse.Proofs.WrittenBreaks
import MarkedVerse.Reader
import MarkedVerse.Screen
import MarkedVerse.Screen.Draw
import MarkedVerse.Section
import MarkedVerse.Segment
import MarkedVerse.Status
import MarkedVerse.Style
import MarkedVerse.Template.Apply
import MarkedVerse.Template.Catalog
import MarkedVerse.Template.Edit
import MarkedVerse.Template.Pattern
import MarkedVerse.Text.Basic
import MarkedVerse.Text.Blank
import MarkedVerse.Text.Cluster
import MarkedVerse.Text.Cluster.Table
import MarkedVerse.Text.Digits
import MarkedVerse.Text.Field
import MarkedVerse.Text.Gap
import MarkedVerse.Text.Lines
import MarkedVerse.Text.Quoted
import MarkedVerse.Text.Quoted.Table
import MarkedVerse.Text.Ranges
import MarkedVerse.Text.Width
import MarkedVerse.Text.Width.Table
import MarkedVerse.Text.Wrap
import MarkedVerse.Proofs.GapStanzas
import MarkedVerse.Proofs.Stripping
import MarkedVerse.Proofs.Restoring
import MarkedVerse.Proofs.Cells
import MarkedVerse.Proofs.ClusterCuts
import MarkedVerse.Proofs.Wrapping
import MarkedVerse.Proofs.PageWidth
import MarkedVerse.Proofs.PreviousVersion
import MarkedVerse.Proofs.ReadingPosition
import MarkedVerse.Proofs.CatalogOrder
import MarkedVerse.Proofs.TemplateCycle
import MarkedVerse.Proofs.GuardedText
import MarkedVerse.Proofs.PrintedTags
import MarkedVerse.Proofs.TreeGrowth
import MarkedVerse.Proofs.BalancedMarkup
import MarkedVerse.Proofs.CleanTags
import MarkedVerse.Proofs.CleanMarkup
import MarkedVerse.Proofs.ValidConfig
import MarkedVerse.Proofs.Directories
import MarkedVerse.Proofs.ConfigFile
import MarkedVerse.Proofs.StableLoading
import MarkedVerse.Proofs.CommandEffects
import MarkedVerse.Proofs.DrawnRows
import MarkedVerse.Proofs.VerseInSight
import MarkedVerse.Proofs.WrittenConfig
import MarkedVerse.Proofs.LineEndings
import MarkedVerse.Proofs.TagCuts
import MarkedVerse.Proofs.InertLines
import MarkedVerse.Proofs.WrappedText
import MarkedVerse.Proofs.PageText
import MarkedVerse.Proofs.ShownTemplate
import MarkedVerse.Proofs.CollapsedGaps
import MarkedVerse.Proofs.RepeatedStripping
import MarkedVerse.Proofs.StrippedParagraphs
import MarkedVerse.Proofs.VerseNumbers
import MarkedVerse.Proofs.Runs
import MarkedVerse.Proofs.CatalogLookup
import MarkedVerse.Proofs.Scrolling
import MarkedVerse.Proofs.WrappedWords
import MarkedVerse.Proofs.PlacedRows
import MarkedVerse.Proofs.Corrections
import MarkedVerse.Proofs.RedrawnPages
import MarkedVerse.Proofs.SkippedSections
import MarkedVerse.Proofs.SkippedMarkup
import MarkedVerse.Proofs.AgreedAlignment
import MarkedVerse.Proofs.ColorText
import MarkedVerse.Listing.Decode
import MarkedVerse.Proofs.WrittenListing
import MarkedVerse.Proofs.MarkerLines
import MarkedVerse.Proofs.OnePassEditing
