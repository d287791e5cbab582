import AnimeLookup.Catalog.Media
import AnimeLookup.Catalog.Pacing
import AnimeLookup.Catalog.RateLimit
import AnimeLookup.Catalog.Scripted
import AnimeLookup.Catalog.Server
import AnimeLookup.Catalog.Wire
import AnimeLookup.Config.Files
import AnimeLookup.Display.Report
import AnimeLookup.Files.Path
import AnimeLookup.Files.Store
import AnimeLookup.Json.Printer
import AnimeLookup.Json.Reader
import AnimeLookup.Lookup.Clock
import AnimeLookup.Main
import AnimeLookup.Text.Unprintable
import AnimeLookup.Title.Equivalence
import AnimeLookup.Title.Query
import AnimeLookup.Toml.Reader
import AnimeLookup.Toml.Writer
import AnimeLookup.Proofs.Lookup.Climbing
import AnimeLookup.Proofs.Lookup.Cancelling
import AnimeLookup.Proofs.Text.Replacement
import AnimeLookup.Proofs.Text.Copies
import AnimeLookup.Proofs.Text.SmallLetters
import AnimeLookup.Proofs.Text.Trimming
import AnimeLookup.Proofs.Title.LightCleaning
import AnimeLookup.Proofs.Title.HeavyCleaning
import AnimeLookup.Proofs.Title.Folding
import AnimeLookup.Proofs.Title.PlainTitles
import AnimeLookup.Proofs.Title.SeasonMarkers
import AnimeLookup.Proofs.Title.SeasonNames
import AnimeLookup.Proofs.Title.SeasonDigits
import AnimeLookup.Proofs.Title.SeasonForms
import AnimeLookup.Proofs.Title.DifferentSeasons
import AnimeLookup.Proofs.Title.MovieTitles
import AnimeLookup.Proofs.Title.RunLengths
import AnimeLookup.Proofs.Title.RomanSequels
import AnimeLookup.Proofs.Title.TrailingAsides
import AnimeLookup.Proofs.Title.SpelledOutSeasons
import AnimeLookup.Proofs.Title.RespelledNumerals
import AnimeLookup.Proofs.Catalog.ReportedErrors
import AnimeLookup.Proofs.Json.RoundTrip
import AnimeLookup.Proofs.Catalog.Records
import AnimeLookup.Proofs.Catalog.RecordsAsCandidates
import AnimeLookup.Proofs.Catalog.Entries
import AnimeLookup.Proofs.Catalog.Outcomes
import AnimeLookup.Proofs.Toml.RoundTrip
import AnimeLookup.Proofs.Files.Growing
import AnimeLookup.Proofs.Config.Saving
import AnimeLookup.Proofs.Config.Contents
import AnimeLookup.Proofs.CommandLine.Precedence
import AnimeLookup.Proofs.CommandLine.Initializing
import AnimeLookup.Proofs.Catalog.Alike
import AnimeLookup.Proofs.Lookup.Sessions
import AnimeLookup.Proofs.Title.TitleOrder
import AnimeLookup.Proofs.Title.Queries
import AnimeLookup.Proofs.Lookup.Listing
import AnimeLookup.Proofs.Catalog.Genres
import AnimeLookup.Proofs.Catalog.CastListing
import AnimeLookup.Proofs.Display.Colours
import AnimeLookup.Proofs.Catalog.Slowdown
import AnimeLookup.Proofs.Lookup.Pacing
import AnimeLookup.Proofs.Catalog.DateTexts
import AnimeLookup.Proofs.Catalog.Refusals
