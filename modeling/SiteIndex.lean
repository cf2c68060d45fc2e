import SiteIndex.Calendar
import SiteIndex.Text.Blank
import SiteIndex.Text.Line
import SiteIndex.Text.Outline
import SiteIndex.Text.Quoted
import SiteIndex.Decimal.Notation
import SiteIndex.FileSystem.Buffered
import SiteIndex.Settings.Validation
import SiteIndex.Settings.StockFile
import SiteIndex.Settings.Loading
import SiteIndex.Settings.Json
import SiteIndex.Toml.Document
import SiteIndex.Toml.Merge
import SiteIndex.Sidecar
import SiteIndex.Inclusion
import SiteIndex.News.Item
import SiteIndex.Listing.Breadcrumbs
import SiteIndex.Listing.Visit
import SiteIndex.Output.FileWriter
import SiteIndex.Template.Mistakes
import SiteIndex.Template.Rendering
import SiteIndex.Template.Basic
import SiteIndex.Template.Answer
import SiteIndex.Survey.Walk
import SiteIndex.Survey.Summary
import SiteIndex.Survey.Json
import SiteIndex.Build.Walk
import SiteIndex.Build.Summary
import SiteIndex.CommandLine.Run
import SiteIndex.Main
import SiteIndex.Proofs.Template.Retry
import SiteIndex.Proofs.Template.Reported
import SiteIndex.Proofs.Template.Dial
import SiteIndex.Proofs.Template.Visits
import SiteIndex.Proofs.Template.Breadcrumbs
import SiteIndex.Proofs.Build.Assembly
import SiteIndex.Proofs.Build.Influence
import SiteIndex.Proofs.Build.Moments
import SiteIndex.Proofs.Build.Again
import SiteIndex.Proofs.Build.Surviving
import SiteIndex.Proofs.Survey.Agreement
import SiteIndex.Proofs.Listing.Sidecars
import SiteIndex.Proofs.Listing.Histories
import SiteIndex.Proofs.Template.Leftovers
import SiteIndex.Proofs.Template.Trays
import SiteIndex.Proofs.Build.Refused
import SiteIndex.Proofs.Listing.Requests
import SiteIndex.Proofs.Toml.Overlay
import SiteIndex.Proofs.Settings.Defaults
import SiteIndex.Proofs.News.Printing
import SiteIndex.Proofs.Build.Descent
import SiteIndex.Proofs.Template.Positions
import SiteIndex.Proofs.Template.Registry
import SiteIndex.Proofs.Template.Copying
