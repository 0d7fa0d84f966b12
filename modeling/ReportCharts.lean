import ReportCharts.Page.Calls
import ReportCharts.Proofs.Binary64.Steps
import ReportCharts.Proofs.Chart.Data
import ReportCharts.Proofs.Chart.Display
import ReportCharts.Proofs.Chart.PieAxes
import ReportCharts.Proofs.Envelope.LatestContext
import ReportCharts.Proofs.Json.Accepted
import ReportCharts.Proofs.Json.Numerals
import ReportCharts.Proofs.Navigation.LeadingPath
import ReportCharts.Proofs.Navigation.OwnTabs
import ReportCharts.Proofs.Overrides.Formats
import ReportCharts.Proofs.Overrides.FromOptions
import ReportCharts.Proofs.Overrides.Members
import ReportCharts.Proofs.Overrides.Precedence
import ReportCharts.Proofs.Page.BareFailures
import ReportCharts.Proofs.Page.Buttons
import ReportCharts.Proofs.Page.Configurations
import ReportCharts.Proofs.Page.FailedToggles
import ReportCharts.Proofs.Page.GenericCalls
import ReportCharts.Proofs.Page.Stages
import ReportCharts.Proofs.Page.Warnings
import ReportCharts.Proofs.Page.WeeklyBreakdown
import ReportCharts.Proofs.Schema.Lossless
import ReportCharts.Proofs.Session.Runs
import ReportCharts.Proofs.Weekly.Labels
import ReportCharts.Proofs.Weekly.QuotedCounts
import ReportCharts.Proofs.Weekly.Tables
import ReportCharts.Schema.Report
import ReportCharts.Session
